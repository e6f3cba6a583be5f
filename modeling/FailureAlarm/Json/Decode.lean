import FailureAlarm.Json.Tree
import FailureAlarm.Text.Quoted
import FailureAlarm.Text.Utf8

/-!
# Reading values of a known shape

A decoder turns the tree of a text into a value of a type, or says why it cannot: the text is
malformed, or it is well-formed up to a place that does not fit the type. Decoders go through a tree
from left to right and stop at the first fault.

A record is read from an object, whose members may come in any order and of which unknown ones are
passed over, or from an array of its fields in their own order. Each field says what its absence
means. Arrays and objects may be nested 127 deep; what is passed over does not count.
-/

namespace FailureAlarm
namespace Json

/-- What stands where something else was wanted. -/
inductive Found where
  | null
  | bool (b : Bool)
  | number (n : Number)
  | string (s : String)
  | array
  | object
deriving DecidableEq, Repr

/-- The found thing in words. -/
def Found.describe : Found → String
  | .null => "null"
  | .bool b => s!"boolean `{b}`"
  | .number (.integer n) => s!"integer `{n}`"
  | .number (.real x) => s!"floating point `{String.ofList (Number.realText x)}`"
  | .string s => s!"string {quoted s}"
  | .array => "sequence"
  | .object => "map"

/-- Why a well-formed text does not fit a type. -/
inductive Misfit where
  | invalidType (found : Found) (wanted : String)
  | invalidValue (found : Found) (wanted : String)
  | invalidLength (length : Nat) (wanted : String)
  | missingField (name : String)
  | duplicateField (name : String)
  | unknownVariant (name : String) (known : List String)
  /-- The words of a text that a reader of its own refused. -/
  | refused (words : String)
deriving DecidableEq, Repr

/-- The known names of an enumeration in words. -/
def oneOf : List String → String
  | [name] => s!"`{name}`"
  | [first, second] => s!"`{first}` or `{second}`"
  | names => "one of " ++ ", ".intercalate (names.map fun name => s!"`{name}`")

/-- The misfit in words. -/
def Misfit.message : Misfit → String
  | .invalidType found wanted => s!"invalid type: {found.describe}, expected {wanted}"
  | .invalidValue found wanted => s!"invalid value: {found.describe}, expected {wanted}"
  | .invalidLength n wanted => s!"invalid length {n}, expected {wanted}"
  | .missingField name => s!"missing field `{name}`"
  | .duplicateField name => s!"duplicate field `{name}`"
  | .unknownVariant name known => s!"unknown variant `{name}`, expected {oneOf known}"
  | .refused words => words

/-- A step from a value to one of its parts. -/
inductive Step where
  | key (name : String)
  | index (n : Nat)
deriving DecidableEq, Repr

/-- The way from the outermost value to one of its parts, in words. -/
def pathText : List Step → String
  | [] => ""
  | .key name :: rest =>
    name ++ (match rest with | .key _ :: _ => "." | _ => "") ++ pathText rest
  | .index n :: rest =>
    s!"[{n}]" ++ (match rest with | .key _ :: _ => "." | _ => "") ++ pathText rest

/-- Why a text could not be read as a value of a type. -/
inductive Fault where
  | malformed
  | misfit (path : List Step) (cause : Misfit)
deriving DecidableEq, Repr

/-- The same fault, seen from one step further out. -/
def Fault.within (step : Step) : Fault → Fault
  | .malformed => .malformed
  | .misfit path cause => .misfit (step :: path) cause

/-- A reader of trees, told how many arrays and objects enclose the tree. -/
abbrev Decoder (α : Type) := (depth : Nat) → Tree → Except Fault α

namespace Decoder

variable {α σ : Type}

/-- An array or object may stand inside this many others. -/
def mayNest (depth : Nat) : Bool := depth < 127

/-- Refuse a tree where `wanted` should stand. -/
def refuse (wanted : String) : Tree → Except Fault α
  | .null => .error (.misfit [] (.invalidType .null wanted))
  | .bool b => .error (.misfit [] (.invalidType (.bool b) wanted))
  | .number (some n) => .error (.misfit [] (.invalidType (.number n) wanted))
  | .string (some s) => .error (.misfit [] (.invalidType (.string s) wanted))
  | .array _ _ => .error (.misfit [] (.invalidType .array wanted))
  | .object _ _ | .oddKey _ => .error (.misfit [] (.invalidType .object wanted))
  | .number none | .string none | .broken => .error .malformed

/-! ### Simple values -/

def string : Decoder String
  | _, .string (some s) => .ok s
  | _, t => refuse "a string" t

def bool : Decoder Bool
  | _, .bool b => .ok b
  | _, t => refuse "a boolean" t

/-- An integer between `low` and `high`, which `wanted` names. -/
def integer (low high : Int) (wanted : String) : Decoder Int
  | _, .number (some (.integer n)) =>
    if low ≤ n ∧ n ≤ high then .ok n
    else .error (.misfit [] (.invalidValue (.number (.integer n)) wanted))
  | _, t => refuse wanted t

/-- A signed integer of 64 bits. -/
def int64 : Decoder Int := integer (-9223372036854775808) 9223372036854775807 "i64"

/-- An integer of 64 bits without a sign. -/
def nat64 (wanted : String) : Decoder Nat :=
  fun depth t => (integer 0 18446744073709551615 wanted depth t).map Int.toNat

/-- Null, or what `decode` reads. -/
def option (decode : Decoder α) : Decoder (Option α)
  | _, .null => .ok none
  | depth, t => (decode depth t).map some

/-! ### Any value -/

mutual

/-- Any value; the members of its objects come out sorted. -/
def any : Decoder Value
  | _, .null => .ok .null
  | _, .bool b => .ok (.bool b)
  | _, .number (some n) => .ok (.number n)
  | _, .string (some s) => .ok (.string s)
  | depth, .array items closed =>
    if mayNest depth then do
      let vs ← anyItems (depth + 1) items
      if closed then .ok (.array vs) else .error .malformed
    else .error .malformed
  | depth, .object members closed =>
    if mayNest depth then do
      let ms ← anyMembers (depth + 1) members
      if closed then .ok (.object (Value.sorted ms)) else .error .malformed
    else .error .malformed
  | _, .number none | _, .string none | _, .oddKey _ | _, .broken => .error .malformed

/-- The values of items. -/
def anyItems : (depth : Nat) → List Tree → Except Fault (List Value)
  | _, [] => .ok []
  | depth, t :: ts => do
    let v ← any depth t
    let vs ← anyItems depth ts
    .ok (v :: vs)

/-- The values of members, in the order of the text. -/
def anyMembers : (depth : Nat) → List (Option String × Tree) → Except Fault (List (String × Value))
  | _, [] => .ok []
  | _, (none, _) :: _ => .error .malformed
  | depth, (some key, t) :: ts => do
    let v ← any depth t
    let vs ← anyMembers depth ts
    .ok ((key, v) :: vs)

end

/-- An object of any values, its members sorted. -/
def map : Decoder (List (String × Value))
  | depth, .object members closed =>
    if mayNest depth then do
      let ms ← anyMembers (depth + 1) members
      if closed then .ok (Value.sorted ms) else .error .malformed
    else .error .malformed
  | _, .oddKey _ => .error .malformed
  | _, t => refuse "a map" t

/-! ### Enumerations -/

/-- The value of a name. -/
def variant (table : List (String × α)) (name : String) : Except Fault α :=
  match table.find? (·.1 = name) with
  | some (_, a) => .ok a
  | none => .error (.misfit [] (.unknownVariant name (table.map (·.1))))

/-- One of the named values: its name, or an object with the name as its only key and null as the
value. Nothing else can start it. -/
def oneOf (table : List (String × α)) : Decoder α
  | _, .string (some name) => variant table name
  | depth, .object ((some name, t) :: rest) closed =>
    if mayNest depth then do
      let a ← variant table name
      match t with
      | .null => if rest.isEmpty && closed then .ok a else .error .malformed
      | t => (refuse "unit" t).mapError (Fault.within (.key name))
    else .error .malformed
  | depth, .oddKey t => if mayNest depth then refuse "variant identifier" t else .error .malformed
  | _, _ => .error .malformed

/-! ### Records -/

/-- What it means that a field is not there. -/
inductive Absence where
  /-- The field has to be there. -/
  | required
  /-- An object may leave it out, an array may not. -/
  | optional
  /-- It may be left out, and what follows it in an array as well. -/
  | defaulted
deriving DecidableEq, Repr

/-- A field: its name, and how its value changes the record under construction. -/
structure Field (σ : Type) where
  name : String
  absence : Absence
  read : Decoder (σ → σ)

/-- A record: its name in messages, its fields in their order, and the record in which no field has
been read. -/
structure Record (σ : Type) where
  name : String
  fields : List (Field σ)
  blank : σ

/-- A field that `set` puts into the record. -/
def field (name : String) (absence : Absence) (decode : Decoder α) (set : α → σ → σ) : Field σ :=
  ⟨name, absence, fun depth t => (decode depth t).map set⟩

/-- Read the members of an object one after the other; `seen` are the names of the fields read so
far. -/
def readMembers (fields : List (Field σ)) (depth : Nat) :
    List (Option String × Tree) → (seen : List String) → σ → Except Fault (List String × σ)
  | [], seen, s => .ok (seen, s)
  | (none, _) :: _, _, _ => .error .malformed
  | (some key, t) :: rest, seen, s =>
    match fields.find? (·.name = key) with
    | none => readMembers fields depth rest seen s
    | some f =>
      if key ∈ seen then .error (.misfit [] (.duplicateField key))
      else do
        let update ← (f.read depth t).mapError (Fault.within (.key key))
        readMembers fields depth rest (key :: seen) (update s)

/-- Read the items of an array as the fields in their order, the next one being number `index`. -/
def readItems (wanted : String) (depth : Nat) (closed : Bool) :
    List (Field σ) → List Tree → (index : Nat) → σ → Except Fault σ
  | [], [], _, s => if closed then .ok s else .error .malformed
  | [], _ :: _, _, _ => .error .malformed
  | f :: fields, [], index, s =>
    if ¬ closed then .error .malformed
    else if f.absence = .defaulted then readItems wanted depth closed fields [] (index + 1) s
    else .error (.misfit [] (.invalidLength index wanted))
  | f :: fields, t :: rest, index, s => do
    let update ← (f.read depth t).mapError (Fault.within (.index index))
    readItems wanted depth closed fields rest (index + 1) (update s)

/-- The record with the number of its fields, in words. -/
def Record.describe (r : Record σ) : String :=
  s!"struct {r.name} with {r.fields.length} element" ++ if r.fields.length = 1 then "" else "s"

/-- Read a record. -/
def record (r : Record σ) : Decoder σ
  | depth, .object members closed =>
    if mayNest depth then do
      let (seen, s) ← readMembers r.fields (depth + 1) members [] r.blank
      if ¬ closed then .error .malformed
      else match r.fields.find? fun f => f.absence = .required && !seen.contains f.name with
        | some f => .error (.misfit [] (.missingField f.name))
        | none => .ok s
    else .error .malformed
  | depth, .array items closed =>
    if mayNest depth then readItems r.describe (depth + 1) closed r.fields items 0 r.blank
    else .error .malformed
  | _, .oddKey _ => .error .malformed
  | _, t => refuse s!"struct {r.name}" t

end Decoder

/-! ### Whole texts -/

/-- Read a text that holds one value and nothing else. A misfit comes before what follows the
value. -/
def decodeText {α : Type} (decode : Decoder α) (text : String) : Except Fault α :=
  let (tree, whole) := Tree.read text
  match decode 0 tree with
  | .error e => .error e
  | .ok a => if whole then .ok a else .error .malformed

/-- Read the first value of some bytes; what follows it does not matter. -/
def decodeBytes {α : Type} (decode : Decoder α) (bytes : List UInt8) : Except Fault α :=
  let cs := Utf8.decode bytes
  let stray := Utf8.absent cs
  decode 0 (Tree.first (some stray) (cs.map (·.getD stray))).1

end Json
end FailureAlarm
