import FailureAlarm.Json.Decode
import FailureAlarm.Text.LowerCase
import FailureAlarm.Toml.Value

/-!
# Entries of settings

Settings come from several sources, one laid over the other. An entry is what they say before it is
known what it is wanted for: a plain value, an array, or a table, each with the source it comes from.
A table that was put together from several sources has none.

`Entry.put` lays an entry over a member of a table. Of two tables the members are laid over each
other; anything else takes the place of what was there. Keys are in lower case.
-/

namespace FailureAlarm
namespace Settings

/-- A source of settings. -/
inductive Origin where
  | tomlFile
  | jsonFile
  | environment
deriving DecidableEq, Repr

/-- The name of a source in messages. -/
def Origin.name : Origin → String
  | tomlFile => "failwatch.toml"
  | jsonFile => "failwatch.json"
  | environment => "the environment"

/-- A plain value. -/
inductive Scalar where
  | unit
  | bool (b : Bool)
  | integer (n : Int)
  | real (x : Floating)
  | text (s : String)
deriving DecidableEq, Repr

/-- What the sources say. -/
inductive Entry where
  | scalar (origin : Option Origin) (s : Scalar)
  | array (origin : Option Origin) (items : List Entry)
  | table (origin : Option Origin) (members : List (String × Entry))
deriving Inhabited, Repr

namespace Entry

/-- The members of a table. -/
abbrev Members := List (String × Entry)

/-- Nothing is said. -/
def nothing : Entry := .scalar none .unit

/-- A table without members. -/
def blank : Entry := .table none []

/-- Where an entry comes from. -/
def origin : Entry → Option Origin
  | .scalar o _ | .array o _ | .table o _ => o

/-- Change the member `key`, or add it. -/
def update (key : String) (change : Option Entry → Entry) : Members → Members
  | [] => [(key, change none)]
  | (k, e) :: rest => if k = key then (k, change (some e)) :: rest else (k, e) :: update key change rest

/-- Change a member of an entry, which becomes a table if it was none. -/
def updateMember (key : String) (change : Option Entry → Entry) : Entry → Entry
  | .table o members => .table o (update key change members)
  | _ => .table none (update key change [])

mutual

/-- Lay `e` over the member `key` of `under`. -/
def put (key : String) (e : Entry) (under : Entry) : Entry :=
  match e with
  | .table _ members =>
    updateMember (lowerCase key) (fun old => putAll members (old.getD blank)) under
  | e => updateMember (lowerCase key) (fun _ => e) under

/-- Lay entries over members of `under`, one after the other. -/
def putAll (members : Members) (under : Entry) : Entry :=
  match members with
  | [] => under
  | (k, e) :: rest => putAll rest (put k e under)

end

/-! ### Entries of documents -/

mutual

/-- The entry of a JSON value. A whole number beyond the signed ones of 64 bits is rounded to a
floating-point one. -/
def ofJson (o : Origin) : Json.Value → Entry
  | .null => .scalar o .unit
  | .bool b => .scalar o (.bool b)
  | .number (.integer n) =>
    if n ≤ 9223372036854775807 then .scalar o (.integer n)
    else .scalar o (.real (match Magnitude.ofNat n.toNat with
      | some m => .finite ⟨false, m⟩
      | none => .infinite false))
  | .number (.real x) => .scalar o (.real (.finite x))
  | .string s => .scalar o (.text s)
  | .array items => .array o (ofJsonItems o items)
  | .object members => .table o (ofJsonMembers o members)

/-- The entries of the items of a JSON array. -/
def ofJsonItems (o : Origin) : List Json.Value → List Entry
  | [] => []
  | v :: rest => ofJson o v :: ofJsonItems o rest

/-- The entries of the members of a JSON object. -/
def ofJsonMembers (o : Origin) : List (String × Json.Value) → Members
  | [] => []
  | (k, v) :: rest => (k, ofJson o v) :: ofJsonMembers o rest

end

mutual

/-- The entry of a TOML value. Dates and times are texts. -/
def ofToml (o : Origin) : Toml.Value → Entry
  | .text s => .scalar o (.text s)
  | .integer n => .scalar o (.integer n)
  | .real x => .scalar o (.real x)
  | .bool b => .scalar o (.bool b)
  | .moment s => .scalar o (.text s)
  | .array items => .array o (ofTomlItems o items)
  | .table members => .table o (ofTomlMembers o members)

/-- The entries of the items of a TOML array. -/
def ofTomlItems (o : Origin) : List Toml.Value → List Entry
  | [] => []
  | v :: rest => ofToml o v :: ofTomlItems o rest

/-- The entries of the members of a TOML table. -/
def ofTomlMembers (o : Origin) : List (String × Toml.Value) → Members
  | [] => []
  | (k, v) :: rest => (k, ofToml o v) :: ofTomlMembers o rest

end

end Entry
end Settings
end FailureAlarm
