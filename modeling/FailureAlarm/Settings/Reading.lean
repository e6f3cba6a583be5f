import FailureAlarm.Settings.Basic
import FailureAlarm.Settings.Entry

/-!
# Reading settings from entries

Each setting takes an entry for what it wants. Numbers, texts and truth values stand for each other
where that makes sense: floating-point numbers are rounded and kept within the range wanted, `true`,
`on` and `yes` are one and true, and so on. A section is a table of settings, of which unknown ones
are passed over, or an array of its settings in their order.
-/

namespace FailureAlarm
namespace Settings

/-- Why settings could not be loaded. -/
inductive Error where
  /-- The settings file is not well-formed, or holds no table. -/
  | unreadable
  /-- An entry does not fit its setting. -/
  | wrongType (found wanted : String) (place : String) (origin : Option Origin)
  /-- An entry does not fit its section. -/
  | wrongShape (found wanted : String)
deriving DecidableEq, Repr

/-- The error in words; an unreadable file is explained by its reader alone. -/
def Error.message : Error → String
  | unreadable => ""
  | wrongType found wanted place origin =>
    s!"invalid type: {found}, expected {wanted} for key `{place}`" ++
      match origin with
      | some o => s!" in {o.name}"
      | none => ""
  | wrongShape found wanted => s!"invalid type: {found}, expected {wanted}"

/-! ### Plain values -/

/-- What was found, and what was wanted in its place. -/
structure Mismatch where
  found : String
  wanted : String
deriving DecidableEq, Repr

/-- What an entry that stands for no plain value is. -/
def Entry.describe : Entry → String
  | .scalar _ (.text s) => s!"string {quoted s}"
  | .scalar _ _ => "unit value"
  | .array _ _ => "sequence"
  | .table _ _ => "map"

/-- The truth value that a word in lower case names. -/
def truthOf? (word : String) : Option Bool :=
  if word ∈ ["true", "on", "yes"] then some true
  else if word ∈ ["false", "off", "no"] then some false
  else none

/-- A whole number between `low` and `high`; `fits` takes one that is written as such, and `read?`
a text. -/
def wholeOf (low high : Int) (fits : Int → Except Mismatch Int) (read? : List Char → Option Int) :
    Entry → Except Mismatch Int
  | .scalar _ (.integer n) => fits n
  | .scalar _ (.bool b) => .ok b.toInt
  | .scalar _ (.real x) => .ok (x.toInteger low high)
  | .scalar o (.text s) =>
    match truthOf? (lowerCase s), (read? s.toList).filter fun n => low ≤ n ∧ n ≤ high with
    | some b, _ => .ok b.toInt
    | none, some n => .ok n
    | none, none => .error ⟨(Entry.scalar o (.text s)).describe, "an integer"⟩
  | e => .error ⟨e.describe, "an integer"⟩

/-- A signed number of 64 bits. -/
def intOf : Entry → Except Mismatch Int :=
  wholeOf (-9223372036854775808) 9223372036854775807 .ok Digits.signed?

/-- A number of 64 bits without a sign. -/
def natOf (e : Entry) : Except Mismatch Nat :=
  (wholeOf 0 18446744073709551615
    (fun n => if 0 ≤ n then .ok n
      else .error ⟨s!"64-bit integer `{n}`", "an unsigned 64 bit or less integer"⟩)
    (fun cs => (Digits.unsigned? cs).map Int.ofNat) e).map Int.toNat

/-- A truth value; a number counts as true unless it is zero. -/
def boolOf : Entry → Except Mismatch Bool
  | .scalar _ (.bool b) => .ok b
  | .scalar _ (.integer n) => .ok (n ≠ 0)
  | .scalar _ (.real x) => .ok x.isNonzero
  | .scalar o (.text s) =>
    let word := lowerCase s
    if word = "1" then .ok true
    else if word = "0" then .ok false
    else match truthOf? word with
      | some b => .ok b
      | none => .error ⟨(Entry.scalar o (.text word)).describe, "a boolean"⟩
  | e => .error ⟨e.describe, "a boolean"⟩

/-- A text; numbers and truth values are written out. -/
def textOf : Entry → Except Mismatch String
  | .scalar _ (.text s) => .ok s
  | .scalar _ (.bool b) => .ok (if b then "true" else "false")
  | .scalar _ (.integer n) => .ok (String.ofList (Digits.ofInt n))
  | .scalar _ (.real x) => .ok x.plain
  | e => .error ⟨e.describe, "a string"⟩

/-! ### Sections -/

/-- A setting: its name, and how its entry changes the section. -/
structure Setting (σ : Type) where
  name : String
  read : Entry → Except Mismatch (σ → σ)

/-- A setting that `set` puts into the section. -/
def setting {α σ : Type} (name : String) (read : Entry → Except Mismatch α) (set : α → σ → σ) :
    Setting σ :=
  ⟨name, fun e => (read e).map set⟩

/-- A section: its key, its name in messages, and its settings in their order. -/
structure Section (σ : Type) where
  key : String
  name : String
  settings : List (Setting σ)

/-- The settings of a section that have entries, with the entries and the places of these. -/
def Section.given {σ : Type} (s : Section σ) : Entry → Except Error (List (Setting σ × Entry × String))
  | .table _ members => .ok <| s.settings.filterMap fun f =>
    (members.find? (·.1 = f.name)).map fun (_, e) => (f, e, s!"{s.key}.{f.name}")
  | .array _ items => .ok <| (s.settings.zip items).zipIdx.map fun ((f, e), i) => (f, e, s!"{s.key}[{i}]")
  | .scalar _ v => .error (.wrongShape (describe v) s!"struct {s.name}")
where
  /-- What a plain value in the place of a section is. -/
  describe : Scalar → String
    | .unit => "unit value"
    | .bool b => s!"boolean `{b}`"
    | .integer n => s!"integer `{n}`"
    | .real x => s!"floating point `{x.pointed}`"
    | .text t => s!"string {quoted t}"

/-- Read a section from the entry of its key. -/
def Section.read {σ : Type} (s : Section σ) (blank : σ) (members : Entry.Members) : Except Error σ :=
  match members.find? (·.1 = s.key) with
  | none => .ok blank
  | some (_, e) => do
    (← s.given e).foldlM (fun value (f, e, place) =>
      match f.read e with
      | .ok change => .ok (change value)
      | .error m => .error (.wrongType m.found m.wanted place e.origin)) blank

def serverSection : Section ServerSettings := ⟨"server", "ServerSettings",
  [setting "addr" textOf fun v _ => ⟨v⟩]⟩

def alertingSection : Section Policy := ⟨"alerting", "AlertingConfig",
  [ setting "window_seconds" natOf fun v p => { p with windowSeconds := v },
    setting "failure_threshold" intOf fun v p => { p with threshold := v },
    setting "max_summary_errors" natOf fun v p => { p with maxLines := v } ]⟩

def pagingSection : Section PagingConfig := ⟨"pager", "PagerConfig",
  [ setting "endpoint" textOf fun v c => { c with endpoint := v },
    setting "timeout_secs" natOf fun v c => { c with timeoutSeconds := v },
    setting "source" textOf fun v c => { c with source := v },
    setting "component" textOf fun v c => { c with component := v } ]⟩

def watchdogSection : Section WatchPolicy := ⟨"watchdog", "WatchdogConfig",
  [ setting "enabled" boolOf fun v p => { p with enabled := v },
    setting "latency_budget_secs" natOf fun v p => { p with budgetSeconds := v } ]⟩

def logSection : Section LogSettings := ⟨"logging", "LoggingSettings",
  [setting "json" boolOf fun v _ => ⟨v⟩]⟩

/-- The settings that the members of the top-level table give. -/
def ofMembers (members : Entry.Members) : Except Error Settings := do
  return {
    server := ← serverSection.read {} members
    alerting := ← alertingSection.read {} members
    paging := ← pagingSection.read {} members
    watchdog := ← watchdogSection.read {} members
    logging := ← logSection.read {} members }

end Settings
end FailureAlarm
