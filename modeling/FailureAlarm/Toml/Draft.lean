import FailureAlarm.Toml.Value

/-!
# Tables under construction

A document defines its tables piece by piece: by headers, by headers of tables inside them, and by
dotted keys. A table may be defined by one header and not again; a header may later define a table
that was only implied by the header of a table inside it; dotted keys may add to tables that dotted
keys have made. A value, an array or a table in braces is complete once it is written.

Every operation gives nothing if it would break these rules.
-/

namespace FailureAlarm
namespace Toml

/-- What has brought a table about. -/
inductive Maker where
  /-- Its own header. -/
  | header
  /-- The header of a table inside it. -/
  | implied
  /-- A dotted key. -/
  | dotted
deriving DecidableEq, Repr

/-- A part of a document under construction. -/
inductive Draft where
  | value (v : Value)
  | table (maker : Maker) (members : List (String × Draft))
  /-- An array of tables, each with a header of its own. -/
  | tables (items : List (List (String × Draft)))
deriving Inhabited, Repr

namespace Draft

/-- The members of a table under construction. -/
abbrev Members := List (String × Draft)

/-- Change the member `key`, or add it. -/
def update (key : String) (change : Option Draft → Option Draft) : Members → Option Members
  | [] => (change none).map fun d => [(key, d)]
  | (k, d) :: rest =>
    if k = key then (change (some d)).map fun d => (k, d) :: rest
    else (update key change rest).map ((k, d) :: ·)

/-- Change the last item. -/
def updateLast (change : Members → Option Members) : List Members → Option (List Members)
  | [] => none
  | [ms] => (change ms).map ([·])
  | ms :: rest => (updateLast change rest).map (ms :: ·)

/-- Change the table at the end of the path of a header. Of an array of tables the last one counts,
and tables that are not there yet are implied. -/
def descend (change : Members → Option Members) : List String → Members → Option Members
  | [], ms => change ms
  | key :: path, ms => update key (fun
      | none => (descend change path []).map (.table .implied)
      | some (.value _) => none
      | some (.table maker inner) => (descend change path inner).map (.table maker)
      | some (.tables items) => (updateLast (descend change path) items).map .tables) ms

/-- The member that the header of a table begins. -/
def beginTable : Option Draft → Option Draft
  | none => some (.table .header [])
  | some (.table .implied inner) => some (.table .header inner)
  | some _ => none

/-- The member that the header of an item of an array of tables begins. -/
def beginItem : Option Draft → Option Draft
  | none => some (.tables [[]])
  | some (.tables items) => some (.tables (items ++ [[]]))
  | some _ => none

/-- Begin a table by its header, whose path ends with `key`. -/
def openTable (path : List String) (key : String) : Members → Option Members :=
  descend (update key beginTable) path

/-- Begin an item of an array of tables by its header, whose path ends with `key`. -/
def openItem (path : List String) (key : String) : Members → Option Members :=
  descend (update key beginItem) path

/-- Add a value under a dotted key, `path` being the parts before the last. The last part may be
added to the table at hand, and else only to tables that dotted keys have made. -/
def place (key : String) (v : Value) : List String → (mayAdd : Bool) → Members → Option Members
  | [], mayAdd, ms =>
    if mayAdd then update key (fun d => if d.isSome then none else some (.value v)) ms else none
  | k :: path, _, ms => update k (fun
      | none => (place key v path true []).map (.table .dotted)
      | some (.value _) => none
      | some (.table .header _) => none
      | some (.table maker inner) => (place key v path (maker = .dotted) inner).map (.table maker)
      | some (.tables items) => (updateLast (place key v path false) items).map .tables) ms

mutual

/-- The value of a part of the document. -/
def close : Draft → Value
  | .value v => v
  | .table _ members => .table (closeMembers members)
  | .tables items => .array (closeItems items)

/-- The values of members. -/
def closeMembers : List (String × Draft) → List (String × Value)
  | [] => []
  | (k, d) :: rest => (k, close d) :: closeMembers rest

/-- The tables of an array. -/
def closeItems : List (List (String × Draft)) → List Value
  | [] => []
  | ms :: rest => .table (closeMembers ms) :: closeItems rest

end

end Draft
end Toml
end FailureAlarm
