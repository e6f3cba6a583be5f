import FailureAlarm.Settings.Entry

/-!
# Paths to settings

A key at the top of a source can name an entry further inside: `a.b` is the member `b` of the member
`a`, and `a[1]` is its second item; a negative number counts from the end. The parts of a path are
made of letters, digits, blanks, underscores and hyphens. A key that is no path stands for itself.

`Path.set` lays an entry over the place that a path leads to, and makes the tables and arrays on the
way.
-/

namespace FailureAlarm
namespace Settings

/-- A step to a part of an entry. -/
inductive Path.Step where
  | member (key : String)
  | item (index : Int)
deriving DecidableEq, Repr

/-- The steps to a part of an entry, at least one. -/
abbrev Path := List Path.Step

namespace Path

/-- A character of a part of a path. -/
def isPart (c : Char) : Bool :=
  ('a' ≤ c && c ≤ 'z') || ('A' ≤ c && c ≤ 'Z') || Digits.isDigit c || c = ' ' || c = '_' || c = '-'

/-- The part at the head of the text. -/
def part? (cs : List Char) : Option (String × List Char) :=
  match cs.takeWhile isPart with
  | [] => none
  | p => some (String.ofList p, cs.drop p.length)

/-- The number of an item, up to the closing bracket. -/
def index? (cs : List Char) : Option (Int × List Char) :=
  let (negative, cs) := match cs with
    | '-' :: cs => (true, cs)
    | cs => (false, cs)
  match Digits.leading cs, cs.drop (Digits.leading cs).length with
  | [], _ => none
  | ds, ']' :: rest => some (if negative then -(Digits.value ds : Int) else Digits.value ds, rest)
  | _, _ => none

/-- The steps after the first. Each takes one unit of `fuel`, and at least one character. -/
def steps? : (fuel : Nat) → List Char → Option Path
  | _, [] => some []
  | 0, _ => none
  | fuel + 1, '.' :: cs => do
    let (p, cs) ← part? cs
    return .member p :: (← steps? fuel cs)
  | fuel + 1, '[' :: cs => do
    let (n, cs) ← index? cs
    return .item n :: (← steps? fuel cs)
  | _, _ => none

/-- The path that a key is. -/
def read? (key : String) : Option Path := do
  let (p, cs) ← part? key.toList
  return .member p :: (← steps? cs.length cs)

/-- The path of a key, which stands for itself if it is no path. -/
def ofKey (key : String) : Path := (read? key).getD [.member key]

/-- Change an item of an entry, which becomes an array with that item if it had none. -/
def updateItem (index : Int) (change : Entry → Entry) (e : Entry) : Entry :=
  let (o, items) := match e with
    | .array o items => (o, items)
    | _ => (none, [])
  let i := if 0 ≤ index then index.toNat else items.length - index.natAbs
  let items := items ++ List.replicate (i + 1 - items.length) .nothing
  .array o (items.modify i change)

/-- Lay `e` over the place in `under` that the path leads to. -/
def set (e : Entry) : Path → (under : Entry) → Entry
  | [], under => under
  | [.member key], under => Entry.put key e under
  | [.item i], under => updateItem i (fun _ => e) under
  | .member key :: rest, under =>
    under.updateMember (lowerCase key) fun old => set e rest (old.getD .nothing)
  | .item i :: rest, under => updateItem i (set e rest) under

end Path

/-- Lay a source over what the earlier ones have said. -/
def overlay (members : Entry.Members) (under : Entry) : Entry :=
  members.foldl (fun under (key, e) => Path.set e (Path.ofKey key) under) under

end Settings
end FailureAlarm
