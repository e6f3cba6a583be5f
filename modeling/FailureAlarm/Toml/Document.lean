import FailureAlarm.Toml.Draft
import FailureAlarm.Toml.Literal
import FailureAlarm.Toml.Text

/-!
# TOML documents

A document is a sequence of lines: key and value, the header of a table, the header of an item of an
array of tables, or nothing but a comment. Arrays go over several lines and may have a comma at their
end, tables in braces do neither. Values are nested less than `maxDepth` deep.

`Document.read?` gives the top-level table, or nothing if the text breaks the grammar or defines a
table or a key twice.
-/

namespace FailureAlarm
namespace Toml

namespace Document

/-! ### Values -/

/-- Skip blanks, line ends and comments that end with their line. Each step takes one unit of
`fuel`, and at least one character. -/
def skipLines : (fuel : Nat) → List Char → Option (List Char)
  | 0, cs => some cs
  | fuel + 1, cs =>
    match skipSpace cs with
    | '#' :: cs => (newline (skipComment ('#' :: cs))).bind fun (_, cs) => skipLines fuel cs
    | '\n' :: cs => skipLines fuel cs
    | '\r' :: cs => (newline ('\r' :: cs)).bind fun (_, cs) => skipLines fuel cs
    | cs => some cs

/-- Skip what may stand between the items of an array. -/
def skipLayout (cs : List Char) : Option (List Char) := skipLines (cs.length + 1) cs

/-- A name that is a value. -/
def named : List Char → Option (Value × List Char)
  | 't' :: 'r' :: 'u' :: 'e' :: cs => some (.bool true, cs)
  | 'f' :: 'a' :: 'l' :: 's' :: 'e' :: cs => some (.bool false, cs)
  | _ => none

mutual

/-- A value inside `depth` others. Each step of the reading takes one unit of `fuel`, and at least
one character every other step. -/
def value : (fuel depth : Nat) → Reader Value
  | 0, _, _ => none
  | fuel + 1, depth, cs =>
    match cs with
    | '"' :: _ | '\'' :: _ => (string cs).map fun (s, cs) => (.text s, cs)
    | '[' :: cs =>
      if depth + 1 < maxDepth then
        (items fuel (depth + 1) cs).map fun (vs, cs) => (.array vs, cs)
      else none
    | '\x7b' :: cs =>
      if depth + 1 < maxDepth then
        match skipSpace cs with
        | '\x7d' :: cs => some (.table [], cs)
        | cs => (members fuel (depth + 1) [] cs).map fun (ms, cs) =>
          (.table (Draft.closeMembers ms), cs)
      else none
    | 't' :: _ | 'f' :: _ => named cs
    | cs => literal cs

/-- The items of an array up to the closing bracket. -/
def items : (fuel depth : Nat) → Reader (List Value)
  | 0, _, _ => none
  | fuel + 1, depth, cs => do
    match ← skipLayout cs with
    | ']' :: cs => some ([], cs)
    | cs =>
      let (v, cs) ← value fuel depth cs
      match ← skipLayout cs with
      | ']' :: cs => some ([v], cs)
      | ',' :: cs => (items fuel depth cs).map fun (vs, cs) => (v :: vs, cs)
      | _ => none

/-- The members of a table in braces up to the closing brace, added to those before. -/
def members : (fuel depth : Nat) → Draft.Members → Reader Draft.Members
  | 0, _, _, _ => none
  | fuel + 1, depth, ms, cs => do
    let ((path, name), cs) ← key cs
    let (_, cs) ← mark '=' cs
    let (v, cs) ← value fuel depth (skipSpace cs)
    let ms ← Draft.place name v path true ms
    match skipSpace cs with
    | '\x7d' :: cs => some (ms, cs)
    | ',' :: cs => members fuel depth ms cs
    | _ => none

end

/-! ### Lines -/

/-- A document read up to some line: what it defines, and the path of the table at hand. -/
structure Progress where
  root : Draft.Members := []
  path : List String := []

/-- The header of a table, after its first bracket. -/
def tableHeader (p : Progress) (cs : List Char) : Option (Progress × List Char) := do
  let ((path, name), cs) ← key cs
  let (_, cs) ← mark ']' cs
  let root ← Draft.openTable path name p.root
  (lineEnd cs).map (⟨root, path ++ [name]⟩, ·)

/-- The header of an item of an array of tables, after its first two brackets. -/
def itemHeader (p : Progress) (cs : List Char) : Option (Progress × List Char) := do
  let ((path, name), cs) ← key cs
  let (_, cs) ← mark ']' cs
  let (_, cs) ← mark ']' cs
  let root ← Draft.openItem path name p.root
  (lineEnd cs).map (⟨root, path ++ [name]⟩, ·)

/-- A key and its value. -/
def assignment (p : Progress) (cs : List Char) : Option (Progress × List Char) := do
  let ((path, name), cs) ← key cs
  let (_, cs) ← mark '=' cs
  let (v, cs) ← value (2 * cs.length + 1) 0 (skipSpace cs)
  let root ← Draft.descend (Draft.place name v path true) p.path p.root
  (lineEnd cs).map (⟨root, p.path⟩, ·)

/-- The next line. -/
def line (p : Progress) (cs : List Char) : Option (Progress × List Char) :=
  match cs with
  | '[' :: '[' :: cs => itemHeader p cs
  | '[' :: cs => tableHeader p cs
  | '#' :: _ | '\n' :: _ | '\r' :: _ => (lineEnd cs).map (p, ·)
  | cs => assignment p cs

/-- The lines up to the end of the text. Each takes one unit of `fuel`, and at least one character. -/
def lines : (fuel : Nat) → Progress → List Char → Option Progress
  | 0, _, _ => none
  | fuel + 1, p, cs =>
    match skipSpace cs with
    | [] => some p
    | cs => (line p cs).bind fun (p, cs) => lines fuel p cs

/-- The top-level table of a text, which a byte order mark may precede. -/
def read? (text : String) : Option (List (String × Value)) :=
  let cs := match text.toList with
    | '\ufeff' :: cs => cs
    | cs => cs
  (lines (cs.length + 1) {} cs).map fun p => Draft.closeMembers p.root

end Document
end Toml
end FailureAlarm
