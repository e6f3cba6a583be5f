import FailureAlarm.Json.Tree
import FailureAlarm.Toml.Value

/-!
# Blanks, comments, strings and keys

The parts of a TOML document that are made of running text. A line ends with a line feed, which a
carriage return may precede. Strings stand in double quotes, with escapes, or in single quotes,
without; in three quotes of either kind they may go over several lines, and then a line end directly
after the opening quotes is left out, and every other line end becomes a line feed.
-/

namespace FailureAlarm
namespace Toml

/-- A blank inside a line. -/
def isSpace (c : Char) : Bool := c = ' ' || c = '\t'

def skipSpace (cs : List Char) : List Char := cs.dropWhile isSpace

/-- A character that may stand in a comment or a string: no control character but the tab. -/
def isPlain (c : Char) : Bool := c = '\t' || (32 ≤ c.toNat && c.toNat ≠ 127)

/-- The end of a line. -/
def newline : Reader Unit
  | '\n' :: cs => some ((), cs)
  | '\r' :: '\n' :: cs => some ((), cs)
  | _ => none

/-- What is left after an optional line end. -/
def skipNewline (cs : List Char) : List Char := ((newline cs).map (·.2)).getD cs

/-- What is left after an optional comment. -/
def skipComment : List Char → List Char
  | '#' :: cs => cs.dropWhile isPlain
  | cs => cs

/-- The rest of a line without content: blanks, a comment, and the end of the line or of the text. -/
def lineEnd (cs : List Char) : Option (List Char) :=
  match skipComment (skipSpace cs) with
  | [] => some []
  | cs => (newline cs).map (·.2)

/-! ### Strings -/

/-- The character with this number. -/
def scalar? (n : Nat) : Option Char :=
  if n < 0xD800 ∨ (0xDFFF < n ∧ n ≤ 0x10FFFF) then some (Char.ofNat n) else none

/-- The character that hexadecimal digits stand for. -/
def ofHex? (ds : List Char) : Option Char := do
  scalar? ((← ds.mapM Hex.value?).foldl (fun n d => n * 16 + d) 0)

/-- The character of a two-character escape. -/
def shortEscape? (c : Char) : Option Char :=
  if c = '/' then none else Json.Tree.shortEscape? c

/-- A string in double quotes, from its first character on; `acc` holds what has been read,
backwards. -/
def basicBody (acc : List Char) : Reader String
  | [] => none
  | '"' :: cs => some (String.ofList acc.reverse, cs)
  | '\\' :: 'u' :: a :: b :: c :: d :: cs =>
    (ofHex? [a, b, c, d]).bind fun x => basicBody (x :: acc) cs
  | '\\' :: 'U' :: a :: b :: c :: d :: e :: f :: g :: h :: cs =>
    (ofHex? [a, b, c, d, e, f, g, h]).bind fun x => basicBody (x :: acc) cs
  | '\\' :: c :: cs => (shortEscape? c).bind fun x => basicBody (x :: acc) cs
  | c :: cs => if isPlain c then basicBody (c :: acc) cs else none

/-- The line ends here, apart from blanks. -/
def isAtLineEnd (cs : List Char) : Bool := (newline (skipSpace cs)).isSome

/-- A string in three double quotes, from its first character on. A backslash at the end of a line
takes away all blanks and line ends that follow, which `skipping` says. Of five or four quotes in a
row the last three end the string. -/
def longBasicBody : (skipping : Bool) → (acc : List Char) → Reader String
  | _, _, [] => none
  | skipping, acc, '\n' :: cs => longBasicBody skipping (if skipping then acc else '\n' :: acc) cs
  | skipping, acc, '\r' :: '\n' :: cs =>
    longBasicBody skipping (if skipping then acc else '\n' :: acc) cs
  | _, acc, '"' :: '"' :: '"' :: '"' :: '"' :: cs =>
    some (String.ofList ('"' :: '"' :: acc).reverse, cs)
  | _, acc, '"' :: '"' :: '"' :: '"' :: cs => some (String.ofList ('"' :: acc).reverse, cs)
  | _, acc, '"' :: '"' :: '"' :: cs => some (String.ofList acc.reverse, cs)
  | _, acc, '\\' :: 'u' :: a :: b :: c :: d :: cs =>
    (ofHex? [a, b, c, d]).bind fun x => longBasicBody false (x :: acc) cs
  | _, acc, '\\' :: 'U' :: a :: b :: c :: d :: e :: f :: g :: h :: cs =>
    (ofHex? [a, b, c, d, e, f, g, h]).bind fun x => longBasicBody false (x :: acc) cs
  | _, acc, '\\' :: c :: cs =>
    if isAtLineEnd (c :: cs) then longBasicBody true acc (c :: cs)
    else (shortEscape? c).bind fun x => longBasicBody false (x :: acc) cs
  | skipping, acc, c :: cs =>
    if skipping && isSpace c then longBasicBody true acc cs
    else if isPlain c then longBasicBody false (c :: acc) cs
    else none

/-- A string in single quotes, from its first character on. -/
def literalBody (cs : List Char) : Option (String × List Char) :=
  let body := cs.takeWhile fun c => isPlain c && c ≠ '\''
  match cs.drop body.length with
  | '\'' :: rest => some (String.ofList body, rest)
  | _ => none

/-- A string in three single quotes, from its first character on. -/
def longLiteralBody (acc : List Char) : Reader String
  | [] => none
  | '\n' :: cs => longLiteralBody ('\n' :: acc) cs
  | '\r' :: '\n' :: cs => longLiteralBody ('\n' :: acc) cs
  | '\'' :: '\'' :: '\'' :: '\'' :: '\'' :: cs =>
    some (String.ofList ('\'' :: '\'' :: acc).reverse, cs)
  | '\'' :: '\'' :: '\'' :: '\'' :: cs => some (String.ofList ('\'' :: acc).reverse, cs)
  | '\'' :: '\'' :: '\'' :: cs => some (String.ofList acc.reverse, cs)
  | c :: cs => if isPlain c then longLiteralBody (c :: acc) cs else none

/-- A string of any of the four kinds. -/
def string : Reader String
  | '"' :: '"' :: '"' :: cs => longBasicBody false [] (skipNewline cs)
  | '"' :: cs => basicBody [] cs
  | '\'' :: '\'' :: '\'' :: cs => longLiteralBody [] (skipNewline cs)
  | '\'' :: cs => literalBody cs
  | _ => none

/-! ### Keys -/

/-- A character of a key without quotes. -/
def isBare (c : Char) : Bool :=
  ('a' ≤ c && c ≤ 'z') || ('A' ≤ c && c ≤ 'Z') || Digits.isDigit c || c = '_' || c = '-'

/-- A key without dots: bare, or a string on one line. -/
def simpleKey : Reader String
  | '"' :: cs => basicBody [] cs
  | '\'' :: cs => literalBody cs
  | cs =>
    match cs.takeWhile isBare with
    | [] => none
    | key => some (String.ofList key, cs.drop key.length)

/-- The parts of a dotted key, with blanks around them; at most `count` of them. -/
def keyParts : (count : Nat) → Reader (List String)
  | 0, _ => none
  | count + 1, cs =>
    match simpleKey (skipSpace cs) with
    | none => none
    | some (part, cs) =>
      match skipSpace cs with
      | '.' :: cs => (keyParts count cs).map fun (parts, cs) => (part :: parts, cs)
      | cs => some ([part], cs)

/-- Keys have fewer parts than this, and values are nested less deep. -/
def maxDepth : Nat := 80

/-- A dotted key: the parts before the last one, and the last one. -/
def key (cs : List Char) : Option ((List String × String) × List Char) := do
  let (parts, cs) ← keyParts (maxDepth - 1) cs
  let last ← parts.getLast?
  some ((parts.dropLast, last), cs)

end Toml
end FailureAlarm
