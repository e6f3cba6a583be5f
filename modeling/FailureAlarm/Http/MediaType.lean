import FailureAlarm.Text.Digits

/-!
# Media types

The value of a content type header: a type and a subtype with a slash between them, then
parameters. The part of the subtype after its last plus sign is its suffix. The names are compared
without regard to case.
-/

namespace FailureAlarm
namespace Http

/-- A media type without its parameters. -/
structure MediaType where
  type : String
  subtype : String
  suffix : Option String
deriving DecidableEq, Repr

namespace MediaType

/-- A character of a name. -/
def isToken (c : Char) : Bool :=
  Digits.isDigit c || ('a' ≤ c && c ≤ 'z') || ('A' ≤ c && c ≤ 'Z') ||
    "!#$%&'*+-.^_`|~".toList.contains c

/-- A character of a parameter in quotes. -/
def isQuotable (c : Char) : Bool := 32 ≤ c.toNat && c.toNat ≤ 126

/-- What follows a value in quotes: the next parameter or nothing. -/
def afterQuoted (cs : List Char) : Option (List Char) :=
  match cs.dropWhile (· = ' ') with
  | [] => some []
  | ';' :: cs => some cs
  | _ => none

/-- What follows the value of a parameter. A value in quotes has at least one character, which may
be a quote itself; another value may be empty only if it is the last one. -/
def afterValue : List Char → Option (List Char)
  | '"' :: c :: cs =>
    match cs.dropWhile fun c => isQuotable c && c ≠ '"' with
    | '"' :: cs => if isQuotable c then afterQuoted cs else none
    | _ => none
  | cs =>
    match cs.dropWhile isToken with
    | [] => some []
    | ';' :: rest => if cs.length = rest.length + 1 then none else some rest
    | _ => none

/-- The text is a sequence of parameters. Each takes one unit of `fuel`, and at least one
character. -/
def areParameters : (fuel : Nat) → List Char → Bool
  | 0, _ => false
  | fuel + 1, cs =>
    match cs.dropWhile (· = ' ') with
    | [] => true
    | cs =>
      match cs.takeWhile isToken, cs.dropWhile isToken with
      | _ :: _, '=' :: cs =>
        match afterValue cs with
        | some cs => areParameters fuel cs
        | none => false
      | _, _ => false

/-- Divide at the last plus sign, which is not the first character. -/
def divideSuffix (subtype : List Char) : List Char × Option (List Char) :=
  let suffix := (subtype.reverse.takeWhile (· ≠ '+')).reverse
  let front := subtype.take (subtype.length - suffix.length - 1)
  if front = [] ∨ suffix.length = subtype.length then (subtype, none) else (front, some suffix)

/-- A name in lower case. -/
def name (cs : List Char) : String := String.ofList (cs.map Char.toLower)

/-- Read a media type. -/
def read? (cs : List Char) : Option MediaType :=
  match cs.takeWhile isToken, cs.dropWhile isToken with
  | t :: type, '/' :: cs =>
    let subtype := cs.takeWhile isToken
    let (front, suffix) := divideSuffix subtype
    let result : MediaType := ⟨name (t :: type), name front, suffix.map name⟩
    match cs.dropWhile isToken with
    | [] => some result
    | ';' :: cs => if subtype ≠ [] ∧ areParameters (cs.length + 1) cs then some result else none
    | _ => none
  | _, _ => none

/-- The media type is JSON, or something that is written in JSON. -/
def isJson (m : MediaType) : Bool :=
  m.type = "application" && (m.subtype = "json" || m.suffix = some "json")

example : (read? "application/vnd.api+json; a=\"b\"".toList).any isJson = true ∧
    (read? "text/json".toList).any isJson = false := by decide +kernel

end MediaType
end Http
end FailureAlarm
