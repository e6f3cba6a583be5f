import FailureAlarm.Http.Percent
import FailureAlarm.Text.Parts
import FailureAlarm.Text.Utf8

/-!
# Web addresses

The address of a page on the web: its scheme, the host and the number of a socket there, the path
and the query. An address is read on its own or as a link on another page. Blanks around it and line
ends inside it do not count, a backslash counts as a slash, the dots that stand for the same and the
next outer level are resolved, and characters that may not stand in a path or a query are
percent-encoded. The part after a number sign is left out.
-/

namespace FailureAlarm
namespace Http

open Digits

/-- Where a page is: a numeric address or a name. -/
inductive Host where
  | address (n : Nat)
  | name (s : String)
deriving DecidableEq, Repr

/-- The address of a page. -/
structure Url where
  secure : Bool
  host : Host
  /-- The number of the socket that the host listens at. -/
  socket : Nat
  /-- The parts of the path, at least one. -/
  segments : List (List Char)
  query : Option (List Char)
deriving DecidableEq, Repr

/-- What a link leads to: a page on the web, or something else. -/
inductive Link where
  | page (url : Url)
  | elsewhere
deriving DecidableEq, Repr

namespace Url

/-- The path and the query. -/
def target (u : Url) : List Char :=
  u.segments.flatMap ('/' :: ·) ++ match u.query with
    | some q => '?' :: q
    | none => []

/-! ### Hosts -/

/-- A part of a numeric address; after `0x` it is hexadecimal, after `0` octal. -/
def number? : List Char → Option Nat
  | [] => none
  | '0' :: 'x' :: cs => Hex.inBase? 16 cs
  | ['0'] => some 0
  | '0' :: cs => Hex.inBase? 8 cs
  | cs => Hex.inBase? 10 cs

/-- The parts of a name; an empty one at the end does not count. -/
def labels (cs : List Char) : List (List Char) :=
  let ls := divide '.' cs
  if 1 < ls.length ∧ ls.getLast? = some [] then ls.dropLast else ls

/-- A name with this last part is a numeric address. -/
def isNumeric (label : List Char) : Bool :=
  (label ≠ [] && label.all isDigit) || ("0x".toList.isPrefixOf label && (number? label).isSome)

/-- The numeric address with these parts. The last part takes the place of those that are left
out. -/
def address? (parts : List (List Char)) : Option Nat := do
  let ns ← parts.mapM number?
  let last ← ns.getLast?
  let front := ns.dropLast
  if front.length ≤ 3 ∧ front.all (· < 256) ∧ last < Nat.pow 256 (4 - front.length) then
    some (front.zipIdx.foldl (fun n (d, i) => n + d * Nat.pow 256 (3 - i)) last)
  else none

/-- A character that may not stand in the name of a host. -/
def isForbidden (c : Char) : Bool :=
  c.toNat ≤ 32 || c.toNat = 127 || "#/:<>?@[\\]^|%".toList.contains c

/-- Read a host. -/
def host? (cs : List Char) : Option Host :=
  match cs with
  | '[' :: inner =>
    if inner.getLast? = some ']' ∧ 2 < inner.length ∧
        inner.dropLast.all fun c => (Hex.value? c).isSome || c = ':' || c = '.' then
      some (.name (String.ofList cs))
    else none
  | cs =>
    let name := (Utf8.lossy (Percent.decode cs)).toList.map Char.toLower
    if name = [] ∨ name.any isForbidden then none
    else if ((labels name).getLast?).any isNumeric then (address? (labels name)).map .address
    else some (.name (String.ofList name))

/-! ### Paths and queries -/

/-- A character that may stand in a path as it is. -/
def isPathChar (c : Char) : Bool :=
  32 < c.toNat && c.toNat < 127 && !"\"#<>?`\x7b\x7d".toList.contains c

/-- A character that may stand in a query as it is. -/
def isQueryChar (c : Char) : Bool :=
  32 < c.toNat && c.toNat < 127 && !"\"#<>'".toList.contains c

/-- The part of a path with dots written as dots. -/
def plainDots : List Char → List Char
  | '%' :: '2' :: 'e' :: cs => '.' :: plainDots cs
  | '%' :: '2' :: 'E' :: cs => '.' :: plainDots cs
  | c :: cs => c :: plainDots cs
  | [] => []

/-- Go from a place, whose parts are held backwards, along the parts of a path. -/
def walk (place : List (List Char)) : List (List Char) → List (List Char)
  | [] => place.reverse
  | part :: rest =>
    let isLast := rest.isEmpty
    if plainDots part = ['.', '.'] then
      walk (if isLast then [] :: place.tail else place.tail) rest
    else if plainDots part = ['.'] then walk (if isLast then [] :: place else place) rest
    else walk (Percent.encode isPathChar part :: place) rest

/-- A slash, or what counts as one. -/
def isSlash (c : Char) : Bool := c = '/' || c = '\\'

/-- The path up to the query or the number sign. -/
def pathOf (cs : List Char) : List Char := cs.takeWhile fun c => c ≠ '?' && c ≠ '#'

/-- The parts of the path of an address. -/
def partsOf (cs : List Char) : List (List Char) :=
  divide '/' ((pathOf cs).map fun c => if isSlash c then '/' else c)

/-- The query of an address. -/
def queryOf (cs : List Char) : Option (List Char) :=
  match cs.dropWhile fun c => c ≠ '?' && c ≠ '#' with
  | '?' :: q => some (Percent.encode isQueryChar (q.takeWhile (· ≠ '#')))
  | _ => none

/-! ### Addresses -/

/-- The number of the socket, after its colon. -/
def socket? (secure : Bool) : List Char → Option Nat
  | [] | [':'] => some (if secure then 443 else 80)
  | ':' :: ds => if ds.all isDigit ∧ value ds ≤ 65535 then some (value ds) else none
  | _ => none

/-- The end of the host: its closing bracket, or the colon before the socket. -/
def splitHost (cs : List Char) : List Char × List Char :=
  match cs with
  | '[' :: _ =>
    let inner := cs.takeWhile (· ≠ ']')
    (inner ++ (cs.drop inner.length).take 1, (cs.drop inner.length).drop 1)
  | cs => (cs.takeWhile (· ≠ ':'), cs.dropWhile (· ≠ ':'))

/-- An address after the slashes of its scheme. What stands before the last `@` of the host is
left out. -/
def ofAuthority? (secure : Bool) (cs : List Char) : Option Url := do
  let authority := cs.takeWhile fun c => !isSlash c && c ≠ '?' && c ≠ '#'
  let rest := cs.drop authority.length
  let named := (authority.reverse.takeWhile (· ≠ '@')).reverse
  let (hostText, socketText) := splitHost named
  let host ← host? hostText
  let socket ← socket? secure socketText
  let parts := match rest with
    | c :: cs => if isSlash c then partsOf cs else [[]]
    | [] => [[]]
  some ⟨secure, host, socket, walk [] parts, queryOf rest⟩

/-- The scheme of an address, and what follows its colon. -/
def scheme? (cs : List Char) : Option (List Char × List Char) :=
  let isLetter (c : Char) : Bool := ('a' ≤ c && c ≤ 'z') || ('A' ≤ c && c ≤ 'Z')
  let name := cs.takeWhile fun c => isLetter c || isDigit c || c = '+' || c = '-' || c = '.'
  match cs.drop name.length with
  | ':' :: rest => if name.head?.any isLetter then some (name.map Char.toLower, rest) else none
  | _ => none

/-- The text without blanks and control characters around it, and without tabs and line ends. -/
def tidy (cs : List Char) : List Char :=
  let strip (cs : List Char) := cs.dropWhile fun c => c.toNat ≤ 32
  (strip (strip cs).reverse).reverse.filter fun c => c ≠ '\t' && c ≠ '\n' && c ≠ '\r'

/-- The address that a link without a scheme leads to from `base`. -/
def relative? (base : Url) (cs : List Char) : Option Url :=
  match cs with
  | a :: b :: rest =>
    if isSlash a && isSlash b then ofAuthority? base.secure rest
    else some (within a (b :: rest))
  | [a] => some (within a [])
  | [] => some base
where
  /-- A link that starts with `a` and stays on the same host. -/
  within (a : Char) (rest : List Char) : Url :=
    if isSlash a then { base with segments := walk [] (partsOf rest), query := queryOf rest }
    else if a = '?' then { base with query := queryOf (a :: rest) }
    else if a = '#' then base
    else { base with
      segments := walk base.segments.reverse.tail (partsOf (a :: rest))
      query := queryOf (a :: rest) }

/-- What a link leads to from `base`, if that is given. -/
def join? (base : Option Url) (link : List Char) : Option Link :=
  let cs := tidy link
  match scheme? cs with
  | some (scheme, rest) =>
    if scheme = "http".toList ∨ scheme = "https".toList then
      let secure := scheme = "https".toList
      match base.filter fun b => b.secure = secure with
      | some b =>
        if "//".toList.isPrefixOf rest then page (ofAuthority? secure (rest.dropWhile isSlash))
        else page (relative? b rest)
      | none => page (ofAuthority? secure (rest.dropWhile isSlash))
    else some .elsewhere
  | none => base.bind fun b => page (relative? b cs)
where
  page (u : Option Url) : Option Link := u.map .page

/-- Read the address of a page. -/
def read? (cs : List Char) : Option Url :=
  match join? none cs with
  | some (.page u) => some u
  | _ => none

end Url
end Http
end FailureAlarm
