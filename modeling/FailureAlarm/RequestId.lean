import FailureAlarm.Text.Hex

/-!
# Request identifiers

A request has an identifier of 128 bits. It is written as 32 lower-case hexadecimal digits in five
groups. It is read in that form, alone, in braces or after `urn:uuid:`, and as 32 digits without
groups; letters may have either case.
-/

namespace FailureAlarm

/-- An identifier of 128 bits. -/
structure RequestId where
  bits : BitVec 128
deriving DecidableEq, Repr, Inhabited

namespace RequestId

/-- The lengths of the groups of digits. -/
def groups : List Nat := [8, 4, 4, 4, 12]

/-- The 32 hexadecimal digits. -/
def digits (id : RequestId) : List Char :=
  (List.range 32).map fun i => Hex.digit ((id.bits.toNat >>> (4 * (31 - i))) % 16)

/-- Digits in groups of the given lengths, with hyphens between the groups. -/
def hyphenate : List Nat → List Char → List Char
  | [], _ => []
  | [n], cs => cs.take n
  | n :: ns, cs => cs.take n ++ '-' :: hyphenate ns (cs.drop n)

/-- The digits of groups of the given lengths. -/
def ungroup? : List Nat → List Char → Option (List Char)
  | [], cs => if cs.isEmpty then some [] else none
  | [n], cs => if cs.length = n then some cs else none
  | n :: ns, cs =>
    match cs.drop n with
    | '-' :: rest => (ungroup? ns rest).map (cs.take n ++ ·)
    | _ => none

/-- The identifier with these 32 digits. -/
def ofDigits? (cs : List Char) : Option RequestId :=
  if cs.length = 32 then
    (cs.mapM Hex.value?).map fun ds =>
      ⟨BitVec.ofNat 128 (ds.foldl (fun n d => n * 16 + d) 0)⟩
  else none

/-- The text of the identifier. -/
def text (id : RequestId) : String := String.ofList (hyphenate groups id.digits)

/-- What stands before the digits of an identifier that is written as a name. -/
def urn : List Char := "urn:uuid:".toList

/-- Read an identifier. -/
def read? (cs : List Char) : Option RequestId :=
  if cs.length = 32 then ofDigits? cs
  else
    let body :=
      if (cs.take urn.length).map Char.toLower = urn then cs.drop urn.length
      else match cs with
        | '\x7b' :: inner => if inner.getLast? = some '\x7d' then inner.dropLast else cs
        | cs => cs
    (ungroup? groups body).bind ofDigits?

/-- The identifier is of the kind that is drawn at random. -/
def isRandom (id : RequestId) : Bool :=
  id.bits.extractLsb' 76 4 = 4#4 && id.bits.extractLsb' 62 2 = 2#2

/-- The identifier of that kind whose other bits are taken from `n`. -/
def ofRandom (n : Nat) : RequestId :=
  ⟨BitVec.ofNat 48 (n >>> 80) ++ 4#4 ++ BitVec.ofNat 12 (n >>> 64) ++ 2#2 ++ BitVec.ofNat 62 n⟩

/-- The `n`-th of a sequence of identifiers of that kind. The multiplier is odd, so as many of them
are different as the last 62 bits can tell apart. -/
def ofCount (n : Nat) : RequestId := ofRandom ((n + 1) * 0x9e3779b97f4a7c151e3779b97f4a7c15)

end RequestId
end FailureAlarm
