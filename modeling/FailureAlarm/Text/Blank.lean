/-!
# Blank characters

The characters with the Unicode property White_Space. A text is blank if it has no other ones;
the zero-width space and the byte order mark are not among them.
-/

namespace FailureAlarm

/-- The character has the property White_Space. -/
def isBlank (c : Char) : Bool :=
  let n := c.toNat
  (9 ≤ n && n ≤ 13) || n = 0x20 || n = 0x85 || n = 0xA0 || n = 0x1680 ||
    (0x2000 ≤ n && n ≤ 0x200A) || n = 0x2028 || n = 0x2029 || n = 0x202F || n = 0x205F || n = 0x3000

/-- What is left of `cs` after its leading blanks. -/
def skipBlank (cs : List Char) : List Char := cs.dropWhile isBlank

example : isBlank '\u200b' = false ∧ isBlank '\ufeff' = false ∧ isBlank '\u3000' = true := by decide

end FailureAlarm
