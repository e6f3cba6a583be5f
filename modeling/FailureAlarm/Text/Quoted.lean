import FailureAlarm.Text.Hidden

/-!
# Quoted text in messages

A message shows a text in quotes, so that its ends and its blanks can be seen. Inside, quotes and
backslashes are marked, tabs and line ends have their usual escapes, and each other character
without a visible form of its own is given by its number in braces.
-/

namespace FailureAlarm
namespace Quoted

/-- A character as it stands inside the quotes. -/
def escape (c : Char) : List Char :=
  if c = '"' then ['\\', '"']
  else if c = '\\' then ['\\', '\\']
  else if c = '\t' then ['\\', 't']
  else if c = '\r' then ['\\', 'r']
  else if c = '\n' then ['\\', 'n']
  else if c = '\x00' then ['\\', '0']
  else if isHidden c then
    '\\' :: 'u' :: '\x7b' :: (Nat.toDigits 16 c.toNat ++ ['\x7d'])
  else [c]

end Quoted

/-- The text in quotes. -/
def quoted (s : String) : String :=
  String.ofList ('"' :: s.toList.flatMap Quoted.escape ++ ['"'])

end FailureAlarm
