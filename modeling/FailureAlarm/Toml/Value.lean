import FailureAlarm.Number.Decimal

/-!
# TOML values

The values of a TOML document. A date or a time is kept as its text in normal form: `T` between
date and time, no zeros at the end of the fraction of a second, and `Z` or a sign before the offset.
-/

namespace FailureAlarm
namespace Toml

/-- A TOML value; the keys of a table are different from each other. -/
inductive Value where
  | text (s : String)
  | integer (n : Int)
  | real (x : Floating)
  | bool (b : Bool)
  | moment (text : String)
  | array (items : List Value)
  | table (members : List (String × Value))
deriving Inhabited, Repr

/-- A reader takes a part of the text from its head, and gives what it means and the text after it. -/
abbrev Reader (α : Type) := List Char → Option (α × List Char)

end Toml
end FailureAlarm
