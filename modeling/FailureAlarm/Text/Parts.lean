/-!
# Parts of a text

`divide` cuts a text at every place where a given character stands. There is one part more than
there are such places.
-/

namespace FailureAlarm

/-- The parts of a text between the places of `c`, at least one. -/
def divide (c : Char) : List Char → List (List Char)
  | [] => [[]]
  | d :: cs =>
    if d = c then [] :: divide c cs
    else match divide c cs with
      | part :: parts => (d :: part) :: parts
      | [] => [[d]]

end FailureAlarm
