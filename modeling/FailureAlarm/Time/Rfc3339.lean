import FailureAlarm.Time.Instant
import FailureAlarm.Text.Blank
import FailureAlarm.Text.Digits

/-!
# Timestamps in RFC 3339 form

`Rfc3339.write` gives the text of an instant in UTC: as few of 0, 3, 6 or 9 fraction digits as are
exact, a sign on years outside 0 to 9999, and second 60 for a leap second. The zone is written as
`Z` or as `+00:00`, which the caller chooses.

`Rfc3339.read` takes more than that: blanks between the parts of the date, months and other fields of
one digit, `t` or a blank between date and time, any number of fraction digits (those after the
ninth are dropped), and as zone `Z`, `UTC` in any case, or a signed offset. A field is checked as soon
as it has been read, the date as a whole only at the end.
-/

namespace FailureAlarm
namespace Rfc3339

open Digits

/-! ### Writing -/

/-- The fraction of a second, with a point: nothing, or 3, 6 or 9 digits. -/
def writeFraction (nanos : Nat) : List Char :=
  if nanos = 0 then []
  else if nanos % 1000000 = 0 then '.' :: padded 3 (nanos / 1000000)
  else if nanos % 1000 = 0 then '.' :: padded 6 (nanos / 1000)
  else '.' :: padded 9 nanos

/-- Four digits for the years 0 to 9999; a sign and at least four digits for the others. -/
def writeYear (year : Int) : List Char :=
  if 0 ≤ year ∧ year ≤ 9999 then padded 4 year.natAbs
  else (if year < 0 then '-' else '+') :: padded 4 year.natAbs

/-- The instant in UTC, followed by `zone`. -/
def write (t : Instant) (zone : List Char) : List Char :=
  let date := Calendar.Date.ofDay (t.secs / 86400)
  let second := (t.secs % 86400).toNat
  let leap := if t.IsLeap then 1 else 0
  writeYear date.year ++ '-' :: padded 2 date.month ++ '-' :: padded 2 date.day ++ 'T' ::
    padded 2 (second / 3600) ++ ':' :: padded 2 (second / 60 % 60) ++ ':' ::
    padded 2 (second % 60 + leap) ++ writeFraction (t.nanos - leap * 1000000000) ++ zone

/-- The text with the zone written as `Z`. -/
def zulu (t : Instant) : String := String.ofList (write t ['Z'])

/-- The text with the zone written as `+00:00`. -/
def utc (t : Instant) : String := String.ofList (write t ['+', '0', '0', ':', '0', '0'])

/-- The text with a blank between date and time, and with the name of the zone. -/
def spoken (t : Instant) : String :=
  String.ofList ((write t []).map (fun c => if c = 'T' then ' ' else c)) ++ " UTC"

/-! ### Reading

Each reader gives back what it has read and the text after it. -/

/-- Why a text is not a timestamp. -/
inductive Error where
  | tooShort
  | tooLong
  | invalid
  | outOfRange
  | impossible
deriving DecidableEq, Repr

/-- The wording of an error. -/
def Error.message : Error → String
  | .tooShort => "premature end of input"
  | .tooLong => "trailing input"
  | .invalid => "input contains invalid characters"
  | .outOfRange => "input is out of range"
  | .impossible => "no possible date and time matching input"

/-- The leading digits, at least one. -/
def digitRun (cs : List Char) : Except Error (List Char) :=
  match cs, leading cs with
  | [], _ => .error .tooShort
  | _, [] => .error .invalid
  | _, run => .ok run

/-- A number of at least one digit, and of at most `width` if that is given. -/
def number (width : Option Nat) (cs : List Char) : Except Error (Nat × List Char) := do
  let run ← digitRun cs
  let taken := match width with
    | none => run
    | some k => run.take k
  if value taken ≤ 9223372036854775807 then .ok (value taken, cs.drop taken.length)
  else .error .outOfRange

/-- The character `c`. -/
def literal (c : Char) : List Char → Except Error (Unit × List Char)
  | [] => .error .tooShort
  | d :: cs => if d = c then .ok ((), cs) else .error .invalid

/-- A field of at most two digits between `low` and `high`, after blanks. -/
def field (low high : Nat) (cs : List Char) : Except Error (Nat × List Char) := do
  let (n, cs) ← number (some 2) (skipBlank cs)
  if low ≤ n ∧ n ≤ high then .ok (n, cs) else .error .outOfRange

/-- A year: at most four digits, or any number of them after a sign. -/
def year (cs : List Char) : Except Error (Int × List Char) := do
  let (y, cs) ← match skipBlank cs with
    | '-' :: cs => (number none cs).map fun (n, cs) => (-(n : Int), cs)
    | '+' :: cs => (number none cs).map fun (n, cs) => ((n : Int), cs)
    | cs => (number (some 4) cs).map fun (n, cs) => ((n : Int), cs)
  if -2147483648 ≤ y ∧ y ≤ 2147483647 then .ok (y, cs) else .error .outOfRange

/-- A date, with blanks before each of its parts. -/
def date (cs : List Char) : Except Error (Calendar.Date × List Char) := do
  let (y, cs) ← year cs
  let (_, cs) ← literal '-' (skipBlank cs)
  let (m, cs) ← field 1 12 cs
  let (_, cs) ← literal '-' (skipBlank cs)
  let (d, cs) ← field 1 31 cs
  .ok (⟨y, m, d⟩, cs)

/-- The nanoseconds of an optional fraction; digits after the ninth are dropped. -/
def fraction : List Char → Except Error (Nat × List Char)
  | '.' :: cs => do
    let run ← digitRun cs
    .ok (value (run.take 9) * Nat.pow 10 (9 - run.length), cs.drop run.length)
  | cs => .ok (0, cs)

/-- The second of the day and the nanoseconds, which count a leap second from `10 ^ 9` up. -/
def time (cs : List Char) : Except Error ((Nat × Nat) × List Char) := do
  let (h, cs) ← field 0 23 cs
  let (_, cs) ← literal ':' (skipBlank cs)
  let (m, cs) ← field 0 59 cs
  let (_, cs) ← literal ':' (skipBlank cs)
  let (s, cs) ← field 0 60 cs
  let (nanos, cs) ← fraction cs
  if s = 60 then .ok ((h * 3600 + m * 60 + 59, 1000000000 + nanos), cs)
  else .ok ((h * 3600 + m * 60 + s, nanos), cs)

/-- Two digits of an offset; a single character is too short only if it takes a single byte. -/
def twoDigits : List Char → Except Error ((Char × Char) × List Char)
  | [] => .error .tooShort
  | [c] => .error (if c.utf8Size < 2 then .tooShort else .invalid)
  | a :: b :: cs => if isDigit a && isDigit b then .ok ((a, b), cs) else .error .invalid

/-- The hours and minutes of an offset in minutes, with colons and blanks between them. -/
def offsetMinutes (cs : List Char) : Except Error (Nat × List Char) := do
  let ((a, b), cs) ← twoDigits cs
  let ((c, d), cs) ← twoDigits (cs.dropWhile fun c => c = ':' || isBlank c)
  if '5' < c then .error .outOfRange
  else .ok (value [a, b] * 60 + value [c, d], cs)

/-- The offset of a zone from UTC in minutes. -/
def zone : List Char → Except Error (Int × List Char)
  | [] => .error .tooShort
  | c :: cs =>
    if c = 'Z' ∨ c = 'z' then .ok (0, cs)
    else if ((c :: cs).take 3).map Char.toUpper = ['U', 'T', 'C'] then .ok (0, cs.drop 2)
    else if c = '+' then (offsetMinutes cs).map fun (m, cs) => ((m : Int), cs)
    else if c = '-' ∨ c = '\u2212' then (offsetMinutes cs).map fun (m, cs) => (-(m : Int), cs)
    else .error .invalid

/-- The separator of date and time. -/
def separator : List Char → Except Error (Unit × List Char)
  | [] => .error .tooShort
  | c :: cs => if c = 'T' ∨ c = 't' ∨ c = ' ' then .ok ((), cs) else .error .invalid

/-- The instant with this local date, second of the day, nanoseconds and offset in minutes. -/
def assemble (day : Calendar.Date) (second nanos : Nat) (offset : Int) : Except Error Instant :=
  if ¬ day.Exists ∨ day.year < -262143 ∨ 262142 < day.year ∨ 1440 ≤ offset.natAbs then
    .error .outOfRange
  else
    match Instant.ofParts? (day.toDay * 86400 + second - offset * 60) nanos with
    | some t => .ok t
    | none => .error .impossible

/-- Read a timestamp. -/
def read (cs : List Char) : Except Error Instant := do
  let (day, cs) ← date cs
  let (_, cs) ← separator cs
  let ((second, nanos), cs) ← time cs
  let (offset, cs) ← zone (skipBlank cs)
  if skipBlank cs = [] then assemble day second nanos offset else .error .tooLong

end Rfc3339
end FailureAlarm
