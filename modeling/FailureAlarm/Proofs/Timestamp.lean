import FailureAlarm.Time.Rfc3339
import FailureAlarm.Proofs.Numeral
import Mathlib.Tactic.ByContra

/-!
# Timestamps are read back

The text of an instant, as `Rfc3339.write` gives it, is read as that instant (`read_zulu`), over the whole
range of instants and with leap seconds. Two inverses meet here:

* the calendar, in `ofDay_spec`: a day has one date, and that date has that day;
* the readers of the parts, one lemma for each of them, `number_run` for a number that ends where its
  digits end, and `number_taken` for one that is cut off after so many digits.

Every part that is written starts with a digit or a sign, so the blanks that may stand before it are not
there (`skipBlank_padded`).
-/

namespace FailureAlarm
namespace Calendar

/-! ### Days and dates -/

/-- Years begin one after the other. -/
theorem yearStart_mono {a b : Int} (h : a ≤ b) : yearStart a ≤ yearStart b := by
  unfold yearStart leapDaysBefore
  omega

/-- The months of a year make up the year. -/
theorem yearStart_succ (year : Int) :
    yearStart (year + 1) = yearStart year + ((monthLengths year).foldl (· + ·) 0 : Nat) := by
  unfold yearStart leapDaysBefore monthLengths
  cases h : isLeap year with
  | true =>
      simp [isLeap] at h ⊢
      omega
  | false =>
      simp [isLeap] at h ⊢
      omega

/-- A year between the ones that hold the first and the last day. -/
theorem yearOf_mem {low high day : Int} (hlow : yearStart low ≤ day) (hhigh : day < yearStart high) :
    low ≤ yearOf day ∧ yearOf day < high := by
  have hle := yearStart_yearOf_le day
  have hlt := lt_yearStart_yearOf day
  constructor
  · by_contra hnot
    have hmono : yearStart (yearOf day + 1) ≤ yearStart low := yearStart_mono (by omega)
    omega
  · by_contra hnot
    have hmono : yearStart high ≤ yearStart (yearOf day) := yearStart_mono (by omega)
    omega

/-- A sum may start with any number. -/
theorem foldl_add (n : Nat) (ls : List Nat) : ls.foldl (· + ·) n = n + ls.foldl (· + ·) 0 := by
  induction ls generalizing n with
  | nil => rfl
  | cons l ls ih =>
      rw [List.foldl_cons, List.foldl_cons, ih (n + l), ih (0 + l)]
      omega

/-- A day that is not in the first month is looked for in the others. -/
theorem splitMonths_cons {l day : Nat} (h : l ≤ day) (ls : List Nat) :
    splitMonths (l :: ls) day =
      ((splitMonths ls (day - l)).1 + 1, (splitMonths ls (day - l)).2) := by
  unfold splitMonths
  rw [if_neg (Nat.not_lt.mpr h)]
  cases ls <;> rfl

/-- A day of the year lies in the month that `splitMonths` finds, so many days into it. -/
theorem splitMonths_spec (ls : List Nat) (day : Nat) (h : day < ls.foldl (· + ·) 0) :
    (splitMonths ls day).1 < ls.length ∧
      (splitMonths ls day).2 < ls.getD (splitMonths ls day).1 0 ∧
      (ls.take (splitMonths ls day).1).foldl (· + ·) 0 + (splitMonths ls day).2 = day := by
  induction ls generalizing day with
  | nil => cases h
  | cons l ls ih =>
      by_cases hlt : day < l
      · simp [splitMonths, hlt]
      · have hge : l ≤ day := Nat.not_lt.mp hlt
        rw [List.foldl_cons, foldl_add] at h
        obtain ⟨hmonth, hday, hsum⟩ := ih (day - l) (by omega)
        rw [splitMonths_cons hge]
        refine ⟨by simpa using hmonth, by simpa using hday, ?_⟩
        rw [List.take_succ_cons, List.foldl_cons, foldl_add]
        omega

/-- The date of a day: its year, and the month and the day that the days since the beginning of the year
come to. -/
theorem ofDay_eq (day : Int) :
    let split := splitMonths (monthLengths (yearOf day)) (day - yearStart (yearOf day)).toNat
    Date.ofDay day = ⟨yearOf day, split.1 + 1, split.2 + 1⟩ := rfl

/-- **The date of a day exists, and is the date of that day.** -/
theorem ofDay_spec (day : Int) : (Date.ofDay day).Exists ∧ (Date.ofDay day).toDay = day := by
  have hle := yearStart_yearOf_le day
  have hlt := lt_yearStart_yearOf day
  rw [yearStart_succ] at hlt
  obtain ⟨hmonth, hday, hsum⟩ :=
    splitMonths_spec (monthLengths (yearOf day)) (day - yearStart (yearOf day)).toNat (by omega)
  rw [ofDay_eq]
  generalize splitMonths _ _ = split at hmonth hday hsum ⊢
  constructor
  · exact ⟨Nat.le_add_left 1 _, hmonth, Nat.le_add_left 1 _, hday⟩
  · simp only [Date.toDay, daysOfMonths, Nat.add_sub_cancel, hsum]
    omega

/-- The date of a day has a month and a day of at most two digits. -/
theorem Date.Exists.bounds {date : Date} (h : date.Exists) :
    (1 ≤ date.month ∧ date.month ≤ 12) ∧ 1 ≤ date.day ∧ date.day ≤ 31 := by
  obtain ⟨hlow, hhigh, hday, hlast⟩ := h
  have hall : ∀ m : Fin 12, ∀ leap : Bool,
      [31, if leap then 29 else 28, 31, 30, 31, 30, 31, 31, 30, 31, 30, 31].getD m 0 ≤ 31 := by decide
  have hle := hall ⟨date.month - 1, by omega⟩ (isLeap date.year)
  exact ⟨⟨hlow, hhigh⟩, hday, Nat.le_trans hlast hle⟩

end Calendar

namespace Rfc3339

open Digits

/-! ### Numbers -/

/-- Digits are not blank. -/
theorem isBlank_of_isDigit {c : Char} (h : isDigit c = true) : isBlank c = false := by
  simp only [isDigit, Bool.and_eq_true, decide_eq_true_eq, Char.le_def, UInt32.le_iff_toNat_le] at h
  unfold isBlank Char.toNat
  simp at h ⊢
  omega

/-- A text that starts with a digit has no blanks to skip. -/
theorem skipBlank_of_digits {ds : List Char} (h : ∀ c ∈ ds, isDigit c = true) (hne : ds ≠ [])
    (rest : List Char) : skipBlank (ds ++ rest) = ds ++ rest := by
  obtain ⟨c, cs, rfl⟩ := List.exists_cons_of_ne_nil hne
  have hblank := isBlank_of_isDigit (h c List.mem_cons_self)
  exact List.dropWhile_cons_of_neg (Bool.eq_false_iff.mp hblank)

/-- So nothing is skipped before a number. -/
theorem skipBlank_padded (width n : Nat) (rest : List Char) :
    skipBlank (padded width n ++ rest) = padded width n ++ rest :=
  skipBlank_of_digits (isDigit_of_mem_padded width n) (padded_ne_nil width n) rest

/-- A run of digits goes on as far as there are digits. -/
theorem digitRun_append {ds : List Char} (h : ∀ c ∈ ds, isDigit c = true) (hne : ds ≠ [])
    (rest : List Char) : digitRun (ds ++ rest) = .ok (ds ++ leading rest) := by
  have hlead := leading_append h rest
  obtain ⟨c, cs, rfl⟩ := List.exists_cons_of_ne_nil hne
  unfold digitRun
  rw [hlead]
  rfl

/-- A number that is cut off after all its digits, whatever follows it. -/
theorem number_taken {ds : List Char} (h : ∀ c ∈ ds, isDigit c = true) (hne : ds ≠ [])
    (hval : value ds ≤ 9223372036854775807) (rest : List Char) :
    number (some ds.length) (ds ++ rest) = .ok (value ds, rest) := by
  unfold number
  rw [digitRun_append h hne]
  simp [bind, Except.bind, hval]

/-- A number that ends where its digits end. -/
theorem number_run {ds rest : List Char} (h : ∀ c ∈ ds, isDigit c = true) (hne : ds ≠ [])
    (hval : value ds ≤ 9223372036854775807) (hrest : Ended rest) :
    number none (ds ++ rest) = .ok (value ds, rest) := by
  unfold number
  rw [digitRun_append h hne, leading_of_ended hrest]
  simp [bind, Except.bind, hval]

/-- A field of two digits. -/
theorem field_padded {low high n : Nat} (hlow : low ≤ n) (hhigh : n ≤ high) (hn : n < 100)
    (rest : List Char) : field low high (padded 2 n ++ rest) = .ok (n, rest) := by
  have hlen : (padded 2 n).length = 2 := length_padded (by decide) hn
  have hval := value_padded 2 n
  have hnumber := number_taken (isDigit_of_mem_padded 2 n) (padded_ne_nil 2 n)
    (by omega) rest
  rw [hlen, hval] at hnumber
  unfold field
  rw [skipBlank_padded, hnumber]
  simp [bind, Except.bind, hlow, hhigh]

/-- A separator that stands where it should. -/
theorem literal_self (c : Char) (rest : List Char) : literal c (c :: rest) = .ok ((), rest) :=
  if_pos rfl

/-! ### Dates -/

/-- A year without a sign has four digits. -/
theorem year_unsigned {n : Nat} (h : n ≤ 9999) (rest : List Char) :
    year (padded 4 n ++ rest) = .ok ((n : Int), rest) := by
  have hdigits : ∀ c ∈ padded 4 n, isDigit c = true := isDigit_of_mem_padded 4 n
  have hlen : (padded 4 n).length = 4 := length_padded (by decide) (Nat.lt_succ_of_le h)
  have hval := value_padded 4 n
  have hnumber := number_taken hdigits (padded_ne_nil 4 n) (by omega) rest
  rw [hlen, hval] at hnumber
  unfold year
  rw [skipBlank_padded]
  -- The first character is a digit, so it is no sign.
  obtain ⟨c, cs, hcs⟩ := List.exists_cons_of_ne_nil (padded_ne_nil 4 n)
  have hc : isDigit c = true := hdigits c (hcs ▸ List.mem_cons_self)
  rw [hcs] at hnumber ⊢
  have hminus : c ≠ '-' := ne_of_isDigit hc (by decide)
  have hplus : c ≠ '+' := ne_of_isDigit hc (by decide)
  simp only [List.cons_append] at hnumber ⊢
  split
  · next heq => exact absurd (List.cons.inj heq).1 hminus
  · next heq => exact absurd (List.cons.inj heq).1 hplus
  · rw [hnumber]
    simp [bind, Except.bind, Except.map]
    omega

/-- A year with a sign has all the digits up to the next character that is none. -/
theorem year_signed {n : Nat} (h : n < 1000000000) (negative : Bool) {rest : List Char}
    (hrest : Ended rest) :
    year ((if negative then '-' else '+') :: padded 4 n ++ rest) =
      .ok (if negative then -(n : Int) else n, rest) := by
  have hval := value_padded 4 n
  have hnumber := number_run (isDigit_of_mem_padded 4 n) (padded_ne_nil 4 n)
    (by omega) hrest
  rw [hval] at hnumber
  unfold year
  cases negative with
  | true =>
      rw [show skipBlank ((if true = true then '-' else '+') :: padded 4 n ++ rest) =
        '-' :: (padded 4 n ++ rest) from rfl]
      simp [hnumber, bind, Except.bind, Except.map]
      omega
  | false =>
      rw [show skipBlank ((if false = true then '-' else '+') :: padded 4 n ++ rest) =
        '+' :: (padded 4 n ++ rest) from rfl]
      simp [hnumber, bind, Except.bind, Except.map]
      omega

/-- A year is read again, with four digits or with a sign and as many as it takes. -/
theorem year_written {y : Int} (h : y.natAbs < 1000000000) {rest : List Char} (hrest : Ended rest) :
    year (writeYear y ++ rest) = .ok (y, rest) := by
  unfold writeYear
  split
  · next hfour =>
      rw [year_unsigned (by omega)]
      congr 2
      omega
  · next hmore =>
      by_cases hneg : y < 0
      · have hread := year_signed h true hrest
        rw [if_pos rfl, if_pos rfl] at hread
        rw [if_pos hneg, hread]
        congr 2
        omega
      · have hread := year_signed h false hrest
        rw [if_neg Bool.false_ne_true, if_neg Bool.false_ne_true] at hread
        rw [if_neg hneg, hread]
        congr 2
        omega

/-- A date is read again. -/
theorem date_written {day : Calendar.Date} (hday : day.Exists) (hyear : day.year.natAbs < 1000000000)
    (rest : List Char) :
    date (writeYear day.year ++ '-' :: (padded 2 day.month ++ '-' :: (padded 2 day.day ++ rest))) =
      .ok (day, rest) := by
  obtain ⟨⟨hmonth, hmonth'⟩, hfirst, hlast⟩ := hday.bounds
  have hend : Ended ('-' :: (padded 2 day.month ++ '-' :: (padded 2 day.day ++ rest))) := by
    rintro c ⟨⟩
    decide
  have hdash : ∀ cs, skipBlank ('-' :: cs) = '-' :: cs := fun _ => rfl
  unfold date
  rw [year_written hyear hend]
  simp only [bind, Except.bind, hdash, literal_self]
  rw [field_padded hmonth hmonth' (by omega)]
  simp only [hdash, literal_self]
  rw [field_padded hfirst hlast (by omega)]

/-! ### Times of day -/

/-- Nothing that could be part of the second follows: neither a digit nor a point. -/
def AfterSecond (rest : List Char) : Prop := Ended rest ∧ rest.head? ≠ some '.'

/-- A fraction is read as nanoseconds, however many of its digits were written. -/
theorem fraction_point {ds rest : List Char} (h : ∀ c ∈ ds, isDigit c = true) (hne : ds ≠ [])
    (hlen : ds.length ≤ 9) (hrest : Ended rest) :
    fraction ('.' :: (ds ++ rest)) = .ok (value ds * Nat.pow 10 (9 - ds.length), rest) := by
  simp only [fraction]
  rw [digitRun_append h hne, leading_of_ended hrest]
  simp [bind, Except.bind, List.take_of_length_le hlen]

/-- A fraction of as few digits as are exact is read as all nine of them. -/
theorem fraction_written {nanos : Nat} (h : nanos < 1000000000) {rest : List Char}
    (hrest : AfterSecond rest) : fraction (writeFraction nanos ++ rest) = .ok (nanos, rest) := by
  have hpoint : ∀ width n : Nat, 0 < width → width ≤ 9 → n < Nat.pow 10 width →
      fraction ('.' :: (padded width n ++ rest)) = .ok (n * Nat.pow 10 (9 - width), rest) := by
    intro width n hpos hle hn
    have hlen := length_padded hpos hn
    have hread := fraction_point (isDigit_of_mem_padded width n)
      (padded_ne_nil width n) (by omega) hrest.1
    rw [value_padded, hlen] at hread
    exact hread
  unfold writeFraction
  split
  · -- Nothing is written, and the reader finds no point where it looks for one.
    next hzero =>
      obtain ⟨-, hdot⟩ := hrest
      cases rest with
      | nil => rw [hzero]; rfl
      | cons c rest =>
          unfold fraction
          split
          · next heq => cases heq; exact absurd rfl hdot
          · rw [hzero]; rfl
  · split
    · refine (hpoint 3 _ (by decide) (by decide) (by show _ < 1000; omega)).trans ?_
      congr 2
      show nanos / 1000000 * 1000000 = nanos
      omega
    · split
      · refine (hpoint 6 _ (by decide) (by decide) (by show _ < 1000000; omega)).trans ?_
        congr 2
        show nanos / 1000 * 1000 = nanos
        omega
      · refine (hpoint 9 nanos (by decide) (by decide) h).trans ?_
        congr 2
        exact Nat.mul_one nanos

/-- A second of the day with nanoseconds; `leap` is 1 in a leap second, which only the last second of a
minute has. -/
def Ticks (second nanos leap : Nat) : Prop :=
  leap = 0 ∧ nanos < 1000000000 ∨
    leap = 1 ∧ 1000000000 ≤ nanos ∧ nanos < 2000000000 ∧ second % 60 = 59

/-- Without the leap second there is less than a second left. -/
theorem nanos_lt {second nanos leap : Nat} (h : Ticks second nanos leap) :
    nanos - leap * 1000000000 < 1000000000 := by
  rcases h with ⟨rfl, hlt⟩ | ⟨rfl, hge, hlt, -⟩
  · omega
  · omega

/-- The time of day is put together from its parts. A second that is the sixtieth is the one before it,
with more nanoseconds than others have. -/
theorem time_of_parts {h m s nanos : Nat} {cs cs₁ cs₂ cs₃ rest : List Char}
    (hh : field 0 23 cs = .ok (h, ':' :: cs₁)) (hm : field 0 59 cs₁ = .ok (m, ':' :: cs₂))
    (hs : field 0 60 cs₂ = .ok (s, cs₃)) (hf : fraction cs₃ = .ok (nanos, rest)) :
    time cs = .ok (if s = 60 then (h * 3600 + m * 60 + 59, 1000000000 + nanos)
      else (h * 3600 + m * 60 + s, nanos), rest) := by
  have hcolon : ∀ cs, skipBlank (':' :: cs) = ':' :: cs := fun _ => rfl
  unfold time
  simp only [hh, hm, hs, hf, bind, Except.bind, hcolon, literal_self]
  split
  · rfl
  · rfl

/-- The second of the day and the nanoseconds, as `write` gives them: a leap second as second 60. -/
theorem time_written {second nanos leap : Nat} (hsecond : second < 86400)
    (hleap : Ticks second nanos leap) {rest : List Char} (hrest : AfterSecond rest) :
    time (padded 2 (second / 3600) ++ ':' :: (padded 2 (second / 60 % 60) ++ ':' ::
        (padded 2 (second % 60 + leap) ++ (writeFraction (nanos - leap * 1000000000) ++ rest)))) =
      .ok ((second, nanos), rest) := by
  have hlast : second % 60 + leap ≤ 60 := by
    rcases hleap with ⟨rfl, -⟩ | ⟨rfl, -⟩ <;> omega
  have hread := time_of_parts
    (field_padded (Nat.zero_le _) (show second / 3600 ≤ 23 by omega) (by omega) _)
    (field_padded (Nat.zero_le _) (show second / 60 % 60 ≤ 59 by omega) (by omega) _)
    (field_padded (Nat.zero_le _) hlast (by omega) _) (fraction_written (nanos_lt hleap) hrest)
  have hparts : second / 3600 * 3600 + second / 60 % 60 * 60 + second % 60 = second := by omega
  rw [hread]
  -- In a leap second the second that was read is 60: one is taken off, and goes to the nanoseconds.
  rcases hleap with ⟨rfl, hnanos⟩ | ⟨rfl, hge, hlt, hminute⟩
  · rw [if_neg (by omega), Nat.add_zero, Nat.zero_mul, Nat.sub_zero, hparts]
  · rw [hminute] at hparts
    rw [if_pos (by rw [hminute]), Nat.one_mul, Nat.add_sub_cancel' hge, hparts]

/-! ### Timestamps -/

/-- A timestamp whose date ends at `T` and whose time of day ends at the zone `Z`. -/
theorem read_of_parts {cs cs₁ : List Char} {day : Calendar.Date} {second nanos : Nat}
    (hd : date cs = .ok (day, 'T' :: cs₁)) (ht : time cs₁ = .ok ((second, nanos), ['Z'])) :
    read cs = assemble day second nanos 0 := by
  have hsep : separator ('T' :: cs₁) = .ok ((), cs₁) := rfl
  have hzone : zone (skipBlank ['Z']) = .ok (0, []) := rfl
  have hend : skipBlank [] = [] := rfl
  unfold read
  simp only [hd, ht, hsep, hzone, hend, bind, Except.bind]
  rfl

/-- The year of an instant. -/
theorem year_bounds (t : Instant) : -262143 ≤ (Calendar.Date.ofDay (t.secs / 86400)).year ∧
    (Calendar.Date.ofDay (t.secs / 86400)).year < 262143 := by
  have hmin := t.valid.min_le
  have hmax := t.valid.le_max
  unfold Instant.minSecs at hmin
  unfold Instant.maxSecs at hmax
  exact Calendar.yearOf_mem (by omega) (by omega)

/-- A day is a whole number of minutes, so a leap second ends a minute of its day. -/
theorem ticks (t : Instant) :
    Ticks (t.secs % 86400).toNat t.nanos (if t.IsLeap then 1 else 0) := by
  have hlt := t.valid.nanos_lt
  have hleap := t.valid.leap
  unfold Ticks
  by_cases h : t.IsLeap
  · rw [if_pos h]
    unfold Instant.IsLeap at h
    have hlast := hleap h
    omega
  · rw [if_neg h]
    unfold Instant.IsLeap at h
    omega

/-- An instant is put together again from its day, the second of the day, and its nanoseconds. -/
theorem assemble_parts (t : Instant) :
    assemble (Calendar.Date.ofDay (t.secs / 86400)) (t.secs % 86400).toNat t.nanos 0 = .ok t := by
  obtain ⟨hexists, hday⟩ := Calendar.ofDay_spec (t.secs / 86400)
  obtain ⟨hlow, hhigh⟩ := year_bounds t
  have hparts : Instant.ofParts? ((Calendar.Date.ofDay (t.secs / 86400)).toDay * 86400 +
      (t.secs % 86400).toNat - 0 * 60) t.nanos = some t := by
    rw [Instant.ofParts?_eq_some, hday]
    exact ⟨by omega, rfl⟩
  have hrange : ¬ (¬ (Calendar.Date.ofDay (t.secs / 86400)).Exists ∨
      (Calendar.Date.ofDay (t.secs / 86400)).year < -262143 ∨
      262142 < (Calendar.Date.ofDay (t.secs / 86400)).year ∨ 1440 ≤ (0 : Int).natAbs) := by
    rintro (h | h | h | h)
    · exact h hexists
    · omega
    · omega
    · exact absurd h (by decide)
  unfold assemble
  rw [if_neg hrange, hparts]

/-- **The text of an instant is read as that instant.** -/
theorem read_zulu (t : Instant) : read (zulu t).toList = .ok t := by
  obtain ⟨hexists, -⟩ := Calendar.ofDay_spec (t.secs / 86400)
  obtain ⟨hlow, hhigh⟩ := year_bounds t
  have hz : AfterSecond ['Z'] := ⟨by rintro c ⟨⟩; decide, by decide⟩
  have htime := time_written (by omega) (ticks t) hz
  have hread := read_of_parts (date_written hexists (by omega) _) htime
  rw [assemble_parts] at hread
  rw [zulu, String.toList_ofList, write]
  simp only [List.append_assoc, List.cons_append] at hread ⊢
  exact hread

end Rfc3339
end FailureAlarm
