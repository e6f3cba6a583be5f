import FailureAlarm.Json.Tree
import FailureAlarm.Proofs.Numeral
import Mathlib.Data.List.Basic

/-!
# Written values are read back

The text of a value is read as the tree of that value (`read_text`), whatever its strings contain, as long
as its numbers are integers of 64 bits (`Value.IsWhole`): a floating-point value is rounded when it is
read, and need not come back.

* `stringBody_escape`: a character inside quotes is read as it was written, so a string ends at its own
  closing quote and nowhere else;
* `number_written`: an integer is read as far as its digits go;
* `value_chars` with `items_chars` and `members_chars`: by recursion on the value, every part is read up to
  the comma or bracket after it. The fuel is twice the length of the text.
-/

namespace FailureAlarm
namespace Json

open Digits

/-! ### Strings -/

namespace Tree

/-- The number of a character below U+0020 is read back from its two hexadecimal digits. -/
theorem hexUnit?_digits {n : Nat} (h : n < 32) :
    hexUnit? '0' '0' (Hex.digit (n / 16)) (Hex.digit (n % 16)) = some n := by
  have hall : ∀ k : Fin 32,
      hexUnit? '0' '0' (Hex.digit (k.val / 16)) (Hex.digit (k.val % 16)) = some k.val := by decide
  exact hall ⟨n, h⟩

/-- A character that stands for itself. -/
theorem stringBody_plain {c : Char} (hquote : c ≠ '"') (hslash : c ≠ '\\') (hge : ¬ c.toNat < 32)
    (acc cs : List Char) :
    stringBody none none false acc (c :: cs) = stringBody none none false (c :: acc) cs := by
  rw [stringBody]
  · simp [hge]
  · exact fun h => absurd h hquote
  · intro a b c' d rest h
    exact absurd h hslash
  · intro c' rest h
    exact absurd h hslash

/-- A character with an escape of two characters. -/
theorem stringBody_short {c e : Char} (h : shortEscape? c = some e) (acc cs : List Char) :
    stringBody none none false acc ('\\' :: c :: cs) = stringBody none none false (e :: acc) cs := by
  have hu : c ≠ 'u' := by
    rintro rfl
    cases h
  rw [stringBody]
  · simp [h]
  · intro a b c' d rest heq
    exact absurd heq hu

/-- A character that is written with its number. -/
theorem stringBody_unit {n : Nat} (h : n < 32) (acc cs : List Char) :
    stringBody none none false acc
        ('\\' :: 'u' :: '0' :: '0' :: Hex.digit (n / 16) :: Hex.digit (n % 16) :: cs) =
      stringBody none none false (Char.ofNat n :: acc) cs := by
  -- No half of a surrogate pair is so small.
  have hhigh : ¬ (0xD800 ≤ n ∧ n ≤ 0xDBFF) := by omega
  have hlow : ¬ (0xDC00 ≤ n ∧ n ≤ 0xDFFF) := by omega
  rw [stringBody.eq_def]
  simp only [hexUnit?_digits h, if_neg hhigh, if_neg hlow]

/-- **A character inside quotes is read as it was written.** -/
theorem stringBody_escape (c : Char) (acc cs : List Char) :
    stringBody none none false acc (Value.escape c ++ cs) =
      stringBody none none false (c :: acc) cs := by
  unfold Value.escape
  -- The order of the cases is that of `Value.escape`.
  split
  · next h => subst h; exact stringBody_short rfl acc cs
  split
  · next h => subst h; exact stringBody_short rfl acc cs
  split
  · next h => subst h; exact stringBody_short rfl acc cs
  split
  · next h => subst h; exact stringBody_short rfl acc cs
  split
  · next h => subst h; exact stringBody_short rfl acc cs
  split
  · next h => subst h; exact stringBody_short rfl acc cs
  split
  · next h => subst h; exact stringBody_short rfl acc cs
  split
  · next hlt =>
      have hread := stringBody_unit hlt acc cs
      rw [Char.ofNat_toNat] at hread
      exact hread
  · next hquote hslash _ _ _ _ _ hge => exact stringBody_plain hquote hslash hge acc cs

/-- A string is read up to its own closing quote. -/
theorem stringBody_written (s acc rest : List Char) :
    stringBody none none false acc (s.flatMap Value.escape ++ '"' :: rest) =
      some (some (String.ofList (acc.reverse ++ s)), rest) := by
  induction s generalizing acc with
  | nil =>
      rw [List.append_nil]
      rfl
  | cons c s ih =>
      rw [List.flatMap_cons, List.append_assoc, stringBody_escape, ih, List.reverse_cons,
        List.append_assoc]
      rfl

/-! ### Numbers -/

/-- No number goes on with this text: there is neither a digit nor a point nor an exponent at its head. -/
def AfterNumber (rest : List Char) : Prop :=
  ∀ c ∈ rest.head?, isDigit c = false ∧ c ≠ '.' ∧ c ≠ 'e' ∧ c ≠ 'E'

/-- The run of digits ends there. -/
theorem AfterNumber.ended {rest : List Char} (h : AfterNumber rest) : Ended rest :=
  fun c hc => (h c hc).1

/-- No fraction begins there. -/
theorem fraction_none {rest : List Char} (h : AfterNumber rest) : fraction rest = some ([], rest) := by
  cases rest with
  | nil => rfl
  | cons c rest =>
      obtain ⟨-, hpoint, -⟩ := h c rfl
      rw [fraction]
      intro cs heq
      exact hpoint (List.cons.inj heq).1

/-- And no exponent. -/
theorem exponent_none {rest : List Char} (h : AfterNumber rest) : exponent rest = some (none, rest) := by
  cases rest with
  | nil => rfl
  | cons c rest =>
      obtain ⟨-, -, he, hE⟩ := h c rfl
      unfold exponent
      exact if_neg (by rintro (h | h); exacts [he h, hE h])

/-- Digits fit 64 bits if the number does that they make up. -/
theorem absorb_eq (n : Nat) (cs : List Char) (h : valueFrom n cs ≤ Number.maxWhole) :
    Number.absorb n cs = (valueFrom n cs, []) := by
  induction cs generalizing n with
  | nil => rfl
  | cons c cs ih =>
      have hle : n * 10 + digitValue c ≤ Number.maxWhole :=
        Nat.le_trans (le_valueFrom _ cs) h
      rw [Number.absorb, if_pos hle]
      exact ih _ h

/-- An integer of 64 bits, with a sign or without. -/
def Fits (n : Int) : Prop := -9223372036854775808 ≤ n ∧ n ≤ 18446744073709551615

instance (n : Int) : Decidable (Fits n) := by
  unfold Fits; infer_instance

/-- The digits of a number that fits, with a sign or without, are that integer. -/
theorem ofLiteral_digits {negative : Bool} {n : Nat} (hle : n ≤ Number.maxWhole)
    (hneg : negative = true → n ≠ 0 ∧ n ≤ 9223372036854775808) :
    Number.ofLiteral ⟨negative, digits n, [], none⟩ =
      some (.integer (if negative then -(n : Int) else n)) := by
  have hval : valueFrom 0 (digits n) = n := value_digits n
  have habsorb := absorb_eq 0 (digits n) (by rw [hval]; exact hle)
  rw [hval] at habsorb
  unfold Number.ofLiteral
  simp only [habsorb, true_and]
  exact if_pos hneg

/-- An integer that was written is read again, if it is in the range of those that are kept as integers.
There is no negative zero among these. -/
theorem numberBody_digits (negative : Bool) {n : Nat} (hle : n ≤ Number.maxWhole)
    (hneg : negative = true → n ≠ 0 ∧ n ≤ 9223372036854775808) {rest : List Char}
    (hrest : AfterNumber rest) :
    numberBody negative (digits n ++ rest) =
      some (some (.integer (if negative then -(n : Int) else n)), rest) := by
  have hlead : leading (digits n ++ rest) = digits n := by
    rw [leading_append (fun c hc => isDigit_of_mem_digits hc), leading_of_ended hrest.ended,
      List.append_nil]
  have hdigits : someDigits (digits n ++ rest) = some (digits n, rest) := by
    unfold someDigits
    rw [hlead]
    obtain ⟨c, cs, hcs⟩ := List.exists_cons_of_ne_nil (digits_ne_nil n)
    rw [hcs]
    simp
  -- Only the number zero starts with a zero, and then it is all there is.
  have hzero : ¬ ((digits n).head? = some '0' ∧ digits n ≠ ['0']) := by
    rintro ⟨hhead, hne⟩
    rw [head_digits hhead] at hne
    exact hne rfl
  unfold numberBody
  simp [hdigits, hzero, fraction_none hrest, exponent_none hrest, ofLiteral_digits hle hneg]

/-- A text that starts with a digit is read as a number without a sign. -/
theorem leaf_unsigned {n : Nat} {m : Option Number} {cs rest : List Char}
    (h : numberBody false (digits n ++ rest) = some (m, cs)) :
    leaf none (digits n ++ rest) = (.number m, some cs) := by
  obtain ⟨c, ds, hds⟩ := List.exists_cons_of_ne_nil (digits_ne_nil n)
  have hc : isDigit c = true := isDigit_of_mem_digits (n := n) (hds ▸ List.mem_cons_self)
  rw [hds, List.cons_append] at h ⊢
  have hquote : c ≠ '"' := ne_of_isDigit hc (by decide)
  have hminus : c ≠ '-' := ne_of_isDigit hc (by decide)
  have hn : c ≠ 'n' := ne_of_isDigit hc (by decide)
  have ht : c ≠ 't' := ne_of_isDigit hc (by decide)
  have hf : c ≠ 'f' := ne_of_isDigit hc (by decide)
  unfold leaf
  simp [hquote, hminus, hn, ht, hf, h]

/-- **An integer that fits is read as far as its digits go.** -/
theorem leaf_integer {n : Int} (h : Fits n) {rest : List Char} (hrest : AfterNumber rest) :
    leaf none (ofInt n ++ rest) = (.number (some (.integer n)), some rest) := by
  obtain ⟨hlow, hhigh⟩ := h
  have hle : n.natAbs ≤ Number.maxWhole := by
    unfold Number.maxWhole
    omega
  unfold ofInt
  split
  · next hneg =>
      have hbody := numberBody_digits true hle (fun _ => by omega) hrest
      rw [if_pos rfl, show -(n.natAbs : Int) = n by omega] at hbody
      rw [List.cons_append, leaf, hbody]
  · next hpos =>
      have hbody := numberBody_digits false hle (fun h => absurd h Bool.false_ne_true) hrest
      rw [if_neg Bool.false_ne_true, show (n.natAbs : Int) = n by omega] at hbody
      exact leaf_unsigned hbody

end Tree

/-! ### Values -/

namespace Value

mutual

/-- The numbers of a value are integers of 64 bits. -/
def IsWhole : Value → Prop
  | null | bool _ | string _ => True
  | number (.integer n) => Tree.Fits n
  | number (.real _) => False
  | array items => AreWhole items
  | object members => MembersAreWhole members

/-- The numbers of all items are integers of 64 bits. -/
def AreWhole : List Value → Prop
  | [] => True
  | v :: vs => v.IsWhole ∧ AreWhole vs

/-- The numbers of all members are integers of 64 bits. -/
def MembersAreWhole : List (String × Value) → Prop
  | [] => True
  | (_, v) :: ms => v.IsWhole ∧ MembersAreWhole ms

end

mutual

/-- The tree as which a value is read. -/
def tree : Value → Tree
  | null => .null
  | bool b => .bool b
  | number n => .number (some n)
  | string s => .string (some s)
  | array items => .array (itemTrees items) true
  | object members => .object (memberTrees members) true

/-- The trees of items. -/
def itemTrees : List Value → List Tree
  | [] => []
  | v :: vs => v.tree :: itemTrees vs

/-- The trees of members with their keys. -/
def memberTrees : List (String × Value) → List (Option String × Tree)
  | [] => []
  | (k, v) :: ms => (some k, v.tree) :: memberTrees ms

end

/-- The first character of a value that is no array and no object. -/
def IsLeafHead (c : Char) : Prop :=
  c = 'n' ∨ c = 't' ∨ c = 'f' ∨ c = '"' ∨ c = '-' ∨ isDigit c = true

instance (c : Char) : Decidable (IsLeafHead c) := by
  unfold IsLeafHead; infer_instance

end Value

namespace Tree

open Value (IsLeafHead itemTrees memberTrees itemChars memberChars quoted IsWhole)

/-- No leaf starts with a character that is none of these. -/
theorem ne_of_isLeafHead {c d : Char} (hc : IsLeafHead c) (hd : ¬ IsLeafHead d) : c ≠ d := by
  rintro rfl
  exact hd hc

/-- No blanks stand before a leaf. -/
theorem isSpace_of_isLeafHead {c : Char} (h : IsLeafHead c) : isSpace c = false := by
  have hblank : c ≠ ' ' := ne_of_isLeafHead h (by decide)
  have hline : c ≠ '\n' := ne_of_isLeafHead h (by decide)
  have htab : c ≠ '\t' := ne_of_isLeafHead h (by decide)
  have hreturn : c ≠ '\r' := ne_of_isLeafHead h (by decide)
  simp [isSpace, hblank, hline, htab, hreturn]

/-- A leaf is not taken for an array or an object. -/
theorem value_leaf {c : Char} (h : IsLeafHead c) (fuel : Nat) (cs : List Char) :
    value none (fuel + 1) (c :: cs) = leaf none (c :: cs) := by
  have hbracket : c ≠ '[' := ne_of_isLeafHead h (by decide)
  have hbrace : c ≠ '\x7b' := ne_of_isLeafHead h (by decide)
  have hskip : skipSpace (c :: cs) = c :: cs :=
    List.dropWhile_cons_of_neg (Bool.eq_false_iff.mp (isSpace_of_isLeafHead h))
  rw [value, hskip]
  split
  · next heq => exact absurd (List.cons.inj heq).1 hbracket
  · next heq => exact absurd (List.cons.inj heq).1 hbrace
  · rfl

/-! ### Arrays and objects, step by step -/

variable {fuel : Nat} {cs more rest : List Char} {t : Tree}

/-- An array that does not end at once goes on with its items. -/
theorem value_items {c : Char} (hspace : isSpace c = false) (hne : c ≠ ']') {ts : List Tree}
    (h : items none fuel (c :: cs) = (ts, some rest)) :
    value none (fuel + 1) ('[' :: c :: cs) = (.array ts true, some rest) := by
  have hopen : skipSpace ('[' :: c :: cs) = '[' :: c :: cs := rfl
  have hskip : skipSpace (c :: cs) = c :: cs :=
    List.dropWhile_cons_of_neg (Bool.eq_false_iff.mp hspace)
  rw [value, hopen]
  simp only [hskip]
  split
  · next heq => exact absurd (List.cons.inj heq).1 hne
  · rw [h]
    rfl

/-- The item before the closing bracket is the last one. -/
theorem items_last (h : value none fuel cs = (t, some (']' :: rest))) :
    items none (fuel + 1) cs = ([t], some rest) := by
  have hskip : skipSpace (']' :: rest) = ']' :: rest := rfl
  rw [items, h]
  simp only [hskip]

/-- After a comma, the other items follow. -/
theorem items_more (h : value none fuel cs = (t, some (',' :: more))) {ts : List Tree}
    (hmore : items none fuel more = (ts, some rest)) :
    items none (fuel + 1) cs = (t :: ts, some rest) := by
  have hskip : skipSpace (',' :: more) = ',' :: more := rfl
  rw [items, h]
  simp only [hskip, hmore]

/-- An object that does not end at once goes on with the first key. -/
theorem value_members {ms : List (Option String × Tree)}
    (h : members none fuel cs = (ms, some rest)) :
    value none (fuel + 1) ('\x7b' :: '"' :: cs) = (.object ms true, some rest) := by
  have hopen : skipSpace ('\x7b' :: '"' :: cs) = '\x7b' :: '"' :: cs := rfl
  have hskip : skipSpace ('"' :: cs) = '"' :: cs := rfl
  rw [value, hopen]
  simp only [hskip, h]
  rfl

/-- The text of a member after its opening quote. -/
def memberBody (key : String) (v : Value) (rest : List Char) : List Char :=
  key.toList.flatMap Value.escape ++ '"' :: ':' :: (v.chars ++ rest)

/-- A key is read up to its closing quote. -/
theorem stringBody_key (key : String) (rest : List Char) :
    stringBody none none false [] (key.toList.flatMap Value.escape ++ '"' :: rest) =
      some (some key, rest) := by
  rw [stringBody_written, List.reverse_nil, List.nil_append, String.ofList_toList]

/-- The member before the closing brace is the last one. -/
theorem members_last {key : String} {v : Value}
    (h : value none fuel (v.chars ++ '\x7d' :: rest) = (t, some ('\x7d' :: rest))) :
    members none (fuel + 1) (memberBody key v ('\x7d' :: rest)) = ([(some key, t)], some rest) := by
  have hcolon : ∀ cs, skipSpace (':' :: cs) = ':' :: cs := fun _ => rfl
  have hbrace : ∀ cs, skipSpace ('\x7d' :: cs) = '\x7d' :: cs := fun _ => rfl
  unfold memberBody
  rw [members, stringBody_key]
  simp only [hcolon, h, hbrace]

/-- After a comma, the other members follow. -/
theorem members_more {key : String} {v : Value}
    (h : value none fuel (v.chars ++ ',' :: '"' :: more) = (t, some (',' :: '"' :: more)))
    {ms : List (Option String × Tree)} (hmore : members none fuel more = (ms, some rest)) :
    members none (fuel + 1) (memberBody key v (',' :: '"' :: more)) =
      ((some key, t) :: ms, some rest) := by
  have hcolon : ∀ cs, skipSpace (':' :: cs) = ':' :: cs := fun _ => rfl
  have hcomma : ∀ cs, skipSpace (',' :: cs) = ',' :: cs := fun _ => rfl
  have hquote : ∀ cs, skipSpace ('"' :: cs) = '"' :: cs := fun _ => rfl
  unfold memberBody
  rw [members, stringBody_key]
  simp only [hcolon, h, hcomma, hquote, hmore]

/-- What is written for a member is followed by a comma, if there are more of them, and else by whatever
follows the members. -/
theorem memberChars_cons (key : String) (v : Value) (ms : List (String × Value)) (rest : List Char) :
    memberChars ((key, v) :: ms) ++ rest = '"' :: memberBody key v
      (if ms = [] then rest else ',' :: (memberChars ms ++ rest)) := by
  unfold memberBody
  cases ms with
  | nil => simp [memberChars, quoted]
  | cons m ms => simp [memberChars, quoted]

/-- A value is shorter than the members that it stands in: there are the quotes of its key besides. -/
theorem length_memberChars_cons (key : String) (v : Value) (ms : List (String × Value)) :
    v.chars.length + (memberChars ms).length + 2 ≤ (memberChars ((key, v) :: ms)).length := by
  have htext := congrArg List.length (memberChars_cons key v ms [])
  rw [List.append_nil] at htext
  rw [htext]
  unfold memberBody
  cases ms with
  | nil => simp [memberChars]; omega
  | cons m ms => simp; omega

/-! ### Whole values -/

/-- What stands after a value does not go on with a number. -/
theorem afterNumber_of_mark {c : Char} (h : c = ',' ∨ c = ']' ∨ c = '\x7d') (cs : List Char) :
    AfterNumber (c :: cs) := by
  rintro d ⟨⟩
  rcases h with rfl | rfl | rfl <;> decide

/-- An integer begins with a digit, or with a minus sign. -/
theorem exists_head_ofInt (n : Int) : ∃ c cs, ofInt n = c :: cs ∧ IsLeafHead c := by
  unfold ofInt
  split
  · exact ⟨'-', _, rfl, by decide⟩
  · obtain ⟨c, cs, hcs⟩ := List.exists_cons_of_ne_nil (digits_ne_nil n.natAbs)
    have hc : isDigit c = true := isDigit_of_mem_digits (n := n.natAbs) (hcs ▸ List.mem_cons_self)
    exact ⟨c, cs, hcs, by simp [IsLeafHead, hc]⟩

/-- A value without parts is read up to its end. -/
theorem leaf_chars {v : Value} (hwhole : v.IsWhole) (hrest : AfterNumber rest)
    (harray : ∀ vs, v ≠ .array vs) (hobject : ∀ ms, v ≠ .object ms) :
    (∃ c cs, v.chars = c :: cs ∧ IsLeafHead c) ∧
      leaf none (v.chars ++ rest) = (v.tree, some rest) := by
  cases v with
  | null => exact ⟨⟨'n', _, rfl, by decide⟩, rfl⟩
  | bool b =>
      cases b with
      | true => exact ⟨⟨'t', _, rfl, by decide⟩, rfl⟩
      | false => exact ⟨⟨'f', _, rfl, by decide⟩, rfl⟩
  | number n =>
      cases n with
      | integer n => exact ⟨exists_head_ofInt n, leaf_integer hwhole hrest⟩
      | real x => cases hwhole
  | string s =>
      refine ⟨⟨'"', _, rfl, by decide⟩, ?_⟩
      have hbody := stringBody_key s rest
      -- The opening quote is what tells a text from the other leaves.
      have htext : (Value.string s).chars ++ rest =
          '"' :: (s.toList.flatMap Value.escape ++ '"' :: rest) := by
        simp [Value.chars, quoted]
      rw [htext, leaf, hbody]
      rfl
  | array vs => exact absurd rfl (harray vs)
  | object ms => exact absurd rfl (hobject ms)

/-- A value starts with a character that is neither a blank nor a closing bracket. -/
theorem exists_head {v : Value} (hwhole : v.IsWhole) :
    ∃ c cs, v.chars = c :: cs ∧ isSpace c = false ∧ c ≠ ']' := by
  have hleaf : (∃ c cs, v.chars = c :: cs ∧ IsLeafHead c) →
      ∃ c cs, v.chars = c :: cs ∧ isSpace c = false ∧ c ≠ ']' := by
    rintro ⟨c, cs, hcs, hc⟩
    exact ⟨c, cs, hcs, isSpace_of_isLeafHead hc, ne_of_isLeafHead hc (by decide)⟩
  have hend : AfterNumber [] := by rintro c ⟨⟩
  cases v with
  | array vs => exact ⟨'[', _, rfl, by decide, by decide⟩
  | object ms => exact ⟨'\x7b', _, rfl, by decide, by decide⟩
  | null => exact hleaf (leaf_chars hwhole hend (by rintro _ ⟨⟩) (by rintro _ ⟨⟩)).1
  | bool b => exact hleaf (leaf_chars hwhole hend (by rintro _ ⟨⟩) (by rintro _ ⟨⟩)).1
  | number n => exact hleaf (leaf_chars hwhole hend (by rintro _ ⟨⟩) (by rintro _ ⟨⟩)).1
  | string s => exact hleaf (leaf_chars hwhole hend (by rintro _ ⟨⟩) (by rintro _ ⟨⟩)).1

/-- A leaf takes one unit of fuel. -/
theorem value_of_leaf {v : Value} (hwhole : v.IsWhole) (hfuel : 2 * v.chars.length ≤ fuel + 1)
    (hrest : AfterNumber rest) (harray : ∀ vs, v ≠ .array vs) (hobject : ∀ ms, v ≠ .object ms) :
    value none fuel (v.chars ++ rest) = (v.tree, some rest) := by
  obtain ⟨⟨c, cs, hcs, hc⟩, hleaf⟩ := leaf_chars hwhole hrest harray hobject
  rw [hcs] at hfuel hleaf ⊢
  cases fuel with
  | zero => simp at hfuel; omega
  | succ fuel => rw [List.cons_append, value_leaf hc, ← List.cons_append, hleaf]

/-- Where a value may stand, an integer that fits is read as this integer. -/
theorem value_integer {n : Int} (h : Fits n) (fuel : Nat) (hrest : AfterNumber rest) :
    value none (fuel + 1) (ofInt n ++ rest) = (.number (some (.integer n)), some rest) := by
  obtain ⟨c, cs, hcs, hc⟩ := exists_head_ofInt n
  have hleaf := leaf_integer h hrest
  rw [hcs] at hleaf ⊢
  rw [List.cons_append, value_leaf hc, ← List.cons_append, hleaf]

theorem chars_array (vs : List Value) (rest : List Char) :
    (Value.array vs).chars ++ rest = '[' :: (itemChars vs ++ ']' :: rest) := by
  simp [Value.chars]

theorem chars_object (ms : List (String × Value)) (rest : List Char) :
    (Value.object ms).chars ++ rest = '\x7b' :: (memberChars ms ++ '\x7d' :: rest) := by
  simp [Value.chars]

theorem length_array (vs : List Value) :
    (Value.array vs).chars.length = (itemChars vs).length + 2 := by
  simp [Value.chars]

theorem length_object (ms : List (String × Value)) :
    (Value.object ms).chars.length = (memberChars ms).length + 2 := by
  simp [Value.chars]

theorem itemChars_cons (v w : Value) (vs : List Value) :
    itemChars (v :: w :: vs) = v.chars ++ ',' :: itemChars (w :: vs) := rfl

/-- The text of items starts as that of the first item does. -/
theorem exists_head_items {v : Value} (hwhole : v.IsWhole) (vs : List Value) :
    ∃ c cs, itemChars (v :: vs) = c :: cs ∧ isSpace c = false ∧ c ≠ ']' := by
  obtain ⟨c, cs, hcs, hc⟩ := exists_head hwhole
  cases vs with
  | nil => exact ⟨c, cs, hcs, hc⟩
  | cons w vs => exact ⟨c, _, by rw [itemChars_cons, hcs, List.cons_append], hc⟩

mutual

/-- **A written value is read as far as it goes.** -/
theorem value_chars : ∀ {v : Value}, v.IsWhole → ∀ (fuel : Nat) {rest : List Char},
    2 * v.chars.length ≤ fuel + 1 → AfterNumber rest →
      value none fuel (v.chars ++ rest) = (v.tree, some rest)
  | .null, hwhole, _, _, hfuel, hrest | .bool _, hwhole, _, _, hfuel, hrest
  | .number _, hwhole, _, _, hfuel, hrest | .string _, hwhole, _, _, hfuel, hrest =>
    value_of_leaf hwhole hfuel hrest (by rintro _ ⟨⟩) (by rintro _ ⟨⟩)
  | .array _, _, 0, _, hfuel, _ => by
    rw [length_array] at hfuel
    omega
  | .array [], _, _ + 1, _, _, _ => rfl
  | .array (v :: vs), hwhole, fuel + 1, rest, hfuel, _ => by
    rw [length_array] at hfuel
    have hitems : items none fuel (itemChars (v :: vs) ++ ']' :: rest) = _ :=
      items_chars (by simp) hwhole fuel (by omega)
    -- The first item decides that the array is not empty.
    obtain ⟨c, cs, hcs, hspace, hne⟩ := exists_head_items hwhole.1 vs
    rw [hcs] at hitems
    rw [chars_array, hcs]
    exact value_items hspace hne hitems
  | .object _, _, 0, _, hfuel, _ => by
    rw [length_object] at hfuel
    omega
  | .object [], _, _ + 1, _, _, _ => rfl
  | .object ((key, v) :: ms), hwhole, fuel + 1, rest, hfuel, _ => by
    rw [length_object] at hfuel
    have htext := memberChars_cons key v ms ('\x7d' :: rest)
    have hmembers := members_chars (by simp) hwhole fuel (by omega) htext
    rw [chars_object, htext]
    exact value_members hmembers

/-- The items are read up to the closing bracket. -/
theorem items_chars : ∀ {vs : List Value}, vs ≠ [] → Value.AreWhole vs →
    ∀ (fuel : Nat) {rest : List Char}, 2 * (itemChars vs).length ≤ fuel →
      items none fuel (itemChars vs ++ ']' :: rest) = (itemTrees vs, some rest)
  | [], hne, _, _, _, _ => absurd rfl hne
  | _ :: _, _, hwhole, 0, _, hfuel => by
    obtain ⟨c, cs, hcs, -⟩ := exists_head_items hwhole.1 _
    rw [hcs, List.length_cons] at hfuel
    omega
  -- The comma or the bracket after an item ends it, also if it is a number.
  | [v], _, hwhole, fuel + 1, rest, hfuel =>
    have hend : AfterNumber (']' :: rest) := afterNumber_of_mark (by simp) rest
    items_last (value_chars hwhole.1 fuel hfuel hend)
  | v :: w :: vs, _, hwhole, fuel + 1, rest, hfuel => by
    rw [itemChars_cons, List.length_append, List.length_cons] at hfuel
    have hend : AfterNumber (',' :: (itemChars (w :: vs) ++ ']' :: rest)) :=
      afterNumber_of_mark (by simp) _
    have hvalue := value_chars hwhole.1 fuel (by omega) hend
    rw [itemChars_cons, List.append_assoc, List.cons_append]
    exact items_more hvalue (items_chars (by simp) hwhole.2 fuel (by omega))

/-- The members are read up to the closing brace, from behind the first quote on. -/
theorem members_chars : ∀ {ms : List (String × Value)}, ms ≠ [] → Value.MembersAreWhole ms →
    ∀ (fuel : Nat) {cs rest : List Char}, 2 * (memberChars ms).length ≤ fuel →
      memberChars ms ++ '\x7d' :: rest = '"' :: cs →
        members none fuel cs = (memberTrees ms, some rest)
  | [], hne, _, _, _, _, _, _ => absurd rfl hne
  | (key, v) :: ms, _, _, 0, _, _, hfuel, _ => by
    have hlen := length_memberChars_cons key v ms
    omega
  | [(key, v)], _, hwhole, fuel + 1, cs, rest, hfuel, htext => by
    have hlen := length_memberChars_cons key v []
    have hend : AfterNumber ('\x7d' :: rest) := afterNumber_of_mark (by simp) rest
    rw [memberChars_cons, if_pos rfl] at htext
    cases htext
    exact members_last (value_chars hwhole.1 fuel (by omega) hend)
  | (key, v) :: (key', w) :: ms, _, hwhole, fuel + 1, cs, rest, hfuel, htext => by
    have hlen := length_memberChars_cons key v ((key', w) :: ms)
    have hmore := memberChars_cons key' w ms ('\x7d' :: rest)
    have hmembers := members_chars (by simp) hwhole.2 fuel (by omega) hmore
    rw [memberChars_cons, if_neg (by simp), hmore] at htext
    cases htext
    have hend := afterNumber_of_mark (.inl rfl : ',' = ',' ∨ _)
    exact members_more (value_chars hwhole.1 _ (by omega) (hend _)) hmembers

end

/-- **The text of a value is read as its tree**, with nothing after it. -/
theorem read_text {v : Value} (h : v.IsWhole) : read v.text = (v.tree, true) := by
  have hend : AfterNumber [] := by rintro c ⟨⟩
  have hvalue := value_chars h (2 * v.chars.length + 1) (by omega) hend
  rw [List.append_nil] at hvalue
  unfold read first
  rw [Value.text, String.toList_ofList, hvalue]
  rfl

end Tree
end Json
end FailureAlarm
