import FailureAlarm.Proofs.Layering
import FailureAlarm.Proofs.Numeral
import FailureAlarm.Proofs.Outcome
import FailureAlarm.Proofs.Secrecy

/-!
# How texts from the environment are spelled

A variable is read as a truth value, an integer or a floating-point number if it can be, also where a text
is wanted; the text is then what such a value is written as (`Spelled`). So `007` becomes `7`, and `TRUE`
becomes `true`. Only a text that looks like a number or is one of a few words can be changed
(`variableScalar_of_plain`), and one that is written like that already stays as it is.

Pages carry the texts that were loaded, character for character (`origin_of_pages`).
-/

namespace FailureAlarm

open Digits

/-! ### Texts that look like numbers -/

namespace Floating

/-- A character of numerals. -/
def IsNumeralChar (c : Char) : Prop := isDigit c = true ∨ c ∈ ['+', '-', '.', 'e', 'E']

/-- The text has a digit, and no characters but those of numerals. -/
structure LooksNumeric (cs : List Char) : Prop where
  digit : ∃ c ∈ cs, isDigit c = true
  chars : ∀ c ∈ cs, IsNumeralChar c

theorem isNumeralChar_of_leading {cs : List Char} : ∀ c ∈ leading cs, IsNumeralChar c :=
  fun _ hc => .inl (List.mem_takeWhile_imp hc)

theorem isNumeralChar_of_all {ds : List Char} (h : ds.all isDigit = true) :
    ∀ c ∈ ds, IsNumeralChar c := fun c hc => .inl (List.all_eq_true.mp h c hc)

/-- A text of digits alone looks numeric, and so does one with a sign before it. -/
theorem looksNumeric_of_all {ds : List Char} (hne : ds ≠ []) (h : ds.all isDigit = true) :
    LooksNumeric ds := by
  obtain ⟨c, hc⟩ := List.exists_mem_of_ne_nil ds hne
  exact ⟨⟨c, hc, List.all_eq_true.mp h c hc⟩, isNumeralChar_of_all h⟩

/-- A character of numerals may stand in front. -/
theorem LooksNumeric.cons {c : Char} (hc : IsNumeralChar c) {cs : List Char} (h : LooksNumeric cs) :
    LooksNumeric (c :: cs) := by
  obtain ⟨d, hd, hdigit⟩ := h.digit
  exact ⟨⟨d, List.mem_cons_of_mem c hd, hdigit⟩, List.forall_mem_cons.mpr ⟨hc, h.chars⟩⟩

/-- A text that is read as a number without a sign has digits and no other characters. -/
theorem looksNumeric_of_unsigned {cs : List Char} {n : Nat} (h : unsigned? cs = some n) :
    LooksNumeric cs := by
  unfold unsigned? at h
  dsimp only at h
  split at h
  · split at h
    · next hds => exact (looksNumeric_of_all hds.1 hds.2).cons (.inr (by decide))
    · cases h
  · split at h
    · next hds => exact looksNumeric_of_all hds.1 hds.2
    · cases h

/-- So does one with a sign. -/
theorem looksNumeric_of_signed {cs : List Char} {n : Int} (h : signed? cs = some n) :
    LooksNumeric cs := by
  unfold signed? at h
  split at h
  · split at h
    · next hds => exact (looksNumeric_of_all hds.1 hds.2).cons (.inr (by decide))
    · cases h
  · obtain ⟨k, hk, -⟩ := Option.map_eq_some_iff.mp h
    exact looksNumeric_of_unsigned hk

/-- The digits of an exponent, which may have a sign. -/
theorem isNumeralChar_of_exponent {cs : List Char} {e : Int} (h : exponent? cs = some e) :
    ∀ c ∈ cs, IsNumeralChar c := by
  cases cs with
  | nil => exact List.forall_mem_nil _
  | cons c cs =>
      unfold exponent? at h
      dsimp only at h
      by_cases hc : c = 'e' ∨ c = 'E'
      · rw [if_pos hc] at h
        have hmark : IsNumeralChar c := by
          rcases hc with rfl | rfl
          · exact .inr (by decide)
          · exact .inr (by decide)
        refine List.forall_mem_cons.mpr ⟨hmark, ?_⟩
        -- After the mark there may be a sign, and then there are only digits.
        split at h
        · split at h
          · next hds => exact List.forall_mem_cons.mpr ⟨.inr (by decide), isNumeralChar_of_all hds.2⟩
          · cases h
        · split at h
          · next hds => exact List.forall_mem_cons.mpr ⟨.inr (by decide), isNumeralChar_of_all hds.2⟩
          · cases h
        · split at h
          · next hds => exact isNumeralChar_of_all hds.2
          · cases h
      · rw [if_neg hc] at h
        cases h

/-- The leading digits, and what follows them, are the text. -/
theorem leading_append_drop (cs : List Char) : leading cs ++ cs.drop (leading cs).length = cs :=
  (List.prefix_iff_eq_append.mp (List.takeWhile_prefix isDigit))

/-- If nothing else stands after the first digits, nothing else stands there at all. -/
theorem forall_mem_of_leading {cs : List Char}
    (h : ∀ c ∈ cs.drop (leading cs).length, IsNumeralChar c) : ∀ c ∈ cs, IsNumeralChar c := by
  rw [← leading_append_drop cs]
  exact List.forall_mem_append.mpr ⟨isNumeralChar_of_leading, h⟩

theorem exists_digit_of_leading {cs : List Char} (h : leading cs ≠ []) :
    ∃ c ∈ cs, isDigit c = true := by
  obtain ⟨c, hc⟩ := List.exists_mem_of_ne_nil _ h
  exact ⟨c, (List.takeWhile_prefix isDigit).subset hc, List.mem_takeWhile_imp hc⟩

/-- **What is read as a numeral looks numeric.** -/
theorem looksNumeric_of_numeral {cs : List Char} {n : Numeral} (h : numeral? cs = some n) :
    LooksNumeric cs := by
  unfold numeral? at h
  dsimp only at h
  split at h
  · next rest hpoint =>
      split at h
      · cases h
      · next hne =>
          obtain ⟨e, he, -⟩ := Option.map_eq_some_iff.mp h
          have hchars := forall_mem_of_leading (isNumeralChar_of_exponent he)
          refine ⟨?_, forall_mem_of_leading ?_⟩
          -- Without digits before the point, there must be some after it.
          · by_cases hnil : leading cs = []
            · obtain ⟨c, hc, hdigit⟩ := exists_digit_of_leading fun hrest => hne ⟨hnil, hrest⟩
              have hdrop : c ∈ cs.drop (leading cs).length := by
                rw [hpoint]
                exact List.mem_cons_of_mem _ hc
              exact ⟨c, List.mem_of_mem_drop hdrop, hdigit⟩
            · exact exists_digit_of_leading hnil
          · rw [hpoint]
            exact List.forall_mem_cons.mpr ⟨.inr (by decide), hchars⟩
  · split at h
    · cases h
    · next hne =>
        obtain ⟨e, he, -⟩ := Option.map_eq_some_iff.mp h
        refine ⟨exists_digit_of_leading fun hnil => hne ⟨hnil, rfl⟩, forall_mem_of_leading ?_⟩
        exact isNumeralChar_of_exponent he

/-- What follows an optional sign. -/
def afterSign : List Char → List Char
  | '-' :: cs => cs
  | '+' :: cs => cs
  | cs => cs

/-- The text is a word for a value that has no numeral, in any case and with an optional sign. -/
def IsWord (cs : List Char) : Prop :=
  String.ofList ((afterSign cs).map Char.toLower) ∈ ["inf", "infinity", "nan"]

/-- **What is read as a number looks numeric or is a word for one.** -/
theorem looksNumeric_of_read {cs : List Char} {x : Floating} (h : read? cs = some x)
    (hword : ¬ IsWord cs) : LooksNumeric cs := by
  -- After its sign a text is one of the words, or a numeral.
  have hbody {negative : Bool} {body : List Char}
      (hbody : (let lower := String.ofList (body.map Char.toLower)
        if lower = "inf" ∨ lower = "infinity" then some (.infinite negative)
        else if lower = "nan" then some .nan
        else (numeral? body).map (ofNumeral negative)) = some x)
      (hnot : String.ofList (body.map Char.toLower) ∉ ["inf", "infinity", "nan"]) :
      LooksNumeric body := by
    simp only [List.mem_cons, List.not_mem_nil, or_false, not_or] at hnot
    obtain ⟨hinf, hinfinity, hnan⟩ := hnot
    dsimp only at hbody
    rw [if_neg (not_or.mpr ⟨hinf, hinfinity⟩), if_neg hnan] at hbody
    obtain ⟨n, hn, -⟩ := Option.map_eq_some_iff.mp hbody
    exact looksNumeric_of_numeral hn
  unfold read? at h
  dsimp only at h
  split at h
  · exact (hbody h hword).cons (.inr (by decide))
  · exact (hbody h hword).cons (.inr (by decide))
  · next hminus hplus =>
      have hsame : afterSign cs = cs := by
        unfold afterSign
        split
        · exact absurd rfl (hminus _)
        · exact absurd rfl (hplus _)
        · rfl
      unfold IsWord at hword
      rw [hsame] at hword
      exact hbody h hword

end Floating

namespace Settings

open Floating (LooksNumeric IsWord)

/-- The text is a word for a truth value, in any case. -/
def IsTruth (text : String) : Prop := lowerCase text ∈ ["true", "false"]

/-- The text is none that a variable could mean something else by. -/
structure IsPlainText (text : String) : Prop where
  truth : ¬ IsTruth text
  word : ¬ IsWord text.toList
  numeric : ¬ LooksNumeric text.toList

/-- A text that does not look like a number or a truth value is kept as it is. -/
theorem variableScalar_of_plain {text : String} (h : IsPlainText text) :
    variableScalar text = .text text := by
  have htruth := h.truth
  simp only [IsTruth, List.mem_cons, List.not_mem_nil, or_false, not_or] at htruth
  have hsigned : Digits.signed? text.toList = none :=
    Option.eq_none_iff_forall_ne_some.mpr fun n hn => h.numeric (Floating.looksNumeric_of_signed hn)
  have hread : Floating.read? text.toList = none :=
    Option.eq_none_iff_forall_ne_some.mpr fun x hx =>
      h.numeric (Floating.looksNumeric_of_read hx h.word)
  unfold variableScalar
  simp only [if_neg htruth.1, if_neg htruth.2, hsigned, hread, Option.filter_none]

/-- An integer is the same in lower case. -/
theorem isLower_of_mem_ofInt {n : Int} {c : Char} (h : c ∈ ofInt n) : LowerCase.IsLower c := by
  rcases isDigit_or_minus_of_mem_ofInt h with hdigit | rfl
  · have hbounds := toNat_of_isDigit hdigit
    exact ⟨.inl (by omega), by omega⟩
  · exact ⟨.inl (by decide), by decide⟩

/-- The number fits in 64 bits with a sign. -/
def FitsSigned (n : Int) : Prop := -9223372036854775808 ≤ n ∧ n ≤ 9223372036854775807

/-- A whole number within 64 bits is read as it is written. -/
theorem variableScalar_ofInt {n : Int} (h : FitsSigned n) :
    variableScalar (String.ofList (ofInt n)) = .integer n := by
  have hlower : lowerCase (String.ofList (ofInt n)) = String.ofList (ofInt n) := by
    refine lowerCase_of_isLower fun c hc => ?_
    rw [String.toList_ofList] at hc
    exact isLower_of_mem_ofInt hc
  have hword {word : String} {c : Char} (hc : c ∈ word.toList) (hdigit : isDigit c = false)
      (hminus : c ≠ '-') : String.ofList (ofInt n) ≠ word := by
    rintro rfl
    rw [String.toList_ofList] at hc
    rcases isDigit_or_minus_of_mem_ofInt hc with h | h
    · rw [hdigit] at h
      cases h
    · exact hminus h
  have htrue : String.ofList (ofInt n) ≠ "true" := hword (c := 't') (by decide) (by decide) (by decide)
  have hfalse : String.ofList (ofInt n) ≠ "false" := hword (c := 'f') (by decide) (by decide) (by decide)
  unfold variableScalar
  dsimp only
  rw [hlower, if_neg htrue, if_neg hfalse, String.toList_ofList, signed?_ofInt,
    Option.filter_some, if_pos (decide_eq_true (And.intro h.1 h.2))]

/-! ### Settings that are texts -/

/-- What a text from the environment becomes where a text is wanted. -/
inductive Spelled (t : String) : String → Prop
  | yes (h : lowerCase t = "true") : Spelled t "true"
  | no (h : lowerCase t = "false") : Spelled t "false"
  | whole {n : Int} (h : signed? t.toList = some n) (hfits : FitsSigned n) :
      Spelled t (String.ofList (ofInt n))
  | real {x : Floating} (h : Floating.read? t.toList = some x)
      (hwide : ∀ n, signed? t.toList = some n → ¬ FitsSigned n) : Spelled t x.plain
  | verbatim (htruth : ¬ IsTruth t) (hread : Floating.read? t.toList = none) : Spelled t t

/-- A text from the environment can always be taken for a text, and is spelled then. -/
theorem spelled_variable (t : String) : ∃ text, textOf (ofVariable t) = .ok text ∧ Spelled t text := by
  unfold ofVariable variableScalar
  dsimp only
  split
  · next htrue => exact ⟨"true", rfl, .yes htrue⟩
  · next hnottrue =>
      split
      · next hfalse => exact ⟨"false", rfl, .no hfalse⟩
      · next hnotfalse =>
          have htruth : ¬ IsTruth t := by simp [IsTruth, hnottrue, hnotfalse]
          split
          · next n hn =>
              obtain ⟨hsigned, hwithin⟩ := Option.filter_eq_some_iff.mp hn
              have hfits := of_decide_eq_true hwithin
              exact ⟨_, rfl, .whole hsigned hfits⟩
          · next hwide =>
              split
              · next x hx =>
                  refine ⟨_, rfl, .real hx fun n hn hfits => ?_⟩
                  have hwithin := decide_eq_true (And.intro hfits.1 hfits.2)
                  exact Option.filter_eq_none_iff.mp hwide n hn hwithin
              · next hread => exact ⟨t, rfl, .verbatim htruth hread⟩

/-- The setting is a text. -/
def Leaf.IsText (l : Leaf) : Prop := l ∈ [Leaf.address, .endpoint, .source, .component]

/-- Of the leaves that are texts, each is read as a text. -/
theorem Leaf.read_of_isText {l : Leaf} (h : l.IsText) (e : Entry) : l.read e = (textOf e).map .text := by
  cases l
  case address | endpoint | source | component => rfl
  all_goals exact absurd h (by unfold IsText; decide)

/-! ### Pages -/

/-- The pages of a service come from where its settings say. -/
theorem origin_of_pages {settings : Settings} {key : RoutingKey} {shows : Bool} {service : Service}
    {log : List LogLine} (h : Service.ofSettings settings key shows = .ok (service, log)) {τ : Type}
    (t : Transport τ) (l : Line τ) (ops : List Alarm.Op) :
    ∀ r ∈ Line.trail service.alarm t l ops, ∀ p ∈ r.2.2.pages,
      p.alert.source = settings.paging.source ∧ p.alert.component = settings.paging.component := by
  obtain ⟨⟨alarm, made⟩, hmade, hservice⟩ := Json.Decoder.ok_of_map h
  obtain rfl : alarm = service.alarm := congrArg (·.1.alarm) hservice
  obtain ⟨-, hdispatcher⟩ := Alarm.eq_of_ofPolicy hmade
  have hpage (message : String) (details : Details) :
      (service.alarm.dispatcher.page message details).alert.source = settings.paging.source ∧
        (service.alarm.dispatcher.page message details).alert.component =
          settings.paging.component := by
    rw [hdispatcher]
    exact ⟨rfl, rfl⟩
  refine service.alarm.forall_pages_trail t l fun op _ s p hp => ?_
  rcases service.alarm.page_of_step s op p hp with ⟨_, h⟩ | ⟨_, _, h⟩ | ⟨_, _, _, h⟩
  · rw [h]
    exact hpage _ _
  · rw [h]
    exact hpage _ _
  · rw [h]
    exact hpage _ _

/-! ### Texts from the environment -/

/-- **A text from the environment is taken as it stands, unless it can be read as something else.** Let a
variable be for a setting that is a text, and let no later variable be for this setting or its section.
Whatever the files are, if the settings are loaded then the setting is what the text is spelled as. That
is the text itself if it does not look numeric and is none of the words for truth values and numbers, and
also if it is the numeral of a whole number within 64 bits. All pages come from the source and the
component that were loaded. -/
theorem spelled_from_environment {l : Leaf} (htext : l.IsText)
    {files before later : List (String × String)} {name t : String}
    (hname : lowerCase name = l.variable) (hlater : ∀ v ∈ later, l.IsSparedBy v) {u : Settings}
    (h : load files (before ++ (name, t) :: later) = .ok u) :
    (∃ text, l.get u = .text text ∧ Spelled t text) ∧
    (IsPlainText t → l.get u = .text t) ∧
    (∀ n, FitsSigned n → t = String.ofList (ofInt n) → l.get u = .text t) ∧
    ∀ key shows service log, Service.ofSettings u key shows = .ok (service, log) →
      ∀ {τ : Type} (transport : Transport τ) (line : Line τ) (ops : List Alarm.Op),
        ∀ r ∈ Line.trail service.alarm transport line ops, ∀ p ∈ r.2.2.pages,
          p.alert.source = u.paging.source ∧ p.alert.component = u.paging.component := by
  have hget := read_of_variable hname hlater h
  rw [l.read_of_isText htext] at hget
  refine ⟨?_, ?_, ?_, fun _ _ _ _ hmade _ transport => origin_of_pages hmade transport⟩
  · obtain ⟨text, htext, hspelled⟩ := spelled_variable t
    rw [htext] at hget
    exact ⟨text, (Except.ok.inj hget).symm, hspelled⟩
  · intro hplain
    rw [ofVariable, variableScalar_of_plain hplain] at hget
    exact (Except.ok.inj hget).symm
  · rintro n hfits rfl
    rw [ofVariable, variableScalar_ofInt hfits] at hget
    exact (Except.ok.inj hget).symm

/-- With a single variable for a text the settings are loaded. -/
theorem load_text {l : Leaf} (htext : l.IsText) {name : String} (hname : lowerCase name = l.variable)
    (t : String) : ∃ u, load [] [(name, t)] = .ok u := by
  obtain ⟨text, hread, -⟩ := spelled_variable t
  have hdatum : l.read (ofVariable t) = .ok (.text text) := by
    rw [l.read_of_isText htext, hread]
    rfl
  have hempty : load [] ([] ++ []) = .ok {} := rfl
  obtain ⟨u, hu, -⟩ := load_with_variable rfl isTidy_nil (nameLeaves_singleton hname t) hname hdatum hempty
  exact ⟨u, hu⟩

/-- A source with a blank and a digit stays as it is. -/
theorem spelled_from_environment_of_name :
    ∃ u, load [] [("FAILWATCH__PAGER__SOURCE", "gateway 7")] = .ok u ∧
      u.paging.source = "gateway 7" := by
  have hname : lowerCase "FAILWATCH__PAGER__SOURCE" = Leaf.source.variable := by decide
  have hplain : IsPlainText "gateway 7" :=
    ⟨by unfold IsTruth; decide, by unfold IsWord; decide, fun h => absurd (h.chars 'g' (by decide))
      (by unfold Floating.IsNumeralChar; decide)⟩
  obtain ⟨u, hu⟩ := load_text (l := .source) (by unfold Leaf.IsText; decide) hname "gateway 7"
  have hu' : load [] ([] ++ ("FAILWATCH__PAGER__SOURCE", "gateway 7") :: []) = .ok u := hu
  obtain ⟨-, hverbatim, -⟩ := spelled_from_environment (l := .source)
    (by unfold Leaf.IsText; decide) hname (fun _ hv => by cases hv) hu'
  exact ⟨u, hu, Datum.text.inj (hverbatim hplain)⟩

/-- A source of digits loses the zeros at its head. -/
theorem source_loses_zeros :
    ∃ u, load [] [("FAILWATCH__PAGER__SOURCE", "007")] = .ok u ∧ u.paging.source ≠ "007" := by
  have hname : lowerCase "FAILWATCH__PAGER__SOURCE" = Leaf.source.variable := by decide
  obtain ⟨u, hu⟩ := load_text (l := .source) (by unfold Leaf.IsText; decide) hname "007"
  have hu' : load [] ([] ++ ("FAILWATCH__PAGER__SOURCE", "007") :: []) = .ok u := hu
  have hsource := read_of_variable hname (fun _ hv => by cases hv) hu'
  have hseven : Leaf.source.read (ofVariable "007") = .ok (.text "7") := by rfl
  rw [hseven] at hsource
  have hget : "7" = u.paging.source := Datum.text.inj (Except.ok.inj hsource)
  refine ⟨u, hu, ?_⟩
  rw [← hget]
  decide

end Settings

end FailureAlarm
