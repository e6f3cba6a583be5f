import FailureAlarm.Proofs.AnyText
import FailureAlarm.Service.Basic

/-!
# What answers say

The texts of the answers of the service, letter by letter. An answer that shows an error is an object with
one member, the error in words, in quotes and with escapes where they are needed (`errorResponse_eq`);
whoever reads it finds these words and nothing else (`shows_errorResponse`). Words in which no character
needs an escape stand there as they are (`errorResponse_unescaped`): so do the identifiers of requests, and
the errors that are not about the sending of a page.

An outcome is shown by its name and its number (`Outcome.text_recorded`, `Outcome.text_alerted`).
-/

namespace FailureAlarm

open Json (Value Decoder)
open Http (Response)

/-! ### Texts without escapes -/

namespace Json.Value

/-- No character of the text needs an escape. -/
def IsUnescaped (s : String) : Prop := ∀ c ∈ s.toList, escape c = [c]

/-- For a text that is given, this is a matter of computation. -/
theorem isUnescaped_of_all {s : String} (h : s.toList.all (fun c => escape c = [c]) = true) :
    IsUnescaped s :=
  fun c hc => of_decide_eq_true (List.all_eq_true.mp h c hc)

theorem IsUnescaped.append {s t : String} (hs : IsUnescaped s) (ht : IsUnescaped t) :
    IsUnescaped (s ++ t) := by
  intro c hc
  rw [String.toList_append] at hc
  rcases List.mem_append.mp hc with hc | hc
  · exact hs c hc
  · exact ht c hc

/-- Such a text stands in quotes as it is. -/
theorem quoted_unescaped {s : String} (h : IsUnescaped s) :
    quoted s = '"' :: s.toList ++ ['"'] := by
  have hplain : s.toList.flatMap escape = s.toList.flatMap fun c => [c] := List.flatMap_congr h
  unfold quoted
  rw [hplain, List.flatMap_singleton']

end Json.Value

namespace RequestId

/-- Nothing but hyphens is put between the digits. -/
theorem mem_hyphenate {c : Char} {ns : List Nat} {cs : List Char} (h : c ∈ hyphenate ns cs) :
    c = '-' ∨ c ∈ cs := by
  fun_induction hyphenate ns cs with
  | case1 cs => cases h
  | case2 cs n => exact .inr (List.mem_of_mem_take h)
  | case3 cs n ns hns ih =>
      rcases List.mem_append.mp h with h | h
      · exact .inr (List.mem_of_mem_take h)
      · rcases List.mem_cons.mp h with h | h
        · exact .inl h
        · exact (ih h).imp id List.mem_of_mem_drop

/-- An identifier is made of digits and hyphens, and neither need an escape. -/
theorem isUnescaped_text (id : RequestId) : Value.IsUnescaped id.text := by
  have hdigit : ∀ n : Fin 16, Value.escape (Hex.digit n) = [Hex.digit n] := by decide
  intro c hc
  rw [text, String.toList_ofList] at hc
  rcases mem_hyphenate hc with rfl | hc
  · decide
  · obtain ⟨i, -, rfl⟩ := List.mem_map.mp hc
    exact hdigit ⟨_, Nat.mod_lt _ (by decide)⟩

end RequestId

/-! ### Errors in words -/

/-- The words for an error of a sending. -/
inductive PagingError.Reads : PagingError → String → Prop
  | missingRoutingKey : Reads .missingRoutingKey "PAGERDUTY_API_KEY is not set"
  | client (reason : String) : Reads (.client reason) s!"HTTP client error: {reason}"
  | http (reason : String) : Reads (.http reason) s!"Request failed: {reason}"
  | status (code : Nat) (body : String) :
      Reads (.status code body) s!"Paging service returned {code}: {body}"
  | serialization (reason : String) : Reads (.serialization reason) s!"Serialization error: {reason}"

theorem PagingError.reads_message (e : PagingError) : e.Reads e.message := by
  cases e <;> constructor

namespace Service

/-- The response has this status, and its text is an object with one member, which says `words`. -/
structure Shows (response : Response) (status : Nat) (words : String) : Prop where
  literally : response = {
    status
    contentType := some "application/json"
    body := "\x7b\"error\":" ++ String.ofList (Value.quoted words) ++ "\x7d" }
  reread : Json.decodeText Decoder.any response.body = .ok (.object [("error", .string words)])

theorem errorResponse_eq (status : Nat) (words : String) :
    errorResponse status words = {
      status
      contentType := some "application/json"
      body := "\x7b\"error\":" ++ String.ofList (Value.quoted words) ++ "\x7d" } := by
  have hbody : (Value.object [("error", .string words)]).text =
      "\x7b\"error\":" ++ String.ofList (Value.quoted words) ++ "\x7d" := by
    apply String.toList_injective
    simp [Value.text, Value.chars, Value.memberChars, Value.quoted, Value.escape]
  unfold errorResponse Response.json
  rw [hbody]

theorem shows_errorResponse (status : Nat) (words : String) :
    Shows (errorResponse status words) status words where
  literally := errorResponse_eq status words
  reread := by
    let v : Value := .object [("error", .string words)]
    have hwhole : v.IsWhole := by simp [v, Value.IsWhole, Value.MembersAreWhole]
    have hheight : 0 + v.height ≤ 127 := by
      simp [v, Value.height, Value.membersHeight]
    have horder : v.inOrder = v := by
      simp [v, Value.inOrder, Value.membersInOrder, Value.sorted, Value.put]
    show Json.decodeText Decoder.any v.text = .ok v
    rw [Decoder.decodeText_text hwhole, Decoder.any_tree v 0 hheight, horder]

/-- Words that need no escape stand in the answer as they are. -/
theorem errorResponse_unescaped {words : String} (h : Value.IsUnescaped words) (status : Nat) :
    errorResponse status words = {
      status
      contentType := some "application/json"
      body := "\x7b\"error\":\"" ++ words ++ "\"\x7d" } := by
  have hquoted : String.ofList (Value.quoted words) = "\"" ++ words ++ "\"" := by
    apply String.toList_injective
    rw [Value.quoted_unescaped h]
    simp
  rw [errorResponse_eq, hquoted]
  simp only [String.append_assoc]
  rfl

/-- The answer to a report without a payload. -/
theorem errorResponse_missingPayload :
    errorResponse 400 AlarmError.missingPayload.message = {
      status := 400
      contentType := some "application/json"
      body := "\x7b\"error\":\"standard_logging_object is required for failure-rate alerting\"\x7d" } :=
  errorResponse_unescaped (Value.isUnescaped_of_all (by decide +kernel)) 400

/-- The answer that shows an identifier that nobody knows. -/
theorem errorResponse_unknown (id : RequestId) :
    errorResponse 404 s!"Unknown request id: {id.text}" = {
      status := 404
      contentType := some "application/json"
      body := s!"\x7b\"error\":\"Unknown request id: {id.text}\"\x7d" } := by
  have hwords : Value.IsUnescaped "Unknown request id: " := Value.isUnescaped_of_all (by decide)
  have hplain : Value.IsUnescaped ("Unknown request id: " ++ id.text) := hwords.append id.isUnescaped_text
  have hbody : "\x7b\"error\":\"" ++ ("Unknown request id: " ++ id.text) ++ "\"\x7d" =
      "\x7b\"error\":\"Unknown request id: " ++ id.text ++ "\"\x7d" := by
    rw [← String.append_assoc]
    rfl
  show errorResponse 404 ("Unknown request id: " ++ id.text) = _
  rw [errorResponse_unescaped hplain, hbody]
  rfl

end Service

/-! ### Outcomes -/

namespace Outcome

private theorem chars_integer (n : Nat) : (Json.Number.integer n).text = (toString n).toList := by
  rw [Json.Number.text, Digits.ofInt, if_neg (by omega)]
  exact Nat.toList_repr.symm

/-- A failure that was recorded is answered by the number of those that are retained. -/
theorem text_recorded (n : Nat) :
    (recorded n).toJson.text = s!"\x7b\"outcome\":\"recorded\",\"retained\":{n}\x7d" := by
  apply String.toList_injective
  simp [toJson, Value.ofNat, Value.text, Value.chars, Value.memberChars, Value.quoted, Value.escape,
    chars_integer]
  rfl

/-- An alarm is answered by the number of failures that it tells of. -/
theorem text_alerted (n : Nat) :
    (alerted n).toJson.text = s!"\x7b\"outcome\":\"alerted\",\"failures\":{n}\x7d" := by
  apply String.toList_injective
  simp [toJson, Value.ofNat, Value.text, Value.chars, Value.memberChars, Value.quoted, Value.escape,
    chars_integer]
  rfl

end Outcome
end FailureAlarm
