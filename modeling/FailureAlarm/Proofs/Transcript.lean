import FailureAlarm.Notification
import FailureAlarm.Proofs.Record
import FailureAlarm.Proofs.Timestamp

/-!
# Failures and notifications are read back from their text

A failure is written as an object of five members, one of them an object of the seven identifiers, and
read back as the same failure (`Failure.decoder_text`). What its strings contain does not matter, since
they are read back one by one (`Decoder.option_string_tree`), and neither does the instant
(`Rfc3339.read_zulu`).

A notification nests four objects, of which the inner three may be null (`option_tree`), and is read back
as well (`Notification.decoder_text`). Its error code is a string by then, whatever it was reported as.
-/

namespace FailureAlarm

open Json (Value Decoder)
open Json.Decoder (field_read option_string_tree)

theorem isWhole_ofOption (o : Option String) : (Value.ofOption o).IsWhole := by
  cases o <;> trivial

namespace Identity

/-- The names of the fields. -/
def names : List String :=
  ["user_api_key_hash", "user_api_key_alias", "user_api_key_org_id", "user_api_key_team_id",
    "user_api_key_user_id", "user_api_key_team_alias", "user_api_key_end_user_id"]

theorem isWhole_toJson (i : Identity) : i.toJson.IsWhole := by
  simp only [toJson, Value.IsWhole, Value.MembersAreWhole, isWhole_ofOption, and_self]

/-- The identifiers are read back, whether or not they may be left out. -/
theorem record_tree (name : String) (absence : Decoder.Absence) (i : Identity) (depth : Nat)
    (hdepth : depth < 127) :
    Decoder.record ⟨name, fields absence, {}⟩ depth i.toJson.tree = .ok i := by
  have hnodup : names.Nodup := by decide
  refine Decoder.record_of_written (r := ⟨name, fields absence, {}⟩) hnodup hdepth ?_
  exact .cons (field_read (option_string_tree i.hash _)) <|
    .cons (field_read (option_string_tree i.keyAlias _)) <|
    .cons (field_read (option_string_tree i.orgId _)) <|
    .cons (field_read (option_string_tree i.teamId _)) <|
    .cons (field_read (option_string_tree i.userId _)) <|
    .cons (field_read (option_string_tree i.teamAlias _)) <|
    .cons (field_read (option_string_tree i.endUserId _)) .nil

end Identity

namespace Failure

theorem isWhole_toJson (f : Failure) : f.toJson.IsWhole := by
  simp only [toJson, Value.IsWhole, Value.MembersAreWhole, isWhole_ofOption, f.identity.isWhole_toJson,
    and_self]

/-- A time that was written is read as the same time. -/
theorem timestamp_tree (t : Instant) (depth : Nat) :
    timestamp depth (Value.string (Rfc3339.zulu t)).tree = .ok t := by
  simp only [Value.tree, timestamp, Rfc3339.read_zulu]

/-- **A failure is read back from its text.** -/
theorem decoder_text (f : Failure) : Json.decodeText decoder f.toJson.text = .ok f := by
  rw [Decoder.decodeText_text f.isWhole_toJson]
  unfold decoder toJson
  refine Decoder.record_of_written (by decide) (by decide) ?_
  exact .cons (field_read (timestamp_tree f.time _)) <|
    .cons (field_read (option_string_tree f.errorClass _)) <|
    .cons (field_read (option_string_tree f.code _)) <|
    .cons (field_read (option_string_tree f.provider _)) <|
    .cons (field_read (f.identity.record_tree _ _ _ (by decide))) .nil

/-- **What was observed survives the way through its text**: it is read back with every field as it was,
and has the same text again. -/
theorem observed_reread (time : Instant) (errorClass code provider : Option String)
    (identity : Identity) :
    ∃ f, Json.decodeText decoder (observed time errorClass code provider identity).toJson.text = .ok f ∧
      f = observed time errorClass code provider identity ∧
      f.toJson.text = (observed time errorClass code provider identity).toJson.text := by
  refine ⟨observed time errorClass code provider identity, ?_, rfl, rfl⟩
  exact decoder_text _

end Failure

/-! ### Notifications -/

/-- What is written as an object or null is read back, if the object is. -/
theorem option_tree {α : Type} {decode : Decoder α} {write : α → Value} {depth : Nat}
    (hobject : ∀ a, ∃ ms, write a = .object ms) (hread : ∀ a, decode depth (write a).tree = .ok a)
    (o : Option α) : Decoder.option decode depth ((o.map write).getD .null).tree = .ok o := by
  cases o with
  | none => rfl
  | some a =>
      have hne : (write a).tree ≠ .null := by
        obtain ⟨ms, hms⟩ := hobject a
        rw [hms]
        rintro ⟨⟩
      show Decoder.option decode depth (write a).tree = _
      rw [Decoder.option_of_ne_null hne, hread]
      rfl

/-- What need not be there is null if it is not. -/
theorem isWhole_option {α : Type} {write : α → Value} (h : ∀ a, (write a).IsWhole) (o : Option α) :
    ((o.map write).getD .null).IsWhole := by
  cases o with
  | none => trivial
  | some a => exact h a

namespace ErrorInformation

theorem isWhole_toJson (e : ErrorInformation) : e.toJson.IsWhole := by
  simp only [toJson, Value.IsWhole, Value.MembersAreWhole, isWhole_ofOption, and_self]

/-- A code that was written is a text, and is kept as it is. -/
theorem code_tree (o : Option String) (depth : Nat) :
    (Decoder.any depth (Value.ofOption o).tree).map codeText = .ok o := by
  cases o with
  | none => rfl
  | some s => rfl

/-- An error that was written is read as the same one. -/
theorem decoder_tree (e : ErrorInformation) (depth : Nat) (hdepth : depth < 127) :
    decoder depth e.toJson.tree = .ok e := by
  unfold decoder toJson
  refine Decoder.record_of_written (by decide) hdepth ?_
  exact .cons (field_read (option_string_tree e.errorClass _)) <|
    .cons (field_read (code_tree e.code _)) <|
    .cons (field_read (option_string_tree e.provider _)) .nil

end ErrorInformation

namespace LoggingPayload

theorem isWhole_toJson (p : LoggingPayload) : p.toJson.IsWhole := by
  have hmetadata := isWhole_option Identity.isWhole_toJson p.metadata
  have herror := isWhole_option ErrorInformation.isWhole_toJson p.error
  exact ⟨hmetadata, herror, trivial⟩

/-- And so is a payload, with all its parts. -/
theorem decoder_tree (p : LoggingPayload) (depth : Nat) (hdepth : depth < 126) :
    decoder depth p.toJson.tree = .ok p := by
  have hmetadata := option_tree (fun i => ⟨_, rfl⟩)
    (fun i => i.record_tree "PayloadMetadata" .defaulted (depth + 1) (by omega)) p.metadata
  have herror := option_tree (fun e => ⟨_, rfl⟩)
    (fun e => ErrorInformation.decoder_tree e (depth + 1) (by omega)) p.error
  unfold decoder toJson
  refine Decoder.record_of_written (by decide) (by omega) ?_
  exact .cons (field_read hmetadata) <| .cons (field_read herror) .nil

end LoggingPayload

namespace Notification

theorem isWhole_toJson (n : Notification) : n.toJson.IsWhole :=
  ⟨isWhole_option LoggingPayload.isWhole_toJson n.payload, trivial⟩

/-- **A notification is read back from its text.** -/
theorem decoder_text (n : Notification) : Json.decodeText decoder n.toJson.text = .ok n := by
  have hpayload := option_tree (fun p => ⟨_, rfl⟩)
    (fun p => LoggingPayload.decoder_tree p 1 (by decide)) n.payload
  rw [Decoder.decodeText_text n.isWhole_toJson]
  unfold decoder toJson
  refine Decoder.record_of_written (by decide) (by decide) ?_
  exact .cons (field_read hpayload) .nil

end Notification
end FailureAlarm
