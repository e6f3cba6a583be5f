import FailureAlarm.Failure

/-!
# Failure notifications

What the request pipeline reports about a failed call: a logging object, if it has one, with the
caller's metadata and the classification of the error. An error code may come as any JSON value: a
string is taken as it is, and of any other value but null the compact text counts.
-/

namespace FailureAlarm

open Json (Value Decoder)

/-- The classification of an error as it was reported. -/
structure ErrorInformation where
  errorClass : Option String := none
  code : Option String := none
  provider : Option String := none
deriving DecidableEq, Repr, Inhabited

namespace ErrorInformation

/-- The text of a reported error code. -/
def codeText : Value → Option String
  | .null => none
  | .string s => some s
  | v => some v.text

def toJson (e : ErrorInformation) : Value :=
  .object [
    ("error_class", .ofOption e.errorClass),
    ("error_code", .ofOption e.code),
    ("llm_provider", .ofOption e.provider)]

def decoder : Decoder ErrorInformation :=
  let text := Decoder.option Decoder.string
  let code : Decoder (Option String) := fun depth t => (Decoder.any depth t).map codeText
  Decoder.record ⟨"ErrorInformation",
    [ Decoder.field "error_class" .defaulted text fun v e => { e with errorClass := v },
      Decoder.field "error_code" .defaulted code fun v e => { e with code := v },
      Decoder.field "llm_provider" .defaulted text fun v e => { e with provider := v } ],
    {}⟩

end ErrorInformation

/-- The metadata of a call: the identifiers of its caller, any of which may be left out. -/
def metadataDecoder : Decoder Identity :=
  Decoder.record ⟨"PayloadMetadata", Identity.fields .defaulted, {}⟩

/-- The logging object of a failed call. -/
structure LoggingPayload where
  metadata : Option Identity := none
  error : Option ErrorInformation := none
deriving DecidableEq, Repr, Inhabited

namespace LoggingPayload

def toJson (p : LoggingPayload) : Value :=
  .object [
    ("metadata", (p.metadata.map Identity.toJson).getD .null),
    ("error_information", (p.error.map ErrorInformation.toJson).getD .null)]

def decoder : Decoder LoggingPayload :=
  Decoder.record ⟨"LoggingPayload",
    [ Decoder.field "metadata" .defaulted (Decoder.option metadataDecoder)
        fun v p => { p with metadata := v },
      Decoder.field "error_information" .defaulted (Decoder.option ErrorInformation.decoder)
        fun v p => { p with error := v } ],
    {}⟩

/-- The failure that the payload reports, observed at `time`. -/
def toFailure (p : LoggingPayload) (time : Instant) : Failure :=
  let error := p.error.getD {}
  .observed time error.errorClass error.code error.provider (p.metadata.getD {})

end LoggingPayload

/-- One failure as reported. -/
structure Notification where
  payload : Option LoggingPayload := none
deriving DecidableEq, Repr, Inhabited

namespace Notification

def toJson (n : Notification) : Value :=
  .object [("standard_logging_object", (n.payload.map LoggingPayload.toJson).getD .null)]

def decoder : Decoder Notification :=
  Decoder.record ⟨"FailureNotification",
    [ Decoder.field "standard_logging_object" .optional (Decoder.option LoggingPayload.decoder)
        fun v _ => ⟨v⟩ ],
    {}⟩

end Notification
end FailureAlarm
