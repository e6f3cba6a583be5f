import FailureAlarm.Time.Rfc3339
import FailureAlarm.Json.Decode

/-!
# Failures

One observed failure of a call to a provider: when it happened, how it is classified, and on whose
behalf the call was made. The identity is carried along and never looked at.

`Failure.observed` makes a failure from what was reported; an empty classification text counts as
absent. `Failure.toJson` and `Failure.decoder` write and read all fields as they are.
-/

namespace FailureAlarm

open Json (Value Decoder)

/-- Identifiers of the caller, for triage. -/
structure Identity where
  hash : Option String := none
  keyAlias : Option String := none
  orgId : Option String := none
  teamId : Option String := none
  userId : Option String := none
  teamAlias : Option String := none
  endUserId : Option String := none
deriving DecidableEq, Repr, Inhabited

namespace Identity

/-- All identifiers are absent. -/
def isAnonymous (i : Identity) : Bool := i = {}

def toJson (i : Identity) : Value :=
  .object [
    ("user_api_key_hash", .ofOption i.hash),
    ("user_api_key_alias", .ofOption i.keyAlias),
    ("user_api_key_org_id", .ofOption i.orgId),
    ("user_api_key_team_id", .ofOption i.teamId),
    ("user_api_key_user_id", .ofOption i.userId),
    ("user_api_key_team_alias", .ofOption i.teamAlias),
    ("user_api_key_end_user_id", .ofOption i.endUserId)]

/-- The seven fields, each with the given meaning of its absence. -/
def fields (absence : Decoder.Absence) : List (Decoder.Field Identity) :=
  let text := Decoder.option Decoder.string
  [ Decoder.field "user_api_key_hash" absence text fun v i => { i with hash := v },
    Decoder.field "user_api_key_alias" absence text fun v i => { i with keyAlias := v },
    Decoder.field "user_api_key_org_id" absence text fun v i => { i with orgId := v },
    Decoder.field "user_api_key_team_id" absence text fun v i => { i with teamId := v },
    Decoder.field "user_api_key_user_id" absence text fun v i => { i with userId := v },
    Decoder.field "user_api_key_team_alias" absence text fun v i => { i with teamAlias := v },
    Decoder.field "user_api_key_end_user_id" absence text fun v i => { i with endUserId := v } ]

def decoder : Decoder Identity := Decoder.record ⟨"IdentityFields", fields .optional, {}⟩

end Identity

/-- One observed failure. -/
structure Failure where
  time : Instant
  errorClass : Option String
  code : Option String
  provider : Option String
  identity : Identity
deriving DecidableEq, Inhabited

/-- A text that is not empty. -/
def nonEmpty (s : Option String) : Option String := s.filter fun s => !s.isEmpty

namespace Failure

/-- The failure that was observed at `time`; empty classification texts count as absent. -/
def observed (time : Instant) (errorClass code provider : Option String) (identity : Identity) :
    Failure :=
  ⟨time, nonEmpty errorClass, nonEmpty code, nonEmpty provider, identity⟩

def toJson (f : Failure) : Value :=
  .object [
    ("timestamp", .string (Rfc3339.zulu f.time)),
    ("error_class", .ofOption f.errorClass),
    ("error_code", .ofOption f.code),
    ("error_provider", .ofOption f.provider),
    ("identity", f.identity.toJson)]

/-- A timestamp as a string. -/
def timestamp : Decoder Instant
  | _, .string (some s) =>
    match Rfc3339.read s.toList with
    | .ok t => .ok t
    | .error e => .error (.misfit [] (.refused e.message))
  | _, t => Decoder.refuse "an RFC 3339 formatted date and time string" t

def decoder : Decoder Failure :=
  let text := Decoder.option Decoder.string
  Decoder.record ⟨"FailureEvent",
    [ Decoder.field "timestamp" .required timestamp fun v f => { f with time := v },
      Decoder.field "error_class" .optional text fun v f => { f with errorClass := v },
      Decoder.field "error_code" .optional text fun v f => { f with code := v },
      Decoder.field "error_provider" .optional text fun v f => { f with provider := v },
      Decoder.field "identity" .required Identity.decoder fun v f => { f with identity := v } ],
    ⟨default, none, none, none, {}⟩⟩

end Failure
end FailureAlarm
