import FailureAlarm.Settings.Path
import FailureAlarm.Settings.Reading
import FailureAlarm.Toml.Document

/-!
# Loading settings

Settings come from defaults, over which the settings file is laid, and over that the environment.
The file is `failwatch.toml` or `failwatch.json`; it may be missing. A file named `failwatch` hides
them, and says nothing itself. Of the environment those variables count whose names begin with
`FAILWATCH__`, in any case; two underscores go one level down, as in
`FAILWATCH__ALERTING__WINDOW_SECONDS`.
-/

namespace FailureAlarm
namespace Settings

/-! ### The file -/

/-- The name of the settings file without its extension. -/
def fileName : String := "failwatch"

/-- The names of the files that are looked at. -/
def fileNames : List String := [fileName, fileName ++ ".toml", fileName ++ ".json"]

/-- The members of the top-level table of a JSON text. -/
def jsonMembers (text : String) : Except Error Entry.Members :=
  match Json.decodeText Json.Decoder.any text with
  | .ok (.object members) => .ok (Entry.ofJsonMembers .jsonFile members)
  | _ => .error .unreadable

/-- The members of the top-level table of a TOML text. -/
def tomlMembers (text : String) : Except Error Entry.Members :=
  match Toml.Document.read? text with
  | some members => .ok (Entry.ofTomlMembers .tomlFile members)
  | none => .error .unreadable

/-- What the settings file says; `files` are the names and the texts of the files at hand. -/
def fileMembers (files : List (String × String)) : Except Error Entry.Members :=
  let text? (name : String) := (files.find? (·.1 = name)).map (·.2)
  match text? fileName, text? (fileName ++ ".toml"), text? (fileName ++ ".json") with
  | some _, _, _ => .ok []
  | none, some text, _ => tomlMembers text
  | none, none, some text => jsonMembers text
  | none, none, none => .ok []

/-! ### The environment -/

/-- What the names of the variables begin with, in lower case. -/
def variablePrefix : List Char := "failwatch__".toList

/-- The name of a variable as a path: two underscores become a dot. -/
def dotted : List Char → List Char
  | '_' :: '_' :: cs => '.' :: dotted cs
  | c :: cs => c :: dotted cs
  | [] => []

/-- The value of a variable: a truth value, an integer, a floating-point number or a text, the first
of these that it can be read as. -/
def variableScalar (s : String) : Scalar :=
  let word := lowerCase s
  if word = "true" then .bool true
  else if word = "false" then .bool false
  else
    match (Digits.signed? s.toList).filter fun n =>
        -9223372036854775808 ≤ n ∧ n ≤ 9223372036854775807 with
    | some n => .integer n
    | none =>
      match Floating.read? s.toList with
      | some x => .real x
      | none => .text s

/-- What a variable says, if its name is one of those that count. -/
def variableMember? (name value : String) : Option (String × Entry) :=
  let cs := (lowerCase name).toList
  if variablePrefix.isPrefixOf cs then
    some (String.ofList (dotted (cs.drop variablePrefix.length)),
      .scalar (some .environment) (variableScalar value))
  else none

/-- What the environment says, given the names and values of its variables. -/
def environmentMembers (environment : List (String × String)) : Entry.Members :=
  environment.filterMap fun (name, value) => variableMember? name value

/-! ### All sources -/

/-- Load the settings, given the files at hand and the environment. -/
def load (files environment : List (String × String)) : Except Error Settings := do
  let fromFile ← fileMembers files
  match overlay (environmentMembers environment) (overlay fromFile .blank) with
  | .table _ members => ofMembers members
  | _ => .ok {}

end Settings
end FailureAlarm
