import FailureAlarm.Json.Number
import FailureAlarm.Text.Hex

/-!
# JSON values and their text

A value holds the members of an object in the order in which they are written. Objects whose order
carries no meaning are kept sorted by key, each key once: `put` inserts a member that way. Keys are
compared character by character, which is also the order of their UTF-8 bytes.

`Value.text` is the compact text: no blanks, and no escapes but the two-character ones, and
`\u00XX` for the other control characters below U+0020.
-/

namespace FailureAlarm
namespace Json

/-- A JSON value. -/
inductive Value where
  | null
  | bool (b : Bool)
  | number (n : Number)
  | string (s : String)
  | array (items : List Value)
  | object (members : List (String × Value))
deriving Inhabited, Repr

namespace Value

/-- A string or null. -/
def ofOption : Option String → Value
  | none => null
  | some s => string s

def ofNat (n : Nat) : Value := number (.integer n)

def ofInt (n : Int) : Value := number (.integer n)

/-! ### Sorted members -/

/-- Insert a member in the order of the keys; a member with the same key is replaced. -/
def put (key : String) (v : Value) : List (String × Value) → List (String × Value)
  | [] => [(key, v)]
  | (k, w) :: rest =>
    if key < k then (key, v) :: (k, w) :: rest
    else if key = k then (key, v) :: rest
    else (k, w) :: put key v rest

/-- The members in the order of their keys; of two members with one key the later one is kept. -/
def sorted (members : List (String × Value)) : List (String × Value) :=
  members.foldl (fun acc (k, v) => put k v acc) []

/-! ### Text -/

/-- A character inside quotes. -/
def escape (c : Char) : List Char :=
  if c = '"' then ['\\', '"']
  else if c = '\\' then ['\\', '\\']
  else if c = '\x08' then ['\\', 'b']
  else if c = '\x0c' then ['\\', 'f']
  else if c = '\n' then ['\\', 'n']
  else if c = '\r' then ['\\', 'r']
  else if c = '\t' then ['\\', 't']
  else if c.toNat < 32 then
    ['\\', 'u', '0', '0', Hex.digit (c.toNat / 16), Hex.digit (c.toNat % 16)]
  else [c]

/-- A string in quotes. -/
def quoted (s : String) : List Char := '"' :: s.toList.flatMap escape ++ ['"']

mutual

/-- The compact text of a value. -/
def chars : Value → List Char
  | null => "null".toList
  | bool true => "true".toList
  | bool false => "false".toList
  | number n => n.text
  | string s => quoted s
  | array items => '[' :: itemChars items ++ [']']
  | object members => '\x7b' :: memberChars members ++ ['\x7d']

/-- Items with commas between them. -/
def itemChars : List Value → List Char
  | [] => []
  | [v] => chars v
  | v :: rest => chars v ++ ',' :: itemChars rest

/-- Members with commas between them. -/
def memberChars : List (String × Value) → List Char
  | [] => []
  | [(k, v)] => quoted k ++ ':' :: chars v
  | (k, v) :: rest => quoted k ++ ':' :: chars v ++ ',' :: memberChars rest

end

/-- The compact text of a value. -/
def text (v : Value) : String := String.ofList (chars v)

end Value
end Json
end FailureAlarm
