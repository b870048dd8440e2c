import Warden.Document.Value
import Warden.Text.Digits

/-! The compact text of a value: no blanks, names and texts in double quotes. -/

namespace Warden.Document

/-- A character inside a quoted text; only marks and controls are escaped. -/
def compactChar (c : Char) : List Char :=
  if c = '"' then ['\\', '"']
  else if c = '\\' then ['\\', '\\']
  else if c = '\n' then ['\\', 'n']
  else if c = '\r' then ['\\', 'r']
  else if c = '\t' then ['\\', 't']
  else if c.toNat = 8 then ['\\', 'b']
  else if c.toNat = 12 then ['\\', 'f']
  else if c.toNat < 32 then
    ['\\', 'u', '0', '0', Text.hexDigit (c.toNat / 16), Text.hexDigit (c.toNat % 16)]
  else [c]

/-- A text in double quotes. -/
def compactString (text : String) : String :=
  String.ofList (['"'] ++ text.toList.flatMap compactChar ++ ['"'])

mutual

/-- The compact text of a value. -/
def Value.compact : Value → String
  | .null => "null"
  | .boolean value => if value then "true" else "false"
  | .integer value => toString value
  | .float value => value.text
  | .string value => compactString value
  | .list items => "[" ++ ",".intercalate (compactItems items) ++ "]"
  | .table entries => "\x7b" ++ ",".intercalate (compactEntries entries) ++ "\x7d"

/-- The compact texts of the values of a list. -/
def compactItems : List Value → List String
  | [] => []
  | value :: rest => value.compact :: compactItems rest

/-- The compact texts of the entries of a table, each key before its value. -/
def compactEntries : List (String × Value) → List String
  | [] => []
  | (key, value) :: rest => (compactString key ++ ":" ++ value.compact) :: compactEntries rest

end

end Warden.Document
