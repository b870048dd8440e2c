import Warden.Text.Digits

/-! Characters that a terminal would obey, made visible. -/

namespace Warden.Text

/-- The control characters that begin or take part in commands to a terminal. -/
def isCommand (c : Char) : Bool :=
  c == '\x07' || c == '\x08' || c == '\x0c' || c == '\x1b' || c == '\x7f'

/-- Whether a character is one of the second set of controls. -/
def isSecondControl (c : Char) : Bool :=
  0x80 ≤ c.toNat && c.toNat ≤ 0x9f

/-- A command stands as the two digits of its number, a control of the second set as its number in
braces. -/
def tameChar (c : Char) : List Char :=
  if isCommand c then ['\\', 'x', hexDigit (c.toNat / 16), hexDigit (c.toNat % 16)]
  else if isSecondControl c then ['\\', 'u', '\x7b'] ++ (hexText c.toNat).toList ++ ['\x7d']
  else [c]

/-- A text that no terminal obeys. -/
def tame (text : String) : String :=
  String.ofList (text.toList.flatMap tameChar)

end Warden.Text
