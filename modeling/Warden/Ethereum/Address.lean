import Warden.Ethereum.Keccak
import Warden.Text.Digits
import Warden.Text.Quoted
import Warden.Text.Utf8

/-!
Account addresses: twenty bytes, read from hexadecimal text and written with a checksum in letter
case.
-/

namespace Warden.Ethereum

/-- An account address, first byte first. -/
structure Address where
  bytes : Vector UInt8 20
deriving Repr, DecidableEq

/-- Why a text is no address. -/
inductive AddressError
  | oddDigits
  | wrongLength
  | badCharacter (character : Char) (position : Nat)
deriving Repr, DecidableEq

/-- A character between single quotes, escaped as in quoted text. -/
def quotedChar (c : Char) : String :=
  let inside :=
    -- Between single quotes it is those that have to be escaped, and not the double ones.
    if c = '"' then ['"'] else if c.toNat = 39 then ['\\', c] else Text.escapeChar c
  "'" ++ String.ofList inside ++ "'"

/-- What a report says of it. -/
def AddressError.message : AddressError → String
  | .oddDigits => "odd number of digits"
  | .wrongLength => "invalid string length"
  | .badCharacter character position =>
    "invalid character " ++ quotedChar character ++ " at position " ++ toString position

namespace Address

/-- The address that stands for nothing. -/
def zero : Address := ⟨Vector.replicate 20 0⟩

/-- An address that nothing is known of is zero. -/
instance : Inhabited Address := ⟨zero⟩

/-- Whether an address stands for nothing. -/
def isZero (a : Address) : Bool := a == zero

/-- The bytes of pairs of hexadecimal digits; the error is the first byte that is no digit, with its
position. -/
def pairs (position : Nat) : List UInt8 → Except AddressError (List UInt8)
  | [] => .ok []
  | [_] => .error .oddDigits
  | high :: low :: rest =>
    match Text.digit? 16 (Char.ofNat high.toNat), Text.digit? 16 (Char.ofNat low.toNat) with
    | some h, some l =>
      match pairs (position + 2) rest with
      | .ok bytes => .ok (UInt8.ofNat (16 * h + l) :: bytes)
      | .error e => .error e
    | some _, none => .error (.badCharacter (Char.ofNat low.toNat) (position + 1))
    | none, _ => .error (.badCharacter (Char.ofNat high.toNat) position)

/-- The bytes after an optional `0x` or `0X`. -/
def withoutMark : List UInt8 → List UInt8
  | 0x30 :: 0x78 :: rest => rest
  | 0x30 :: 0x58 :: rest => rest
  | bytes => bytes

/-- Reads forty hexadecimal digits, counted in bytes; any letter case is accepted. -/
def parse (text : String) : Except AddressError Address :=
  let digits := withoutMark (Text.utf8 text.toList)
  -- The length is looked at first, so that a character is only complained of where the digits are
  -- complete.
  if digits.length % 2 = 1 then .error .oddDigits
  else if digits.length ≠ 40 then .error .wrongLength
  else
    match pairs 0 digits with
    | .error e => .error e
    | .ok bytes =>
      if h : bytes.length = 20 then .ok ⟨⟨bytes.toArray, by simpa using h⟩⟩ else .error .wrongLength

/-- The forty digits in lower case. -/
def digits (a : Address) : List Char :=
  Text.hexBytes a.bytes.toList

/-- The text with every digit in lower case. -/
def lowerText (a : Address) : String :=
  "0x" ++ String.ofList a.digits

/-- A letter is upper case where the hash of the lower-case digits has a digit of eight or more. -/
def checksumCase : List Char → List Char → List Char
  | [], _ => []
  -- The hash has sixty-four digits, of which an address needs forty.
  | c :: rest, [] => c :: rest
  | c :: rest, h :: hash =>
    (if (Text.digit? 16 h).any (8 ≤ ·) then c.toUpper else c) :: checksumCase rest hash

/-- The text whose letter case is a checksum of its digits. -/
def text (a : Address) : String :=
  "0x" ++ String.ofList
    (checksumCase a.digits (Text.hexBytes (keccak256 (Text.utf8 a.digits)).toList))

/-- The address in the last twenty bytes of a word. -/
def ofWord (word : Word) : Address :=
  ⟨Vector.ofFn fun i => word[i.val + 12]⟩

/-- The length check before the digits are read is exactly the one that the bytes need. -/
theorem pairs_length {position : Nat} {text bytes : List UInt8}
    (read : pairs position text = .ok bytes) : text.length = 2 * bytes.length := by
  -- Every successful step turns two digits into one byte.
  fun_induction pairs position text generalizing bytes with
  | case1 => simp only [Except.ok.injEq] at read; simp [← read]
  | case2 => simp at read
  | case3 position high low rest h l highRead lowRead tail tailRead ih =>
    simp only [Except.ok.injEq] at read
    have := ih tailRead
    simp only [← read, List.length_cons]
    omega
  | case4 => simp at read
  | case5 => simp at read
  | case6 => simp at read

end Address

end Warden.Ethereum
