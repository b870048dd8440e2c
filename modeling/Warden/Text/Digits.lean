/-! Digits of a base and the numbers that sequences of digits denote. -/

namespace Warden.Text

/-- The value of a digit in the bases up to thirty-six, either case of letter. -/
def digitValue? (c : Char) : Option Nat :=
  if '0' ≤ c ∧ c ≤ '9' then some (c.toNat - '0'.toNat)
  else if 'a' ≤ c ∧ c ≤ 'z' then some (c.toNat - 'a'.toNat + 10)
  else if 'A' ≤ c ∧ c ≤ 'Z' then some (c.toNat - 'A'.toNat + 10)
  else none

/-- The value of a digit of the given base. -/
def digit? (base : Nat) (c : Char) : Option Nat :=
  (digitValue? c).filter (· < base)

/-- Whether a character is a digit of the given base. -/
def isDigit (base : Nat) (c : Char) : Bool :=
  (digit? base c).isSome

/-- The number that follows `start` in positional notation, or nothing if some character is no
digit. -/
def foldDigits? (base : Nat) : Nat → List Char → Option Nat
  | start, [] => some start
  | start, c :: rest =>
    match digit? base c with
    | some d => foldDigits? base (start * base + d) rest
    | none => none

/-- The number written by a non-empty sequence of digits. -/
def readNat? (base : Nat) (text : List Char) : Option Nat :=
  if text.isEmpty then none else foldDigits? base 0 text

/-- The digit of a value below sixteen, in lower case. -/
def hexDigit (n : Nat) : Char :=
  if n < 10 then Char.ofNat ('0'.toNat + n) else Char.ofNat ('a'.toNat + (n - 10))

/-- The shortest hexadecimal form in lower case. -/
def hexText (n : Nat) : String :=
  String.ofList (Nat.toDigits 16 n)

/-- A text may be read in two parts, the second from where the first one led. -/
theorem foldDigits?_append (base start : Nat) (first second : List Char) :
    foldDigits? base start (first ++ second) =
      (foldDigits? base start first).bind (foldDigits? base · second) := by
  -- Reading stops at the first character that is no digit, wherever the text is cut.
  induction first generalizing start with
  | nil => rfl
  | cons c rest ih =>
    simp only [List.cons_append, foldDigits?]
    cases digit? base c with
    | none => rfl
    | some d => exact ih _

end Warden.Text
