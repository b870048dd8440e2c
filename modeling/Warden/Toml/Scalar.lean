import Warden.Document.Value
import Warden.Text.Digits
import Warden.Toml.Fault

/-! The scalars of a configuration file: strings, numbers, booleans and points in time. -/

namespace Warden.Toml

open Warden.Text Warden.Document

/-- What may stand between the parts of a line. -/
def isSpace (c : Char) : Bool := c == ' ' || c == '\t'

/-- Leaves out spaces and tabs. -/
def skipSpace (text : List Char) : List Char := text.dropWhile isSpace

/-- The rest after one line end, if there is one. -/
def newline? : List Char → Option (List Char)
  | '\n' :: rest => some rest
  | '\r' :: '\n' :: rest => some rest
  | _ => none

/-- A character that may stand in a string without being escaped. -/
def isPlain (c : Char) : Bool :=
  c == '\t' || (0x20 ≤ c.toNat && c.toNat ≠ 0x7f)

/-- The character of an escape that is a single letter. -/
def simpleEscape? (c : Char) : Option Char :=
  match c with
  | 'b' => some '\x08'
  | 't' => some '\t'
  | 'n' => some '\n'
  | 'f' => some '\x0c'
  | 'r' => some '\r'
  | '"' => some '"'
  | '\\' => some '\\'
  | _ => none

/-- The character with the code point that `count` digits write. -/
def scanCodePoint (count : Nat) : Scan Char := fun text =>
  let digits := text.take count
  match (if digits.length = count then readNat? 16 digits else none) with
  | none => missAt text true
  | some n =>
    -- Code points that stand for halves of a pair are no characters.
    if n < 0xd800 ∨ (0xe000 ≤ n ∧ n < 0x110000) then .ok (Char.ofNat n, text.drop count)
    else refuse .outOfRange text

/-- What may follow a backslash. -/
def escapeTokens : List String := ["`b`", "`f`", "`n`", "`r`", "`t`", "`u`", "`U`", "`\\`", "`\"`"]

/-- What follows a backslash; at the end of the text the backslash itself is what is wrong. -/
def scanEscape : Scan Char
  | 'u' :: rest => (scanCodePoint 4 rest).mapError (·.within "unicode 4-digit hex code")
  | 'U' :: rest => (scanCodePoint 8 rest).mapError (·.within "unicode 8-digit hex code")
  | c :: rest =>
    match simpleEscape? c with
    | some e => .ok (e, rest)
    -- The letter itself is where the fault is shown, and what could have stood there is listed.
    | none => .error { fault := ⟨some "escape sequence", escapeTokens, none⟩, rest }
  | [] => missAt ['\\'] true

/-- The rest of a one-line string; `fuel` bounds its length. -/
def scanBasic : Nat → Scan (List Char)
  -- The fuel is one more than the length of the text, so that it never runs out before the text.
  | 0, text => missAt text true
  | _ + 1, [] => missAt [] true
  | fuel + 1, c :: rest =>
    if c = '"' then .ok ([], rest)
    else if c = '\\' then do
      let (e, rest) ← scanEscape rest
      let (more, rest) ← scanBasic fuel rest
      return (e :: more, rest)
    else if isPlain c then do
      let (more, rest) ← scanBasic fuel rest
      return (c :: more, rest)
    else missAt (c :: rest) true

/-- The rest of a one-line string without escapes. -/
def scanLiteral : Scan (List Char) := fun text =>
  -- Nothing is escaped here, so that the next quote is the end.
  let body := text.takeWhile fun c => isPlain c && c != '\''
  match text.drop body.length with
  | '\'' :: rest => .ok (body, rest)
  | rest => missAt rest true

/-- How many of up to five quotes stand at the front, and the rest after them. -/
def quotesAt (quote : Char) (text : List Char) : Nat × List Char :=
  let count := min 5 (text.takeWhile (· == quote)).length
  (count, text.drop count)

/-- Leaves out spaces, tabs and line ends. -/
def skipBlank : List Char → List Char
  | '\n' :: rest => skipBlank rest
  | '\r' :: '\n' :: rest => skipBlank rest
  | c :: rest => if isSpace c then skipBlank rest else c :: rest
  | [] => []

/-- The rest after a line end that a backslash removes, with the blanks and line ends behind it. -/
def skipFolded (text : List Char) : Option (List Char) :=
  (newline? (skipSpace text)).map skipBlank

/-- The rest of a string over many lines; up to two quotes may stand inside and at its end. -/
def scanMultiBasic : Nat → Scan (List Char)
  | 0, text => missAt text true
  | _ + 1, [] => missAt [] true
  | fuel + 1, c :: rest =>
    if c = '"' then
      -- Two quotes are text; three end the string, and up to two more belong to it.
      let (count, after) := quotesAt '"' (c :: rest)
      if 3 ≤ count then .ok (List.replicate (count - 3) '"', after)
      else do
        let (more, rest) ← scanMultiBasic fuel after
        return (List.replicate count '"' ++ more, rest)
    else if c = '\\' then
      -- A backslash before a line end takes the blanks behind it away, over as many lines as there
      -- are.
      match skipFolded rest with
      | some rest => scanMultiBasic fuel rest
      | none => do
        let (e, rest) ← scanEscape rest
        let (more, rest) ← scanMultiBasic fuel rest
        return (e :: more, rest)
    else
      match newline? (c :: rest) with
      -- A line end is read as one character, however the file writes it.
      | some rest => do
        let (more, rest) ← scanMultiBasic fuel rest
        return ('\n' :: more, rest)
      | none =>
        if isPlain c then do
          let (more, rest) ← scanMultiBasic fuel rest
          return (c :: more, rest)
        else missAt (c :: rest) true

/-- The rest of a string over many lines without escapes. -/
def scanMultiLiteral : Nat → Scan (List Char)
  | 0, text => missAt text true
  | _ + 1, [] => missAt [] true
  | fuel + 1, c :: rest =>
    if c = '\'' then
      -- As in a string with escapes: three quotes end it, and up to two more belong to it.
      let (count, after) := quotesAt '\'' (c :: rest)
      if 3 ≤ count then .ok (List.replicate (count - 3) '\'', after)
      else do
        let (more, rest) ← scanMultiLiteral fuel after
        return (List.replicate count '\'' ++ more, rest)
    else
      match newline? (c :: rest) with
      | some rest => do
        let (more, rest) ← scanMultiLiteral fuel rest
        return ('\n' :: more, rest)
      | none =>
        if isPlain c then do
          let (more, rest) ← scanMultiLiteral fuel rest
          return (c :: more, rest)
        else missAt (c :: rest) true

/-- A one-line string behind its first quote. -/
def scanBasicString : Scan (List Char) := fun text =>
  (scanBasic (text.length + 1) text).mapError (·.within "basic string")

/-- A one-line string without escapes behind its first quote. -/
def scanLiteralString : Scan (List Char) := fun text =>
  (scanLiteral text).mapError (·.within "literal string")

/-- What a value can begin with when it is none of the others. -/
def quoteTokens : List String := ["`\"`", "`'`"]

/-- No value begins here. -/
def missValue (text : List Char) (final : Bool) : Except Miss (Value × List Char) :=
  .error { fault := ⟨some "string", quoteTokens, none⟩, rest := text, final }

/-- A string of any of the four forms, from its first quote. -/
def scanString : Scan String := fun text => do
  -- A line end right behind the three opening quotes is no part of the string.
  let skipFirst := fun (rest : List Char) => (newline? rest).getD rest
  let (chars, rest) ←
    match text with
    | '"' :: '"' :: '"' :: rest =>
      (scanMultiBasic (text.length + 1) (skipFirst rest)).mapError
        (·.within "multiline basic string")
    | '\'' :: '\'' :: '\'' :: rest =>
      (scanMultiLiteral (text.length + 1) (skipFirst rest)).mapError
        (·.within "multiline literal string")
    | '"' :: rest => scanBasicString rest
    | '\'' :: rest => scanLiteralString rest
    | rest => missAt rest false
  return (String.ofList chars, rest)

/-- The longest front of digits in which single underscores stand between digits, without them. -/
def scanDigits (base : Nat) : Scan (List Char)
  | [] => .ok ([], [])
  | '_' :: rest =>
    -- An underscore has a digit on either side, so that the one behind it decides.
    match rest with
    | [] => .error { fault := { expected := ["digit"] }, rest }
    | d :: more =>
      if isDigit base d then do
        let (digits, rest) ← scanDigits base more
        return (d :: digits, rest)
      else .error { fault := { expected := ["digit"] }, rest }
  | c :: rest =>
    if isDigit base c then do
      let (digits, rest) ← scanDigits base rest
      return (c :: digits, rest)
    else .ok ([], c :: rest)

/-- One digit and what may follow it. -/
def scanDigits1 (base : Nat) : Scan (List Char)
  | [] => missAt [] false
  | c :: rest =>
    if isDigit base c then do
      let (digits, rest) ← scanDigits base rest
      return (c :: digits, rest)
    else missAt (c :: rest) false

/-- A whole number of sixty-four bits with its sign. -/
def boundedInteger (start : List Char) (negative : Bool) (n : Nat) (rest : List Char) :
    Except Miss (Value × List Char) :=
  -- The sign is part of the bounds: one more number lies below zero than above.
  let value : Int := if negative then -n else n
  if value < -9223372036854775808 then refuse .tooSmall start
  else if 9223372036854775807 < value then refuse .tooLarge start
  else .ok (.integer value, rest)

/-- The sign in front of a number, if any. -/
def splitSign : List Char → Bool × List Char
  | '+' :: rest => (false, rest)
  | '-' :: rest => (true, rest)
  | rest => (false, rest)

/-- A number in base sixteen, eight or two after its mark. -/
def scanBased (start : List Char) (base : Nat) (part : String) : Scan Value := fun text => do
  -- After its mark nothing but digits can follow, so that a miss is final.
  let (digits, rest) ← (scanDigits1 base text).mapError fun miss => (miss.within part).finally
  boundedInteger start false ((readNat? base digits).getD 0) rest

/-- The exponent of a float, if one follows. -/
def scanExponent : Scan (Option Int) := fun text =>
  match text with
  | c :: rest =>
    if c = 'e' ∨ c = 'E' then do
      let (negative, rest) := splitSign rest
      -- With the letter of an exponent its digits are due.
      let (digits, rest) ← (scanDigits1 10 rest).mapError (·.finally)
      let n : Int := (readNat? 10 digits).getD 0
      return (some (if negative then -n else n), rest)
    else .ok (none, text)
  | [] => .ok (none, text)

/-- What the parts of a float are called. -/
def floatPart : String := "floating-point number"

/-- A float is kept only if it is no overflow above. -/
def boundedFloat (start : List Char) (value : Decimal.Binary64) (rest : List Char) :
    Except Miss (Value × List Char) :=
  if value = .infinite false then .error { fault := { part := some floatPart }, rest := start }
  else .ok (.float value, rest)

/-- A number in base ten: whole, or with a fraction, an exponent or both. -/
def scanDecimal : Scan Value := fun text => do
  let (negative, body) := splitSign text
  let (whole, rest) ←
    -- A whole part of several digits does not begin with zero; what follows a zero is read as
    -- something else.
    match body with
    | '0' :: rest => Except.ok (['0'], rest)
    | body => (scanDigits1 10 body).mapError (·.within "integer")
  match rest with
  | '.' :: rest =>
    let (fraction, rest) ← (scanDigits1 10 rest).mapError fun miss =>
      ((miss.expecting ["digit"]).within floatPart).finally
    let (exponent, rest) ← (scanExponent rest).mapError (·.within floatPart)
    -- The value is the digits without the point, scaled by the places behind it.
    let digits := (readNat? 10 (whole ++ fraction)).getD 0
    boundedFloat text
      (.ofScientific negative digits (exponent.getD 0 - fraction.length)) rest
  | rest =>
    let (exponent, after) ← (scanExponent rest).mapError (·.within floatPart)
    let n := (readNat? 10 whole).getD 0
    match exponent with
    | some e => boundedFloat text (.ofScientific negative n e) after
    | none => boundedInteger text negative n rest

/-- The number of exactly `count` digits at the front. -/
def fixedDigits? (count : Nat) (text : List Char) : Option (Nat × List Char) :=
  let digits := text.take count
  if digits.length = count then (readNat? 10 digits).map (·, text.drop count) else none

/-- Whether a year has a leap day. -/
def isLeap (year : Nat) : Bool :=
  year % 4 == 0 && (year % 100 != 0 || year % 400 == 0)

/-- How many days a month has in a year. -/
def daysIn (year month : Nat) : Nat :=
  if month = 2 then (if isLeap year then 29 else 28)
  else if [4, 6, 9, 11].contains month then 30 else 31

/-- Two digits that write a number between bounds. -/
def scanField (low high : Nat) : Scan Nat := fun text =>
  match fixedDigits? 2 text with
  | some (n, rest) => if low ≤ n ∧ n ≤ high then .ok (n, rest) else refuse .outOfRange text
  | none => missAt text true

/-- One character that has to stand here. -/
def scanMark (mark : Char) : Scan Unit
  | c :: rest => if c = mark then .ok ((), rest) else missAt (c :: rest) true
  | [] => missAt [] true

/-- Minutes, seconds and an optional fraction after the hour and its colon. -/
def scanTimeTail : Scan Unit := fun text => do
  let (_, rest) ← scanField 0 59 text
  let ((), rest) ← scanMark ':' rest
  -- A minute may have a leap second.
  let (_, rest) ← scanField 0 60 rest
  match rest with
  | '.' :: d :: more =>
    -- The fraction may have any number of digits, and a point without one is not part of the time.
    if d.isDigit then return ((), (d :: more).dropWhile Char.isDigit) else return ((), rest)
  | rest => return ((), rest)

/-- A time of day, told by the colon after an hour. -/
def scanTime? (text : List Char) : Option (Except Miss (Unit × List Char)) :=
  match fixedDigits? 2 text with
  | some (hour, ':' :: rest) => if hour ≤ 23 then some (scanTimeTail rest) else none
  | _ => none

/-- An offset from universal time, if one follows. -/
def scanOffset : Scan Unit := fun text =>
  match text with
  | c :: rest =>
    if c = 'Z' ∨ c = 'z' then .ok ((), rest)
    else if c = '+' ∨ c = '-' then
      Except.mapError (·.within "time offset") do
        let (_, rest) ← scanField 0 23 rest
        let ((), rest) ← scanMark ':' rest
        let (_, rest) ← scanField 0 59 rest
        return ((), rest)
    else .ok ((), text)
  | [] => .ok ((), [])

/-- The time that may follow a date. -/
def scanDateTail : Scan Unit := fun text =>
  match text with
  | [] => .ok ((), [])
  | c :: more =>
    if c = 'T' ∨ c = 't' ∨ c = ' ' then
      -- A blank is a separator only if a time follows it.
      match scanTime? more with
      | some (.ok ((), rest)) => scanOffset rest
      | some (.error miss) => .error miss
      | none => .ok ((), text)
    else .ok ((), text)

/-- A date with an optional time, told by the hyphen after four digits, or a time of day. -/
def scanInstant? (text : List Char) : Option (Except Miss (Unit × List Char)) :=
  -- Four digits and a hyphen can only be a date, so that from there on a miss names it.
  match fixedDigits? 4 text with
  | some (year, '-' :: rest) => some <| Except.mapError (·.within "date-time") do
    let (month, rest) ← scanField 1 12 rest
    let ((), rest) ← scanMark '-' rest
    -- The last day depends on the month and the year.
    let (_, rest) ← scanField 1 (daysIn year month) rest
    scanDateTail rest
  | _ => (scanTime? text).map (·.mapError (·.within "time"))

/-- The entry under which a point in time stands in a table of its own. -/
def instantKey : String := "$__toml_private_datetime"

/-- A number or a point in time. -/
def scanNumeric : Scan Value := fun text =>
  match scanInstant? text with
  | some result => do
    let ((), rest) ← result
    -- The value is the text as it was written, under a key that no file can have by chance.
    let written := text.take (text.length - rest.length)
    return (.table [(instantKey, .string (String.ofList written))], rest)
  | none =>
    match text with
    | '0' :: 'x' :: rest => scanBased text 16 "hexadecimal integer" rest
    | '0' :: 'o' :: rest => scanBased text 8 "octal integer" rest
    | '0' :: 'b' :: rest => scanBased text 2 "binary integer" rest
    | text =>
      -- A sign may stand before the two that are no numbers as well, but counts only for the first.
      match splitSign text with
      | (negative, 'i' :: 'n' :: 'f' :: rest) => .ok (.float (.infinite negative), rest)
      | (_, 'n' :: 'a' :: 'n' :: rest) => .ok (.float .nan, rest)
      | _ => scanDecimal text

/-- A scalar by its first character. -/
def scanScalar : Scan Value := fun text =>
  match text with
  | 't' :: 'r' :: 'u' :: 'e' :: rest => .ok (.boolean true, rest)
  | 'f' :: 'a' :: 'l' :: 's' :: 'e' :: rest => .ok (.boolean false, rest)
  | 'i' :: 'n' :: 'f' :: rest => .ok (.float (.infinite false), rest)
  | 'n' :: 'a' :: 'n' :: rest => .ok (.float .nan, rest)
  | c :: _ =>
    if c = '"' ∨ c = '\'' then do
      let (s, rest) ← scanString text
      return (.string s, rest)
    else if c.isDigit ∨ c = '+' ∨ c = '-' then scanNumeric text
    -- What begins like a number without its first digit is told apart for the sake of the message.
    else if c = '_' then
      .error { fault := ⟨some "integer", ["leading digit"], none⟩, rest := text, final := false }
    else if c = '.' then
      .error { fault := ⟨some floatPart, ["leading digit"], none⟩, rest := text, final := false }
    -- A word that begins like a boolean and is none leaves no room for another reading.
    else missValue text (c = 't' ∨ c = 'f')
  | [] => missAt [] false

end Warden.Toml
