import Warden.Text.Utf8

/-! Faults in the text of a configuration file, and the report that points at them. -/

namespace Warden.Toml

/-- Why something is refused although it reads well. -/
inductive Reason
  | outOfRange
  | tooDeep
  | tooLarge
  | tooSmall
  | duplicate (key : String) (table : Option (List String))
  | extends (path : List String) (kind : String)
deriving Repr, DecidableEq

/-- A path as messages show it. -/
def pathText (path : List String) : String := ".".intercalate path

/-- What a report says of a reason. -/
def Reason.message : Reason → String
  | .outOfRange => "value is out of range"
  | .tooDeep => "recursion limit exceeded"
  | .tooLarge => "number too large to fit in target type"
  | .tooSmall => "number too small to fit in target type"
  | .duplicate key none => "duplicate key `" ++ key ++ "`"
  | .duplicate key (some []) => "duplicate key `" ++ key ++ "` in document root"
  | .duplicate key (some path) =>
    "duplicate key `" ++ key ++ "` in table `" ++ pathText path ++ "`"
  | .extends path kind =>
    "dotted key `" ++ pathText path ++ "` attempted to extend non-table type (" ++ kind ++ ")"

/-- What is wrong with a text that is no document: the part that is invalid, what could stand there
instead, and why. -/
structure Fault where
  part : Option String := none
  expected : List String := []
  reason : Option Reason := none
deriving Repr, DecidableEq

/-- The fault in up to three lines. -/
def Fault.message (fault : Fault) : String :=
  "\n".intercalate (
    (fault.part.toList.map ("invalid " ++ ·)) ++
    (if fault.expected.isEmpty then [] else ["expected " ++ ", ".intercalate fault.expected]) ++
    fault.reason.toList.map Reason.message)

/-- A stretch of the text, in characters from its beginning. -/
structure Span where
  start : Nat
  stop : Nat
deriving Repr, DecidableEq, Inhabited

/-- A message about a stretch of the text. -/
structure Report where
  span : Span
  message : String
deriving Repr, DecidableEq

/-- A place in the text: its line and column, both from zero. -/
structure Place where
  line : Nat
  column : Nat
deriving Repr, DecidableEq

/-- The place of a position. The end of the text stands behind its last character, even a line end,
and columns count bytes where the position holds more than one of them. -/
def placeOf (source : List Char) (position : Nat) : Place :=
  -- The end of the text has no character of its own, so that the place is counted from the last
  -- one.
  let held := min position (source.length - 1)
  let before := source.take held
  let front := (before.reverse.takeWhile (· != '\n')).reverse
  -- Only where the position itself holds several bytes is the column counted in bytes.
  let wide := (source[position]?).any fun c => decide (0x80 ≤ c.toNat)
  ⟨before.countP (· == '\n'),
    (if wide then (Text.utf8 front).length else front.length) + (position - held)⟩

/-- The characters of a line. -/
def lineAt : List Char → Nat → List Char
  | source, 0 => source.takeWhile (· != '\n')
  | source, line + 1 => lineAt (source.dropWhile (· != '\n')).tail line

/-- The report with the line it is about and marks under the stretch. -/
def Report.text (report : Report) (source : List Char) : String :=
  let place := placeOf source report.span.start
  let content := lineAt source place.line
  let number := toString (place.line + 1)
  let width := (Text.utf8 ((source.take report.span.stop).drop report.span.start)).length
  -- There is a mark at least, and none behind the end of the line.
  let marks := max 1 (min width (Text.utf8 content).length)
  let gutter := String.ofList (List.replicate (number.length + 1) ' ')
  "TOML parse error at line " ++ number ++ ", column " ++ toString (place.column + 1) ++ "\n" ++
    gutter ++ "|\n" ++
    number ++ " | " ++ String.ofList content ++ "\n" ++
    gutter ++ "|" ++
    String.ofList (List.replicate (place.column + 1) ' ' ++ List.replicate marks '^') ++
    "\n" ++ report.message ++ "\n"

/-- Why a scan found no value, and the rest from which that was seen; one that is not final leaves
room for another reading. -/
structure Miss where
  fault : Fault := {}
  rest : List Char
  final : Bool := true
deriving Repr, DecidableEq

/-- Names the part that was being read, unless one inside it has been named. -/
def Miss.within (part : String) (miss : Miss) : Miss :=
  { miss with fault := { miss.fault with part := miss.fault.part.or (some part) } }

/-- Adds what could have stood there. -/
def Miss.expecting (tokens : List String) (miss : Miss) : Miss :=
  { miss with fault := { miss.fault with expected := miss.fault.expected ++ tokens } }

/-- Leaves no room for another reading. -/
def Miss.finally (miss : Miss) : Miss := { miss with final := true }

/-- A scan gives a value and the rest of the text, or misses. -/
abbrev Scan (α : Type) := List Char → Except Miss (α × List Char)

/-- Refuses a reading for a reason. -/
def refuse {α : Type} (reason : Reason) (rest : List Char) : Except Miss α :=
  .error { fault := { reason := some reason }, rest }

/-- Misses with nothing to say but where. -/
def missAt {α : Type} (rest : List Char) (final : Bool) : Except Miss α :=
  .error { rest, final }

end Warden.Toml
