import Warden.Config.Decode
import Warden.Config.Rule
import Warden.Toml.Reader

/-! Getting a configuration from the text of a file. -/

namespace Warden.Config

/-- What kept a file from being read. -/
inductive FileFault
  | missing
  | denied
  | notDirectory
  | isDirectory
  | nameTooLong
  | nulInPath
  | notText
deriving Repr, DecidableEq

namespace FileFault

/-- The number that the system gives the failure; a fault found before or after the system was asked
has none. -/
def code? : FileFault → Option Nat
  | .missing => some 2
  | .denied => some 13
  | .notDirectory => some 20
  | .isDirectory => some 21
  | .nameTooLong => some 36
  | .nulInPath | .notText => none

/-- The kind of a fault, as a record of it names it. -/
def kind : FileFault → String
  | .missing => "NotFound"
  | .denied => "PermissionDenied"
  | .notDirectory => "NotADirectory"
  | .isDirectory => "IsADirectory"
  | .nameTooLong => "InvalidFilename"
  | .nulInPath => "InvalidInput"
  | .notText => "InvalidData"

/-- What the system says of it. -/
def words : FileFault → String
  | .missing => "No such file or directory"
  | .denied => "Permission denied"
  | .notDirectory => "Not a directory"
  | .isDirectory => "Is a directory"
  | .nameTooLong => "File name too long"
  | .nulInPath => "file name contained an unexpected NUL byte"
  | .notText => "stream did not contain valid UTF-8"

/-- What a report says: the words, and the number if there is one. -/
def message (fault : FileFault) : String :=
  match fault.code? with
  | some code => fault.words ++ " (os error " ++ toString code ++ ")"
  | none => fault.words

open Text in
/-- The fault as a record. -/
def text (fault : FileFault) : String :=
  match fault.code? with
  | some code =>
    record "Os" [("code", toString code), ("kind", fault.kind), ("message", quoted fault.words)]
  | none =>
    record "Error" [("kind", fault.kind), ("message", quoted fault.words)]

end FileFault

/-- Why no configuration could be had. -/
inductive Failure
  | unreadable (path : String) (fault : FileFault)
  | malformed (report : Toml.Report) (source : List Char)
  | mismatched (mismatch : Document.Mismatch) (span : Toml.Span) (source : List Char)
  | invalid (violations : List Violation)
deriving Repr

namespace Failure

/-- What a report says of a failure. -/
def message : Failure → String
  | .unreadable path fault => "IO error reading " ++ path ++ ": " ++ fault.message
  | .malformed report source => "Parse error: " ++ report.text source
  | .mismatched mismatch span source =>
    "Parse error: " ++ (Toml.Report.mk span mismatch.message).text source
  | .invalid violations =>
    "Validation failed: " ++ ", ".intercalate (violations.map Violation.message)

open Text in
/-- A failure to read a text as a record, with the keys on the way to what is wrong. -/
def readingText (report : Toml.Report) (keys : List String) (source : List Char) : String :=
  -- Places are shown in bytes, though they are counted in characters.
  let place := fun (position : Nat) => toString (utf8 (source.take position)).length
  "Parse(" ++ record "Error" [("inner", record "Error" [("inner", record "TomlError" [
    ("message", quoted report.message),
    ("raw", "Some(" ++ quoted (String.ofList source) ++ ")"),
    ("keys", quotedList keys),
    ("span", "Some(" ++ place report.span.start ++ ".." ++ place report.span.stop ++ ")")])])] ++
      ")"

open Text in
/-- The failure as a record. -/
def text : Failure → String
  | .unreadable path fault =>
    record "Io" [("path", quoted path), ("source", fault.text)]
  | .malformed report source => readingText report [] source
  | .mismatched mismatch span source =>
    readingText ⟨span, mismatch.message⟩ (mismatch.path.filterMap Document.PathStep.key?) source
  | .invalid violations =>
    "Validation([" ++ ", ".intercalate (violations.map Violation.text) ++ "])"

end Failure

/-- Reads a configuration from its text, before the rules are applied. -/
def ofText (text : String) : Except Failure Config :=
  match Toml.read text with
  | .error report => .error (.malformed report text.toList)
  | .ok node =>
    match decode .lenient node.value with
    -- The report points at the value that does not fit, or as near to it as the text goes.
    | .error m => .error (.mismatched m (node.spanAt m.path) text.toList)
    | .ok config => .ok config

/-- Reads a configuration and holds it to the rules. -/
def parse (text : String) : Except Failure Config :=
  match ofText text with
  | .error failure => .error failure
  | .ok config =>
    -- The rules are applied to what was read as a whole, so that all that is wrong is found at
    -- once.
    match config.validate with
    | .error broken => .error (.invalid broken)
    | .ok () => .ok config

/-- Reads a configuration from what reading the file gave. -/
def load (path : String) (content : Except FileFault String) : Except Failure Config :=
  match content with
  | .error fault => .error (.unreadable path fault)
  | .ok text => parse text

end Warden.Config
