import Warden.Text.Blank
import Warden.Text.Digits

/-! Log levels: what a level lets through, and the names by which it may be asked for. -/

namespace Warden.Log

/-- How weighty a message is. -/
inductive Severity
  | error
  | warn
  | info
  | debug
  | trace
deriving Repr, DecidableEq, Inhabited

/-- How much is let through; each level lets through all that the one before does. -/
inductive Level
  | off
  | error
  | warn
  | info
  | debug
  | trace
deriving Repr, DecidableEq, Inhabited

/-- The name of a severity as the log shows it. -/
def Severity.name : Severity → String
  | .error => "ERROR"
  | .warn => "WARN"
  | .info => "INFO"
  | .debug => "DEBUG"
  | .trace => "TRACE"

/-- The severities, weightiest first. -/
def Severity.all : List Severity := [.error, .warn, .info, .debug, .trace]

/-- The weightiest severity has the lowest rank. -/
def Severity.rank : Severity → Nat
  | .error => 1
  | .warn => 2
  | .info => 3
  | .debug => 4
  | .trace => 5

namespace Level

/-- The levels in order. -/
def all : List Level := [.off, .error, .warn, .info, .debug, .trace]

/-- The name of a level. -/
def name : Level → String
  | .off => "off"
  | .error => "error"
  | .warn => "warn"
  | .info => "info"
  | .debug => "debug"
  | .trace => "trace"

/-- The highest rank that is let through. -/
def rank : Level → Nat
  | .off => 0
  | .error => 1
  | .warn => 2
  | .info => 3
  | .debug => 4
  | .trace => 5

/-- The level of a rank. -/
def ofRank? : Nat → Option Level
  | 0 => some .off
  | 1 => some .error
  | 2 => some .warn
  | 3 => some .info
  | 4 => some .debug
  | 5 => some .trace
  | _ => none

/-- Whether a level lets a severity through. -/
def allows (level : Level) (severity : Severity) : Bool :=
  decide (severity.rank ≤ level.rank)

/-- The severities that a level lets through. -/
def allowed (level : Level) : List Severity :=
  Severity.all.filter level.allows

/-- A decimal number, with an optional plus sign and leading zeros. -/
def number? (text : List Char) : Option Nat :=
  match text with
  | '+' :: digits => Text.readNat? 10 digits
  | digits => Text.readNat? 10 digits

/-- A level by its own name in lower case or by its number; the empty name asks for errors. -/
def bare? (name : List Char) : Option Level :=
  if name = [] then some .error
  -- Names go before numbers; a number beyond the last rank names no level.
  else match all.find? (·.name.toList == name) with
    | some level => some level
    | none => (number? name).bind ofRank?

/-- A level by any of its names in lower case. -/
def named? (name : List Char) : Option Level :=
  -- These are names of other programs for levels that have their own here.
  if name = "warning".toList then some .warn
  else if name = "fatal".toList ∨ name = "panic".toList then some .error
  else bare? name

/-- A level by name or number, in any letter case and with blanks around it. -/
def parse? (text : String) : Option Level :=
  named? ((Text.trim text.toList).map Char.toLower)

end Level

/-- The message about a text that names no level. -/
def invalidLevel (text : String) : String :=
  "invalid log level '" ++ text ++ "'"

/-- The message when the log is set up a second time. -/
def alreadyInstalled : String := "global subscriber already installed"

/-- The filter of a program's log. -/
structure Filter where
  level : Level
deriving Repr, DecidableEq, Inhabited

/-- What a record shows of a filter. -/
def Filter.text : String := "LogHandle \x7b .. \x7d"

/-- Sets the level by name; a text that names none leaves the filter and is given back. -/
def Filter.setLevel (filter : Filter) (text : String) : Except String Unit × Filter :=
  match Level.parse? text with
  | some level => (.ok (), ⟨level⟩)
  | none => (.error text, filter)

end Warden.Log
