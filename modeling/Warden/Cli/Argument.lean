import Warden.Config.Basic
import Warden.Text.Likeness

/-! The command line: the options that the program takes, and what the arguments ask for. -/

namespace Warden.Cli

/-- The options. -/
inductive Flag
  | config
  | name
  | help
  | version
deriving Repr, DecidableEq, Inhabited

namespace Flag

/-- The options in the order in which the help lists them. -/
def all : List Flag := [.config, .name, .help, .version]

/-- The name of an option behind two dashes. -/
def long : Flag → String
  | .config => "config"
  | .name => "name"
  | .help => "help"
  | .version => "version"

/-- The letter of an option behind one dash. -/
def short : Flag → Char
  | .config => 'c'
  | .name => 'n'
  | .help => 'h'
  | .version => 'V'

/-- What an option's value is called, if it takes one. -/
def value? : Flag → Option String
  | .config => some "CONFIG"
  | .name => some "NAME"
  | .help | .version => none

/-- The option with its value, as usage and messages show it. -/
def text (flag : Flag) : String :=
  "--" ++ flag.long ++ (flag.value?.elim "" fun value => " <" ++ value ++ ">")

/-- The option with this long name. -/
def ofLong? (name : String) : Option Flag :=
  all.find? (·.long == name)

/-- The option with this letter. -/
def ofShort? (c : Char) : Option Flag :=
  all.find? (·.short == c)

/-- The option whose name is most like a name that no option has. -/
def closest? (name : String) : Option Flag :=
  Text.closest? (·.long.toList) name.toList all

end Flag

/-- What is wrong with the arguments; `used` are the options that the usage then shows. -/
inductive Fault
  | unexpected (argument : String) (similar : Option Flag) (used : List Flag)
  | surplus (value : String) (flag : Flag) (used : List Flag)
  | valueMissing (flag : Flag)
  | repeated (flag : Flag)
deriving Repr, DecidableEq

/-- Why the reading of arguments ends before the last of them. -/
inductive Interruption
  | help
  | version
  | fault (fault : Fault)
deriving Repr, DecidableEq

/-- How far the reading has come: the options given so far in order, and one that may still wait for
its value. -/
structure Progress where
  given : List (Flag × String) := []
  pending : Option (Flag × Option String) := none
deriving Repr, DecidableEq

namespace Progress

/-- Enters an option: it needs a value, may be given once, and a path may not be empty. -/
def enter (flag : Flag) (value : Option String) (p : Progress) : Option Fault × Progress :=
  match value with
  | none => (some (.valueMissing flag), p)
  | some text =>
    if p.given.any (·.1 == flag) then
      -- Where this fault is passed over, the usage shows the other options only.
      (some (.repeated flag), { p with given := p.given.filter (·.1 != flag) })
    else
      (if flag = .config ∧ text.isEmpty then some (.valueMissing flag) else none,
        { p with given := p.given ++ [(flag, text)] })

/-- Enters the option that is pending, if there is one. -/
def settle (p : Progress) : Option Fault × Progress :=
  match p.pending with
  | none => (none, p)
  | some (flag, value) => enter flag value { p with pending := none }

/-- Settles, so that a fault of the pending option comes first. -/
def settled (p : Progress) : Except Interruption Progress :=
  match p.settle with
  | (some fault, _) => .error (.fault fault)
  | (none, p) => .ok p

/-- Enters an option with the value that is attached to it. -/
def take (flag : Flag) (value : String) (p : Progress) : Except Interruption Progress :=
  match p.settled with
  | .error stop => .error stop
  | .ok p =>
    match p.enter flag (some value) with
    | (some fault, _) => .error (.fault fault)
    | (none, p) => .ok p

/-- Leaves an option pending until its value comes. -/
def await (flag : Flag) (p : Progress) : Except Interruption Progress :=
  match p.settled with
  | .error stop => .error stop
  | .ok p => .ok { p with pending := some (flag, none) }

/-- Does what an option without a value asks for, unless the pending one is at fault. -/
def obey (stop : Interruption) (p : Progress) : Except Interruption Progress :=
  match p.settled with
  | .error fault => .error fault
  | .ok _ => .error stop

/-- What an option without a value asks for. -/
def demand? : Flag → Option Interruption
  | .help => some .help
  | .version => some .version
  | .config | .name => none

/-- The options given so far with one more, each once. -/
def used (p : Progress) (more : Option Flag) : List Flag :=
  let flags := p.given.map (·.1)
  flags ++ more.toList.filter (!flags.contains ·)

/-- The fault that an argument is not known; a fault of the pending option is then passed over. -/
def unknown (argument : String) : Except Interruption Progress :=
  .error (.fault (.unexpected argument none []))

/-- Reads an option by its long name, perhaps with a value attached. -/
def readLong (name : String) (value : Option String) (p : Progress) :
    Except Interruption Progress :=
  match Flag.ofLong? name with
  | none =>
    -- The pending option is entered only to be shown in the usage; a fault of it is passed over.
    let similar := Flag.closest? name
    .error (.fault (.unexpected ("--" ++ name) similar (p.settle.2.used similar)))
  | some flag =>
    match demand? flag, value with
    | none, some text => p.take flag text
    | none, none => p.await flag
    | some stop, none => p.obey stop
    | some _, some text => .error (.fault (.surplus text flag (p.used (some flag))))

/-- Reads options by their letters; what stands behind the letter of one that takes a value is its
value. -/
def readShort : List Char → Progress → Except Interruption Progress
  | [], p => .ok p
  | c :: rest, p =>
    match Flag.ofShort? c with
    | none => unknown (String.ofList ['-', c])
    | some flag =>
      match demand? flag, rest with
      | some stop, _ => p.obey stop
      | none, [] => p.await flag
      -- An equals sign right behind the letter is not part of the value.
      | none, '=' :: value => p.take flag (String.ofList value)
      | none, value => p.take flag (String.ofList value)

/-- Reads an argument that is no option: the value that is waited for, if one is. -/
def readWord (word : String) (p : Progress) : Except Interruption Progress :=
  match p.pending with
  | some (flag, none) => .ok { p with pending := some (flag, some word) }
  | _ => unknown word

/-- Reads one argument. -/
def readOne (argument : String) (p : Progress) : Except Interruption Progress :=
  match argument.toList with
  | '-' :: '-' :: body =>
    let name := body.takeWhile (· != '=')
    let value := (body.drop name.length).tail
    p.readLong (String.ofList name)
      (if name.length < body.length then some (String.ofList value) else none)
  | '-' :: c :: rest => p.readShort (c :: rest)
  | _ => p.readWord argument

/-- Reads arguments; after two dashes there are only words, and nobody waits for them. -/
def readAll : List String → Progress → Except Interruption Progress
  | [], p => p.settled
  | argument :: rest, p =>
    if argument = "--" then
      match rest with
      | [] => p.settled
      | word :: _ => unknown word
    else
      match p.readOne argument with
      | .error stop => .error stop
      | .ok p => readAll rest p

/-- The value that an option was given. -/
def value? (flag : Flag) (p : Progress) : Option String :=
  (p.given.find? (·.1 == flag)).map (·.2)

end Progress

/-- What the program is to run. -/
structure Order where
  path : String
  name : String
deriving Repr, DecidableEq

/-- The name of a container that is given none. -/
def defaultName : String := "node-supervisor"

/-- What the arguments ask for; a path that is not given is the one that the environment names. -/
def order (named : Option String) (arguments : List String) : Except Interruption Order :=
  match Progress.readAll arguments {} with
  | .error stop => .error stop
  | .ok p =>
    let name := (p.value? .name).getD defaultName
    match p.value? .config with
    | some path => .ok ⟨path, name⟩
    | none =>
      let path := Config.pathFrom named
      if path.isEmpty then .error (.fault (.valueMissing .config)) else .ok ⟨path, name⟩

end Warden.Cli
