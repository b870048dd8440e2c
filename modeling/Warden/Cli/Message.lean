import Warden.Cli.Argument

/-!
The texts of the command line: its usage, its help, and what is said about arguments that are at
fault.
-/

namespace Warden.Cli

/-- The name under which the program is called. -/
def programName : String := "node-supervisor"

/-- The version that the program reports. -/
def programVersion : String := "0.1.0"

/-- The usage, with the options that are already in play or with all of them. -/
def usage (used : List Flag) : String :=
  "Usage: " ++ programName ++
    (if used.isEmpty then " [OPTIONS]" else String.join (used.map fun flag => " " ++ flag.text))

/-- What the program prints when it is asked for its version. -/
def versionText : String := programName ++ " " ++ programVersion ++ "\n"

/-- What an option is for. -/
def Flag.purpose (named : Option String) : Flag → String
  | .config =>
    "Path to the TOML config file [env: " ++ Config.pathVariable ++ "=" ++ named.getD "" ++
      "] [default: " ++ Config.defaultPath ++ "]"
  | .name => "Container name used in logs and the health endpoint [default: " ++ defaultName ++ "]"
  | .help => "Print help"
  | .version => "Print version"

/-- A text with blanks behind it up to a width. -/
def padRight (width : Nat) (text : String) : String :=
  text ++ String.ofList (List.replicate (width - text.length) ' ')

/-- The width of the column that shows the options. -/
def flagWidth : Nat := (Flag.all.map (·.text.length)).foldl max 0

/-- The line of the help about one option. -/
def Flag.line (named : Option String) (flag : Flag) : String :=
  "  -" ++ String.singleton flag.short ++ ", " ++ padRight flagWidth flag.text ++ "  " ++
    flag.purpose named

/-- The help, which shows what the environment says at the moment. -/
def helpText (named : Option String) : String :=
  String.join ((["Supervises a node container's services", "", usage [], "", "Options:"] ++
    Flag.all.map (·.line named)).map (· ++ "\n"))

namespace Fault

/-- What is wrong, and the usage where it helps. -/
def parts : Fault → List String
  | .unexpected argument similar used =>
    ["error: unexpected argument '" ++ argument ++ "' found"] ++
      (similar.toList.map fun flag => "  tip: a similar argument exists: '--" ++
        flag.long ++ "'") ++
      [usage used]
  | .surplus value flag used =>
    ["error: unexpected value '" ++ value ++ "' for '" ++ flag.text ++
      "' found; no more were expected", usage used]
  | .valueMissing flag =>
    ["error: a value is required for '" ++ flag.text ++ "' but none was supplied"]
  | .repeated flag =>
    ["error: the argument '" ++ flag.text ++ "' cannot be used multiple times", usage []]

/-- The whole message about arguments that are at fault. -/
def text (fault : Fault) : String :=
  "\n\n".intercalate (fault.parts ++ ["For more information, try '--help'."]) ++ "\n"

end Fault

end Warden.Cli
