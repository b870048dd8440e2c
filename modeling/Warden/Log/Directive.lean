import Warden.Log.Entry
import Warden.Text.Blank

/-!
Directives of the log: how much of which topics is let through, the most exact directive deciding.
-/

namespace Warden.Log

/-- How much is let through of the entries with a target, and perhaps with a certain field. -/
structure Directive where
  /-- The beginning of the paths; the empty one begins them all. -/
  target : String := ""
  field : Option String := none
  /-- Whether only entries within some named activity are meant; the program names none. -/
  nested : Bool := false
  level : Level
deriving Repr, DecidableEq

namespace Directive

/-- Whether a character can begin a target; those beyond ASCII count as letters. -/
def beginsTarget (c : Char) : Bool :=
  c.isAlphanum || c == '-' || c == ':' || c == '_' || decide (0x80 ≤ c.toNat)

/-- The level behind the equals sign; where nothing stands, all is let through. -/
def levelBehind? : List Char → Option Level
  | [] => some .trace
  | text => Level.bare? (text.map Char.toLower)

/-- What follows a closed bracket: nothing, or a level. -/
def afterBracket? : List Char → Option Level
  | [] => some .trace
  | '=' :: text => levelBehind? text
  | _ => none

/-- The rest of a directive from behind its bracket: the name of an activity, or a field that may
have a value. -/
def bracketed? (target : String) (text : List Char) : Option Directive :=
  -- An activity is named up to the bracket or brace that ends it.
  let name := text.takeWhile fun c => c != ']' && c != '\x7b'
  match text.drop name.length with
  | ']' :: rest => (afterBracket? rest).map fun level => { target, nested := true, level }
  | '\x7b' :: rest =>
    let field := rest.takeWhile (· != '\x7d')
    match field, rest.drop field.length with
    -- A field has a name, and both marks are closed.
    | _ :: _, '\x7d' :: ']' :: rest =>
      (afterBracket? rest).map fun level =>
        { target, field := some (String.ofList field),
          nested := !name.isEmpty || field.contains '=', level }
    | _, _ => none
  | _ => none

/-- A word by itself is a level, or a target of which all is let through. -/
def ofWord (word : List Char) : Directive :=
  match Level.bare? (word.map Char.toLower) with
  | some level => { level }
  | none => { target := String.ofList word, level := .trace }

/-- Reads a directive; with blanks around it a word can only be a target. -/
def parse? (text : List Char) : Option Directive :=
  let body := Text.trim text
  match body with
  -- Nothing is no directive, and blanks around one are borne only by a word.
  | [] => none
  | '[' :: rest => if body = text then bracketed? "" rest else none
  | c :: _ =>
    let word := body.takeWhile fun c => c != '=' && c != '['
    if !beginsTarget c then none
    else
      match body.drop word.length with
      | [] => some (ofWord text)
      | sign :: rest =>
        if body ≠ text then none
        else if sign = '[' then bracketed? (String.ofList word) rest
        -- Behind the equals sign stands the level of the target.
        else (levelBehind? rest).map fun level => { target := String.ofList word, level }

/-- Whether an entry is one of those that the directive is about. -/
def isAbout (directive : Directive) (entry : Entry) : Bool :=
  -- The message is a field of every entry.
  !directive.nested && directive.target.toList.isPrefixOf entry.topic.path.toList &&
    directive.field.all fun field => field == "message" || entry.fields.any (·.1 == field)

/-- Whether a directive is at least as exact as another: its target is longer, or it asks for more
of the fields. -/
def isAsExact (directive other : Directive) : Bool :=
  ((compare directive.target.utf8ByteSize other.target.utf8ByteSize).then
    (compare directive.field other.field)).isGE

end Directive

/-- The environment variable that holds the directives. -/
def directivesVariable : String := "RUST_LOG"

/-- The directives of a log. -/
abbrev Directives := List Directive

namespace Directives

/-- Everything is let through up to a level. -/
def upTo (level : Level) : Directives := [{ level }]

/-- The most exact of the directives that are about an entry; of equals the last. -/
def decider? (directives : Directives) (entry : Entry) : Option Directive :=
  directives.foldl (fun best directive =>
    -- A later directive takes the place of an earlier one that is no more exact.
    if directive.isAbout entry && best.all (directive.isAsExact ·) then some directive else best)
      none

/-- An entry about which no directive is stays out of the log. -/
def allow (directives : Directives) (entry : Entry) : Bool :=
  (directives.decider? entry).any (·.level.allows entry.severity)

/-- The directives between the commas of a text, all of them or none; without any, only errors are
let through. -/
def parse? (text : String) : Option Directives :=
  -- One directive that cannot be read spoils them all.
  match ((text.splitOn ",").filter (!·.isEmpty)).mapM (Directive.parse? ·.toList) with
  | none => none
  | some [] => some (upTo .error)
  | some directives => some directives

/-- The directives that the environment names; if there are none that can be read, the usual
ones. -/
def ofEnvironment (named : Option String) : Directives :=
  (named.bind parse?).getD (upTo .info)

end Directives

end Warden.Log
