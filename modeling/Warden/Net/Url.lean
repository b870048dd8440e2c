import Warden.Net.Host

/-! Absolute resource locators: reading them as browsers do, and their normal text. -/

namespace Warden.Net

open Warden.Text

/-- An absolute resource locator in its normal form. -/
structure Url where
  scheme : String
  /-- User name and password, already written with their marks. -/
  credentials : String
  host : Option Host
  port : Option Nat
  /-- Path, query and fragment with their marks. -/
  rest : String
deriving Repr, DecidableEq

namespace Url

/-- How a scheme treats what follows it. -/
inductive SchemeKind
  | special
  | file
  | plain
deriving DecidableEq

/-- Schemes that know domains, that of files, and all others. -/
def schemeKind (scheme : String) : SchemeKind :=
  if ["http", "https", "ws", "wss", "ftp"].contains scheme then .special
  else if scheme = "file" then .file
  else .plain

/-- The port that a scheme has by itself. -/
def defaultPort? (scheme : String) : Option Nat :=
  if scheme = "http" ∨ scheme = "ws" then some 80
  else if scheme = "https" ∨ scheme = "wss" then some 443
  else if scheme = "ftp" then some 21
  else none

/-- Controls and spaces at both ends, tabs and line ends anywhere are no part of a locator. -/
def strip (text : List Char) : List Char :=
  let outer := fun (c : Char) => c.toNat ≤ 0x20
  let trimmed := ((text.dropWhile outer).reverse.dropWhile outer).reverse
  trimmed.filter fun c => c ≠ '\t' ∧ c ≠ '\n' ∧ c ≠ '\r'

/-- The scheme in lower case and what follows its colon. -/
def splitScheme (text : List Char) : Option (String × List Char) :=
  let inScheme := fun (c : Char) => c.isAlphanum || c == '+' || c == '-' || c == '.'
  match text with
  | [] => none
  | c :: _ =>
    if c.isAlpha then
      match text.dropWhile inScheme with
      | ':' :: rest => some (String.ofList ((text.takeWhile inScheme).map Char.toLower), rest)
      | _ => none
    else none

/-- The characters that end the part of a locator in which user and host stand. -/
def endsAuthority (kind : SchemeKind) (c : Char) : Bool :=
  c == '/' || c == '?' || c == '#' || (c == '\\' && kind != .plain)

/-- What is escaped in a user name or a password. -/
def specialInUserinfo (c : Char) : Bool :=
  " \"#<>?`\x7b\x7d/:;=@[\\]^|".toList.contains c

/-- The written form of user name and password. -/
def writeUserinfo (info : List Char) : String :=
  let user := info.takeWhile (· != ':')
  let password := info.drop (user.length + 1)
  let encode := fun (part : List Char) => String.ofList (Host.percentEncode specialInUserinfo part)
  if user.isEmpty ∧ password.isEmpty then ""
  else encode user ++ (if password.isEmpty then "" else ":" ++ encode password) ++ "@"

/-- The host part: up to a colon outside brackets or an end mark. -/
def splitHost (kind : SchemeKind) : Bool → List Char → List Char × List Char
  | _, [] => ([], [])
  | bracketed, c :: rest =>
    -- A colon between brackets is part of the host.
    if (c == ':' && !bracketed) || endsAuthority kind c then ([], c :: rest)
    else
      let bracketed := if c == '[' then true else if c == ']' then false else bracketed
      let (host, after) := splitHost kind bracketed rest
      (c :: host, after)

/-- Reads the port after a colon; the scheme's own port is left out. -/
def parsePort (scheme : String) (text : List Char) :
    Except UrlError (Option Nat × List Char) :=
  let digits := text.takeWhile (isDigit 10)
  let rest := text.drop digits.length
  let port := (foldDigits? 10 0 digits).getD 0
  if 65535 < port then .error .badPort
  else if rest.head?.any fun c => !("/\\?#".toList.contains c) then .error .badPort
  -- A port that the scheme has anyway is not kept.
  else if digits.isEmpty ∨ defaultPort? scheme = some port then .ok (none, rest)
  else .ok (some port, rest)

/-- What is escaped in a path. -/
def specialInPath (c : Char) : Bool := " \"#<>?`\x7b\x7d".toList.contains c

/-- What is escaped in a query. -/
def specialInQuery (c : Char) : Bool := " \"#<>'".toList.contains c

/-- What is escaped in a fragment. -/
def specialInFragment (c : Char) : Bool := " \"<>`".toList.contains c

/-- Whether a segment stands for its own directory. -/
def isSingleDot (segment : String) : Bool :=
  [".", "%2e"].contains segment.toLower

/-- Whether a segment stands for the directory above. -/
def isDoubleDot (segment : String) : Bool :=
  ["..", ".%2e", "%2e.", "%2e%2e"].contains segment.toLower

/-- The segments of a path after dots have been followed; `done` holds those before, last first. -/
def walkSegments : List String → List String → List String
  | done, [] => done.reverse
  | done, segment :: rest =>
    -- Behind dots at the end an empty segment is left, so that the path ends with a separator.
    let closing := if rest.isEmpty then [""] else []
    if isDoubleDot segment then walkSegments (closing ++ done.drop 1) rest
    else if isSingleDot segment then walkSegments (closing ++ done) rest
    else walkSegments (segment :: done) rest

/-- The parts of a path between its separators. -/
def splitSegments (kind : SchemeKind) : List Char → List (List Char)
  | [] => [[]]
  | c :: rest =>
    if c = '/' ∨ (c = '\\' ∧ kind ≠ .plain) then [] :: splitSegments kind rest
    else
      match splitSegments kind rest with
      | [] => [[c]]
      | part :: others => (c :: part) :: others

/-- The normal path of a locator with a host. -/
def writePath (kind : SchemeKind) (path : List Char) : String :=
  let body :=
    -- A path has one leading separator, whether it was written or not.
    match path with
    | '/' :: rest => some rest
    | '\\' :: rest => if kind = .plain then some path else some rest
    | [] => if kind = .plain then none else some []
    | path => some path
  match body with
  | none => ""
  | some body =>
    let segments := (splitSegments kind body).map fun part =>
      String.ofList (Host.percentEncode specialInPath part)
    "/" ++ "/".intercalate (walkSegments [] segments)

/-- Query and fragment with their marks. -/
def writeTail (text : List Char) : String :=
  let query := text.takeWhile (· != '#')
  let fragment := text.drop query.length
  String.ofList (Host.percentEncode specialInQuery query) ++
    (match fragment with
    | '#' :: rest => "#" ++ String.ofList (Host.percentEncode specialInFragment rest)
    | _ => "")

/-- Everything from the path on. -/
def writeRest (kind : SchemeKind) (text : List Char) : String :=
  let path := text.takeWhile fun c => c ≠ '?' ∧ c ≠ '#'
  writePath kind path ++ writeTail (text.drop path.length)

/-- What follows the two slashes of a scheme with a host. -/
def parseAuthority (scheme : String) (text : List Char) : Except UrlError Url :=
  let kind := schemeKind scheme
  let authority := text.takeWhile (!endsAuthority kind ·)
  let after := text.drop authority.length
  -- The last at-sign separates user and host; those before it belong to the user.
  let hostPort := (authority.reverse.takeWhile (· != '@')).reverse
  let named := hostPort.length < authority.length
  let info := authority.take (authority.length - hostPort.length - 1)
  if named ∧ info.isEmpty ∧ hostPort.isEmpty ∧ !after.isEmpty then .error .emptyHost
  else
    let credentials := writeUserinfo info
    -- The host may end before the end mark, at the colon of a port.
    let (hostText, rest) := splitHost kind false (hostPort ++ after)
    if kind = .special ∧ hostText.isEmpty then .error .emptyHost
    else do
      let host ← if kind = .special then Host.parse hostText else Host.parseOpaque hostText
      let (port, rest) ←
        match rest with
        | ':' :: rest =>
          -- A port needs a host.
          if host = .domain "" then .error .emptyHost else parsePort scheme rest
        | rest => .ok (none, rest)
      if host = .domain "" ∧ credentials ≠ "" then .error .emptyHost
      else
        return {
          scheme, credentials, port
          host := some host
          rest := writeRest kind rest }

/-- Whether the text after two slashes is a drive and no host. -/
def isDrive : List Char → Bool
  | [letter, mark] => letter.isAlpha && (mark == ':' || mark == '|')
  | _ => false

/-- What follows the colon of the file scheme. -/
def parseFile (text : List Char) : Except UrlError Url :=
  let slash := fun (c : Char) => c == '/' || c == '\\'
  match text with
  | a :: b :: rest =>
    if slash a && slash b then
      let hostText := rest.takeWhile (!endsAuthority .file ·)
      let after := rest.drop hostText.length
      if hostText.isEmpty || isDrive hostText then
        -- A drive is part of the path.
        .ok ⟨"file", "", none, none, writeRest .file (if isDrive hostText then rest else after)⟩
      else do
        let host ← Host.parse hostText
        -- The machine itself is no host in this scheme.
        return ⟨"file", "", if host = .domain "localhost" then none else some host, none,
          writeRest .file after⟩
    else .ok ⟨"file", "", none, none, writeRest .file text⟩
  | text => .ok ⟨"file", "", none, none, writeRest .file text⟩

/-- Reads an absolute locator. -/
def parse (text : String) : Except UrlError Url :=
  match splitScheme (strip text.toList) with
  | none => .error .noBase
  | some (scheme, rest) =>
    match schemeKind scheme with
    -- Any number of slashes may stand behind such a scheme.
    | .special => parseAuthority scheme (rest.dropWhile fun c => c == '/' || c == '\\')
    | .file => parseFile rest
    | .plain =>
      match rest with
      | '/' :: '/' :: rest => parseAuthority scheme rest
      | '/' :: _ => .ok ⟨scheme, "", none, none, writeRest .plain rest⟩
      -- Without a slash the rest is kept as it is, but for the characters that have to be escaped.
      | rest => .ok ⟨scheme, "", none, none,
          String.ofList (Host.percentEncode (fun _ => false) rest)⟩

/-- Whether the text is an absolute locator. -/
def isValid (text : String) : Bool :=
  (parse text).toOption.isSome

/-- The normal text. -/
def text (url : Url) : String :=
  let port := match url.port with
    | none => ""
    | some port => ":" ++ toString port
  let authority := match url.host with
    | none => if url.scheme = "file" then "//" else ""
    | some host => "//" ++ url.credentials ++ host.text ++ port
  url.scheme ++ ":" ++ authority ++ url.rest

end Url

end Warden.Net
