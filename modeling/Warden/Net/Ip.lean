import Warden.Text.Digits

/-! Internet addresses of both versions: strict reading and canonical text. -/

namespace Warden.Net

open Warden.Text

/-- A reader of the front of a text; it gives a value and what is left. -/
abbrev Reader (α : Type) := List Char → Option (α × List Char)

/-- Reads one given character. -/
def readChar (c : Char) : Reader Unit
  | [] => none
  | d :: rest => if d = c then some ((), rest) else none

/-- Reads the longest front of digits as a number below `bound`. -/
def readNumber (base bound : Nat) : Reader Nat := fun text =>
  let digits := text.takeWhile (isDigit base)
  match readNat? base digits with
  | some n => if n < bound then some (n, text.drop digits.length) else none
  | none => none

/-- Reads at most `most` digits as a number below `bound`. -/
def readShortNumber (base bound most : Nat) : Reader Nat := fun text =>
  if most < (text.takeWhile (isDigit base)).length then none else readNumber base bound text

/-- An octet has up to three digits and no leading zero. -/
def readOctet : Reader Nat := fun text =>
  match text with
  | '0' :: d :: _ => if isDigit 10 d then none else readShortNumber 10 256 3 text
  | _ => readShortNumber 10 256 3 text

/-- The four octets of a version 4 address. -/
abbrev Octets := List Nat

/-- Reads four octets between dots. -/
def readOctets : Reader Octets := fun text => do
  let (a, text) ← readOctet text
  let ((), text) ← readChar '.' text
  let (b, text) ← readOctet text
  let ((), text) ← readChar '.' text
  let (c, text) ← readOctet text
  let ((), text) ← readChar '.' text
  let (d, text) ← readOctet text
  return ([a, b, c, d], text)

/-- Octets between dots. -/
def octetsText (octets : Octets) : String :=
  ".".intercalate (octets.map toString)

/-- The two groups that four octets fill. -/
def groupsOfOctets : Octets → List Nat
  | [a, b, c, d] => [a * 256 + b, c * 256 + d]
  | _ => []

/-- Reads up to `room` groups between colons; the last two may be written as four octets, which ends
the groups. -/
def readGroups : Nat → Bool → List Char → List Nat × Bool × List Char
  | 0, _, text => ([], false, text)
  | room + 1, first, text =>
    let start := if first then some text else (readChar ':' text).map (·.2)
    match start with
    | none => ([], false, text)
    -- Four octets need room for two groups.
    | some start =>
      match (if 0 < room then readOctets start else none) with
      | some (octets, rest) => (groupsOfOctets octets, true, rest)
      | none =>
        match readShortNumber 16 65536 4 start with
        | none => ([], false, text)
        | some (group, rest) =>
          let (groups, embedded, rest) := readGroups room false rest
          (group :: groups, embedded, rest)

/-- Reads a version 6 address: eight groups, or fewer around one double colon. -/
def readIpv6 : Reader (List Nat) := fun text =>
  let (head, embedded, rest) := readGroups 8 true text
  -- Eight groups leave nothing to be filled in, and octets end an address.
  if head.length = 8 then some (head, rest)
  else if embedded then none
  else do
    let ((), rest) ← readChar ':' rest
    let ((), rest) ← readChar ':' rest
    -- The double colon stands for at least one group.
    let (tail, _, rest) := readGroups (7 - head.length) true rest
    return (head ++ List.replicate (8 - head.length - tail.length) 0 ++ tail, rest)

/-- The longest run of zeros in the groups that begin at `index`, as its start and length. -/
def longestZeros : Nat → List Nat → Nat × Nat
  | _, [] => (0, 0)
  | index, group :: rest =>
    let here := ((group :: rest).takeWhile (· == 0)).length
    let (start, length) := longestZeros (index + 1) rest
    -- Of two runs of one length the first is chosen.
    if length ≤ here then (index, here) else (start, length)

/-- Groups between colons. -/
def groupsText (groups : List Nat) : String :=
  ":".intercalate (groups.map hexText)

/-- The canonical text: the longest run of two or more zeros is left out, and a mapped address ends
in octets. -/
def ipv6Text (groups : List Nat) : String :=
  -- A mapped address shows the octets that it maps.
  match groups with
  | [0, 0, 0, 0, 0, 65535, a, b] =>
    "::ffff:" ++ octetsText [a / 256, a % 256, b / 256, b % 256]
  | _ =>
    let (start, length) := longestZeros 0 groups
    if 1 < length then
      groupsText (groups.take start) ++ "::" ++ groupsText (groups.drop (start + length))
    else groupsText groups

end Warden.Net
