import Warden.Net.Ip
import Warden.Net.Punycode
import Warden.Text.Printable
import Warden.Text.Utf8

/-!
Hosts of resource locators: domains, internet addresses in their many spellings, opaque hosts.
-/

namespace Warden.Net

open Warden.Text

/-- Why a text is no absolute resource locator. -/
inductive UrlError
  | emptyHost
  | badDomain
  | badPort
  | badIpv4
  | badIpv6
  | badHostCharacter
  | noBase
deriving Repr, DecidableEq

/-- What a report says of it. -/
def UrlError.message : UrlError → String
  | .emptyHost => "empty host"
  | .badDomain => "invalid international domain name"
  | .badPort => "invalid port number"
  | .badIpv4 => "invalid IPv4 address"
  | .badIpv6 => "invalid IPv6 address"
  | .badHostCharacter => "invalid domain character"
  | .noBase => "relative URL without a base"

/-- The machine that a locator names. -/
inductive Host
  | domain (name : String)
  | ipv4 (value : Nat)
  | ipv6 (groups : List Nat)
deriving Repr, DecidableEq

namespace Host

/-- The host as the normal text of a locator has it. -/
def text : Host → String
  | .domain name => name
  | .ipv4 value =>
    -- The four octets of the number, from the highest.
    octetsText [value / 16777216 % 256, value / 65536 % 256, value / 256 % 256, value % 256]
  | .ipv6 groups => "[" ++ ipv6Text groups ++ "]"

/-- The parts of a text between dots. -/
def dotParts : List Char → List (List Char)
  | [] => [[]]
  | c :: rest =>
    if c = '.' then [] :: dotParts rest
    else
      match dotParts rest with
      | [] => [[c]]
      | part :: others => (c :: part) :: others

/-- What a part of a numeric host denotes: a number in base sixteen, eight or ten. -/
inductive NumericPart
  | value (n : Nat)
  | tooLarge
  | notNumeric

/-- A part that begins with zero is read in base eight, or sixteen where an x follows. -/
def numericPart (part : List Char) : NumericPart :=
  let read := fun (base : Nat) (digits : List Char) =>
    if digits.isEmpty then NumericPart.value 0
    -- The mark alone counts as zero.
    else
      match readNat? base digits with
      | none => .notNumeric
      | some n => if n < 4294967296 then .value n else .tooLarge
  match part with
  | [] => .notNumeric
  | '0' :: 'x' :: rest => read 16 rest
  | '0' :: 'X' :: rest => read 16 rest
  | '0' :: d :: rest => read 8 (d :: rest)
  | part => read 10 part

/-- Whether the last part, an empty one at the end aside, is a number. -/
def endsInNumber (domain : List Char) : Bool :=
  let parts := (dotParts domain).reverse
  -- A dot at the end leaves an empty part, which is passed over once.
  let last? :=
    match parts with
    | [] :: last :: _ => some last
    | [[]] => none
    | last :: _ => some last
    | [] => none
  match last? with
  | none => false
  | some last =>
    -- Digits alone count even where they are no number of their base.
    (!last.isEmpty && last.all (isDigit 10)) ||
      match numericPart last with
      | .notNumeric => false
      | _ => true

/-- The numbers of the parts, if every part is one. -/
def numericParts : List (List Char) → Option (List Nat)
  | [] => some []
  | part :: rest =>
    match numericPart part, numericParts rest with
    | .value n, some ns => some (n :: ns)
    | _, _ => none

/-- Up to four numbers: all but the last are octets, the last fills the rest of the address. -/
def parseIpv4 (domain : List Char) : Except UrlError Host :=
  let parts := dotParts domain
  -- The empty part behind a last dot is no part of the address.
  let parts := if parts.getLast? = some [] then parts.dropLast else parts
  if 4 < parts.length then .error .badIpv4
  else
    match numericParts parts with
    | none => .error .badIpv4
    | some numbers =>
      match numbers.reverse with
      | [] => .error .badIpv4
      | last :: front =>
        let front := front.reverse
        -- The last number fills all the places that the octets before it have left.
        if 1 <<< (8 * (4 - front.length)) ≤ last ∨ front.any (255 < ·) then .error .badIpv4
        else
          let high := front.zipIdx.foldl (fun high (n, i) => high + n <<< (8 * (3 - i))) 0
          .ok (.ipv4 (high + last))

/-- Octets of the embedded form: no leading zeros, each at most 255, exactly four, nothing after. -/
def embeddedOctets (text : List Char) : Option (List Nat) :=
  match readOctets text with
  | some (octets, []) => some (groupsOfOctets octets)
  | _ => none

/-- The groups of a bracketed address from a group boundary on, with the place of the double colon
if met. -/
def bracketGroups : Nat → List Char → List Nat → Option Nat → Option (List Nat × Option Nat)
  | 0, _, _, _ => none
  | _ + 1, [], groups, gap => some (groups, gap)
  | fuel + 1, ':' :: rest, groups, gap =>
    -- There is one double colon at most, and none behind the eighth group.
    if groups.length = 8 ∨ gap.isSome then none
    else bracketGroups fuel rest groups (some groups.length)
  | fuel + 1, text, groups, gap =>
    let digits := (text.take 4).takeWhile (isDigit 16)
    let rest := text.drop digits.length
    -- The double colon stands for at least one group.
    let room := if gap.isSome then 7 else 8
    if room ≤ groups.length then none
    else
      let value := (foldDigits? 16 0 digits).getD 0
      match rest with
      | '.' :: _ =>
        -- Four octets take the place of the last two groups.
        if digits.isEmpty ∨ room < groups.length + 2 then none
        else (embeddedOctets text).map fun pair => (groups ++ pair, gap)
      | [':'] => none
      | ':' :: rest => bracketGroups fuel rest (groups ++ [value]) gap
      | [] => some (groups ++ [value], gap)
      | _ => none

/-- The address between brackets. -/
def parseIpv6 (text : List Char) : Except UrlError Host :=
  -- A single colon does not begin an address.
  let start :=
    match text with
    | ':' :: ':' :: rest => some (rest, some 0)
    | ':' :: _ => none
    | [] => none
    | [_] => none
    | text => some (text, none)
  match start with
  | none => .error .badIpv6
  | some (text, gap) =>
    match bracketGroups (text.length + 1) text [] gap with
    | none => .error .badIpv6
    | some (groups, none) => if groups.length = 8 then .ok (.ipv6 groups) else .error .badIpv6
    | some (groups, some gap) =>
      -- Zeros are filled in where the double colon stood, until there are eight groups.
      if 8 < groups.length then .error .badIpv6
      else .ok (.ipv6
        (groups.take gap ++ List.replicate (8 - groups.length) 0 ++ groups.drop gap))

/-- The bytes of a text in which `%` and two digits stand for a byte. -/
def percentDecode : List UInt8 → List UInt8
  | 0x25 :: high :: low :: rest =>
    match digit? 16 (Char.ofNat high.toNat), digit? 16 (Char.ofNat low.toNat) with
    | some h, some l => UInt8.ofNat (16 * h + l) :: percentDecode rest
    -- What is no byte in this form stands for itself.
    | _, _ => 0x25 :: percentDecode (high :: low :: rest)
  | b :: rest => b :: percentDecode rest
  | [] => []

/-- Characters that no domain holds: controls, the space and the marks of a locator. -/
def forbiddenInDomain (c : Char) : Bool :=
  c.toNat ≤ 0x20 || c.toNat == 0x7f || "%#/:<>?@[\\]^|".toList.contains c

/-- The character that a character of a domain stands for; some stand for none. Of the mapping for
international names this is a part: the capitals of Latin-1, Greek and Cyrillic, the wide forms, and
the marks, dots and blanks that are named here. Any other character stands for itself. -/
def foldCharacter (c : Char) : List Char :=
  let n := c.toNat
  -- What is left out, dots, wide forms and blanks come first; then the letters that have two cases.
  if n = 0xad ∨ n = 0x200b ∨ n = 0x2060 ∨ n = 0xfeff ∨ (0xfe00 ≤ n ∧ n ≤ 0xfe0f) then []
  else if n = 0x3002 ∨ n = 0xff0e ∨ n = 0xff61 then ['.']
  else if 0xff01 ≤ n ∧ n ≤ 0xff5e then [(Char.ofNat (n - 0xfee0)).toLower]
  else if n = 0xa0 ∨ n = 0x3000 ∨ (0x2000 ≤ n ∧ n ≤ 0x200a) then [' ']
  else if 0xc0 ≤ n ∧ n ≤ 0xde ∧ n ≠ 0xd7 then [Char.ofNat (n + 32)]
  else if 0x391 ≤ n ∧ n ≤ 0x3a9 ∧ n ≠ 0x3a2 then [Char.ofNat (n + 32)]
  else if 0x410 ≤ n ∧ n ≤ 0x42f then [Char.ofNat (n + 32)]
  else if 0x400 ≤ n ∧ n ≤ 0x40f then [Char.ofNat (n + 80)]
  else [c.toLower]

/-- Whether a folded character may stand in a label. -/
def allowedInLabel (c : Char) : Bool :=
  if c.toNat < 128 then !forbiddenInDomain c else !inRanges unprintableRanges c

/-- The ASCII form of a label. -/
def asciiLabel (label : List Char) : Option (List Char) :=
  match label with
  | 'x' :: 'n' :: '-' :: '-' :: rest =>
    match Punycode.decode rest with
    | none => none
    | some shown =>
      -- A label that came encoded has to be what its decoding would be encoded as.
      if label.any (127 < ·.toNat) || shown.all (·.toNat < 128) || !shown.all allowedInLabel ||
          (shown.head?.any (inRanges extenderRanges)) ||
            shown.flatMap foldCharacter != shown then none
      else some label
  | _ =>
    if !label.all allowedInLabel then none
    else if label.all (·.toNat < 128) then some label
    else if label.head?.any (inRanges extenderRanges) then none
    else some ("xn--".toList ++ Punycode.encode label)

/-- The ASCII form of a domain, label by label. -/
def asciiDomain (domain : List Char) : Option (List Char) :=
  let parts := dotParts (domain.flatMap foldCharacter)
  (parts.mapM asciiLabel).map fun labels => ['.'].intercalate labels

/-- A host of a scheme that knows domains. -/
def parse (text : List Char) : Except UrlError Host :=
  match text with
  | '[' :: rest =>
    if text.getLast? = some ']' then parseIpv6 rest.dropLast else .error .badIpv6
  -- What is no address between brackets is a domain, and its bytes may be written by number.
  | _ =>
    match String.fromUTF8? ⟨(percentDecode (utf8 text)).toArray⟩ with
    | none => .error .badDomain
    | some decoded =>
      match asciiDomain decoded.toList with
      | none => .error .badDomain
      | some [] => .error .emptyHost
      | some name =>
        -- A domain whose last part is a number has to be an address.
        if endsInNumber name then parseIpv4 name else .ok (.domain (String.ofList name))

/-- A percent sign and the two digits of a byte. -/
def percentByte (b : UInt8) : List Char :=
  ['%', (Nat.digitChar (b.toNat / 16)).toUpper, (Nat.digitChar (b.toNat % 16)).toUpper]

/-- The text with the bytes of some characters written by their number. -/
def percentEncode (special : Char → Bool) (text : List Char) : List Char :=
  text.flatMap fun c => if special c || 127 ≤ c.toNat || c.toNat < 32
    then (String.utf8EncodeChar c).flatMap percentByte else [c]

/-- A host of any other scheme is kept as it is. -/
def parseOpaque (text : List Char) : Except UrlError Host :=
  match text with
  | '[' :: rest =>
    if text.getLast? = some ']' then parseIpv6 rest.dropLast else .error .badIpv6
  | _ =>
    if text.any fun c => c.toNat == 0 || "\t\n\r #/:<>?@[\\]^|".toList.contains c then
      .error .badHostCharacter
    else .ok (.domain (String.ofList (percentEncode (fun _ => false) text)))

end Host

end Warden.Net
