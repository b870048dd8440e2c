import Warden.Text.Digits

/-! Punycode: the writing of a label with any characters in letters, digits and hyphens. -/

namespace Warden.Net.Punycode

/-- The bias after an insertion point has moved. -/
def adapt (delta points : Nat) (first : Bool) : Nat :=
  let delta := if first then delta / 700 else delta / 2
  let delta := delta + delta / points
  -- Each division leaves less, so four of them bring every delta below 2 ^ 32 under the limit.
  let rec reduce : Nat → Nat → Nat → Nat
    | 0, k, delta => k + 36 * delta / (delta + 38)
    | fuel + 1, k, delta =>
      if 455 < delta then reduce fuel (k + 36) (delta / 35) else k + 36 * delta / (delta + 38)
  reduce 8 0 delta

/-- The least digit that may end a number at this place. -/
def threshold (k bias : Nat) : Nat :=
  if k ≤ bias then 1 else if bias + 26 ≤ k then 26 else k - bias

/-- The value of a digit: letters come before numerals. -/
def digit? (c : Char) : Option Nat :=
  if 'a' ≤ c ∧ c ≤ 'z' then some (c.toNat - 'a'.toNat)
  else if 'A' ≤ c ∧ c ≤ 'Z' then some (c.toNat - 'A'.toNat)
  else if '0' ≤ c ∧ c ≤ '9' then some (c.toNat - '0'.toNat + 26)
  else none

/-- The character of a digit. -/
def digitChar (n : Nat) : Char :=
  if n < 26 then Char.ofNat ('a'.toNat + n) else Char.ofNat ('0'.toNat + (n - 26))

/-- Reads one variable-length number, giving it and what is left. -/
def readDelta (bias : Nat) : Nat → Nat → Nat → List Char → Option (Nat × List Char)
  | _, _, _, [] => none
  | k, weight, sum, c :: rest =>
    match digit? c with
    | none => none
    | some d =>
      -- Each digit weighs as much as all thresholds before it allow.
      let sum := sum + d * weight
      let t := threshold k bias
      if 4294967295 < sum then none
      else if d < t then some (sum, rest)
      else readDelta bias (k + 36) (weight * (36 - t)) sum rest

/-- Inserts the characters that the deltas describe; each delta takes at least one character of the
text. -/
def insertAll : Nat → Nat → Nat → Nat → Bool → List Char → List Char → Option (List Char)
  | 0, _, _, _, _, _, _ => none
  | fuel + 1, point, position, bias, first, output, text =>
    if text.isEmpty then some output
    else
      match readDelta bias 36 1 0 text with
      | none => none
      | some (delta, rest) =>
        -- The delta counts places in the label that is being built, round after round.
        let size := output.length + 1
        let total := position + delta
        let point := point + total / size
        let position := total % size
        if 0x10ffff < point ∨ (0xd800 ≤ point ∧ point < 0xe000) then none
        else
          let output := output.take position ++ [Char.ofNat point] ++ output.drop position
          insertAll fuel point (position + 1) (adapt delta size first) false output rest

/-- The label that a text stands for. -/
def decode (text : List Char) : Option (List Char) :=
  let tail := (text.reverse.takeWhile (· != '-')).reverse
  -- What stands before the last hyphen are the characters that need no encoding.
  let basic := if tail.length = text.length then [] else text.take (text.length - tail.length - 1)
  if basic.any (127 < ·.toNat) then none
  else insertAll (text.length + 1) 128 0 72 true basic tail

/-- The digits of one number, least significant first. -/
def writeDelta (bias : Nat) : Nat → Nat → Nat → List Char
  | 0, _, _ => []
  | fuel + 1, k, delta =>
    let t := threshold k bias
    if delta < t then [digitChar delta]
    -- A digit at or above the threshold says that more follow.
    else digitChar (t + (delta - t) % (36 - t)) ::
      writeDelta bias fuel (k + 36) ((delta - t) / (36 - t))

/-- What is written for one pass over the label at the point `n`: state is delta, handled count,
bias. -/
def writePass (n basic : Nat) : List Char → Nat × Nat × Nat → List Char × (Nat × Nat × Nat)
  | [], state => ([], state)
  | c :: rest, (delta, handled, bias) =>
    if c.toNat < n then writePass n basic rest (delta + 1, handled, bias)
    else if c.toNat = n then
      let digits := writeDelta bias 16 36 delta
      -- The first insertion is damped more than the others.
      let bias := adapt delta (handled + 1) (handled == basic)
      let (more, state) := writePass n basic rest (0, handled + 1, bias)
      (digits ++ more, state)
    else writePass n basic rest (delta, handled, bias)

/-- The text for the characters from the point `n` on, in ascending order of the points in
`points`. -/
def writePoints (label : List Char) (basic : Nat) : List Nat → Nat → Nat × Nat × Nat → List Char
  | [], _, _ => []
  | m :: points, n, (delta, handled, bias) =>
    -- Passing from one point to the next skips all places of the label for each point between.
    let delta := delta + (m - n) * (handled + 1)
    let (text, (delta, handled, bias)) := writePass m basic label (delta, handled, bias)
    text ++ writePoints label basic points (m + 1) (delta + 1, handled, bias)

/-- The text that stands for a label. -/
def encode (label : List Char) : List Char :=
  let basic := label.filter (·.toNat < 128)
  -- Each point is passed once, whether the label has one such character or several.
  let points := ((label.map Char.toNat).filter (128 ≤ ·)).mergeSort.eraseDups
  (if basic.isEmpty then [] else basic ++ ['-']) ++
    writePoints label basic.length points 128 (0, basic.length, 72)

end Warden.Net.Punycode
