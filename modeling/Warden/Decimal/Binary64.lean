/-!
Double precision numbers as exact dyadic values: nearest value of a decimal and shortest decimal of
a value.
-/

namespace Warden.Decimal

/-- A double precision number; a finite one is `mantissa * 2 ^ exponent` up to its sign. -/
inductive Binary64
  | finite (negative : Bool) (mantissa : Nat) (exponent : Int)
  | infinite (negative : Bool)
  | nan
deriving Repr, DecidableEq, Inhabited

/-- The quotient rounded to the nearest whole number, a half to the even neighbour. -/
def roundDiv (num den : Nat) : Nat :=
  let whole := num / den
  let rest := num % den
  if 2 * rest < den then whole
  else if den < 2 * rest then whole + 1
  else if whole % 2 = 0 then whole else whole + 1

/-- The two sides of `num / den / 2 ^ exponent` as one fraction. -/
def scaled (num den : Nat) (exponent : Int) : Nat × Nat :=
  if 0 ≤ exponent then (num, den <<< exponent.toNat) else (num <<< (-exponent).toNat, den)

namespace Binary64

/-- The nearest double of the fraction, in the least exponent that leaves fifty-three bits. -/
def ofFraction (negative : Bool) (num den : Nat) : Binary64 :=
  if num = 0 then .finite negative 0 0
  else
    -- The guess is the exponent or one too large, as both logarithms are rounded down.
    let guess : Int := (Nat.log2 num : Int) - (Nat.log2 den : Int) - 52
    let (n, d) := scaled num den guess
    let fitted := if n / d < 1 <<< 52 then guess - 1 else guess
    -- Below this exponent there are no more bits to be had, and the number loses some.
    let exponent := max fitted (-1074)
    let (n, d) := scaled num den exponent
    let mantissa := roundDiv n d
    let (mantissa, exponent) :=
      -- Rounding up may give one bit more, which is one exponent more.
      if mantissa = 1 <<< 53 then (1 <<< 52, exponent + 1) else (mantissa, exponent)
    if 971 < exponent then .infinite negative else .finite negative mantissa exponent

/-- The nearest double of `digits * 10 ^ exponent`; far out of range it is infinite or zero. -/
def ofScientific (negative : Bool) (digits : Nat) (exponent : Int) : Binary64 :=
  -- So many digits before the point are far beyond the largest number.
  let size : Int := (Nat.toDigits 10 digits).length + exponent
  if digits = 0 then .finite negative 0 0
  else if 400 < size then .infinite negative
  else if size < -400 then .finite negative 0 0
  else if 0 ≤ exponent then ofFraction negative (digits * Nat.pow 10 exponent.toNat) 1
  else ofFraction negative digits (Nat.pow 10 (-exponent).toNat)

end Binary64

/-- `value / 10 ^ exponent` for a fraction `num / den`, as a fraction. -/
def perTen (num den : Nat) (exponent : Int) : Nat × Nat :=
  if 0 ≤ exponent then (num, den * Nat.pow 10 exponent.toNat)
  else (num * Nat.pow 10 (-exponent).toNat, den)

/-- Whether `a / b < c / d`. -/
def fractionLt (a b c d : Nat) : Bool := a * d < c * b

/-- The decimal exponent just above a positive fraction, found from an estimate by at most `fuel`
steps. -/
def decimalExponent : Nat → Nat → Nat → Int → Int
  | 0, _, _, guess => guess
  | fuel + 1, num, den, guess =>
    let (n, d) := perTen num den guess
    if d ≤ n then decimalExponent fuel num den (guess + 1)
    else if n * 10 < d then decimalExponent fuel num den (guess - 1)
    else guess

/-- The first grid of at most seventeen digits with a point in the interval, and its point nearest
the value. -/
def shortestOnGrid (mantissa : Nat) (exponent top : Int) : Nat → Nat × Int
  | 0 => (0, 0)
  | more + 1 =>
    let places : Int := 17 - more
    let unit := top - places
    let quarter := fun (k : Nat) =>
      -- The interval reaches half-way to both neighbours, so that all is counted in quarters of a
      -- step.
      let (n, d) := scaled k 1 (2 - exponent)
      perTen n d unit
    let (n, d) := quarter (4 * mantissa)
    -- At a power of two the neighbour below is only half as far.
    let lower :=
      if mantissa = 1 <<< 52 ∧ exponent ≠ -1074 then 4 * mantissa - 1 else 4 * mantissa - 2
    let (ln, ld) := quarter lower
    let (hn, hd) := quarter (4 * mantissa + 2)
    -- The ends of the interval round to even, so that they belong to it if the mantissa is even.
    let inside := fun (point : Nat) =>
      if mantissa % 2 = 0 then !fractionLt point 1 ln ld && !fractionLt hn hd point 1
      else fractionLt ln ld point 1 && fractionLt point 1 hn hd
    let floor := n / d
    let below := inside floor && floor != 0
    let above := inside (floor + 1)
    -- Both are as short; the nearer one is chosen, and of equals the smaller.
    if below && above then
      if 2 * (n % d) ≤ d then (floor, unit) else (floor + 1, unit)
    else if below then (floor, unit)
    else if above then (floor + 1, unit)
    else shortestOnGrid mantissa exponent top more

/-- The fewest digits that read back as `mantissa * 2 ^ exponent`, with their decimal exponent. -/
def shortest (mantissa : Nat) (exponent : Int) : Nat × Int :=
  let (num, den) := scaled mantissa 1 (-exponent)
  -- The estimate of the logarithm is off by one at most, and the steps correct it.
  let guess : Int := ((Nat.log2 mantissa : Int) + exponent) * 30103 / 100000
  shortestOnGrid mantissa exponent (decimalExponent 8 num den guess) 17

/-- Digits times a power of ten in positional notation, with at least one decimal place. -/
def positional (digits : Nat) (exponent : Int) : String :=
  let shown := Nat.toDigits 10 digits
  if 0 ≤ exponent then String.ofList (shown ++ List.replicate exponent.toNat '0') ++ ".0"
  else
    let places := (-exponent).toNat
    -- There is a digit before the point, and as many behind it as the exponent says.
    let padded := List.replicate (places + 1 - shown.length) '0' ++ shown
    let whole := padded.take (padded.length - places)
    let fraction := padded.drop (padded.length - places)
    let kept := (fraction.reverse.dropWhile (· == '0')).reverse
    String.ofList whole ++ "." ++ (if kept.isEmpty then "0" else String.ofList kept)

/-- The shortest positional text of a double, always with a decimal point when finite. -/
def Binary64.text : Binary64 → String
  | .nan => "NaN"
  | .infinite negative => if negative then "-inf" else "inf"
  | .finite negative mantissa exponent =>
    let sign := if negative then "-" else ""
    if mantissa = 0 then sign ++ "0.0"
    else
      let (digits, tens) := shortest mantissa exponent
      sign ++ positional digits tens

/-- The whole number nearest to `n` that a double holds, for `n` below `2 ^ 1023`. -/
def nearestWhole (n : Nat) : Nat :=
  if n < 1 <<< 53 then n
  else
    -- A large number is held with fifty-three bits, and the others are rounded away.
    let shift := Nat.log2 n - 52
    roundDiv n (1 <<< shift) <<< shift

end Warden.Decimal
