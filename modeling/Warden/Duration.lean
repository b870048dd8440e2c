/-! Lengths of time in whole nanoseconds and the text that reports show for them. -/

namespace Warden

/-- A length of time. -/
structure Duration where
  nanos : Nat
deriving Repr, DecidableEq, Inhabited

namespace Duration

/-- A length of whole seconds. -/
def ofSecs (secs : Nat) : Duration := ⟨secs * 1000000000⟩

/-- A length of whole milliseconds. -/
def ofMillis (millis : Nat) : Duration := ⟨millis * 1000000⟩

/-- Whole seconds, the rest dropped. -/
def secs (d : Duration) : Nat := d.nanos / 1000000000

/-- Nanoseconds beyond the whole seconds. -/
def subsecNanos (d : Duration) : Nat := d.nanos % 1000000000

/-- Whole milliseconds, a rest counting as one more. -/
def ceilMillis (d : Duration) : Nat := (d.nanos + 999999) / 1000000

/-- A fraction of a unit that has `digits` decimal places, without its trailing zeros. -/
def fractionDigits (digits value : Nat) : List Char :=
  let shown := (Nat.toDigits 10 value).reverse
  let padded := shown ++ List.replicate (digits - shown.length) '0'
  (padded.dropWhile (· == '0')).reverse

/-- A whole number and a fraction of `digits` places in one unit. -/
def inUnit (whole digits fraction : Nat) (unit : String) : String :=
  let tail := fractionDigits digits fraction
  toString whole ++ (if tail.isEmpty then "" else "." ++ String.ofList tail) ++ unit

/-- The text in the largest unit of which there is at least one, down to nanoseconds. -/
def text (d : Duration) : String :=
  if 1000000000 ≤ d.nanos then inUnit (d.nanos / 1000000000) 9 (d.nanos % 1000000000) "s"
  else if 1000000 ≤ d.nanos then inUnit (d.nanos / 1000000) 6 (d.nanos % 1000000) "ms"
  else if 1000 ≤ d.nanos then inUnit (d.nanos / 1000) 3 (d.nanos % 1000) "µs"
  else inUnit d.nanos 0 0 "ns"

/-- Whole seconds leave no rest to round up. -/
theorem ceilMillis_ofSecs (secs : Nat) : (ofSecs secs).ceilMillis = 1000 * secs := by
  -- A second is a thousand whole milliseconds.
  simp only [ofSecs, ceilMillis]
  omega

end Duration

end Warden
