/-!
The likeness of two texts: how many of their characters match nearby, and how many of those keep
their order.
-/

namespace Warden.Text

/-- How far apart the places of two equal characters may be for them to match. -/
def matchReach (a b : List Char) : Nat :=
  max a.length b.length / 2 - 1

/-- The place of the first free character that equals `c` within reach of a place. -/
def matchPlace? (reach place : Nat) (c : Char) (free : List (Nat × Char)) : Option Nat :=
  (free.find? fun (i, d) => decide (place ≤ i + reach ∧ i ≤ place + reach) && d == c).map (·.1)

/-- The matches of the characters of the first text: each with the place of its partner in the
second. -/
def matchPlaces (reach : Nat) : List (Nat × Char) → List (Nat × Char) → List (Char × Nat)
  | [], _ => []
  | (place, c) :: rest, free =>
    match matchPlace? reach place c free with
    | some i => (c, i) :: matchPlaces reach rest (free.filter (·.1 != i))
    | none => matchPlaces reach rest free

/-- The matched characters in the order of the first text, and in the order of the second. -/
def matched (a b : List Char) : List Char × List Char :=
  let numbered := fun (text : List Char) => text.zipIdx.map fun (c, i) => (i, c)
  let pairs := matchPlaces (matchReach a b) (numbered a) (numbered b)
  (pairs.map (·.1), (pairs.mergeSort fun p q => decide (p.2 ≤ q.2)).map (·.1))

/-- The likeness as a fraction between zero and one, by its numerator and denominator. -/
def likeness (a b : List Char) : Nat × Nat :=
  let (here, there) := matched a b
  let count := here.length
  if count = 0 then (if a.isEmpty && b.isEmpty then 1 else 0, 1)
  else
    let moved := ((here.zip there).countP fun (c, d) => c != d) / 2
    (count * count * b.length + count * count * a.length + (count - moved) * a.length * b.length,
      3 * count * a.length * b.length)

/-- The candidate that is most like a text, if it is more like it than seven tenths; of equals the
last. -/
def closest? {α : Type} (spelling : α → List Char) (text : List Char) (candidates : List α) :
    Option α :=
  (candidates.foldl (fun (best : Option α × Nat × Nat) candidate =>
    let (n, d) := likeness text (spelling candidate)
    if best.2.1 * d ≤ n * best.2.2 ∧ 7 * d < 10 * n then (some candidate, n, d) else best)
    (none, 0, 1)).1

end Warden.Text
