import Mathlib.Data.List.Forall2
import Warden.Ethereum.Address

/-!
The texts of an address. Its digits read back as the address in whatever letter case they stand, and
the case in which they are written is a checksum: one text has it, and that is the one written.
-/

namespace Warden.Ethereum.Address

/-- A character stands for a digit, in lower or in upper case. -/
structure Spells (c : Char) (digit : Nat) : Prop where
  small : digit < 16
  cased : c = digit.digitChar ∨ c = digit.digitChar.toUpper

/-- The digits of bytes, of each the higher half first. -/
def halves (bytes : List UInt8) : List Nat :=
  bytes.flatMap fun b => [b.toNat / 16, b.toNat % 16]

/-- A byte has a high half and a low half. -/
theorem halves_cons (b : UInt8) (rest : List UInt8) :
    halves (b :: rest) = b.toNat / 16 :: b.toNat % 16 :: halves rest := rfl

/-- Every byte has two digits. -/
theorem length_halves (bytes : List UInt8) : (halves bytes).length = 2 * bytes.length := by
  induction bytes with
  | nil => rfl
  | cons b rest ih =>
    simp only [halves_cons, List.length_cons, ih]
    omega

variable {c : Char} {digit decider : Nat} {text : List Char} {bytes : List UInt8}

/-- A character reads as the digit that it stands for. -/
theorem Spells.digit? (spells : Spells c digit) : Text.digit? 16 c = some digit := by
  -- Sixteen digits, each in both cases.
  have all : ∀ digit < 16, Text.digit? 16 digit.digitChar = some digit ∧
      Text.digit? 16 digit.digitChar.toUpper = some digit := by
    decide
  obtain ⟨lower, upper⟩ := all digit spells.small
  obtain rfl | rfl := spells.cased
  · exact lower
  · exact upper

/-- A character that reads as a digit is one of the first hundred and twenty-eight. -/
theorem toNat_lt_of_digitValue? (read : Text.digitValue? c = some digit) : c.toNat < 128 := by
  have bound : ∀ last : Char, last.toNat < 128 → c ≤ last → c.toNat < 128 :=
    fun last early le => Nat.lt_of_le_of_lt (UInt32.le_iff_toNat_le.mp le) early
  -- Three ranges of characters are digits, and each of them ends before that.
  unfold Text.digitValue? at read
  split at read
  · exact bound '9' (by decide) (And.right ‹_›)
  split at read
  · exact bound 'z' (by decide) (And.right ‹_›)
  split at read
  · exact bound 'Z' (by decide) (And.right ‹_›)
  · cases read

/-- The characters that read as a digit are those that stand for it. -/
theorem digit?_eq_some_iff : Text.digit? 16 c = some digit ↔ Spells c digit := by
  refine ⟨fun read => ?_, Spells.digit?⟩
  -- All characters that can be digits are looked at.
  have all : ∀ n < 128, ∀ digit < 16, Text.digit? 16 (Char.ofNat n) = some digit →
      Char.ofNat n = digit.digitChar ∨ Char.ofNat n = digit.digitChar.toUpper := by
    decide +kernel
  obtain ⟨value, small⟩ := Option.filter_eq_some_iff.mp read
  have spelled := all c.toNat (toNat_lt_of_digitValue? value) digit (of_decide_eq_true small)
  rw [Char.ofNat_toNat] at spelled
  exact ⟨of_decide_eq_true small, spelled read⟩

/-- A character that stands for a digit is one byte of text. -/
theorem Spells.utf8 (spells : Spells c digit) :
    ∃ b : UInt8, String.utf8EncodeChar c = [b] ∧ Char.ofNat b.toNat = c := by
  -- Sixteen digits in either case: each of their characters is one byte, which gives the character
  -- back.
  have all : ∀ digit < 16,
      (String.utf8EncodeChar digit.digitChar = [digit.digitChar.toNat.toUInt8] ∧
        Char.ofNat digit.digitChar.toNat.toUInt8.toNat = digit.digitChar) ∧
      String.utf8EncodeChar digit.digitChar.toUpper = [digit.digitChar.toUpper.toNat.toUInt8] ∧
        Char.ofNat digit.digitChar.toUpper.toNat.toUInt8.toNat = digit.digitChar.toUpper := by
    decide
  obtain ⟨lower, upper⟩ := all digit spells.small
  obtain rfl | rfl := spells.cased
  · exact ⟨_, lower⟩
  · exact ⟨_, upper⟩

/-- Each half is a digit. -/
theorem halves_small : ∀ digit ∈ halves bytes, digit < 16 := by
  intro digit member
  obtain ⟨b, _, half⟩ := List.mem_flatMap.mp member
  have small := b.toNat_lt
  simp only [List.mem_cons, List.not_mem_nil, or_false] at half
  omega

/-- Bytes are written digit by digit. -/
theorem hexBytes_eq (bytes : List UInt8) :
    Text.hexBytes bytes = (halves bytes).map Nat.digitChar := by
  simp only [Text.hexBytes, halves, List.map_flatMap, List.map_cons, List.map_nil]

/-- What is written of bytes stands for their digits. -/
theorem spells_hexBytes (bytes : List UInt8) :
    List.Forall₂ Spells (Text.hexBytes bytes) (halves bytes) := by
  rw [hexBytes_eq, List.forall₂_map_left_iff, List.forall₂_same]
  exact fun digit member => ⟨halves_small digit member, .inl rfl⟩

/-- Characters that stand for the digits of bytes read as these bytes. -/
theorem pairs_spelled (spelled : List.Forall₂ Spells text (halves bytes)) (position : Nat) :
    pairs position (Text.utf8 text) = .ok bytes := by
  -- By induction on the bytes, each of which takes two characters.
  induction bytes generalizing text position with
  | nil =>
    cases spelled
    rfl
  | cons b rest ih =>
    rw [halves_cons] at spelled
    obtain ⟨_, _, high, others, rfl⟩ := List.forall₂_cons_right_iff.mp spelled
    obtain ⟨_, _, low, later, rfl⟩ := List.forall₂_cons_right_iff.mp others
    obtain ⟨first, firstByte, firstChar⟩ := high.utf8
    obtain ⟨second, secondByte, secondChar⟩ := low.utf8
    -- The two halves make up the byte again.
    have whole : UInt8.ofNat (16 * (b.toNat / 16) + b.toNat % 16) = b := by
      rw [Nat.div_add_mod, UInt8.ofNat_toNat]
    have tail := ih later (position + 2)
    rw [Text.utf8] at tail
    simp only [Text.utf8, List.flatMap_cons, firstByte, secondByte, List.singleton_append, pairs,
      firstChar, secondChar, high.digit?, low.digit?, tail, whole]

/-- Digits in any letter case after the mark read as the address whose digits they are. -/
theorem parse_spelled {a : Address} (spelled : List.Forall₂ Spells text (halves a.bytes.toList)) :
    parse ("0x" ++ String.ofList text) = .ok a := by
  have read := pairs_spelled spelled 0
  have long := pairs_length read
  have unmarked : withoutMark (Text.utf8 ("0x" ++ String.ofList text).toList) = Text.utf8 text := by
    simp only [String.toList_append, String.toList_ofList, Text.utf8_append]
    rfl
  -- Twenty bytes take the forty digits that are asked for.
  simp only [Vector.length_toList, Nat.reduceMul] at long
  simp only [parse, unmarked, long, read, Vector.length_toList]
  rfl

/-- A letter is upper case exactly where the digit that decides its case is eight or more. -/
def Cased (c : Char) (decider : Nat) : Prop :=
  c.isAlpha = true → (c.isUpper = true ↔ 8 ≤ decider)

/-- The digits that decide the letter case of an address: those of the hash of its own digits in
lower case. -/
def deciders (a : Address) : List Nat :=
  halves (keccak256 (Text.utf8 ((halves a.bytes.toList).map Nat.digitChar))).toList

/-- The checksummed text of an address: its forty digits behind the mark, each letter of them in the
case that the digit of the hash at its place decides. -/
inductive Checksummed (a : Address) : String → Prop
  | digits {characters : List Char}
    (spelled : List.Forall₂ Spells characters (halves a.bytes.toList))
    (cased : List.Forall₂ Cased characters (a.deciders.take 40)) :
    Checksummed a ("0x" ++ String.ofList characters)

/-- A digit in the letter case that another one decides. -/
def casedDigit (digit decider : Nat) : Char :=
  if 8 ≤ decider then digit.digitChar.toUpper else digit.digitChar

/-- A character that stands for a digit and has the right case is settled by the two digits. -/
theorem eq_casedDigit_iff (small : digit < 16) :
    c = casedDigit digit decider ↔ Spells c digit ∧ Cased c decider := by
  -- Up to nine the two cases are one; the letters after that are told apart by theirs.
  have all : ∀ digit < 16, digit.digitChar.isUpper = false ∧
      (digit.digitChar.toUpper = digit.digitChar ∧ digit.digitChar.isAlpha = false ∨
        digit.digitChar.isAlpha = true ∧ digit.digitChar.toUpper.isAlpha = true ∧
          digit.digitChar.toUpper.isUpper = true) := by
    decide
  obtain ⟨lower, upper⟩ := all digit small
  constructor
  · intro same
    by_cases high : 8 ≤ decider
    · rw [casedDigit, if_pos high] at same
      refine ⟨⟨small, .inr same⟩, fun letter => ?_⟩
      obtain ⟨plain, figure⟩ | ⟨_, _, capital⟩ := upper
      · simp [same, plain, figure] at letter
      · simp [same, capital, high]
    · rw [casedDigit, if_neg high] at same
      exact ⟨⟨small, .inl same⟩, fun _ => by simp [same, lower, high]⟩
  · rintro ⟨spells, cased⟩
    -- A figure spells the digit whichever way it was decided.
    obtain ⟨plain, _⟩ | ⟨letter, capitalLetter, capital⟩ := upper
    · rw [casedDigit, plain, ite_self]
      obtain same | same := spells.cased
      · exact same
      · exact same.trans plain
    · -- A letter shows by its case which of the two was decided.
      obtain rfl | rfl := spells.cased
      · have low : ¬ 8 ≤ decider := by simpa [lower] using cased letter
        rw [casedDigit, if_neg low]
      · have high : 8 ≤ decider := by simpa [capital] using cased capitalLetter
        rw [casedDigit, if_pos high]

/-- Characters that stand for digits and have the right case are settled by the digits. -/
theorem eq_zipWith_casedDigit_iff {digits deciders : List Nat}
    (small : ∀ digit ∈ digits, digit < 16) (long : digits.length = deciders.length) :
    text = List.zipWith casedDigit digits deciders ↔
      List.Forall₂ Spells text digits ∧ List.Forall₂ Cased text deciders := by
  -- By induction on the digits; there is one decider for each of them.
  induction digits generalizing text deciders with
  | nil =>
    obtain rfl := List.eq_nil_of_length_eq_zero long.symm
    simp
  | cons digit rest ih =>
    obtain ⟨decider, others, rfl⟩ := List.exists_cons_of_length_eq_add_one long.symm
    have first : digit < 16 := small digit List.mem_cons_self
    have later : ∀ digit ∈ rest, digit < 16 :=
      fun digit member => small digit (List.mem_cons_of_mem _ member)
    -- The first character is decided by the first decider, and the rest by the others.
    cases text with
    | nil => simp
    | cons c text =>
      simp only [List.zipWith_cons_cons, List.cons.injEq, List.forall₂_cons,
        eq_casedDigit_iff first, ih later (Nat.succ.inj long)]
      tauto

/-- Where a hash goes on as long as the digits, each of them has the case that its place decides. -/
theorem checksumCase_eq {digits deciders : List Nat} (small : ∀ decider ∈ deciders, decider < 16)
    (long : digits.length ≤ deciders.length) :
    checksumCase (digits.map Nat.digitChar) (deciders.map Nat.digitChar) =
      List.zipWith casedDigit digits deciders := by
  -- By induction on the digits; the hash is not at its end before they are.
  induction digits generalizing deciders with
  | nil => simp [checksumCase]
  | cons digit rest ih =>
    cases deciders with
    -- There is a decider for every digit.
    | nil => simp at long
    | cons decider others =>
      have first : decider < 16 := small decider List.mem_cons_self
      have later : ∀ decider ∈ others, decider < 16 :=
        fun decider member => small decider (List.mem_cons_of_mem _ member)
      have read : Text.digit? 16 decider.digitChar = some decider :=
        digit?_eq_some_iff.mpr ⟨first, .inl rfl⟩
      rw [List.map_cons, List.map_cons, checksumCase, List.zipWith_cons_cons, read,
        ih later (Nat.le_of_succ_le_succ long)]
      simp [casedDigit]

/-- The text of an address, digit by digit. -/
theorem text_eq (a : Address) : a.text = "0x" ++
    String.ofList (List.zipWith casedDigit (halves a.bytes.toList) (a.deciders.take 40)) := by
  have long : (halves a.bytes.toList).length = 40 := by simp [length_halves]
  have enough : (halves a.bytes.toList).length ≤ a.deciders.length := by
    simp [deciders, length_halves]
  have cased : checksumCase ((halves a.bytes.toList).map Nat.digitChar)
      (a.deciders.map Nat.digitChar) = List.zipWith casedDigit (halves a.bytes.toList) a.deciders :=
    checksumCase_eq halves_small enough
  -- Of the digits of the hash only as many are looked at as the address has.
  have taken : List.zipWith casedDigit (halves a.bytes.toList) a.deciders =
      List.zipWith casedDigit (halves a.bytes.toList) (a.deciders.take 40) := by
    rw [List.zipWith_eq_zipWith_take_min, Nat.min_eq_left enough, List.take_length, long]
  rw [text, digits, hexBytes_eq, hexBytes_eq, ← taken, ← cased]
  rfl

/-- The text of an address is the one that is checksummed. -/
theorem checksummed_iff {a : Address} {text : String} : Checksummed a text ↔ text = a.text := by
  have long : (halves a.bytes.toList).length = (a.deciders.take 40).length := by
    simp [deciders, length_halves]
  rw [text_eq]
  constructor
  -- Spelling and case together leave no choice for any character.
  · rintro ⟨spelled, cased⟩
    rw [(eq_zipWith_casedDigit_iff halves_small long).mpr ⟨spelled, cased⟩]
  · rintro rfl
    obtain ⟨spelled, cased⟩ := (eq_zipWith_casedDigit_iff halves_small long).mp rfl
    exact .digits spelled cased

/-- An address in whose text letters of both cases stand. -/
def motley : Address :=
  ⟨#v[0x5a, 0xae, 0xb6, 0x05, 0x3f, 0x3e, 0x94, 0xc9, 0xb9, 0xa0,
    0x9f, 0x33, 0x66, 0x94, 0x35, 0xe7, 0xef, 0x1b, 0xea, 0xed]⟩

/-- Its letters are of the case that its hash decides, one by one. -/
theorem text_motley : motley.text = "0x5aAeb6053F3E94C9b9A09f33669435E7Ef1BeAed" := by
  decide +kernel

/-- What is checksummed reads back as the address, as its digits do in any letter case. -/
theorem Checksummed.parse {a : Address} {text : String} (checksummed : Checksummed a text) :
    parse text = .ok a := by
  obtain ⟨spelled, _⟩ := checksummed
  exact parse_spelled spelled

/-- The text of an address reads back as the address, for every address. -/
theorem parse_text (a : Address) : parse a.text = .ok a :=
  (checksummed_iff.mpr rfl).parse

/-- The text of an address is never empty. -/
theorem isEmpty_text (a : Address) : a.text.isEmpty = false := by
  simp [text]

end Warden.Ethereum.Address
