import Mathlib.Data.Nat.Digits.Defs
import Warden.Ethereum.Call
import Warden.Proofs.Ethereum.Spelling

/-!
What can be read from a reply. An address is the end of the first word of its data, if there is a
whole word; a number is one of sixty-four bits, as it stands or as text in the base of its mark.
-/

namespace Warden.Ethereum

open Address (Spells digit?_eq_some_iff halves halves_cons length_halves)
open Document (Value)

/-- Text of data: the digits of the bytes in any letter case, behind a mark or without one. -/
inductive DataText (bytes : List UInt8) : List Char → Prop
  | digits {mark characters : List Char} (marked : mark ∈ [[], ['0', 'x'], ['0', 'X']])
    (spelled : List.Forall₂ Spells characters (halves bytes)) : DataText bytes (mark ++ characters)

/-- A reply carries an address: its result is text of a word of data or more, and the address is the
last twenty bytes of the first word. -/
inductive Reply.Carries (a : Address) : Reply → Prop
  | data {text : String} {bytes : List UInt8} (denotes : DataText bytes text.toList)
    (word : 32 ≤ bytes.length) (last : a.bytes.toList = (bytes.take 32).drop 12) :
    Carries a (.answered (some (.string text)) none)

/-- The marks of numbers and the bases that they ask for. -/
def baseMarks : List (List Char × Nat) :=
  [([], 10), (['0', 'x'], 16), (['0', 'X'], 16), (['0', 'o'], 8), (['0', 'O'], 8), (['0', 'b'], 2),
    (['0', 'B'], 2)]

/-- Text of a number: digits of a base behind its mark; underscores do not count among them. -/
inductive NumberText (n : Nat) : List Char → Prop
  | digits {mark characters : List Char} {base : Nat} {values : List Nat}
    (marked : (mark, base) ∈ baseMarks)
    (read : List.Forall₂ (fun c value => Text.digit? base c = some value)
      (characters.filter (· != '_')) values)
    (denotes : n = Nat.ofDigits base values.reverse) : NumberText n (mark ++ characters)

/-- A reply counts: its result is a number of sixty-four bits, or text of one. -/
inductive Reply.Counts (n : Nat) : Reply → Prop
  | number (small : n < 2 ^ 64) : Counts n (.answered (some (.integer n)) none)
  | text {text : String} (denotes : NumberText n text.toList) (small : n < 2 ^ 64) :
    Counts n (.answered (some (.string text)) none)

variable {lookup : Lookup} {a : Address} {reply : Reply} {value : Value} {text : List Char}
  {bytes : List UInt8} {n : Nat}

/-- A byte is told by its two digits. -/
theorem ofNat_digits_eq_iff {high low : Nat} {b : UInt8} (first : high < 16) (second : low < 16) :
    UInt8.ofNat (16 * high + low) = b ↔ high = b.toNat / 16 ∧ low = b.toNat % 16 := by
  have within : (16 * high + low) % 2 ^ 8 = 16 * high + low := Nat.mod_eq_of_lt (by omega)
  rw [← UInt8.toNat_inj, UInt8.toNat_ofNat', within]
  omega

/-- Characters read as bytes exactly where they stand for the digits of these. -/
theorem readBytes?_eq_some_iff :
    readBytes? text = some bytes ↔ List.Forall₂ Spells text (halves bytes) := by
  -- Both sides take two characters for a byte.
  fun_induction readBytes? text generalizing bytes with
  | case1 => cases bytes <;> simp [halves]
  -- A single character is half a byte.
  | case2 c =>
    refine iff_of_false (by simp) fun spelled => ?_
    have even := spelled.length_eq
    rw [length_halves, List.length_singleton] at even
    omega
  | case3 high low rest h l tail tailRead lowRead highRead ih =>
    -- Two digits are read, and the byte is the one that they make up.
    cases bytes with
    | nil => simp [halves]
    | cons b others =>
      have first := (digit?_eq_some_iff.mp highRead).small
      have second := (digit?_eq_some_iff.mp lowRead).small
      rw [halves_cons, List.forall₂_cons, List.forall₂_cons, ← digit?_eq_some_iff,
        ← digit?_eq_some_iff, ← ih, highRead, lowRead, tailRead]
      simp only [Option.some.injEq, List.cons.injEq, ofNat_digits_eq_iff first second, and_assoc]
  | case4 high low rest unread ih =>
    -- If they stood for digits, there would have been something to read.
    refine iff_of_false (by simp) fun spelled => ?_
    cases bytes with
    | nil => cases spelled
    | cons b others =>
      rw [halves_cons, List.forall₂_cons, List.forall₂_cons] at spelled
      obtain ⟨first, second, later⟩ := spelled
      exact unread _ _ _ first.digit? second.digit? (ih.mpr later)

/-- Behind a mark stand the digits of the data: the letter of the mark is no digit itself. -/
theorem dataText_marked {mark : Char} (marks : mark = 'x' ∨ mark = 'X') :
    DataText bytes ('0' :: mark :: text) ↔ List.Forall₂ Spells text (halves bytes) := by
  constructor
  -- Of the three marks the text begins with its own, and with no other.
  · generalize same : '0' :: mark :: text = whole
    rintro ⟨marked, spelled⟩
    simp only [List.mem_cons, List.not_mem_nil, or_false] at marked
    obtain rfl | rfl | rfl := marked
    · rw [List.nil_append] at same
      subst same
      obtain ⟨_, _, _, later, _⟩ := List.forall₂_cons_left_iff.mp spelled
      obtain ⟨_, _, letter, _⟩ := List.forall₂_cons_left_iff.mp later
      -- Without a mark the letter would be a digit, which it is not.
      have none : Text.digit? 16 mark = none := by obtain rfl | rfl := marks <;> decide
      simp [letter.digit?] at none
    all_goals
      cases same
      exact spelled
  · intro spelled
    obtain rfl | rfl := marks
    · show DataText bytes (['0', 'x'] ++ text)
      exact .digits (by simp) spelled
    · show DataText bytes (['0', 'X'] ++ text)
      exact .digits (by simp) spelled

/-- Text without a mark is the digits of the data. -/
theorem dataText_unmarked (lower : ∀ rest, text ≠ '0' :: 'x' :: rest)
    (upper : ∀ rest, text ≠ '0' :: 'X' :: rest) :
    DataText bytes text ↔ List.Forall₂ Spells text (halves bytes) := by
  refine ⟨?_, fun spelled => .digits List.mem_cons_self spelled⟩
  rintro ⟨marked, spelled⟩
  simp only [List.mem_cons, List.not_mem_nil, or_false] at marked
  obtain rfl | rfl | rfl := marked
  · exact spelled
  · exact absurd rfl (lower _)
  · exact absurd rfl (upper _)

/-- Text reads as data exactly where it is text of them. -/
theorem readData?_eq_some_iff {text : String} :
    readData? (.string text) = some bytes ↔ DataText bytes text.toList := by
  dsimp only [readData?]
  split
  next rest same => rw [same, dataText_marked (.inl rfl), readBytes?_eq_some_iff]
  next rest same => rw [same, dataText_marked (.inr rfl), readBytes?_eq_some_iff]
  next lower upper => rw [dataText_unmarked lower upper, readBytes?_eq_some_iff]

/-- The address in a word is its last twenty bytes. -/
theorem ofWord_eq_iff {word : Word} : .ofWord word = a ↔ a.bytes.toList = word.toList.drop 12 := by
  have bytes : (Address.ofWord word).bytes.toList = word.toList.drop 12 := by
    refine List.ext_getElem (by simp) fun i _ _ => ?_
    simp [Address.ofWord, Nat.add_comm]
  rw [← bytes, Vector.toList_inj, eq_comm]
  exact ⟨congrArg Address.bytes, fun same => by cases a; exact congrArg Address.mk same⟩

/-- An address is read from data of a word or more, and is the end of that word. -/
theorem addressIn_eq_ok_iff : addressIn lookup bytes = .ok a ↔
    32 ≤ bytes.length ∧ a.bytes.toList = (bytes.take 32).drop 12 := by
  -- No data, too little of it, or enough for one word.
  unfold addressIn
  split
  case isTrue none => simp [List.isEmpty_iff.mp none]
  case isFalse some =>
    split
    case isFalse short => simp [short]
    case isTrue enough =>
      rw [Except.ok.injEq, ofWord_eq_iff]
      simp only [enough, true_and]
      rfl

/-- Only a reply with a result and no error has a result. -/
theorem Reply.result_eq_ok_iff :
    reply.result = .ok value ↔ reply = .answered (some value) none := by
  constructor
  -- A value without an error is the only reply with a result.
  · intro read
    unfold Reply.result at read
    split at read
    · cases read
      rfl
    · cases read
    · cases read
    · split at read <;> cases read
  · rintro rfl
    rfl

/-- The address that is read from a reply is the one that it carries, if it carries one. -/
theorem Reply.address_eq_ok_iff : reply.address lookup = .ok a ↔ reply.Carries a := by
  constructor
  -- The reply has a result, its text is data, and the data hold an address; each is told by its own
  -- lemma.
  · intro read
    unfold Reply.address at read
    split at read
    · cases read
    next value result =>
      obtain rfl := Reply.result_eq_ok_iff.mp result
      split at read
      · cases read
      next bytes data =>
        -- Data are only read from text.
        obtain ⟨text, rfl⟩ : ∃ text, value = .string text := by
          cases value <;> simp [readData?] at data ⊢
        obtain ⟨word, last⟩ := addressIn_eq_ok_iff.mp read
        exact .data (readData?_eq_some_iff.mp data) word last
  · rintro ⟨denotes, word, last⟩
    simp only [Reply.address, Reply.result, readData?_eq_some_iff.mpr denotes]
    exact addressIn_eq_ok_iff.mpr ⟨word, last⟩

/-- Data that are written with their mark carry the address that is in them. -/
theorem carries_hexData (word : 32 ≤ bytes.length)
    (last : a.bytes.toList = (bytes.take 32).drop 12) :
    Reply.Carries a (.answered (some (.string (hexData bytes))) none) := by
  have written : (hexData bytes).toList = ['0', 'x'] ++ Text.hexBytes bytes := by simp [hexData]
  refine .data ?_ word last
  rw [written]
  exact .digits (by decide) (Address.spells_hexBytes bytes)

/-- Digits of a base denote a number by their places. -/
theorem foldDigits?_eq_some_iff {base start : Nat} : Text.foldDigits? base start text = some n ↔
    ∃ values, List.Forall₂ (fun c value => Text.digit? base c = some value) text values ∧
      n = start * base ^ values.length + Nat.ofDigits base values.reverse := by
  -- By induction on the text: the first digit counts as often as there are numbers of the others.
  induction text generalizing start with
  | nil => simp [Text.foldDigits?, eq_comm]
  | cons c rest ih =>
    -- A digit in front weighs as many powers of the base as there are digits behind it.
    have moved : ∀ (value : Nat) (values : List Nat),
        start * base ^ (values.length + 1) + Nat.ofDigits base (value :: values).reverse =
          (start * base + value) * base ^ values.length + Nat.ofDigits base values.reverse := by
      intro value values
      rw [List.reverse_cons, Nat.ofDigits_append, Nat.ofDigits_singleton, List.length_reverse]
      ring
    rw [Text.foldDigits?]
    simp only [List.forall₂_cons_left_iff]
    cases read : Text.digit? base c with
    | none => simp
    | some value =>
      simp only [ih, Option.some.injEq]
      constructor
      · rintro ⟨values, others, rfl⟩
        exact ⟨_, ⟨value, values, rfl, others, rfl⟩, (moved value values).symm⟩
      · rintro ⟨_, ⟨value, values, rfl, others, rfl⟩, rfl⟩
        exact ⟨values, others, moved value values⟩

/-- Text is parted into a mark and what comes behind it, in the base of the mark. -/
theorem exists_mark (text : List Char) : ∃ mark,
    (mark, (splitBase text).1) ∈ baseMarks ∧ text = mark ++ (splitBase text).2 := by
  -- Text that begins with none of the marks has the empty one.
  unfold splitBase
  split
  case h_7 => exact ⟨[], by simp [baseMarks], rfl⟩
  all_goals exact ⟨[_, _], by simp [baseMarks], rfl⟩

/-- Decimal digits do not begin like a mark. -/
theorem splitBase_decimal {values : List Nat}
    (read : List.Forall₂ (fun c value => Text.digit? 10 c = some value)
      (text.filter (· != '_')) values) : splitBase text = (10, text) := by
  have unmarked : ∀ letter ∈ ['x', 'X', 'o', 'O', 'b', 'B'], ∀ rest,
      text ≠ '0' :: letter :: rest := by
    rintro letter marks rest rfl
    -- None of the letters of a mark is a decimal digit.
    have undigit : letter ≠ '_' ∧ Text.digit? 10 letter = none := by
      simp only [List.mem_cons, List.not_mem_nil, or_false] at marks
      obtain rfl | rfl | rfl | rfl | rfl | rfl := marks <;> decide
    obtain ⟨kept, none⟩ := undigit
    simp only [List.filter_cons, bne_iff_ne, kept, ne_eq, not_false_eq_true, if_true] at read
    obtain ⟨_, _, _, later, _⟩ := List.forall₂_cons_left_iff.mp read
    obtain ⟨_, _, digit, _⟩ := List.forall₂_cons_left_iff.mp later
    simp [digit] at none
  -- The text has none of the six marks, so that the last case is left.
  unfold splitBase
  split
  case h_7 => rfl
  all_goals exact absurd rfl (unmarked _ (by decide) _)

/-- Text reads as a number exactly where it is text of it. -/
theorem readQuantity?_string {text : String} :
    readQuantity? (.string text) = some n ↔ NumberText n text.toList ∧ n < 2 ^ 64 := by
  have size : UInt64.size = 2 ^ 64 := rfl
  simp only [readQuantity?, size, Option.filter_eq_some_iff, foldDigits?_eq_some_iff, Nat.zero_mul,
    Nat.zero_add, decide_eq_true_eq, and_congr_left_iff]
  rintro small
  generalize text.toList = characters
  -- A mark that was split off is put back in front, and one that is there is split off.
  constructor
  · rintro ⟨values, read, denotes⟩
    obtain ⟨mark, marked, same⟩ := exists_mark characters
    rw [same]
    exact .digits marked read denotes
  · rintro ⟨marked, read, denotes⟩
    rename_i mark characters base values
    -- Each mark of a base is split off as such; decimal text has none.
    have parted : splitBase (mark ++ characters) = (base, characters) := by
      simp only [baseMarks, List.mem_cons, Prod.mk.injEq, List.not_mem_nil, or_false] at marked
      obtain ⟨rfl, rfl⟩ | ⟨rfl, rfl⟩ | ⟨rfl, rfl⟩ | ⟨rfl, rfl⟩ | ⟨rfl, rfl⟩ | ⟨rfl, rfl⟩ |
        ⟨rfl, rfl⟩ := marked
      · exact splitBase_decimal read
      all_goals rfl
    rw [parted]
    exact ⟨values, read, denotes⟩

/-- A number is read as it stands, if it has no more than sixty-four bits. -/
theorem readQuantity?_integer {number : Int} :
    readQuantity? (.integer number) = some n ↔ number = n ∧ n < 2 ^ 64 := by
  have size : UInt64.size = 2 ^ 64 := rfl
  simp only [readQuantity?, size]
  split <;> simp <;> omega

/-- A result that reads as a number is the number of its reply. -/
theorem Reply.number_answered (quantity : readQuantity? value = some n) :
    (Reply.answered (some value) none).number = .ok n := by
  rw [Reply.number]
  simp only [Reply.result, quantity]

/-- The number that is read from a reply is the one that it counts, if it counts one. -/
theorem Reply.number_eq_ok_iff : reply.number = .ok n ↔ reply.Counts n := by
  constructor
  · intro read
    unfold Reply.number at read
    split at read
    · cases read
    next value result =>
      obtain rfl := Reply.result_eq_ok_iff.mp result
      split at read
      next m quantity =>
        cases read
        -- Only integers and text read as numbers.
        cases value with
        | integer number =>
          obtain ⟨rfl, small⟩ := readQuantity?_integer.mp quantity
          exact .number small
        | string text =>
          obtain ⟨denotes, small⟩ := readQuantity?_string.mp quantity
          exact .text denotes small
        | null | boolean | float | list | table => simp [readQuantity?] at quantity
      · cases read
  -- Whatever counts is answered as a value without an error.
  · rintro (small | ⟨denotes, small⟩)
    · exact Reply.number_answered (readQuantity?_integer.mpr ⟨rfl, small⟩)
    · exact Reply.number_answered (readQuantity?_string.mpr ⟨denotes, small⟩)

end Warden.Ethereum
