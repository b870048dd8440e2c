import Mathlib.Data.List.TakeWhile
import Warden.Cli.Program

/-!
The names of log levels, all of them and no other text, and the filter of a log after levels have
been asked for.
-/

namespace Warden

namespace Text

/-- A text without the blanks around it. -/
structure Trims (text core : List Char) : Prop where
  around : ∃ before after, text = before ++ core ++ after ∧
    (∀ c ∈ before, isBlank c = true) ∧ ∀ c ∈ after, isBlank c = true
  first : ∀ c ∈ core.head?, isBlank c = false
  last : ∀ c ∈ core.getLast?, isBlank c = false

variable {text core before after : List Char}

/-- Nothing is dropped from a text whose first character is to be kept. -/
theorem dropWhile_eq_self {p : Char → Bool} (kept : ∀ c ∈ text.head?, p c = false) :
    text.dropWhile p = text := by
  cases text with
  | nil => rfl
  | cons c rest => rw [List.dropWhile_cons_of_neg (by simp [kept c rfl])]

/-- What is first behind what was dropped is not to be dropped. -/
theorem head?_dropWhile {p : Char → Bool} {c : Char} (first : c ∈ (text.dropWhile p).head?) :
    p c = false := by
  have not := List.head?_dropWhile_not p text
  rwa [Option.mem_def.mp first] at not

/-- The blanks before a text do not count. -/
theorem trim_append_left (blank : ∀ c ∈ before, isBlank c = true) :
    trim (before ++ text) = trim text := by
  rw [trim, List.dropWhile_append_of_pos blank, ← trim]

/-- A text that begins and ends with other characters is trimmed. -/
theorem trim_eq_self (first : ∀ c ∈ core.head?, isBlank c = false)
    (last : ∀ c ∈ core.getLast?, isBlank c = false) :
    trim core = core := by
  rw [List.getLast?_eq_head?_reverse] at last
  rw [trim, dropWhile_eq_self first, dropWhile_eq_self last, List.reverse_reverse]

/-- Nor do those behind it. -/
theorem trim_append_right (blank : ∀ c ∈ after, isBlank c = true) :
    trim (text ++ after) = trim text := by
  have reversed : ∀ c ∈ after.reverse, isBlank c = true := by simpa using blank
  rw [trim, trim, List.dropWhile_append]
  split
  · -- Then there is nothing in the text but blanks.
    rename_i none
    have dropped : after.dropWhile isBlank = [] := List.dropWhile_eq_nil_iff.mpr blank
    rw [List.isEmpty_iff.mp none, dropped]
  · rw [List.reverse_append, List.dropWhile_append_of_pos reversed]

/-- A text is trimmed in one way only. -/
theorem Trims.trim_eq (trims : Trims text core) : trim text = core := by
  obtain ⟨before, after, rfl, blank, blank'⟩ := trims.around
  rw [trim_append_right blank', trim_append_left blank, trim_eq_self trims.first trims.last]

/-- Trimming leaves no blank at either end and takes away nothing else. -/
theorem trims_trim (text : List Char) : Trims text (trim text) := by
  -- The text is parted where its first blanks end, and what is behind them where its last ones
  -- begin.
  have parts : text.takeWhile isBlank ++ text.dropWhile isBlank = text :=
    List.takeWhile_append_dropWhile
  have split : trim text ++ ((text.dropWhile isBlank).reverse.takeWhile isBlank).reverse =
    text.dropWhile isBlank := by
    rw [trim, ← List.reverse_append, List.takeWhile_append_dropWhile, List.reverse_reverse]
  refine ⟨⟨text.takeWhile isBlank, ((text.dropWhile isBlank).reverse.takeWhile isBlank).reverse, ?_,
    ?_, ?_⟩, ?_, ?_⟩
  · rw [List.append_assoc, split, parts]
  · exact fun c member => List.mem_takeWhile_imp member
  · exact fun c member => List.mem_takeWhile_imp (List.mem_reverse.mp member)
  · -- The first character is the first one that is not dropped.
    intro c first
    have kept : c ∈ (text.dropWhile isBlank).head? := by
      rw [← split, List.head?_append, Option.mem_def.mp first]
      rfl
    exact head?_dropWhile kept
  -- The last character is the first one that is not dropped from behind.
  · intro c last
    rw [trim, List.getLast?_reverse] at last
    exact head?_dropWhile last

/-- Trimming does not look at the letter case. -/
theorem trim_map {change : Char → Char} (same : ∀ c, isBlank (change c) = isBlank c)
    (text : List Char) :
    trim (text.map change) = (trim text).map change := by
  have fixed : isBlank ∘ change = isBlank := funext same
  rw [trim, trim, List.dropWhile_map, fixed, ← List.map_reverse, List.dropWhile_map, fixed,
    List.map_reverse]

/-- Blanks have no letter case. -/
theorem isBlank_toLower (c : Char) : isBlank c.toLower = isBlank c := by
  -- Only the capital letters are changed, and neither they nor the small ones are blanks.
  have letters : ∀ n < 91, 65 ≤ n → isBlank (Char.ofNat n).toLower = isBlank (Char.ofNat n) := by
    decide
  by_cases capital : 65 ≤ c.toNat ∧ c.toNat < 91
  · rw [← Char.ofNat_toNat c]
    exact letters c.toNat capital.2 capital.1
  -- Outside the capital letters nothing is changed.
  · have same : c.toLower = c := by
      unfold Char.toLower
      refine dif_neg fun within => capital ?_
      simp only [UInt32.le_iff_toNat_le] at within
      exact ⟨within.1, Nat.lt_succ_of_le within.2⟩
    rw [same]

section Digits

variable {c : Char} {start digit n : Nat}

/-- The ten digits are read as what they stand for, and nothing else is a digit. -/
theorem digit?_ten_eq_some : digit? 10 c = some digit ↔ digit < 10 ∧ c = digit.digitChar := by
  have digits : ∀ n < 58, 48 ≤ n → Char.ofNat n = (n - 48).digitChar := by decide
  constructor
  · intro read
    obtain ⟨value, small⟩ := Option.filter_eq_some_iff.mp read
    have small : digit < 10 := by simpa using small
    refine ⟨small, ?_⟩
    unfold digitValue? at value
    split at value
    -- The digits stand for less than ten, and the character is had back from its value.
    · rename_i within
      simp only [Char.le_def, UInt32.le_iff_toNat_le] at within
      obtain rfl : c.toNat - 48 = digit := by simpa using value
      rw [← digits c.toNat (Nat.lt_succ_of_le within.2) within.1, Char.ofNat_toNat]
    · -- The letters stand for ten and more.
      split at value
      · simp only [Option.some.injEq] at value
        omega
      · split at value
        · simp only [Option.some.injEq] at value
          omega
        · cases value
  · rintro ⟨small, rfl⟩
    -- There are ten of them.
    have all : ∀ digit < 10, digit? 10 digit.digitChar = some digit := by decide
    exact all digit small

/-- A number is at least as large as what its first digits denote. -/
theorem le_of_foldDigits? (read : foldDigits? 10 start text = some n) : start ≤ n := by
  -- By induction on the text: a further digit never makes the number smaller.
  induction text generalizing start with
  | nil => exact Nat.le_of_eq (Option.some.inj read)
  | cons c rest ih =>
    rw [foldDigits?] at read
    split at read
    · have more := ih read
      omega
    · cases read

/-- Zeros come to zero. -/
theorem foldDigits?_zeros (zeros : Nat) : foldDigits? 10 0 (List.replicate zeros '0') = some 0 := by
  induction zeros with
  | zero => rfl
  | succ zeros ih => exact ih

/-- Behind the zeros a number below ten has only its digit. -/
theorem exists_zeros_of_foldDigits? (small : n < 10) (read : foldDigits? 10 0 text = some n) :
    text = [] ∨ ∃ zeros, text = List.replicate zeros '0' ++ [n.digitChar] := by
  -- By induction on the text: after a digit that is not zero a further one would make ten at least.
  induction text with
  | nil => exact .inl rfl
  | cons c rest ih =>
    rw [foldDigits?] at read
    cases value : digit? 10 c with
    | none =>
      rw [value] at read
      cases read
    | some digit =>
      obtain ⟨_, rfl⟩ := digit?_ten_eq_some.mp value
      replace read : foldDigits? 10 (0 * 10 + digit) rest = some n := by rwa [value] at read
      right
      -- The digit is the last one, or more follow it.
      cases rest with
      | nil =>
        obtain rfl : 0 * 10 + digit = n := Option.some.inj read
        exact ⟨0, by simp⟩
      | cons c' more =>
        cases digit with
        | zero =>
          obtain empty | ⟨zeros, same⟩ := ih read
          · cases empty
          · exact ⟨zeros + 1, by rw [same]; rfl⟩
        -- A number that has begun is ten times as much with one more digit.
        | succ digit =>
          rw [foldDigits?] at read
          split at read
          · have more := le_of_foldDigits? read
            omega
          · cases read

/-- A number below ten is written by its digit behind any zeros. -/
theorem readNat?_eq_some_small (small : n < 10) :
    readNat? 10 text = some n ↔ ∃ zeros, text = List.replicate zeros '0' ++ [n.digitChar] := by
  unfold readNat?
  -- Before its last digit a number below ten has nothing but zeros.
  constructor
  -- Without a digit nothing is read.
  · intro read
    split at read
    · cases read
    · rename_i some
      exact (exists_zeros_of_foldDigits? small read).resolve_left (by simpa using some)
  · rintro ⟨zeros, rfl⟩
    rw [if_neg (by simp), foldDigits?_append, foldDigits?_zeros, Option.bind_some, foldDigits?,
      digit?_ten_eq_some.mpr ⟨small, rfl⟩]
    simp [foldDigits?]

end Digits

end Text

namespace Log

variable {text : List Char} {level : Level}

/-- The names of the levels in lower case, and the levels that they stand for. -/
inductive Names : List Char → Level → Prop
  | trace : Names "trace".toList .trace
  | debug : Names "debug".toList .debug
  | info : Names "info".toList .info
  | warn : Names "warn".toList .warn
  | warning : Names "warning".toList .warn
  | error : Names "error".toList .error
  | fatal : Names "fatal".toList .error
  | panic : Names "panic".toList .error
  | off : Names "off".toList .off
  | empty : Names [] .error
  /-- The decimal numbers from zero to five, perhaps with a plus sign and with zeros before them. -/
  | number {sign : List Char} (signed : sign = [] ∨ sign = ['+']) (zeros : Nat) (level : Level) :
    Names (sign ++ List.replicate zeros '0' ++ [level.rank.digitChar]) level

namespace Level

/-- A number is the rank of one level. -/
theorem ofRank?_eq_some {n : Nat} : ofRank? n = some level ↔ n = level.rank := by
  constructor
  · intro ranked
    unfold ofRank? at ranked
    split at ranked <;> cases ranked <;> rfl
  · rintro rfl
    cases level <;> rfl

/-- The ranks have one digit. -/
theorem rank_lt (level : Level) : level.rank < 10 := by
  cases level <;> decide

/-- A number below ten is written with its sign, if it has one, with zeros and with its digit. -/
theorem number?_eq_some_small {n : Nat} (small : n < 10) : number? text = some n ↔
    ∃ sign zeros, (sign = [] ∨ sign = ['+']) ∧
      text = sign ++ List.replicate zeros '0' ++ [n.digitChar] := by
  have plain : ∀ n < 10, n.digitChar ≠ '+' := by decide
  unfold number?
  split
  -- The sign is taken off, or there is none; a digit is no sign.
  · rename_i digits
    rw [Text.readNat?_eq_some_small small]
    constructor
    · rintro ⟨zeros, rfl⟩
      exact ⟨['+'], zeros, .inr rfl, rfl⟩
    · rintro ⟨sign, zeros, rfl | rfl, same⟩
      · -- Without the sign the text would begin with a digit.
        cases zeros with
        | zero => exact absurd (List.cons.inj same).1.symm (plain n small)
        | succ zeros => exact absurd (List.cons.inj same).1 (by decide)
      · exact ⟨zeros, (List.cons.inj same).2⟩
  · rename_i unsigned
    rw [Text.readNat?_eq_some_small small]
    constructor
    · rintro ⟨zeros, rfl⟩
      exact ⟨[], zeros, .inl rfl, rfl⟩
    · rintro ⟨sign, zeros, rfl | rfl, same⟩
      · exact ⟨zeros, same⟩
      · exact absurd same (unsigned _)

/-- A level that is named is named by one of the names that are given to levels, or by its
number. -/
theorem names_of_bare? (named : bare? text = some level) : Names text level := by
  -- A name is looked up among those of the levels first, and read as a number only if it is none of
  -- them.
  unfold bare? at named
  split at named
  -- Nothing at all, a name, or a number.
  · rename_i empty
    cases named
    exact empty ▸ .empty
  · split at named
    · rename_i other found
      cases named
      obtain rfl : level.name.toList = text := by simpa using List.find?_some found
      cases level
      · exact .off
      · exact .error
      · exact .warn
      · exact .info
      · exact .debug
      · exact .trace
    · obtain ⟨n, read, ranked⟩ := Option.bind_eq_some_iff.mp named
      obtain rfl := ofRank?_eq_some.mp ranked
      obtain ⟨sign, zeros, signed, rfl⟩ := (number?_eq_some_small level.rank_lt).mp read
      exact .number signed zeros level

/-- A number is none of the words that name levels. -/
theorem named?_number {sign : List Char} (signed : sign = [] ∨ sign = ['+']) (zeros : Nat)
    (level : Level) :
    named? (sign ++ List.replicate zeros '0' ++ [level.rank.digitChar]) = some level := by
  have last : (sign ++ List.replicate zeros '0' ++ [level.rank.digitChar]).getLast? =
    some level.rank.digitChar := by simp
  have read : number? (sign ++ List.replicate zeros '0' ++ [level.rank.digitChar]) =
    some level.rank :=
    (number?_eq_some_small level.rank_lt).mpr ⟨sign, zeros, signed, rfl⟩
  generalize sign ++ List.replicate zeros '0' ++ [level.rank.digitChar] = text at last read
  -- It ends with a digit, and they do not.
  have apart : ∀ word : List Char, word.getLast? ≠ some level.rank.digitChar → text ≠ word := by
    rintro word other rfl
    exact other last
  have unnamed : all.find? (·.name.toList == text) = none := by
    refine List.find?_eq_none.mpr fun named _ => ?_
    have other : named.name.toList.getLast? ≠ some level.rank.digitChar := by
      -- No name ends with a digit.
      cases named <;> cases level <;> decide
    simpa using (apart _ other).symm
  rw [named?, if_neg (apart _ (by cases level <;> decide)),
    if_neg (not_or.mpr ⟨apart _ (by cases level <;> decide), apart _ (by cases level <;> decide)⟩),
    bare?, if_neg (apart _ (by cases level <;> decide)), unnamed, read]
  exact ofRank?_eq_some.mpr rfl

/-- A level is read from its names and from nothing else. -/
theorem named?_eq_some : named? text = some level ↔ Names text level := by
  constructor
  · intro named
    -- Three names are aliases; every other one is the name of a level or its number.
    unfold named? at named
    split at named
    · rename_i same
      cases named
      exact same ▸ .warning
    · split at named
      · rename_i same
        cases named
        obtain rfl | rfl := same
        · exact .fatal
        · exact .panic
      · exact names_of_bare? named
  · intro names
    cases names with
    -- All other names are fixed texts.
    | number signed zeros level => exact named?_number signed zeros level
    | _ => decide

/-- A text names a level as it is spelled in lower case without the blanks around it. -/
theorem parse?_eq_some {text : String} :
    parse? text = some level ↔ ∃ core, Text.Trims text.toList core ∧
      Names (core.map Char.toLower) level := by
  unfold parse?
  rw [named?_eq_some]
  constructor
  · exact fun names => ⟨_, Text.trims_trim _, names⟩
  · rintro ⟨core, trims, names⟩
    rwa [trims.trim_eq]

example : parse? " +005\n" = some .trace := by decide

/-- The letter case of a text does not matter. -/
theorem parse?_congr_case {text other : String}
    (same : text.toList.map Char.toLower = other.toList.map Char.toLower) :
    parse? text = parse? other := by
  simp only [parse?, ← Text.trim_map Text.isBlank_toLower, same]

/-- Nor do the blanks around it. -/
theorem parse?_blanks {before text after : String}
    (blank : ∀ c ∈ before.toList, Text.isBlank c = true)
    (blank' : ∀ c ∈ after.toList, Text.isBlank c = true) :
    parse? (before ++ text ++ after) = parse? text := by
  simp only [parse?, String.toList_append, Text.trim_append_right blank',
    Text.trim_append_left blank]

end Level

/-- The filter after levels have been asked for one after another. -/
def Filter.after (filter : Filter) (texts : List String) : Filter :=
  texts.foldl (fun filter text => (filter.setLevel text).2) filter

/-- A text that names a level sets it. -/
theorem Filter.setLevel_of_some (filter : Filter) {text : String}
    (named : Level.parse? text = some level) :
    filter.setLevel text = (.ok (), ⟨level⟩) := by
  simp only [setLevel, named]

/-- One that names none changes nothing. -/
theorem Filter.setLevel_of_none (filter : Filter) {text : String}
    (unknown : Level.parse? text = none) :
    filter.setLevel text = (.error text, filter) := by
  simp only [setLevel, unknown]

/-- The level that holds is the last one that was named. -/
theorem Filter.level_after (filter : Filter) (texts : List String) :
    (filter.after texts).level = (texts.filterMap Level.parse?).getLast?.getD filter.level := by
  -- By induction on the texts, each of which leaves the filter that the rest begins with.
  induction texts generalizing filter with
  | nil => rfl
  | cons text rest ih =>
    rw [after, List.foldl_cons, ← after, ih]
    cases named : Level.parse? text with
    | none => rw [setLevel_of_none filter named, List.filterMap_cons_none named]
    | some level =>
      rw [setLevel_of_some filter named, List.filterMap_cons_some named, List.getLast?_cons,
        Option.getD_some]

end Log

namespace Supervision.Trace

/-- A level that is set holds until a further one is. -/
theorem level?_levelSet (time : Nat) (level : Log.Level) (rest : Trace) :
    Trace.level? (⟨time, .levelSet level⟩ :: rest) = some (rest.level?.getD level) := by
  unfold level?
  exact List.getLast?_cons

end Supervision.Trace

namespace Cli

/-- What is printed of a log is decided by the level that was set last, or else by the directives
that it began with. -/
theorem lines_append (directives : Log.Directives) (before after : Supervision.Trace) :
    lines directives (before ++ after) =
      lines directives before ++ lines (before.level?.elim directives .upTo) after := by
  -- By induction on what came before: only a level that is set changes what the rest is printed by.
  induction before generalizing directives with
  | nil => rfl
  | cons stamped rest ih =>
    obtain ⟨time, event⟩ := stamped
    cases event with
    | levelSet level =>
      rw [Supervision.Trace.level?_levelSet]
      refine (ih (.upTo level)).trans ?_
      cases Supervision.Trace.level? rest <;> rfl
    | notice origin notice =>
      -- What is printed is decided by the directives that hold now.
      have more := ih directives
      rw [List.cons_append]
      simp only [lines]
      split
      · exact congrArg (notice.entry.line :: ·) more
      · exact more
    | _ => exact ih directives

end Cli

namespace Log

/-- How the levels of a log are named and which of them holds. -/
structure LevelLaw : Prop where
  /-- A text names a level exactly if in lower case and without the blanks around it it is one of
  the names of a level. -/
  named : ∀ text level, Level.parse? text = some level ↔
    ∃ core, Text.Trims text.toList core ∧ Names (core.map Char.toLower) level
  /-- The letter case does not matter, -/
  cased : ∀ text other : String, text.toList.map Char.toLower = other.toList.map Char.toLower →
    Level.parse? text = Level.parse? other
  /-- nor do blanks around the text. -/
  blanks : ∀ before text after : String, (∀ c ∈ before.toList, Text.isBlank c = true) →
    (∀ c ∈ after.toList, Text.isBlank c = true) →
      Level.parse? (before ++ text ++ after) = Level.parse? text
  /-- Whatever has been asked for, the level that holds is the last one that was named, or else the
  first of all. -/
  holds : ∀ (filter : Filter) texts,
    (filter.after texts).level = (texts.filterMap Level.parse?).getLast?.getD filter.level
  /-- A text that names a level sets it, -/
  set : ∀ (filter : Filter) texts text level, Level.parse? text = some level →
    (filter.after texts).setLevel text = (.ok (), ⟨level⟩)
  /-- and one that names none is given back and changes nothing. -/
  refused : ∀ (filter : Filter) texts text, Level.parse? text = none →
    (filter.after texts).setLevel text = (.error text, filter.after texts)
  /-- Likewise a log that began with directives of any kind prints by them until a level is set, and
  then by the last. -/
  printed : ∀ directives (before after : Supervision.Trace),
    Cli.lines directives (before ++ after) =
    Cli.lines directives before ++ Cli.lines (before.level?.elim directives .upTo) after

/-- Levels are set by their names alone, and the last one that was named holds. -/
theorem last_named_level_holds : LevelLaw where
  named _ _ := Level.parse?_eq_some
  cased _ _ := Level.parse?_congr_case
  blanks _ _ _ := Level.parse?_blanks
  holds := Filter.level_after
  set filter texts _ _ := (filter.after texts).setLevel_of_some
  refused filter texts _ := (filter.after texts).setLevel_of_none
  printed := Cli.lines_append

end Log

end Warden
