import Mathlib.Data.List.Nodup
import Warden.Config.Decode

/-!
Records that are read from tables part by part: what a table says of one part is taken without
regard to the others, and so a table may be revised wherever what it says of each part remains.
-/

namespace Warden.Document

/-- Entries some of which are left out as they are the default's; `R` is what may become of the
values of the others. -/
inductive Thinned (R : Value → Value → Value → Prop) :
    List (String × Value) → List (String × Value) → List (String × Value) → Prop
  | nil : Thinned R [] [] []
  | kept {key : String} {default value revised : Value}
    {defaults entries rest : List (String × Value)} :
    R default value revised → Thinned R defaults entries rest →
      Thinned R ((key, default) :: defaults) ((key, value) :: entries) ((key, revised) :: rest)
  | left {key : String} {default value : Value} {defaults entries rest : List (String × Value)} :
    value = default → Thinned R defaults entries rest →
      Thinned R ((key, default) :: defaults) ((key, value) :: entries) rest

/-- What may be made of a value, given the default's: from a table, and from the tables in it, what
is the default's is left out, entries under unknown keys are added, and the entries are brought into
any order. -/
inductive Revised : Value → Value → Value → Prop
  | same {default value : Value} : Revised default value value
  | table {defaults entries rest more result : List (String × Value)} :
    Thinned Revised defaults entries rest → (∀ entry ∈ more, entry.1 ∉ entries.map Prod.fst) →
      result.Perm (rest ++ more) → Revised (.table defaults) (.table entries) (.table result)

/-- One part of a record: the key it stands under, how it is written and read there, and its place
in the record. -/
structure Part (σ : Type) where
  {Held : Type}
  name : String
  encode : Held → Value
  decode : Decoder Held
  get : σ → Held
  set : Held → σ → σ

namespace Part

variable {σ : Type}

/-- How the value of a part changes the record. -/
def setting (part : Part σ) : Setting σ := field part.name part.decode part.set

/-- Whatever is made of what is written for the part is read as that part. -/
def Reads (part : Part σ) (default : σ) : Prop :=
  ∀ held value, Revised (part.encode (part.get default)) (part.encode held) value →
    part.decode value = .ok held

/-- What is written for a part of a record. -/
def entry (record : σ) (part : Part σ) :
    String × Value := (part.name, part.encode (part.get record))

/-- What a table tells of a part: any value under its key reads as the part, and without one the
part is the default's. -/
structure Told (entries : List (String × Value)) (default record : σ) (part : Part σ) : Prop where
  present : ∀ value, (part.name, value) ∈ entries → part.decode value = .ok (part.get record)
  absent : (∀ value, (part.name, value) ∉ entries) → part.get record = part.get default

end Part

/-- A kind of record with its default, made up of parts under different keys each of which is set
apart from the others and is read from whatever is made of what is written for it. -/
structure Layout (σ : Type) where
  name : String
  default : σ
  parts : List (Part σ)
  distinct : (parts.map Part.name).Nodup := by simp
  get_set : ∀ part ∈ parts, ∀ held record, part.get (part.set held record) = held := by simp
  get_set_other : ∀ part ∈ parts, ∀ other ∈ parts, other.name ≠ part.name →
    ∀ held record, other.get (part.set held record) = other.get record := by simp
  ext : ∀ record record', (∀ part ∈ parts, part.get record = part.get record') →
    record = record' := by
    rintro ⟨⟩ ⟨⟩ same
    simpa using same
  reads : ∀ part ∈ parts, part.Reads default := by simp

namespace Layout

variable {σ : Type} (layout : Layout σ) {entries rest : List (String × Value)} {record default : σ}

/-- A record as the table of its parts. -/
def encode (record : σ) : Value := .table (layout.parts.map (Part.entry record))

/-- Reads a record of this layout. -/
def decode (form : ListForm) : Decoder σ :=
  Document.record form layout.name layout.default (layout.parts.map Part.setting)

/-- The reading takes each part from what the table tells of it alone. -/
def ReadBy (decode : Decoder σ) : Prop :=
  ∀ entries, (entries.map Prod.fst).Nodup → ∀ record,
    decode (.table entries) = .ok record ↔
      ∀ part ∈ layout.parts, part.Told entries layout.default record

variable {layout}

/-- There is one part under a key. -/
theorem eq_of_name_eq {part other : Part σ} (is : part ∈ layout.parts) (too : other ∈ layout.parts)
    (same : part.name = other.name) : part = other :=
  List.inj_on_of_nodup_map layout.distinct is too same

/-- An entry under an unknown key changes nothing. -/
theorem putEntries_unknown {key : String} (unknown : ∀ part ∈ layout.parts, part.name ≠ key)
    (value : Value) :
    putEntries (layout.parts.map Part.setting) ((key, value) :: rest) default =
      putEntries (layout.parts.map Part.setting) rest default := by
  have none : (layout.parts.map Part.setting).find? (·.name == key) = none := by
    simpa [Part.setting, field] using unknown
  rw [putEntries, none]

/-- An entry under the key of a part sets that part. -/
theorem putEntries_known {part : Part σ} (is : part ∈ layout.parts) (value : Value) :
    putEntries (layout.parts.map Part.setting) ((part.name, value) :: rest) default =
      match part.decode value with
      | .ok held => putEntries (layout.parts.map Part.setting) rest (part.set held default)
      | .error m => .error (m.under (.key part.name)) := by
  -- No other part has this name, so that the first one found under it is the part itself.
  have found : (layout.parts.map Part.setting).find? (·.name == part.name) = some part.setting := by
    rw [List.find?_map]
    cases first : layout.parts.find? ((·.name == part.name) ∘ Part.setting) with
    | none => exact absurd (List.find?_eq_none.mp first part is) (by simp [Part.setting, field])
    | some other =>
      have same : other.name = part.name := by
        simpa [Part.setting, field] using List.find?_some first
      rw [layout.eq_of_name_eq (List.mem_of_find?_eq_some first) is same, Option.map_some]
  rw [putEntries, found]
  simp only [Part.setting, field]
  -- The entry is read as the part is, or refused with its error.
  cases part.decode value <;> rfl

/-- An entry under another key tells nothing of a part. -/
theorem told_cons_of_ne {part : Part σ} {key : String} {value : Value} (name : part.name ≠ key) :
    part.Told ((key, value) :: rest) default record ↔ part.Told rest default record := by
  -- An entry under another key says nothing of this part.
  have same : ∀ given, (part.name, given) ∈ (key, value) :: rest ↔ (part.name, given) ∈ rest := by
    simp [name]
  constructor
  · refine fun told =>
      ⟨fun given found => told.present given ((same given).mpr found), fun none => ?_⟩
    exact told.absent fun given found => none given ((same given).mp found)
  · refine fun told =>
      ⟨fun given found => told.present given ((same given).mp found), fun none => ?_⟩
    exact told.absent fun given found => none given ((same given).mpr found)

/-- Nor does it matter what that entry sets. -/
theorem told_set_of_ne {part other : Part σ} {value : Value} (held : part.Held)
    (is : part ∈ layout.parts) (too : other ∈ layout.parts) (name : other.name ≠ part.name) :
    other.Told ((part.name, value) :: rest) default record ↔
      other.Told rest (part.set held default) record := by
  have same := layout.get_set_other part is other too name held default
  rw [told_cons_of_ne name]
  constructor
  · exact fun told => ⟨told.present, fun none => (told.absent none).trans same.symm⟩
  · exact fun told => ⟨told.present, fun none => (told.absent none).trans same⟩

/-- The only entry of a part tells what it sets. -/
theorem told_cons_self {part : Part σ} {value : Value} {held : part.Held} (is : part ∈ layout.parts)
    (only : part.name ∉ rest.map Prod.fst) (read : part.decode value = .ok held)
    (told : part.Told rest (part.set held default) record) :
    part.Told ((part.name, value) :: rest) default record := by
  have none : ∀ given, (part.name, given) ∉ rest :=
    fun given found => only (List.mem_map_of_mem found)
  refine ⟨fun given found => ?_, fun lacks => absurd List.mem_cons_self (lacks value)⟩
  obtain same | found := List.mem_cons.mp found
  · -- Nothing comes after it, so what it sets is what the record holds.
    cases same
    rw [read, told.absent none, layout.get_set part is]
  · exact absurd found (none given)

/-- A table of which every part is told as it is in a record is read as that record. -/
theorem putEntries_of_told (told : ∀ part ∈ layout.parts, part.Told entries default record) :
    putEntries (layout.parts.map Part.setting) entries default = .ok record := by
  -- By induction on the entries: what one of them sets is the default of its part for the others.
  induction entries generalizing default with
  | nil => exact congrArg _ (layout.ext _ _ fun part is => ((told part is).absent nofun).symm)
  | cons entry rest ih =>
    obtain ⟨key, value⟩ := entry
    by_cases unknown : ∀ part ∈ layout.parts, part.name ≠ key
    -- An entry that names no part is passed over.
    · rw [putEntries_unknown unknown]
      exact ih fun part is => (told_cons_of_ne (unknown part is)).mp (told part is)
    · push Not at unknown
      obtain ⟨part, is, rfl⟩ := unknown
      -- An entry that names one sets it, and the rest is read into what it has set.
      rw [putEntries_known is, (told part is).present value List.mem_cons_self]
      refine ih fun other too => ?_
      by_cases name : other.name = part.name
      · -- Another entry for the part could only set it to the same once more.
        obtain rfl := layout.eq_of_name_eq too is name
        exact ⟨fun given found => (told other too).present given (List.mem_cons_of_mem _ found),
          fun _ => (layout.get_set other too _ _).symm⟩
      · exact (told_set_of_ne _ is too name).mp (told other too)

/-- And a table under different keys that is read as a record tells every part as it is in it. -/
theorem told_of_putEntries (distinct : (entries.map Prod.fst).Nodup)
    (read : putEntries (layout.parts.map Part.setting) entries default = .ok record) :
    ∀ part ∈ layout.parts, part.Told entries default record := by
  -- By the same induction: what the other entries tell is told with the first one, whose key none
  -- of them has.
  induction entries generalizing default with
  | nil =>
    cases read
    exact fun part _ => ⟨nofun, fun _ => rfl⟩
  | cons entry rest ih =>
    obtain ⟨key, value⟩ := entry
    obtain ⟨only, later⟩ := List.nodup_cons.mp distinct
    by_cases unknown : ∀ part ∈ layout.parts, part.name ≠ key
    · rw [putEntries_unknown unknown] at read
      exact fun part is => (told_cons_of_ne (unknown part is)).mpr (ih later read part is)
    · push Not at unknown
      obtain ⟨part, is, rfl⟩ := unknown
      rw [putEntries_known is] at read
      -- Everything was read, so that this entry was.
      cases taken : part.decode value with
      | error m =>
        rw [taken] at read
        cases read
      | ok held =>
        rw [taken] at read
        intro other too
        have told := ih later read other too
        by_cases name : other.name = part.name
        -- The names are told once, so that nothing else is told of this part.
        · obtain rfl := layout.eq_of_name_eq too is name
          exact told_cons_self is only taken told
        · exact (told_set_of_ne held is too name).mpr told

/-- A layout is read part by part. -/
theorem decode_readBy (form : ListForm) : layout.ReadBy (layout.decode form) :=
  fun _ distinct _ => ⟨told_of_putEntries distinct, putEntries_of_told⟩

section Revising

variable {parts : List (Part σ)} {value : Value} {form : ListForm}

/-- Nothing need be left out. -/
theorem thinned_refl (parts : List (Part σ)) (default record : σ) :
    Thinned Revised (parts.map (Part.entry default)) (parts.map (Part.entry record))
      (parts.map (Part.entry record)) := by
  induction parts with
  | nil => exact .nil
  | cons part parts ih => exact .kept .same ih

/-- Each entry that is not left out is that of a part, with what is made of its value. -/
theorem of_mem_thinned
    (thinned : Thinned Revised (parts.map (Part.entry default))
      (parts.map (Part.entry record)) rest)
    {key : String} (found : (key, value) ∈ rest) : ∃ part ∈ parts, part.name = key ∧
      Revised (part.encode (part.get default)) (part.encode (part.get record)) value := by
  -- By induction on the parts: the entry is that of the first one or of one behind it.
  induction parts generalizing rest with
  | nil => cases thinned; cases found
  | cons part parts ih =>
    cases thinned with
    -- The first part was written, or it was left out for being the default.
    | kept made thinned =>
      obtain same | later := List.mem_cons.mp found
      · cases same
        exact ⟨part, List.mem_cons_self, rfl, made⟩
      · obtain ⟨other, is, made⟩ := ih thinned later
        exact ⟨other, List.mem_cons_of_mem _ is, made⟩
    | left _ thinned =>
      obtain ⟨other, is, made⟩ := ih thinned found
      exact ⟨other, List.mem_cons_of_mem _ is, made⟩

/-- A part without an entry is written as that of the default. -/
theorem eq_of_thinned
    (thinned : Thinned Revised (parts.map (Part.entry default))
      (parts.map (Part.entry record)) rest)
    {part : Part σ} (is : part ∈ parts) (none : ∀ value, (part.name, value) ∉ rest) :
    part.encode (part.get record) = part.encode (part.get default) := by
  -- By induction on the parts: the first one was left out, since it has no entry, or it is another
  -- one.
  induction parts generalizing rest with
  | nil => cases is
  | cons first parts ih =>
    cases thinned with
    | kept _ thinned =>
      obtain rfl | later := List.mem_cons.mp is
      · exact absurd List.mem_cons_self (none _)
      · exact ih thinned later fun value found => none value (List.mem_cons_of_mem _ found)
    | left same thinned =>
      obtain rfl | later := List.mem_cons.mp is
      · exact same
      · exact ih thinned later none

/-- Whatever is made of the table of a record is read as that record. -/
theorem decode_revised
    (revised : Revised (layout.encode layout.default) (layout.encode record) value) :
    layout.decode form value = .ok record := by
  obtain ⟨rest, more, result, rfl, thinned, fresh, order⟩ : ∃ rest more result, value =
    .table result ∧
      Thinned Revised (layout.parts.map (Part.entry layout.default))
        (layout.parts.map (Part.entry record)) rest ∧
      (∀ entry ∈ more, entry.1 ∉ (layout.parts.map (Part.entry record)).map Prod.fst) ∧
        result.Perm (rest ++ more) := by
    -- A record that is written out as it is lacks nothing and has nothing more.
    unfold encode at revised
    cases revised with
    | same => exact ⟨_, [], _, rfl, thinned_refl .., nofun, by simp⟩
    | table thinned fresh order => exact ⟨_, _, _, rfl, thinned, fresh, order⟩
  refine putEntries_of_told fun part is => ⟨fun value found => ?_, fun none => ?_⟩
  · -- What stands under the key of a part is no unknown entry, and so it is made of what was
    -- written for the part.
    obtain kept | added := List.mem_append.mp (order.mem_iff.mp found)
    · obtain ⟨other, too, same, made⟩ := of_mem_thinned thinned kept
      obtain rfl := layout.eq_of_name_eq too is same
      exact layout.reads _ is _ _ made
    · exact absurd (by simpa [Part.entry] using ⟨part, is, rfl⟩) (fresh _ added)
  · -- What is left out was written as the default is, and what was written alike is read alike.
    have same := eq_of_thinned thinned is fun value kept =>
      none value (order.mem_iff.mpr (List.mem_append_left _ kept))
    have read := layout.reads part is (part.get record) _ .same
    rw [same, layout.reads part is _ _ .same] at read
    exact (Except.ok.inj read).symm

end Revising

end Layout

end Warden.Document
