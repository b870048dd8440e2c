import Mathlib.Logic.ExistsUnique
import Warden.Ethereum.Name

/-!
Names and their nodes: a name is parted at its dots in one way only, and its node is that of its
labels, each below the node of those behind it.
-/

namespace Warden.Ethereum

/-- A name is parted at its dots. -/
theorem labels_eq_splitOn (text : List Char) : labels text = text.splitOn '.' := by
  induction text with
  | nil => rfl
  | cons c rest ih =>
    rw [labels, List.splitOn_cons_eq_if_modifyHead, ih]
    by_cases dot : c = '.'
    · simp [dot]
    · -- The character goes to the first label of the rest, which there is in any case.
      rw [if_neg dot, if_neg (by simpa using dot)]
      cases parts : rest.splitOn '.' with
      | nil => exact absurd parts (List.splitOn_ne_nil '.' rest)
      | cons label others => rfl

/-- There is a label in any text, be it an empty one. -/
theorem labels_ne_nil (text : List Char) : labels text ≠ [] :=
  labels_eq_splitOn text ▸ List.splitOn_ne_nil '.' text

/-- The labels of a text, joined by dots, are the text. -/
theorem intercalate_labels (text : List Char) : ['.'].intercalate (labels text) = text := by
  rw [labels_eq_splitOn, List.intercalate_splitOn]

/-- Labels without a dot, joined by dots, are the labels of what they are joined to. -/
theorem labels_intercalate {parts : List (List Char)} (some : parts ≠ [])
    (apart : ∀ label ∈ parts, '.' ∉ label) :
    labels (['.'].intercalate parts) = parts := by
  rw [labels_eq_splitOn, List.splitOn_intercalate '.' apart some]

/-- No label has a dot in it. -/
theorem dot_notMem_of_mem_labels {text label : List Char} (member : label ∈ labels text) :
    '.' ∉ label := by
  -- A dot ends the label before it, and any other character is put before the first label of the
  -- rest.
  induction text generalizing label with
  | nil =>
    rw [List.mem_singleton.mp member]
    exact List.not_mem_nil
  | cons c rest ih =>
    rw [labels] at member
    split at member
    -- The dot is in neither part: the first label is empty, and the others are those of the rest.
    · obtain rfl | member := List.mem_cons.mp member
      · exact List.not_mem_nil
      · exact ih member
    -- A character that is no dot goes to the first label.
    · rename_i plain
      cases parts : labels rest with
      | nil => exact absurd parts (labels_ne_nil rest)
      | cons first others =>
        rw [parts] at ih member
        obtain rfl | member := List.mem_cons.mp member
        · exact List.not_mem_cons_of_ne_of_not_mem (Ne.symm plain) (ih List.mem_cons_self)
        · exact ih (List.mem_cons_of_mem first member)

/-- The node of a name that is not empty is the node of its labels. -/
theorem namehash_eq {name : String} (some : name ≠ "") :
    namehash name = nodeOfLabels (labels name.toList) := by
  rw [namehash, if_neg (by simpa using some), foldl_childNode_reverse]

/-- Labels that make up a name: there are some, without a dot in them, and the name is what dots
join them to. -/
structure MakeUp (parts : List String) (name : String) : Prop where
  some : parts ≠ []
  apart : ∀ label ∈ parts, '.' ∉ label.toList
  joined : ".".intercalate parts = name

variable {parts : List String} {name label rest : String}

/-- The labels of a name are the parts that make it up. -/
theorem MakeUp.labels (made : MakeUp parts name) :
    labels name.toList = parts.map String.toList := by
  have apart : ∀ label ∈ parts.map String.toList, '.' ∉ label := by
    simpa using made.apart
  rw [← made.joined, String.toList_intercalate]
  exact labels_intercalate (by simpa using made.some) apart

/-- Every name is made up of labels in one way. -/
theorem existsUnique_makeUp (name : String) : ∃! parts, MakeUp parts name := by
  -- What lies between the dots is a make-up, and whatever is one lies between the dots.
  refine ⟨(Ethereum.labels name.toList).map String.ofList, ⟨?_, ?_, ?_⟩, fun parts made => ?_⟩
  · simpa using labels_ne_nil name.toList
  · intro label member
    obtain ⟨text, among, rfl⟩ := List.mem_map.mp member
    rw [String.toList_ofList]
    exact dot_notMem_of_mem_labels among
  · rw [← String.toList_inj, String.toList_intercalate, List.map_map]
    simpa [Function.comp_def] using intercalate_labels name.toList
  · rw [made.labels, List.map_map]
    simp [Function.comp_def]

/-- A name that is not empty has the labels that make it up as its own. -/
theorem MakeUp.namehash_eq (made : MakeUp parts name) (some : name ≠ "") :
    namehash name = nodeOfLabels (parts.map String.toList) := by
  rw [Ethereum.namehash_eq some, made.labels]

/-- A label is put before the labels of a name by a dot between them. -/
theorem labels_append_dot (apart : '.' ∉ label.toList) :
    labels (label ++ "." ++ rest).toList = label.toList :: labels rest.toList := by
  obtain ⟨parts, made, _⟩ := existsUnique_makeUp rest
  have whole : MakeUp (label :: parts) (label ++ "." ++ rest) :=
    ⟨List.cons_ne_nil _ _, List.forall_mem_cons.mpr ⟨apart, made.apart⟩, by
      rw [String.intercalate_cons_of_ne_nil made.some, made.joined]⟩
  rw [whole.labels, made.labels, List.map_cons]

/-- How the nodes of names come about: by the recursion on their labels, from the last to the
first. -/
structure NodeLaw : Prop where
  /-- Without labels there is the root, -/
  root : nodeOfLabels [] = Word.zero
  /-- and a label is hashed behind the node of the labels that follow it. -/
  child : ∀ (label : String) (rest : List (List Char)), nodeOfLabels (label.toList :: rest) =
    keccak256 ((nodeOfLabels rest).toList ++ (keccak256 label.toUTF8.data.toList).toList)
  /-- The empty name is the root, -/
  empty : namehash "" = Word.zero
  /-- and any other has the node of the labels that make it up, empty ones among them. -/
  named : ∀ parts name, MakeUp parts name → name ≠ "" →
    namehash name = nodeOfLabels (parts.map String.toList)
  /-- This says it of each name, as there are such labels for it, and no others. -/
  made : ∀ name, ∃! parts, MakeUp parts name
  /-- So a label before a name that is not empty has its node below that of the name. -/
  below : ∀ label rest : String, '.' ∉ label.toList → rest ≠ "" → namehash (label ++ "." ++ rest) =
    keccak256 ((namehash rest).toList ++ (keccak256 label.toUTF8.data.toList).toList)

/-- A label stands before those that follow it. -/
theorem nodeOfLabels_cons (label : String) (rest : List (List Char)) :
    nodeOfLabels (label.toList :: rest) =
    keccak256 ((nodeOfLabels rest).toList ++ (keccak256 label.toUTF8.data.toList).toList) := by
  rw [nodeOfLabels, childNode, Text.utf8_toList]

/-- Taking in the labels of a name from the last to the first is the recursion on all of them. -/
theorem namehash_follows_labels : NodeLaw where
  root := rfl
  child := nodeOfLabels_cons
  empty := rfl
  named _ _ made some := made.namehash_eq some
  made := existsUnique_makeUp
  below label rest apart some := by
    -- With a dot in it the name is not empty, so that it is not the root.
    have more : label ++ "." ++ rest ≠ "" := by simp
    rw [namehash_eq more, labels_append_dot apart, nodeOfLabels_cons, ← namehash_eq some]

end Warden.Ethereum
