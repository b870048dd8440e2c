import Warden.Ethereum.Keccak
import Warden.Text.Utf8

/-! Names of the Ethereum Name Service and the nodes they stand for. -/

namespace Warden.Ethereum

/-- The labels of a name: its parts between dots, some of them possibly empty. -/
def labels : List Char → List (List Char)
  | [] => [[]]
  | c :: rest =>
    if c = '.' then [] :: labels rest
    else
      match labels rest with
      | [] => [[c]]
      | label :: others => (c :: label) :: others

/-- The node of a label below a parent node. -/
def childNode (parent : Word) (label : List Char) : Word :=
  keccak256 (parent.toList ++ (keccak256 (Text.utf8 label)).toList)

/-- The node of a name: labels are taken in from the last to the first, and the empty name is the
root. -/
def namehash (name : String) : Word :=
  -- The empty name has one empty label, but is the root all the same.
  if name.isEmpty then Word.zero
  else (labels name.toList).reverse.foldl childNode Word.zero

/-- The node of a list of labels, each below the node of those after it. -/
def nodeOfLabels : List (List Char) → Word
  | [] => Word.zero
  | label :: rest => childNode (nodeOfLabels rest) label

/-- The word as servers write it. -/
def Word.text (word : Word) : String :=
  "0x" ++ String.ofList (Text.hexBytes word.toList)

/-- Labels that are taken in from the last to the first give the node of their list. -/
theorem foldl_childNode_reverse (parts : List (List Char)) :
    parts.reverse.foldl childNode Word.zero = nodeOfLabels parts := by
  -- Folding the reversed list from the left is folding the list from the right.
  induction parts with
  | nil => rfl
  | cons label rest ih => simp [List.foldl_append, ih, nodeOfLabels]

end Warden.Ethereum
