import Warden.Config.Source

/-! The files of a bare system: a few directories and an empty device. -/

namespace Warden.Scenario

open Config (FileFault)

/-- The directories that every system has. -/
def directories : List (List String) :=
  [["dev"], ["etc"], ["home"], ["proc"], ["root"], ["tmp"], ["usr"], ["var"]]

/-- The longest name of a file, in bytes. -/
def nameLimit : Nat := 255

/-- The longest path, in bytes, with the mark that ends it. -/
def pathLimit : Nat := 4096

/-- Follows the parts of a path from a directory to the content of a file. -/
def followPath : List String → List String → Except FileFault String
  | _, [] => .error .isDirectory
  | here, part :: rest =>
    if nameLimit < part.utf8ByteSize then .error .nameTooLong
    else
      let next := here ++ [part]
      if next = ["dev", "null"] then (if rest.isEmpty then .ok "" else .error .notDirectory)
      else if next ∈ directories then followPath next rest
      else .error .missing

/-- The content of the file with this path. -/
def fileContent (path : String) : Except FileFault String :=
  if path.toList.contains '\x00' then .error .nulInPath
  else if path.isEmpty then .error .missing
  else if pathLimit ≤ path.utf8ByteSize then .error .nameTooLong
  else
    let parts := (path.splitOn "/").filter fun part => part != "" && part != "."
    if path.startsWith "/dev/null/" then .error .notDirectory
    else if path.startsWith "/" then followPath [] parts
    else followPath ["."] parts

end Warden.Scenario
