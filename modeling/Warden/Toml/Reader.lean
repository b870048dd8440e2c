import Warden.Toml.Node

/-! Reading a configuration file: keys, nested values, headers and the lines between them. -/

namespace Warden.Toml

open Warden.Text Warden.Document

/-- The deepest nesting of values and of keys in one path. -/
def depthLimit : Nat := 80

/-- What may stand in a key without quotes. -/
def isBareKey (c : Char) : Bool := c.isAlphanum || c == '_' || c == '-'

/-- One part of a key: bare or a one-line string. -/
def scanSimpleKey : Scan String := fun text =>
  match text with
  | '"' :: rest => do
    let (chars, rest) ← scanBasicString rest
    return (String.ofList chars, rest)
  | '\'' :: rest => do
    let (chars, rest) ← scanLiteralString rest
    return (String.ofList chars, rest)
  | text =>
    let bare := text.takeWhile isBareKey
    if bare.isEmpty then missAt text false
    else .ok (String.ofList bare, text.drop bare.length)

/-- The parts of a key between dots, with spaces around each; a dot with no part behind it is
left. -/
def scanKeyParts (size : Nat) : Nat → Scan (List Key)
  | 0, text => missAt text true
  | fuel + 1, text => do
    let text := skipSpace text
    let (name, rest) ← scanSimpleKey text
    -- Places count from the front, so that the length of the rest tells where a part begins and
    -- ends.
    let part : Key := ⟨name, ⟨size - text.length, size - rest.length⟩⟩
    match skipSpace rest with
    | '.' :: after =>
      match scanKeyParts size fuel after with
      | .ok (parts, rest) => return (part :: parts, rest)
      -- A dot with nothing readable behind it is left for whoever reads on.
      | .error miss => if miss.final then .error miss else return ([part], '.' :: after)
    | rest => return ([part], rest)

/-- A key of one or more parts, as those before the last and the last; `size` is the length of the
whole text. -/
def scanKey (size : Nat) : Scan (List Key × Key) := fun text => do
  let (parts, rest) ← (scanKeyParts size (text.length + 1) text).mapError (·.within "key")
  if depthLimit ≤ parts.length then refuse .tooDeep text
  else return ((parts.dropLast, parts.getLast?.getD default), rest)

/-- The rest after a comment, without its line end, or all of the text if none begins there. -/
def skipComment : List Char → List Char
  | '#' :: rest => rest.dropWhile isPlain
  | text => text

/-- The rest after what may stand behind a value or a header: a comment and a line end. -/
def scanLineEnd : Scan Unit := fun text =>
  match skipComment (skipSpace text) with
  | [] => .ok ((), [])
  | rest =>
    match newline? rest with
    | some rest => .ok ((), rest)
    | none => .error { fault := { expected := ["newline", "`#`"] }, rest }

/-- Spaces, comments and line ends inside an array. -/
def skipLines : Nat → Scan Unit
  | 0, text => .ok ((), text)
  | fuel + 1, text =>
    match skipSpace text with
    | c :: rest =>
      if c = '#' ∨ c = '\n' ∨ c = '\r' then
        -- Each line of the array may end in a comment.
        let rest := skipComment (c :: rest)
        match newline? rest with
        | some rest => skipLines fuel rest
        | none => missAt rest true
      else .ok ((), c :: rest)
    | [] => .ok ((), [])

/-- The table of the pairs between braces. -/
def inlineTable : List (List Key × Key × Node) → Entries → Except Reason Entries
  | [], entries => .ok entries
  | (path, key, node) :: rest, entries =>
    match Entries.insert none .inline path key node entries with
    | .error e => .error e
    | .ok entries => inlineTable rest entries

/-- What could stand between a key and its value. -/
def missEquals {α : Type} (rest : List Char) : Except Miss α :=
  .error { fault := { expected := ["`.`", "`=`"] }, rest }

mutual

/-- A value; `size` is the length of the whole text, `depth` counts the brackets and braces around
it. -/
def scanValue (size : Nat) : Nat → Nat → Scan Node
  | 0, _, text => missAt text true
  | fuel + 1, depth, text =>
    match text with
    | '[' :: rest =>
      -- The depth is bounded before anything inside is read.
      if depthLimit ≤ depth + 1 then refuse .tooDeep text
      else do
        let (items, after) ← scanItems size fuel (depth + 1) rest
        match after with
        | ']' :: rest => return (.array ⟨size - text.length, size - rest.length⟩ items, rest)
        | rest => .error { fault := ⟨some "array", ["`]`"], none⟩, rest }
    | '\x7b' :: rest =>
      if depthLimit ≤ depth + 1 then refuse .tooDeep text
      else do
        let (pairs, after) ← scanPairs size fuel (depth + 1) rest
        -- Duplicates are found before a missing brace is.
        match inlineTable pairs [] with
        | .error e => refuse e rest
        | .ok entries =>
          match after with
          | '\x7d' :: after =>
            return (.table ⟨size - text.length, size - after.length⟩ .inline entries, after)
          | rest => .error { fault := ⟨some "inline table", ["`\x7d`"], none⟩, rest }
    | text => do
      let (value, rest) ← scanScalar text
      return (.scalar ⟨size - text.length, size - rest.length⟩ value, rest)

/-- The items of an array; where none can be read they end, whatever stands there. -/
def scanItems (size : Nat) : Nat → Nat → Scan (List Node)
  | 0, _, text => .ok ([], text)
  | fuel + 1, depth, text => do
    let ((), text) ← skipLines (text.length + 1) text
    match text with
    | ']' :: _ => return ([], text)
    | text =>
      match scanValue size fuel depth text with
      | .error miss => if miss.final then .error miss else return ([], text)
      | .ok (item, rest) =>
        match skipLines (rest.length + 1) rest with
        -- What follows an item is no line of the array, so that the item does not count either.
        | .error _ => return ([], text)
        | .ok ((), ',' :: rest) => do
          let (items, rest) ← scanItems size fuel depth rest
          return (item :: items, rest)
        | .ok ((), rest) => return ([item], rest)

/-- The pairs of an inline table; where none can be read they end, before the comma if one stands
there. -/
def scanPairs (size : Nat) : Nat → Nat → Scan (List (List Key × Key × Node))
  | 0, _, text => .ok ([], text)
  | fuel + 1, depth, text =>
    match scanKey size text with
    | .error miss => if miss.final then .error miss else .ok ([], skipSpace text)
    | .ok ((path, key), rest) =>
      match rest with
      | '=' :: rest => do
        let (node, rest) ← (scanValue size fuel depth (skipSpace rest)).mapError (·.finally)
        match skipSpace rest with
        | ',' :: after => do
          let (pairs, rest) ← scanPairs size fuel depth after
          -- A comma with no pair behind it is left, and the missing brace is reported at it.
          if pairs.isEmpty then return ([(path, key, node)], ',' :: after)
          else return ((path, key, node) :: pairs, rest)
        | rest => return ([(path, key, node)], rest)
      | rest => missEquals rest

end

/-- The document as far as it has been read, and the table that its last header opened. -/
structure Draft where
  root : Entries
  path : List Key
  isElement : Bool
  span : Span
  current : Entries

namespace Draft

/-- Nothing has been read, and the outermost table is open. -/
def empty : Draft := ⟨[], [], false, ⟨0, 0⟩, []⟩

/-- The fault that a header names what cannot be opened. -/
def taken {α : Type} (path : List Key) (key : Key) : Except Reason α :=
  .error (.duplicate key.name (some (path.map Key.name)))

/-- Puts the open table into its place. -/
def close (draft : Draft) : Except Reason Entries :=
  match draft.path.getLast? with
  | none => .ok draft.current
  | some key =>
    -- The parents of the table are looked up or made on the way.
    let edit := fun (_ : Origin) (inner : Entries) =>
      match Entries.get? key.name inner with
      -- The table is new, or it is the next element of the array that an earlier header began.
      | none =>
        let node : Node :=
          if draft.isElement then .tables [(draft.span, draft.current)]
          else .table draft.span .header draft.current
        Except.ok ((), inner ++ [(key.name, node)])
      | some (.tables elements) =>
        if draft.isElement then
          .ok ((),
            Entries.replace key.name (.tables (elements ++ [(draft.span, draft.current)])) inner)
        else taken draft.path.dropLast key
      | some _ => taken draft.path.dropLast key
    (Entries.change false edit [] draft.path.dropLast .header draft.root).map (·.2)

/-- Opens the table of a header; one that longer headers have made before keeps its entries. -/
def openTable (draft : Draft) (path : List Key) (key : Key) (span : Span) : Except Reason Draft :=
  match draft.close with
  | .error e => .error e
  | .ok root =>
    let edit := fun (_ : Origin) (inner : Entries) =>
      match Entries.get? key.name inner with
      -- A header opens a table once; one that exists only as a parent of others may still be
      -- opened.
      | none => Except.ok ([], inner)
      | some (.table _ .parent entries) => .ok (entries, Entries.erase key.name inner)
      | some _ => taken path key
    match Entries.change false edit [] path .header root with
    | .error e => .error e
    | .ok (current, root) => .ok ⟨root, path ++ [key], false, span, current⟩

/-- Opens the next element of an array of tables. -/
def openElement (draft : Draft) (path : List Key) (key : Key) (span : Span) : Except Reason Draft :=
  match draft.close with
  | .error e => .error e
  | .ok root =>
    let edit := fun (_ : Origin) (inner : Entries) =>
      -- An array of tables may be there already, and then it gets one more element.
      match Entries.get? key.name inner with
      | none | some (.tables _) => Except.ok ((), inner)
      | some _ => taken path key
    match Entries.change false edit [] path .header root with
    | .error e => .error e
    | .ok ((), root) => .ok ⟨root, path ++ [key], true, span, []⟩

/-- Adds a value to the open table. -/
def add (draft : Draft) (path : List Key) (key : Key) (node : Node) : Except Reason Draft :=
  match Entries.insert (some (draft.path.map Key.name)) .header path key node draft.current with
  | .error e => .error e
  -- The value may be what the table ends with, so that the stretch of the table grows with it.
  | .ok current =>
    .ok { draft with current, span := ⟨draft.span.start, max draft.span.stop node.span.stop⟩ }

end Draft

/-- The closing brackets of a header. -/
def scanClosing (isElement : Bool) : Scan Unit := fun text =>
  match isElement, text with
  | true, ']' :: ']' :: rest => .ok ((), rest)
  | false, ']' :: rest => .ok ((), rest)
  | _, rest =>
    .error { fault := { expected := ["`.`", if isElement then "`]]`" else "`]`"] }, rest }

/-- Reads a header from its first bracket to the end of its line. -/
def scanHeader (size : Nat) (draft : Draft) : Scan Draft := fun text =>
  Except.mapError (·.within "table header") do
    if text.length < 2 then return ← missAt text true
    let isElement := text.take 2 == ['[', '[']
    let ((path, key), rest) ← scanKey size (text.drop (if isElement then 2 else 1))
    let ((), rest) ← scanClosing isElement rest
    let span : Span := ⟨size - text.length, size - rest.length⟩
    let ((), after) ← scanLineEnd rest
    match if isElement then draft.openElement path key span else draft.openTable path key span with
    | .error e => refuse e text
    | .ok draft => return (draft, after)

/-- Reads a key, its value and the end of the line. -/
def scanPair (size : Nat) (draft : Draft) : Scan Draft := fun text => do
  let ((path, key), rest) ← scanKey size text
  match rest with
  | '=' :: rest => do
    -- This is more fuel than there are steps to take, so that it is the text that comes to its end.
    let (node, rest) ← scanValue size (3 * size + 3) 0 (skipSpace rest)
    let ((), rest) ← scanLineEnd rest
    match draft.add path key node with
    | .error e => refuse e text
    | .ok draft => return (draft, rest)
  | rest => missEquals rest

/-- Reads line after line; every line but the last takes at least one character. -/
def scanLines (size : Nat) : Nat → Draft → List Char → Except Miss Draft
  | 0, draft, _ => .ok draft
  | fuel + 1, draft, text =>
    match skipSpace text with
    | [] => .ok draft
    | '[' :: rest => do
      let (draft, rest) ← scanHeader size draft ('[' :: rest)
      scanLines size fuel draft rest
    | c :: rest =>
      -- A line without a pair: it may be empty or a comment.
      if c = '#' ∨ c = '\n' ∨ c = '\r' then
        match skipComment (c :: rest) with
        | [] => .ok draft
        | rest =>
          match newline? rest with
          | some rest => scanLines size fuel draft rest
          | none => missAt rest true
      else do
        let (draft, rest) ← scanPair size draft (c :: rest)
        scanLines size fuel draft rest

/-- The stretch that a fault points at: one character, or none at the end of the text. -/
def faultSpan (size : Nat) (rest : List Char) : Span :=
  ⟨size - rest.length, if rest.isEmpty then size else size - rest.length + 1⟩

/-- Reads a whole file as its outermost table. -/
def read (text : String) : Except Report Node :=
  -- The places are counted in characters, of which the mark at the front of the file is one.
  let chars := text.toList
  let size := chars.length
  let body := match chars with
    | '\ufeff' :: rest => rest
    | chars => chars
  match scanLines size (size + 1) .empty body with
  | .error miss => .error ⟨faultSpan size miss.rest, miss.fault.message⟩
  | .ok draft =>
    match draft.close with
    | .error reason => .error ⟨⟨size, size⟩, reason.message⟩
    | .ok entries => .ok (.table ⟨0, size⟩ .header entries)

end Warden.Toml
