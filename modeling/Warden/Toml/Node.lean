import Warden.Toml.Scalar

/-! The tables of a configuration file while it is read, and where each value stands in its text. -/

namespace Warden.Toml

open Warden.Document

/-- How a table came to be, which decides what may still be added to it. -/
inductive Origin
  | header
  | parent
  | dotted
  | inline
deriving Repr, DecidableEq

/-- A table that exists only because a longer path passed through it. -/
def Origin.isImplicit : Origin → Bool
  | .parent | .dotted => true
  | .header | .inline => false

/-- A part of a key with the stretch of text that wrote it. -/
structure Key where
  name : String
  span : Span
deriving Repr, DecidableEq, Inhabited

/-- A value with the stretch of text that wrote it; a table that paths alone have made stands where
its key does. -/
inductive Node
  | scalar (span : Span) (value : Value)
  | array (span : Span) (items : List Node)
  | table (span : Span) (origin : Origin) (entries : List (String × Node))
  | tables (elements : List (Span × List (String × Node)))
deriving Inhabited

/-- The entries of a table in the order of the document. -/
abbrev Entries := List (String × Node)

namespace Node

/-- The stretch of text that wrote a value. -/
def span : Node → Span
  | .scalar span _ => span
  | .array span _ => span
  | .table span _ _ => span
  | .tables elements =>
    -- An array of tables reaches from its first element to its last.
    match elements.head?, elements.getLast? with
    | some (first, _), some (last, _) => ⟨first.start, last.stop⟩
    | _, _ => ⟨0, 0⟩

/-- What a fault calls a value that is no table. -/
def kindName : Node → String
  | .scalar _ (.string _) => "string"
  | .scalar _ (.integer _) => "integer"
  | .scalar _ (.float _) => "float"
  | .scalar _ (.boolean _) => "boolean"
  | .scalar _ _ => "datetime"
  | .array _ _ => "array"
  | .table _ .inline _ => "inline table"
  | .table _ _ _ => "table"
  | .tables _ => "array of tables"

mutual

/-- The value without its place in the text. -/
def value : Node → Value
  | .scalar _ value => value
  | .array _ items => .list (values items)
  | .table _ _ entries => .table (entryValues entries)
  | .tables elements => .list (tableValues elements)

/-- The values of the items of an array. -/
def values : List Node → List Value
  | [] => []
  | node :: rest => node.value :: values rest

/-- The values of the entries of a table. -/
def entryValues : List (String × Node) → List (String × Value)
  | [] => []
  | (key, node) :: rest => (key, node.value) :: entryValues rest

/-- The values of the elements of an array of tables. -/
def tableValues : List (Span × List (String × Node)) → List Value
  | [] => []
  | (_, entries) :: rest => .table (entryValues entries) :: tableValues rest

end

end Node

namespace Entries

/-- The value under a key. -/
def get? (key : String) : Entries → Option Node
  | [] => none
  | (k, node) :: rest => if k = key then some node else get? key rest

/-- Puts a node in the place of the one under the same key. -/
def replace (key : String) (node : Node) : Entries → Entries
  | [] => []
  | (k, old) :: rest => if k = key then (k, node) :: rest else (k, old) :: replace key node rest

/-- Takes out the entry under a key. -/
def erase (key : String) : Entries → Entries
  | [] => []
  | (k, old) :: rest => if k = key then rest else (k, old) :: erase key rest

/-- Changes the table at the end of a path, making the tables that are missing on the way.

A dotted path never enters a table that a header or braces have made. -/
def change {α : Type} (dotted : Bool)
    (edit : Origin → Entries → Except Reason (α × Entries)) :
    List String → List Key → Origin → Entries → Except Reason (α × Entries)
  | _, [], origin, entries => edit origin entries
  | before, key :: path, _, entries =>
    let here := before ++ [key.name]
    match get? key.name entries with
    | none =>
      -- What is made on the way is marked as such, so that a header may still open it later.
      let origin : Origin := if dotted then .dotted else .parent
      match change dotted edit here path origin [] with
      | .error e => .error e
      | .ok (result, inner) => .ok (result, entries ++ [(key.name, .table key.span origin inner)])
    | some (.table at_ origin inner) =>
      -- Braces are closed for good.
      if origin = .inline then .error (.extends here "inline table")
      -- A dotted key does not reach into what a header has opened.
      else if dotted ∧ !origin.isImplicit then .error (.duplicate key.name none)
      else
        match change dotted edit here path origin inner with
        | .error e => .error e
        | .ok (result, inner) => .ok (result, replace key.name (.table at_ origin inner) entries)
    | some (.tables elements) =>
      -- A path through an array of tables goes on in its last element.
      match elements.getLast? with
      | none => .error (.duplicate key.name none)
      | some (at_, inner) =>
        match change dotted edit here path .header inner with
        | .error e => .error e
        | .ok (result, inner) =>
          .ok (result, replace key.name (.tables (elements.dropLast ++ [(at_, inner)])) entries)
    | some node => .error (.extends here node.kindName)

/-- Adds a value under a dotted key; `owner` is what a second value under one key is reported
against. -/
def insert (owner : Option (List String)) (origin : Origin) (path : List Key) (key : Key)
    (node : Node) (entries : Entries) : Except Reason Entries :=
  let edit := fun (found : Origin) (inner : Entries) =>
    -- A table that dotted keys have made takes no key from its own header, and no other table takes
    -- one by a path.
    if (found == .dotted) == path.isEmpty then Except.error (Reason.duplicate key.name none)
    else if (get? key.name inner).isSome then .error (.duplicate key.name owner)
    else .ok ((), inner ++ [(key.name, node)])
  (change true edit [] path origin entries).map (·.2)

end Entries

/-- The stretch of text of the value at the end of a path, or of the last one found on the way. -/
def Node.spanAt : List PathStep → Node → Span
  | [], node => node.span
  | .key name :: path, .table span _ entries =>
    match Entries.get? name entries with
    | some node => node.spanAt path
    | none => span
  | .index position :: path, .array span items =>
    match items[position]? with
    | some node => node.spanAt path
    | none => span
  | .index position :: path, .tables elements =>
    match elements[position]? with
    | some (span, entries) =>
      match path with
      | .key name :: path =>
        match Entries.get? name entries with
        | some node => node.spanAt path
        | none => span
      | _ => span
    | none => (Node.tables elements).span
  | _, node => node.span

end Warden.Toml
