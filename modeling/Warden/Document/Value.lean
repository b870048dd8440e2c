import Warden.Decimal.Binary64
import Warden.Text.Quoted

/-! Values of a configuration document, whatever notation they were written in. -/

namespace Warden.Document

/-- A value; the entries of a table stand in the order of the document. -/
inductive Value
  | null
  | boolean (value : Bool)
  | integer (value : Int)
  | float (value : Decimal.Binary64)
  | string (value : String)
  | list (items : List Value)
  | table (entries : List (String × Value))
deriving Repr, Inhabited

/-- What a message about a value of the wrong kind calls it. -/
def Value.describe : Value → String
  | .null => "null"
  | .boolean value => "boolean `" ++ toString value ++ "`"
  | .integer value => "integer `" ++ toString value ++ "`"
  | .float value => "floating point `" ++ value.text ++ "`"
  | .string value => "string " ++ Text.quoted value
  | .list _ => "sequence"
  | .table _ => "map"

/-- One step on the way to a value: into a table or into a list. -/
inductive PathStep
  | key (name : String)
  | index (position : Nat)
deriving Repr, DecidableEq

/-- The key by which a step enters a table. -/
def PathStep.key? : PathStep → Option String
  | .key name => some name
  | .index _ => none

/-- The value under a key of a table. -/
def lookup? (key : String) : List (String × Value) → Option Value
  | [] => none
  | (k, v) :: rest => if k = key then some v else lookup? key rest

end Warden.Document
