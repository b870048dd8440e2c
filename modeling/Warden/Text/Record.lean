import Warden.Text.Quoted

/-! Records written out: a name and its fields on one line. -/

namespace Warden.Text

/-- The name of a record and its fields in braces. -/
def record (name : String) (fields : List (String × String)) : String :=
  name ++ " \x7b " ++ ", ".intercalate (fields.map fun (field, value) => field ++ ": " ++ value) ++
    " \x7d"

/-- A boolean as records show it. -/
def truth (value : Bool) : String :=
  if value then "true" else "false"

end Warden.Text
