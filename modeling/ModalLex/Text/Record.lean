/-!
# Records on one line

A record is written as its name and, in braces, its fields in order; without fields, as its name.
-/

namespace ModalLex.Text

/-- The record `name` with the written values of its fields. -/
def record (name : String) (fields : List (String × String)) : String :=
  if fields.isEmpty then name
  else name ++ " \x7b " ++ ", ".intercalate (fields.map fun (f, v) => f ++ ": " ++ v) ++ " \x7d"

/-- A record without field names: a value in parentheses after its name. -/
def wrapped (name value : String) : String := name ++ "(" ++ value ++ ")"

/-- An optional value, by the written form of what it holds. -/
def optional (written : α → String) : Option α → String
  | none => "None"
  | some a => wrapped "Some" (written a)

def boolean (b : Bool) : String := if b then "true" else "false"

end ModalLex.Text
