import ModalLex.Text.Quoted
import ModalLex.Text.Record

/-!
# Names of contexts

A context goes by a name or by a number. A name of digits is no number: the two differ in their
written form, though not in their plain one.
-/

namespace ModalLex

inductive ContextId where
  | name (text : String)
  | index (number : Int)
deriving DecidableEq, Repr, Inhabited

namespace ContextId

/-- The bare name or number. -/
def plain : ContextId → String
  | name text => text
  | index number => toString number

/-- The form that tells any two ids apart. -/
def written : ContextId → String
  | name text => Text.wrapped "Name" (Text.quoted text)
  | index number => Text.wrapped "Index" (toString number)

end ContextId

end ModalLex
