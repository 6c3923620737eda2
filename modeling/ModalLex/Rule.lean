import ModalLex.ContextId

/-!
# Rules

A rule of a context is a pattern and a classifier, which is asked about each text that the pattern
matches: what kind of token it is, in which context the scan goes on, and whether the token is
kept or skipped.
-/

namespace ModalLex

/-- What a classifier says about a text. A text without a kind is a fault of the table. -/
structure Verdict where
  kind : Option String
  next : ContextId
  keep : Bool
deriving DecidableEq, Repr, Inhabited

structure Rule where
  pattern : String
  classify : String → Verdict

namespace Rule

/-- A rule all of whose matches are kept tokens of one kind. -/
def token (pattern kind : String) (next : ContextId) : Rule :=
  ⟨pattern, fun _ => ⟨some kind, next, true⟩⟩

/-- A rule all of whose matches are skipped. Their kind is never seen. -/
def skipKind (pattern kind : String) (next : ContextId) : Rule :=
  ⟨pattern, fun _ => ⟨some kind, next, false⟩⟩

/-- A rule all of whose matches are skipped, of the empty kind. -/
def skip (pattern : String) (next : ContextId) : Rule := skipKind pattern "" next

/-- The pattern in a record; the dots stand for the classifier. -/
def written (r : Rule) : String :=
  "TokenGenerator \x7b pattern: " ++ Text.quoted r.pattern ++ ", .. \x7d"

end Rule

end ModalLex
