import ModalLex.Lexer
import ModalLex.Token

/-!
# Events

What a lexer tells about its work while it is built and while it scans.
-/

namespace ModalLex

inductive Event where
  | compiled (patterns : Nat) (pattern : String)
  | created (contexts : Nat) (initial : ContextId)
  | scanFailed (context : ContextId) (error : Error)
  | switching (source target : ContextId)
  | noKind (text : String)
  | accepted (text : String) (position : Position)
  | skipped (text : String) (position : Position)
deriving DecidableEq, Repr

namespace Event

/-- Whether the event is told only at the finest level of detail. -/
def isTrace : Event → Bool
  | accepted .. | skipped .. => true
  | _ => false

def message : Event → String
  | compiled .. => "compiled lexer context"
  | created .. => "created lexer"
  | scanFailed .. => "scan failed"
  | switching .. => "switching lexer context"
  | noKind .. => "classifier returned no token kind"
  | accepted .. => "accepted token"
  | skipped .. => "skipped token"

end Event

/-- What is told when a context has been built. -/
def Context.event (c : Context) : Event := .compiled c.rules.length c.pattern

/-- What is told when a lexer has been built. -/
def Lexer.event (l : Lexer) : Event := .created l.contexts.length l.initial

end ModalLex
