import ModalLex.Position
import ModalLex.Text.Quoted

/-!
# Errors

What can be wrong with a table of contexts, and with an input. An error is its cause and, if it
arose while scanning, the position it arose at. Only a character that no rule matches is a fault
of the input; all other causes are faults of the table.
-/

namespace ModalLex

/-- The causes of errors. -/
inductive Cause where
  /-- A rule's pattern has a group that captures. -/
  | capturingGroup (pattern : String)
  /-- A pattern is not well formed, or too large. -/
  | invalidPattern (pattern reason : String)
  | globalFlag
  | invalidFlag (flag : Char)
  | noContexts
  | duplicateContext (context : String)
  | unknownContext (context : String)
  /-- The classifier of the matching rule gave no kind; `message` is the context's. -/
  | missingKind (message text : String)
  | emptyMatch (pattern : String)
  | invalidOffset (offset : Nat)
  /-- No rule matches at a character; `message` is the context's. -/
  | noRuleMatches (character : Char) (message : String)
deriving DecidableEq, Repr, Inhabited

/-- Whose fault an error is. -/
inductive ErrorClass where
  | configuration
  | lexical
deriving DecidableEq, Repr

structure Error where
  cause : Cause
  position : Option Position
deriving DecidableEq, Repr, Inhabited

namespace Cause

def name : Cause → String
  | capturingGroup .. => "CapturingGroup"
  | invalidPattern .. => "InvalidPattern"
  | globalFlag => "GlobalFlag"
  | invalidFlag .. => "InvalidFlag"
  | noContexts => "NoContexts"
  | duplicateContext .. => "DuplicateContext"
  | unknownContext .. => "UnknownContext"
  | missingKind .. => "MissingKind"
  | emptyMatch .. => "EmptyMatch"
  | invalidOffset .. => "InvalidOffset"
  | noRuleMatches .. => "NoRuleMatches"

/-- One line that says what is wrong. -/
def message : Cause → String
  | capturingGroup pattern =>
    "pattern must not contain capturing groups: " ++ Text.quoted pattern
  | invalidPattern pattern reason => "invalid pattern " ++ Text.quoted pattern ++ ": " ++ reason
  | globalFlag => "the g flag must not be used"
  | invalidFlag flag => "unsupported regex flag: " ++ Text.quotedChar flag
  | noContexts => "at least one lexer context must be provided"
  | duplicateContext context => "context " ++ context ++ " is defined more than once"
  | unknownContext context => "context " ++ context ++ " does not exist"
  | missingKind message _ => message
  | emptyMatch pattern => "pattern " ++ Text.quoted pattern ++ " matched the empty string"
  | invalidOffset offset =>
    "offset " ++ toString offset ++ " is not a character boundary of the input"
  | noRuleMatches character message => message ++ ": " ++ Text.quotedChar character

/-- What to do about it, where there is something to say. -/
def tip? : Cause → Option String
  | capturingGroup pattern =>
    some ("replace the groups in `" ++ pattern ++ "` with non-capturing groups `(?:...)`")
  | globalFlag => some "drop the `g` flag, matching is always anchored at the scan offset"
  | invalidFlag _ => some "supported flags are `i`, `m`, `s`, `u`, `x`, `y`, `U` and `R`"
  | noContexts => some "register at least one context, the first one is the initial context"
  | duplicateContext context => some ("context " ++ context ++ " is registered twice")
  | unknownContext context =>
    some ("register a context named " ++ context ++ " or fix the classifier returning it")
  | missingKind _ text =>
    some ("the classifier for " ++ Text.quoted text ++ " must return a token kind")
  | emptyMatch pattern => some ("pattern `" ++ pattern ++ "` must consume at least one character")
  | invalidPattern .. | invalidOffset .. | noRuleMatches .. => none

def errorClass : Cause → ErrorClass
  | noRuleMatches .. => .lexical
  | _ => .configuration

/-- The cause as a record of what it holds. -/
def written (c : Cause) : String :=
  Text.record c.name <| match c with
    | capturingGroup pattern | emptyMatch pattern => [("pattern", Text.quoted pattern)]
    | invalidPattern pattern reason =>
      [("pattern", Text.quoted pattern), ("message", Text.quoted reason)]
    | globalFlag | noContexts => []
    | invalidFlag flag => [("flag", Text.quotedChar flag)]
    | duplicateContext context | unknownContext context => [("context", Text.quoted context)]
    | missingKind message text =>
      [("message", Text.quoted message), ("text", Text.quoted text)]
    | invalidOffset offset => [("offset", toString offset)]
    | noRuleMatches character message =>
      [("character", Text.quotedChar character), ("message", Text.quoted message)]

end Cause

namespace Error

def message (e : Error) : String := e.cause.message

def isLexical (e : Error) : Bool := e.cause.errorClass = .lexical

def written (e : Error) : String :=
  Text.record "Error" [("internal_error", e.cause.written),
    ("position", Text.optional Position.written e.position)]

end Error

end ModalLex
