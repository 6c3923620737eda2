import ModalLex.Position
import ModalLex.ScanState

/-!
# Tokens

A kept match: its kind, its text, where it stands, and the state from which the scan goes on after
it.
-/

namespace ModalLex

structure Token where
  kind : String
  text : String
  position : Position
  keep : Bool
  /-- The end of the token, in the context that its classifier chose. -/
  resume : ScanState
deriving DecidableEq, Repr, Inhabited

namespace Token

/-- The byte offset right after the token. -/
def stop (t : Token) : Nat := t.position.offset + t.text.utf8ByteSize

/-- Whether two tokens are alike; how the scans go on after them does not matter. -/
def alike (t u : Token) : Bool :=
  t.kind = u.kind && t.text = u.text && t.position = u.position && t.keep = u.keep

/-- The kind, the text, and the rows and columns of the begin and the end. -/
def display (t : Token) : String :=
  let p := t.position
  t.kind ++ " " ++ Text.quoted t.text ++ " @" ++ toString p.rowBegin ++ ":"
    ++ toString p.columnBegin ++ "-" ++ toString p.rowEnd ++ ":" ++ toString p.columnEnd

def written (t : Token) : String :=
  Text.record "Token" [("kind", Text.quoted t.kind), ("text", Text.quoted t.text),
    ("pos", t.position.written), ("keep", Text.boolean t.keep), ("resume", t.resume.written)]

end Token

end ModalLex
