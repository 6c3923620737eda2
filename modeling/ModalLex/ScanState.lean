import ModalLex.ContextId
import ModalLex.Text.Spot

/-!
# Scan states

Where a scan stands: the active context and the place of the next character to read, counted in
characters, in bytes, and by row and column. The caller owns it, so one lexer serves many scans.
-/

namespace ModalLex

structure ScanState where
  context : ContextId
  index : Nat
  offset : Nat
  row : Nat
  column : Nat
deriving DecidableEq, Repr, Inhabited

namespace ScanState

/-- The state at the start of an input. -/
def start (context : ContextId) : ScanState := ⟨context, 0, 0, 1, 1⟩

/-- Moves past one character; a newline ends the row. -/
def advanceChar (s : ScanState) (c : Char) : ScanState :=
  if c = '\n' then
    { s with index := s.index + 1, offset := s.offset + c.utf8Size, row := s.row + 1, column := 1 }
  else
    { s with index := s.index + 1, offset := s.offset + c.utf8Size, column := s.column + 1 }

/-- Moves past a text that stands at the current offset. -/
def advance (s : ScanState) (text : List Char) : ScanState := text.foldl advanceChar s

theorem advanceChar_offset (s : ScanState) (c : Char) :
    (s.advanceChar c).offset = s.offset + c.utf8Size := by
  unfold advanceChar; split <;> rfl

theorem advance_offset (s : ScanState) (text : List Char) :
    (s.advance text).offset = s.offset + Text.byteLength text := by
  induction text generalizing s with
  | nil => rfl
  | cons c text ih =>
    have := ih (s.advanceChar c)
    rw [advanceChar_offset] at this
    simp only [advance, List.foldl_cons, Text.byteLength_cons] at this ⊢
    omega

def written (s : ScanState) : String :=
  Text.record "ScanState" [("context", s.context.written), ("index", toString s.index),
    ("offset", toString s.offset), ("row", toString s.row), ("column", toString s.column)]

end ScanState

end ModalLex
