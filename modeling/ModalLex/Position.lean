import ModalLex.Text.Record

/-!
# Positions

Where a token lies in the input: characters and bytes before it, and the rows and columns of its
begin and its end. Rows and columns count from one, columns count characters, and the end is the
place right after the last character.
-/

namespace ModalLex

structure Position where
  index : Nat
  offset : Nat
  rowBegin : Nat
  columnBegin : Nat
  rowEnd : Nat
  columnEnd : Nat
deriving DecidableEq, Repr, Inhabited

namespace Position

/-- A position of no width, which names a single place. -/
def point (index offset row column : Nat) : Position :=
  ⟨index, offset, row, column, row, column⟩

def written (p : Position) : String :=
  Text.record "Position" [("index", toString p.index), ("offset", toString p.offset),
    ("row_begin", toString p.rowBegin), ("column_begin", toString p.columnBegin),
    ("row_end", toString p.rowEnd), ("column_end", toString p.columnEnd)]

end Position

end ModalLex
