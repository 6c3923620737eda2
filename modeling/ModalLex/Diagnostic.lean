import ModalLex.Error
import ModalLex.Unicode.Derived

/-!
# Diagnostics

An error drawn for a reader: a header line, and below it, if the error has a position in the
source, the row without its indent and a caret under the column. The row number sets the width of
the margin, so the three bars stand below one another.
-/

namespace ModalLex

namespace Text

/-- The rows of a source, cut at each newline; there is always at least one. -/
def rows : List Char → List (List Char)
  | [] => [[]]
  | c :: cs =>
    match c, rows cs with
    | '\n', rest => [] :: rest
    | c, row :: rest => (c :: row) :: rest
    | c, [] => [[c]]

/-- The row of a source with the given number, counted from one. -/
def row? (source : List Char) : Nat → Option (List Char)
  | 0 => none
  | n + 1 => (rows source)[n]?

/-- A text without the white space at its end. -/
def trimEnd (cs : List Char) : List Char :=
  (cs.reverse.dropWhile Unicode.whiteSpace.contains).reverse

/-- A text filled up from the left with `fill` to the given width. -/
def padLeft (fill : Char) (width : Nat) (cs : List Char) : List Char :=
  .replicate (width - cs.length) fill ++ cs

end Text

namespace Error

/-- The line that names the error, with its message and its tip. -/
def header (e : Error) : List Char :=
  let tip := match e.cause.tip? with
    | some tip => ", " ++ tip
    | none => ""
  ("error: " ++ e.cause.name ++ " (" ++ e.message ++ tip ++ ")\n").toList

/-- The three lines below the header: a bar, the row, and the caret. -/
def drawn (p : Position) (row : List Char) : List Char :=
  let number := (toString p.rowBegin).toList
  let indent := row.takeWhile (· = ' ')
  let bar := Text.padLeft ' ' (number.length + 2) ['|']
  let caret := Text.padLeft '-' (p.columnBegin - indent.length) ['^']
  bar ++ ['\n']
    ++ number ++ [' ', '|', ' '] ++ Text.trimEnd (row.drop indent.length) ++ ['\n']
    ++ bar ++ [' '] ++ caret ++ ['\n']

/-- The error drawn onto its source. -/
def render (e : Error) (source : List Char) : List Char :=
  match e.position with
  | none => e.header
  | some p =>
    match Text.row? source p.rowBegin with
    | none => e.header
    | some row => e.header ++ drawn p row

end Error

end ModalLex
