import ModalLex.Unicode.Derived

/-!
# Modes of reading

How the text of a pattern is read at a place. Flags within the pattern change the mode up to the
end of the group they stand in.
-/

namespace ModalLex.Pattern

structure Mode where
  caseInsensitive : Bool := false
  multiLine : Bool := false
  dotMatchesNewline : Bool := false
  swapGreed : Bool := false
  unicode : Bool := true
  crlf : Bool := false
  ignoreWhitespace : Bool := false
deriving DecidableEq, Repr, Inhabited

namespace Mode

/-- The mode with the flag of a letter turned on or off. -/
def set (m : Mode) (letter : Char) (on : Bool) : Option Mode :=
  match letter with
  | 'i' => some { m with caseInsensitive := on }
  | 'm' => some { m with multiLine := on }
  | 's' => some { m with dotMatchesNewline := on }
  | 'U' => some { m with swapGreed := on }
  | 'u' => some { m with unicode := on }
  | 'R' => some { m with crlf := on }
  | 'x' => some { m with ignoreWhitespace := on }
  | _ => none

/-- The text after white space and comments, which run from a `#` to the end of the line. -/
def skipBlanks (comment : Bool) : List Char → List Char
  | [] => []
  | c :: cs =>
    if comment then skipBlanks (c ≠ '\n') cs
    else if Unicode.whiteSpace.contains c then skipBlanks false cs
    else if c = '#' then skipBlanks true cs
    else c :: cs

/-- The text from the next character that counts. -/
def skip (m : Mode) (text : List Char) : List Char :=
  if m.ignoreWhitespace then skipBlanks false text else text

/-- The character that counts next, as a range of a class looks ahead for it. A comment hides only
its mark; a text of blanks alone hides nothing. -/
def peek (m : Mode) (text : List Char) : Option Char :=
  if m.ignoreWhitespace then (look false text).or text.head? else text.head?
where
  look (comment : Bool) : List Char → Option Char
    | [] => none
    | c :: cs =>
      if Unicode.whiteSpace.contains c then look comment cs
      else if c = '#' ∧ !comment then look true cs
      else some c

/-- The characters up to the first one that `p` refuses, and the text from there; after each
character the text is taken from the next one that counts. -/
def gather (m : Mode) (p : Char → Bool) (text : List Char) : List Char × List Char :=
  go text.length text
where
  go : Nat → List Char → List Char × List Char
    | 0, text => ([], text)
    | _, [] => ([], [])
    | n + 1, c :: cs =>
      if p c then
        let (word, rest) := go n (m.skip cs)
        (c :: word, rest)
      else ([], c :: cs)

end Mode

end ModalLex.Pattern
