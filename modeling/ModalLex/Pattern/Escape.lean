import ModalLex.Pattern.Engine
import ModalLex.Unicode.CaseFolding

/-!
# Escapes

What can follow a backslash: a character by its code point, a class of characters, an assertion,
or a character that would otherwise mean something else.
-/

namespace ModalLex.Pattern

variable [Engine]

/-- The smallest parts of a pattern. -/
inductive Atom where
  | char (c : Char)
  | set (chars : CharSet)
  | look (assertion : Look)
deriving DecidableEq, Repr

/-- Ways to read the beginning of a text; they give what was read and the rest of the text. -/
abbrev Reader (α : Type) := List Char → Except Fault (α × List Char)

namespace Mode

/-- A set as far as the mode admits it: without Unicode, ASCII characters only. -/
def allow (m : Mode) (chars : CharSet) : Except Fault CharSet :=
  if m.unicode || chars.isAscii then .ok chars else .error .partOfCharacter

/-- A set with the case equivalents of its characters, if case does not matter. -/
def fold (m : Mode) (chars : CharSet) : CharSet :=
  if !m.caseInsensitive then chars
  else if m.unicode then Engine.foldCase chars
  else chars.foldAsciiCase

/-- A set as a class has it: folded first, then complemented. -/
def foldAndNegate (m : Mode) (negated : Bool) (chars : CharSet) : Except Fault CharSet :=
  m.allow (if negated then (m.fold chars).compl else m.fold chars)

end Mode

def hexValue? (c : Char) : Option Nat :=
  if c.isDigit then some (c.toNat - '0'.toNat)
  else if 'a' ≤ c ∧ c ≤ 'f' then some (c.toNat - 'a'.toNat + 10)
  else if 'A' ≤ c ∧ c ≤ 'F' then some (c.toNat - 'A'.toNat + 10)
  else none

/-- The character with a code point. -/
def charOf (n : Nat) : Except Fault Char :=
  if n.isValidChar then .ok (Char.ofNat n) else .error .notACharacter

/-- A number of as many hexadecimal digits as given. -/
def readHexDigits (m : Mode) : (digits : Nat) → (value : Nat) → Reader Nat
  | 0, value, text => .ok (value, text)
  | _ + 1, _, [] => .error .escapeUnfinished
  | n + 1, value, c :: cs =>
    match hexValue? c with
    | none => .error .hexDigitExpected
    | some d => readHexDigits m n (16 * value + d) (m.skip cs)

/-- A code point of the given number of digits, or of any number of digits in braces. Without
Unicode, two digits stand for a byte, which has to be an ASCII character. -/
def readHex (m : Mode) (digits : Nat) : Reader Char := fun text =>
  match m.skip text with
  | [] => .error .escapeUnfinished
  | '\x7b' :: rest =>
    match m.gather (· ≠ '\x7d') (m.skip rest) with
    | (_, []) => .error .escapeUnfinished
    | ([], _ :: _) => .error .hexDigitExpected
    | (word, _ :: rest) => do
      let values ← (word.mapM hexValue?).elim (.error .hexDigitExpected) .ok
      return (← charOf (values.foldl (fun n d => 16 * n + d) 0), m.skip rest)
  | text => do
    let (value, rest) ← readHexDigits m digits 0 text
    if !m.unicode ∧ digits = 2 ∧ 0x7F < value then .error .partOfCharacter
    else return (← charOf value, rest)

/-- The word for a property: one letter, or what stands in braces. -/
def readPropertyWord (m : Mode) : Reader (List Char) := fun text =>
  match m.skip text with
  | [] => .error .escapeUnfinished
  | '\\' :: _ => .error .propertyUnknown
  | '\x7b' :: rest =>
    match m.gather (· ≠ '\x7d') (m.skip rest) with
    | (_, []) => .error .escapeUnfinished
    | (word, _ :: rest) => .ok (word, rest)
  | c :: rest => .ok ([c], m.skip rest)

/-- A property of characters. -/
def readProperty (m : Mode) (negated : Bool) : Reader CharSet := fun text => do
  let (word, rest) ← readPropertyWord m text
  if !m.unicode then .error .propertyNeedsUnicode
  else match Engine.property? word with
    | none => .error .propertyUnknown
    | some chars => return (← m.foldAndNegate negated chars, rest)

/-- The digits, the blanks or the word characters, in all scripts or in ASCII alone. -/
def shorthand (m : Mode) : Char → CharSet
  | 'd' => if m.unicode then Engine.digit else .ofRange '0' '9'
  | 's' => if m.unicode then Engine.space else .ofList ['\t', '\n', '\x0b', '\x0c', '\r', ' ']
  | _ =>
    if m.unicode then Engine.word
    else .unions [.ofRange '0' '9', .ofRange 'A' 'Z', .ofRange 'a' 'z', .singleton '_']

/-- The assertion of an edge of words. -/
def Mode.edge (m : Mode) (edge : WordEdge) : Look :=
  .word edge (if m.unicode then some Engine.word else none)

/-- The edges that have a name. -/
def WordEdge.ofName? : String → Option WordEdge
  | "start" => some start
  | "end" => some stop
  | "start-half" => some startHalf
  | "end-half" => some stopHalf
  | _ => none

/-- A word boundary. A name in braces may say which; braces that begin with something else are
left to be read as a count of repetitions. -/
def readBoundary (m : Mode) : Reader Atom := fun text =>
  let plain := (.look (m.edge .boundary), text)
  match text with
  | '\x7b' :: rest =>
    match m.gather (fun c => c.isAlpha || c = '-') (m.skip rest) with
    | ([], []) => .error .wordEdgeUnclosed
    | ([], _) => .ok plain
    | (name, '\x7d' :: rest) =>
      match WordEdge.ofName? (.ofList name) with
      | some edge => .ok (.look (m.edge edge), rest)
      | none => .error .wordEdgeUnknown
    | _ => .error .wordEdgeUnclosed
  | _ => .ok plain

/-- What follows a backslash. A sign of ASCII that is neither a letter nor a digit stands for
itself, except the two angles. -/
def readEscape (m : Mode) : Reader Atom
  | [] => .error .escapeUnfinished
  | c :: rest =>
    match c with
    | 'x' => do return (← readHex m 2 rest).map .char id
    | 'u' => do return (← readHex m 4 rest).map .char id
    | 'U' => do return (← readHex m 8 rest).map .char id
    | 'p' => do return (← readProperty m false rest).map .set id
    | 'P' => do return (← readProperty m true rest).map .set id
    | 'd' | 's' | 'w' => .ok (.set (shorthand m c), rest)
    | 'D' | 'S' | 'W' => do return (.set (← m.allow (shorthand m c.toLower).compl), rest)
    | 'a' => .ok (.char '\x07', rest)
    | 'f' => .ok (.char '\x0c', rest)
    | 't' => .ok (.char '\t', rest)
    | 'n' => .ok (.char '\n', rest)
    | 'r' => .ok (.char '\r', rest)
    | 'v' => .ok (.char '\x0b', rest)
    | 'A' => .ok (.look .textStart, rest)
    | 'z' => .ok (.look .textEnd, rest)
    | 'b' => readBoundary m rest
    | 'B' => .ok (.look (m.edge .inside), rest)
    | '<' => .ok (.look (m.edge .start), rest)
    | '>' => .ok (.look (m.edge .stop), rest)
    | c =>
      if c.isDigit then .error .backreference
      else if c.isAlpha ∨ 0x7F < c.toNat then .error .escapeUnknown
      else .ok (.char c, rest)

end ModalLex.Pattern
