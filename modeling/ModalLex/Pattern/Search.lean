import ModalLex.Pattern.Code
import ModalLex.Text.Spot

/-!
# Search

A search starts at one place of a text and prefers, at every choice, the way that comes first. It
keeps the ways that are still open as threads in order of preference, each of which waits to read
a character, and lets all of them read the same character at once. At one place every label is
passed once: what a later thread would do from a label that an earlier one has passed, the
earlier one does already. So an empty round of a loop leads nowhere.
-/

namespace ModalLex.Pattern

/-- A set of labels, as the number whose binary digits tell which are in it. -/
structure Labels where
  bits : Nat
deriving DecidableEq

namespace Labels

def none : Labels := ⟨0⟩

def contains (s : Labels) (label : Nat) : Bool := s.bits.testBit label

def insert (s : Labels) (label : Nat) : Labels := ⟨s.bits ||| (1 <<< label)⟩

end Labels

/-- A place of a text: the character before it, the one after it, and how many characters lie
between the start of the search and it. -/
structure Place where
  before : Option Char
  after : Option Char
  read : Nat
deriving DecidableEq

/-- Whether a character belongs to words: to those of the characters given, or of ASCII ones. -/
def isWordChar (chars : Option CharSet) (c : Char) : Bool :=
  match chars with
  | some chars => chars.contains c
  | none => c.isAlphanum || c = '_'

/-- Whether an edge of a word is at a place with or without a word character on either side. -/
def WordEdge.holds (before after : Bool) : WordEdge → Bool
  | boundary => before != after
  | inside => before == after
  | start => !before && after
  | stop => before && !after
  | startHalf => !before
  | stopHalf => !after

/-- Whether an assertion is true of a place. -/
def Look.holds (p : Place) : Look → Bool
  | textStart => p.before.isNone
  | textEnd => p.after.isNone
  | lineStart => p.before.all (· = '\n')
  | lineEnd => p.after.all (· = '\n')
  | crlfLineStart =>
    p.before.all fun c => c = '\n' || (c = '\r' && p.after != some '\n')
  | crlfLineEnd =>
    p.after.all fun c => c = '\r' || (c = '\n' && p.before != some '\r')
  | word edge chars =>
    edge.holds (p.before.any (isWordChar chars)) (p.after.any (isWordChar chars))

/-- The marks a thread has passed, the newest first, each with its place. -/
abbrev Marks := List (Mark × Nat)

/-- One way that is still open: it waits to read a character, or it has come to the end. -/
inductive Thread where
  | reading (chars : CharSet) (rest : List Code) (marks : Marks)
  | finished (marks : Marks)

/-- The threads a way leads to at one place, with the labels passed before and after. -/
abbrev Way := Marks → Labels → List Thread × Labels

namespace Way

/-- A way that leads nowhere. -/
def dead : Way := fun _ seen => ([], seen)

/-- The threads of the first way, then those of the second. -/
def either (first second : Way) : Way := fun marks seen =>
  let (threads, seen) := first marks seen
  let (more, seen) := second marks seen
  (threads ++ more, seen)

/-- The way through a label, which is open once. -/
def through (label : Nat) (way : Way) : Way := fun marks seen =>
  if seen.contains label then ([], seen) else way marks (seen.insert label)

end Way

/-- The way through a piece of code at a place. After it comes the code `rest`, which is the way
`go` at the same place. -/
def Code.way (p : Place) : Code → (rest : List Code) → (go : Way) → Way
  | skip, _, go => go
  | read label chars, rest, _ =>
    .through label fun marks seen => ([.reading chars rest marks], seen)
  | look assertion, _, go => if assertion.holds p then go else .dead
  | mark m, _, go => fun marks seen => go ((m, p.read) :: marks) seen
  | seq a b, rest, go => a.way p (b :: rest) (b.way p rest go)
  | alt label a b, rest, go => .through label (.either (a.way p rest go) (b.way p rest go))
  | loop label greedy body, rest, go =>
    let round := body.way p (loop label greedy body :: rest) .dead
    .through label (if greedy then .either round go else .either go round)

/-- The way through a list of code, to the end. -/
def wayOf (p : Place) : List Code → Way
  | [] => fun marks seen => ([.finished marks], seen)
  | c :: rest => c.way p rest (wayOf p rest)

/-- The threads after `c` has been read and the place `p` reached. A thread that had come to the
end is preferred to those after it, so they are given up. -/
def advance (c : Char) (p : Place) : List Thread → Labels → List Thread
  | [], _ => []
  | .finished _ :: _, _ => []
  | .reading chars rest marks :: threads, seen =>
    if chars.contains c then
      let (new, seen) := wayOf p rest marks seen
      new ++ advance c p threads seen
    else advance c p threads seen

/-- The marks of the first thread that has come to the end. -/
def finished? : List Thread → Option Marks
  | [] => none
  | .finished marks :: _ => some marks
  | .reading .. :: threads => finished? threads

/-- Lets the threads read on. `found` is the match so far; a match that a preferred thread finds
later replaces it. -/
def runThreads (found : Option Marks) : List Thread → (read : Nat) → List Char → Option Marks
  | threads, read, text =>
    let found := (finished? threads).or found
    match threads, text with
    | [], _ => found
    | _, [] => found
    | threads, c :: text =>
      runThreads found (advance c ⟨some c, text.head?, read + 1⟩ threads .none) (read + 1) text
termination_by structural _ _ text => text

/-- The marks of the preferred match of the code in `text`, which `before` comes before. -/
def Code.search (code : Code) (before : Option Char) (text : List Char) : Option Marks :=
  runThreads none (wayOf ⟨before, text.head?, 0⟩ [code] [] .none).1 0 text

namespace Marks

/-- The place of the newest mark of a kind. -/
def place? (marks : Marks) (m : Mark) : Option Nat := (marks.find? (·.1 = m)).map (·.2)

/-- The part of the text that a capture holds. -/
def captured? (marks : Marks) (number : Nat) (text : List Char) : Option (List Char) := do
  let first ← marks.place? (.opens number)
  let last ← marks.place? (.closes number)
  return (text.drop first).take (last - first)

theorem byteLength_le_of_captured? {marks : Marks} {number : Nat} {text part : List Char}
    (h : marks.captured? number text = some part) :
    Text.byteLength part ≤ Text.byteLength text := by
  obtain ⟨first, -, h⟩ := Option.bind_eq_some_iff.1 h
  obtain ⟨last, -, h⟩ := Option.bind_eq_some_iff.1 h
  cases h
  exact Text.byteLength_take_drop_le text first (last - first)

/-- The least number of a capture that holds a part of the text, and that part. -/
def firstCaptured? (marks : Marks) (groups : Nat) (text : List Char) :
    Option (Nat × List Char) :=
  (List.range' 1 groups).findSome? fun n => (marks.captured? n text).map (n, ·)

end Marks

end ModalLex.Pattern
