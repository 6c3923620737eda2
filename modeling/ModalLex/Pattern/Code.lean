import ModalLex.Pattern.Node

/-!
# Code

A pattern ready to be searched with: repetitions are written out into copies and loops, and every
place where a character is read or where the search can go two ways has a label of its own. Which
labels the search has passed at a place of the text is what keeps it from going round an empty
loop, so where a node has one label and where two is part of what it matches.
-/

namespace ModalLex.Pattern

/-- A note that a capture begins or ends. -/
inductive Mark where
  | opens (number : Nat)
  | closes (number : Nat)
deriving DecidableEq, Repr

inductive Code where
  | skip
  | read (label : Nat) (chars : CharSet)
  | look (assertion : Look)
  | mark (m : Mark)
  | seq (first rest : Code)
  /-- The first way if it leads to a match, else the second. -/
  | alt (label : Nat) (first second : Code)
  /-- The body and then the loop again, or on; the body is preferred if `greedy`. -/
  | loop (label : Nat) (greedy : Bool) (body : Code)
deriving Repr, Inhabited

namespace Code

/-- Ways to write code from the first free label on; they give the code and the next free label. -/
abbrev Writer := Nat → Code × Nat

/-- The code of a way to go that can be left out; it is preferred if `greedy`. -/
def option (label : Nat) (greedy : Bool) (body : Code) : Code :=
  if greedy then alt label body skip else alt label skip body

/-- `n` copies of what `body` writes, and then `rest`. -/
def copies (body : Writer) : (n : Nat) → (rest : Code) → Writer
  | 0, rest, next => (rest, next)
  | n + 1, rest, next =>
    let (c, next) := body next
    copies body n (seq c rest) next

/-- Up to `n` copies of what `body` writes, each of which can be reached only through the ones
before it, and all of which lead to the same end; `rest` stands for the copies written so far. -/
def options (greedy : Bool) (body : Writer) : (n : Nat) → (rest : Code) → Writer
  | 0, rest, next => (rest, next)
  | n + 1, rest, next =>
    let (c, last) := body (next + 1)
    options greedy body n (option next greedy (seq c rest)) last

/-- The body once or more: the loop comes after it, and leads back into the same copy. -/
def plus (greedy : Bool) (body : Writer) : Writer := fun next =>
  let (c, last) := body (next + 1)
  (seq c (loop next greedy c), last)

/-- The body any number of times. A body that cannot be empty is one loop; otherwise the loop can
be left out as a whole, which is a choice of its own. -/
def star (greedy nonempty : Bool) (body : Writer) : Writer := fun next =>
  if nonempty then
    let (c, last) := body (next + 1)
    (loop next greedy c, last)
  else
    let (c, last) := plus greedy body (next + 1)
    (option next greedy c, last)

/-- The characters of a text, one after the other. -/
def text : List Char → Writer
  | [], next => (skip, next)
  | [c], next => (read next (.singleton c), next + 1)
  | c :: cs, next =>
    let (rest, last) := text cs (next + 1)
    (seq (read next (.singleton c)) rest, last)

end Code

/-- The code of a node, with labels from the given one on, and the next free label. -/
def Node.write : Node → Code.Writer
  | empty, next => (.skip, next)
  | literal text, next => Code.text text next
  | set _ chars, next => (.read next chars, next + 1)
  | look assertion, next => (.look assertion, next)
  | repeated min none greedy body, next =>
    match min with
    | 0 => Code.star greedy (body.minLength.any (0 < ·)) (fun l => body.write l) next
    | n + 1 =>
      let (last, next) := Code.plus greedy (fun l => body.write l) next
      Code.copies (fun l => body.write l) n last next
  | repeated min (some max) greedy body, next =>
    let (rest, next) := Code.options greedy (fun l => body.write l) (max - min) .skip next
    Code.copies (fun l => body.write l) min rest next
  | capture number body, next =>
    let (c, next) := body.write next
    (.seq (.mark (.opens number)) (.seq c (.mark (.closes number))), next)
  | seq a b, next =>
    let (a, next) := a.write next
    let (b, next) := b.write next
    (.seq a b, next)
  | alt a b, next =>
    let (a, last) := a.write (next + 1)
    let (b, last) := b.write last
    (.alt next a b, last)

def Node.code (n : Node) : Code := (n.write 0).1

end ModalLex.Pattern
