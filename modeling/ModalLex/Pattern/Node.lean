import ModalLex.CharSet

/-!
# Patterns

What a pattern matches, as a tree. The trees are kept in a normal form by the functions that build
them: a sequence leans to the right, holds no empty part and no two literals side by side; an
alternation leans to the right, and single characters or sets side by side are one set. The form
matters to what is matched, since the parts that all branches of an alternation begin with are
tried once, before it; and which parts are the same is decided by their form too.
-/

namespace ModalLex.Pattern

/-- Where a word boundary assertion holds, by whether a word character comes before the place and
whether one comes after it. -/
inductive WordEdge where
  | boundary
  | inside
  | start
  | stop
  | startHalf
  | stopHalf
deriving DecidableEq, Repr

/-- An assertion about a place in the text. -/
inductive Look where
  | textStart
  | textEnd
  | lineStart
  | lineEnd
  /-- At the start of a line that `\r`, `\n` or both in this order ended. -/
  | crlfLineStart
  | crlfLineEnd
  /-- At an edge of a word. Words are made of the characters given, or else of ASCII ones. -/
  | word (edge : WordEdge) (chars : Option CharSet)
deriving DecidableEq, Repr

inductive Node where
  | empty
  /-- A text that is not empty, character by character. -/
  | literal (text : List Char)
  /-- One character of a set; nothing if the set is empty. A set of ASCII characters can also be
  one of bytes, and then it is another node. -/
  | set (bytes : Bool) (chars : CharSet)
  | look (assertion : Look)
  /-- The body at least `min` and at most `max` times, as often as possible if `greedy`. -/
  | repeated (min : Nat) (max : Option Nat) (greedy : Bool) (body : Node)
  /-- The body, noting the part of the text it matches under a number. -/
  | capture (number : Nat) (body : Node)
  | seq (first rest : Node)
  /-- The first branch if it leads to a match, else the rest. -/
  | alt (first rest : Node)
deriving DecidableEq, Repr, Inhabited

namespace Node

/-- The least number of characters of a match; none if the node may be unable to match. -/
def minLength : Node → Option Nat
  | empty | look _ => some 0
  | literal text => some text.length
  | set _ chars => if chars.isEmpty then none else some 1
  | repeated min _ _ body => body.minLength.map (· * min)
  | capture _ body => body.minLength
  | seq a b => do return (← a.minLength) + (← b.minLength)
  | alt a b => do return min (← a.minLength) (← b.minLength)

/-- The greatest number of characters of a match; none if there is no bound. -/
def maxLength : Node → Option Nat
  | empty | look _ => some 0
  | literal text => some text.length
  | set _ chars => if chars.isEmpty then none else some 1
  | repeated _ max _ body => do return (← body.maxLength) * (← max)
  | capture _ body => body.maxLength
  | seq a b => do return (← a.maxLength) + (← b.maxLength)
  | alt a b => do return max (← a.maxLength) (← b.maxLength)

/-- The greatest number under which the node notes a capture; zero if it captures nothing. -/
def lastCapture : Node → Nat
  | empty | literal _ | set .. | look _ => 0
  | repeated _ _ _ body => body.lastCapture
  | capture number body => max number body.lastCapture
  | seq a b | alt a b => max a.lastCapture b.lastCapture

/-! ## Building nodes -/

/-- The parts of a sequence; a node that is none is its own only part. -/
def parts : Node → List Node
  | empty => []
  | seq a b => a.parts ++ b.parts
  | n => [n]

/-- The branches of an alternation; a node that is none is its own only branch. -/
def branches : Node → List Node
  | alt a b => a.branches ++ b.branches
  | n => [n]

/-- Literals side by side as one literal. -/
def joinLiterals : List Node → List Node
  | [] => []
  | literal s :: rest =>
    match joinLiterals rest with
    | literal t :: rest => literal (s ++ t) :: rest
    | rest => literal s :: rest
  | n :: rest => n :: joinLiterals rest

def ofParts : List Node → Node
  | [] => empty
  | [n] => n
  | n :: rest => seq n (ofParts rest)

/-- What never matches. -/
def never : Node := set true .empty

def ofBranches : List Node → Node
  | [] => never
  | [n] => n
  | n :: rest => alt n (ofBranches rest)

/-- The nodes one after the other. -/
def concat (nodes : List Node) : Node := ofParts (joinLiterals (nodes.flatMap parts))

/-- One character of the set, of bytes or not. -/
def ofSet (bytes : Bool) (chars : CharSet) : Node :=
  if chars.isEmpty then never
  else
    match chars.only? with
    | some c => literal [c]
    | none => set bytes chars

/-- The character that a node matches as a literal. -/
def singleChar? : Node → Option Char
  | literal [c] => some c
  | _ => none

def charSet? : Node → Option CharSet
  | set _ chars => some chars
  | _ => none

/-- The branches as one node: a set if they are all single characters or all sets. -/
def choice (nodes : List Node) : Node :=
  match nodes with
  | [] => never
  | [n] => n
  | _ =>
    match nodes.mapM singleChar? with
    | some cs => ofSet false (.ofList cs)
    | none =>
      match nodes.mapM charSet? with
      | some sets => ofSet false (.unions sets)
      | none => ofBranches nodes

/-- The longest list that both lists start with. -/
def commonPrefix : List Node → List Node → List Node
  | a :: as, b :: bs => if a = b then a :: commonPrefix as bs else []
  | _, _ => []

/-- The parts that all branches begin with, if every branch is a sequence. -/
def sharedParts : List Node → List Node
  | [] => []
  | n :: rest =>
    match n with
    | seq .. =>
      rest.foldl (fun shared b => match b with
        | seq .. => commonPrefix shared b.parts
        | _ => []) n.parts
    | _ => []

/-- The nodes as branches, the first one first. The parts that all of them begin with come once,
before the choice among the rest. -/
def alternation (nodes : List Node) : Node :=
  let branches := nodes.flatMap branches
  if branches.length ≤ 1 then choice branches
  else
    match sharedParts branches with
    | [] => choice branches
    | shared =>
      let rests := branches.map fun b => concat (b.parts.drop shared.length)
      concat (shared ++ [choice (rests.flatMap Node.branches)])

/-- The body from `min` to `max` times. A body that matches only the empty text is repeated at most
once, and what is repeated never is empty. -/
def repetition (min : Nat) (max : Option Nat) (greedy : Bool) (body : Node) : Node :=
  let (min, max) :=
    if body.maxLength = some 0 then (Nat.min min 1, some ((max.getD 1).min 1)) else (min, max)
  if min = 0 ∧ max = some 0 then empty
  else if min = 1 ∧ max = some 1 then body
  else repeated min max greedy body

end Node

end ModalLex.Pattern
