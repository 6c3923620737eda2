/-!
# Sets of characters

A set of characters is a list of spans of code points, in ascending order and with a gap between
any two neighbours. The surrogates `0xD800` to `0xDFFF` are no characters: no span begins or ends
at one, but a span may run over them. So spans that only the surrogates lie between stay two, and
one set of characters can have two lists, which are different sets here.
-/

namespace ModalLex

/-- A set of characters as the spans of code points, first to last, that make it up. -/
structure CharSet where
  spans : List (Nat × Nat)
deriving DecidableEq, Repr, Inhabited

namespace CharSet

/-- The code point of the next character. -/
def after (n : Nat) : Nat := if n = 0xD7FF then 0xE000 else n + 1

/-- The code point of the character before. -/
def before (n : Nat) : Nat := if n = 0xE000 then 0xD7FF else n - 1

/-- Takes `x` into the merged list at its place by first code point; `more` merges what follows. -/
def place (x : Nat × Nat) (more : List (Nat × Nat) → List (Nat × Nat)) :
    List (Nat × Nat) → List (Nat × Nat)
  | [] => x :: more []
  | y :: ys => if x.1 ≤ y.1 then x :: more (y :: ys) else y :: place x more ys

/-- Two lists in ascending order of first code points as one such list. -/
def merge (xs ys : List (Nat × Nat)) : List (Nat × Nat) :=
  xs.foldr place id ys

/-- Joins to the span `lo` to `hi` the spans that follow it without a gap, and so on. -/
def joinFrom (lo hi : Nat) : List (Nat × Nat) → List (Nat × Nat)
  | [] => [(lo, hi)]
  | (a, b) :: rest =>
    if a ≤ hi + 1 then joinFrom lo (max hi b) rest else (lo, hi) :: joinFrom a b rest

/-- Joins neighbours that have no gap between them. -/
def join : List (Nat × Nat) → List (Nat × Nat)
  | [] => []
  | (lo, hi) :: rest => joinFrom lo hi rest

/-- The gap between a span that ends at `hi` and one that begins at `lo`. Between two spans that
only the surrogates lie between, it is taken to be the two characters at its edges. -/
def gap (hi lo : Nat) : Nat × Nat :=
  (min (after hi) (before lo), max (after hi) (before lo))

/-- The gaps after a span that ends at `hi`, up to the last code point. -/
def gapsFrom (hi : Nat) : List (Nat × Nat) → List (Nat × Nat)
  | [] => if hi < 0x10FFFF then [(after hi, 0x10FFFF)] else []
  | (a, b) :: rest => gap hi a :: gapsFrom b rest

/-- What is left of a span without the spans of a list in ascending order. -/
def carve (lo hi : Nat) : List (Nat × Nat) → List (Nat × Nat)
  | [] => [(lo, hi)]
  | (a, b) :: rest =>
    if b < lo then carve lo hi rest
    else if hi < a then [(lo, hi)]
    else (if lo < a then [(lo, before a)] else []) ++ if b < hi then carve (after b) hi rest else []

/-- What two spans have in common. -/
def overlap? (x y : Nat × Nat) : Option (Nat × Nat) :=
  let (lo, hi) := (max x.1 y.1, min x.2 y.2)
  if lo ≤ hi then some (lo, hi) else none

protected def empty : CharSet := ⟨[]⟩

/-- All characters. -/
def all : CharSet := ⟨[(0, 0x10FFFF)]⟩

def singleton (c : Char) : CharSet := ⟨[(c.toNat, c.toNat)]⟩

/-- The characters from `lo` to `hi`, both included; none if `hi` comes before `lo`. -/
def ofRange (lo hi : Char) : CharSet := if hi < lo then ⟨[]⟩ else ⟨[(lo.toNat, hi.toNat)]⟩

protected def union (s t : CharSet) : CharSet := ⟨join (merge s.spans t.spans)⟩

instance : Union CharSet := ⟨CharSet.union⟩

/-- The characters that are not in the set. -/
def compl (s : CharSet) : CharSet :=
  match s.spans with
  | [] => all
  | (lo, hi) :: rest => ⟨(if 0 < lo then [(0, before lo)] else []) ++ gapsFrom hi rest⟩

protected def inter (s t : CharSet) : CharSet :=
  ⟨s.spans.flatMap fun x => t.spans.filterMap (overlap? x)⟩

instance : Inter CharSet := ⟨CharSet.inter⟩

protected def diff (s t : CharSet) : CharSet :=
  ⟨s.spans.flatMap fun (lo, hi) => carve lo hi t.spans⟩

instance : SDiff CharSet := ⟨CharSet.diff⟩

/-- The characters that are in exactly one of the two sets. -/
def symmDiff (s t : CharSet) : CharSet := (s ∪ t) \ (s ∩ t)

/-- The union of a list of sets. -/
def unions (sets : List CharSet) : CharSet := sets.foldr (· ∪ ·) .empty

def ofList (cs : List Char) : CharSet := unions (cs.map singleton)

/-- Whether the code point `n` lies in one of the spans; later spans are not looked at. -/
def spansContain (n : Nat) : List (Nat × Nat) → Bool
  | [] => false
  | (lo, hi) :: rest => if n < lo then false else if n ≤ hi then true else spansContain n rest

def contains (s : CharSet) (c : Char) : Bool := spansContain c.toNat s.spans

def isEmpty (s : CharSet) : Bool := s.spans.isEmpty

/-- The only character of the set, if it has exactly one. -/
def only? (s : CharSet) : Option Char :=
  match s.spans with
  | [(lo, hi)] => if lo = hi then some (Char.ofNat lo) else none
  | _ => none

/-- Whether all characters of the set are ASCII characters. -/
def isAscii (s : CharSet) : Bool := s.spans.all fun (_, hi) => hi ≤ 0x7F

end CharSet

end ModalLex
