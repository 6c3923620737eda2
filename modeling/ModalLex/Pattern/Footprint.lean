import ModalLex.Pattern.Node

/-!
# The size of a pattern

An estimate of the room that a pattern takes once it is made ready to be searched with, in bytes.
It grows with the number of states: one for each byte of a literal, one for each way to encode the
characters of a set, a few for each choice, all of them again for each copy of what is repeated.
-/

namespace ModalLex.Pattern.Node

/-- A literal takes a state for each of its bytes. -/
def literalFootprint (text : List Char) : Nat :=
  text.foldl (fun n c => n + 32 * c.utf8Size) 0

/-- The spans of ASCII characters share one state. Other spans take some states each, and more for
each length of encoded characters that they run over. -/
def setFootprint (chars : CharSet) : Nat :=
  if chars.isAscii then 64 + 8 * chars.spans.length
  else
    chars.spans.foldl (fun n (lo, hi) =>
      n + 65 + 312 * ((Char.ofNat hi).utf8Size - (Char.ofNat lo).utf8Size)) 0

/-- The estimate for a node. `inside` says that the node is the tail of an alternation, which shares
the states of the choice. -/
def footprint (inside : Bool) : Node → Nat
  | empty | look _ => 32
  | literal text => literalFootprint text
  | set _ chars => setFootprint chars
  | repeated min none _ body =>
    let one := body.footprint false
    if 0 < min then min * one + 40
    else if body.minLength.any (0 < ·) then one + 40 else one + 112
  | repeated min (some max) _ body =>
    max * body.footprint false + (max - min) * 40 + (if min < max ∨ max = 0 then 32 else 0)
  | capture _ body => body.footprint false + 64
  | seq a b => a.footprint false + b.footprint false
  | alt a b => (if inside then 4 else 72) + a.footprint false + b.footprint true

/-- The greatest estimate: ten binary megabytes. -/
def footprintLimit : Nat := 10 * 1024 * 1024

def withinFootprint (n : Node) : Bool := n.footprint false + 320 ≤ footprintLimit

/-- A choice takes the states of each of the captures in it. -/
theorem footprint_le_ofBranches {nodes : List Node} {number : Nat} {body : Node}
    (hmem : .capture number body ∈ nodes) (inside : Bool) :
    body.footprint false ≤ (ofBranches nodes).footprint inside := by
  induction nodes generalizing inside with
  | nil => simp at hmem
  | cons n nodes ih =>
    cases nodes with
    | nil =>
      obtain rfl := List.mem_singleton.1 hmem
      simp only [ofBranches, footprint]
      omega
    | cons m nodes =>
      have hfirst : (ofBranches (n :: m :: nodes)).footprint inside = (if inside then 4 else 72)
          + n.footprint false + (ofBranches (m :: nodes)).footprint true := rfl
      rw [hfirst]
      rcases List.mem_cons.1 hmem with rfl | hmem
      · simp only [footprint]
        omega
      · have := ih hmem true
        omega

theorem withinFootprint_of_ofBranches {nodes : List Node} {number : Nat} {body : Node}
    (hmem : .capture number body ∈ nodes) (h : (ofBranches nodes).withinFootprint = true) :
    body.withinFootprint = true := by
  have := footprint_le_ofBranches hmem false
  simp only [withinFootprint, decide_eq_true_eq] at h ⊢
  omega

end ModalLex.Pattern.Node
