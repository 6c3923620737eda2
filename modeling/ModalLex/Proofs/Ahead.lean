import ModalLex.Context
import ModalLex.Proofs.Groups

/-!
# Looking ahead

Only assertions see the character before the place where a search starts, and not all of them do. If
none of a node does, what the node finds depends on nothing before that place
(`search_eq_of_ahead`).
-/

namespace ModalLex

namespace Pattern

/-- Whether the assertion can depend on the character before the place. The end of a line can, if
`\r\n` is one end, not two. -/
def Look.looksBehind : Look → Bool
  | textStart | lineStart | crlfLineStart | crlfLineEnd => true
  | textEnd | lineEnd => false
  | word edge _ => edge ≠ .stopHalf

/-- Whether some assertion of the node looks behind. -/
def Node.looksBehind : Node → Bool
  | empty | literal _ | set .. => false
  | look assertion => assertion.looksBehind
  | repeated _ _ _ body | capture _ body => body.looksBehind
  | seq a b | alt a b => a.looksBehind || b.looksBehind

/-- Whether some assertion of the code looks behind. -/
def Code.looksBehind : Code → Bool
  | skip | read _ _ | mark _ => false
  | look assertion => assertion.looksBehind
  | seq a b | alt _ a b => a.looksBehind || b.looksBehind
  | loop _ _ body => body.looksBehind

theorem Node.leaves_of_ahead :
    ∀ {n : Node}, n.looksBehind = false → n.Leaves fun c => c.looksBehind = false
  | empty, _ | literal _, _ | set .., _ => trivial
  | look _, h => h
  | repeated _ _ _ body, h => leaves_of_ahead (n := body) h
  | capture _ body, h => ⟨rfl, rfl, leaves_of_ahead (n := body) h⟩
  | seq _ _, h | alt _ _, h =>
    have h := Bool.or_eq_false_iff.1 h
    ⟨leaves_of_ahead h.1, leaves_of_ahead h.2⟩

theorem write_ahead {n : Node} (h : n.looksBehind = false) (next : Nat) :
    (n.write next).1.looksBehind = false :=
  write_of_closed (P := fun c => c.looksBehind = false)
    { skip := rfl, read := fun _ _ => rfl, seq := fun ha hb => Bool.or_eq_false_iff.2 ⟨ha, hb⟩,
      alt := fun _ _ _ ha hb => Bool.or_eq_false_iff.2 ⟨ha, hb⟩, loop := fun _ _ _ hb => hb }
    (Node.leaves_of_ahead h) next

section Places

variable {before before' after : Option Char} {read : Nat}

theorem holds_eq_of_ahead :
    ∀ {a : Look}, a.looksBehind = false →
      a.holds ⟨before, after, read⟩ = a.holds ⟨before', after, read⟩
  | .textEnd, _ | .lineEnd, _ | .word .stopHalf _, _ => rfl

/-- Code that does not look behind leads on alike, whatever comes before. -/
theorem way_eq_of_ahead :
    ∀ {c : Code} {rest : List Code} {go : Way}, c.looksBehind = false →
      c.way ⟨before, after, read⟩ rest go = c.way ⟨before', after, read⟩ rest go
  | .skip, _, _, _ | .read _ _, _, _, _ | .mark _, _, _, _ => rfl
  | .look a, _, _, h => by
    have ha : a.holds ⟨before, after, read⟩ = a.holds ⟨before', after, read⟩ :=
      holds_eq_of_ahead h
    simp only [Code.way, ha]
  | .seq a b, rest, go, h => by
    obtain ⟨ha, hb⟩ := Bool.or_eq_false_iff.1 h
    simp only [Code.way, way_eq_of_ahead hb, way_eq_of_ahead ha]
  | .alt label a b, rest, go, h => by
    obtain ⟨ha, hb⟩ := Bool.or_eq_false_iff.1 h
    simp only [Code.way, way_eq_of_ahead hb, way_eq_of_ahead ha]
  | .loop label greedy body, rest, go, h => by
    simp only [Code.way, way_eq_of_ahead (c := body) h]

/-- What a node finds does not depend on what comes before, if it does not look behind. -/
theorem search_eq_of_ahead {n : Node} (h : n.looksBehind = false) (text : List Char) :
    n.code.search before text = n.code.search before' text := by
  have hcode : n.code.looksBehind = false := write_ahead h 0
  simp only [Code.search, wayOf]
  rw [way_eq_of_ahead hcode]

end Places

end Pattern

namespace Context

theorem ruleAt?_eq_of_ahead {c : Context} (h : c.node.looksBehind = false)
    (before before' : Option Char) (text : List Char) :
    c.ruleAt? before text = c.ruleAt? before' text := by
  have hcode : c.code.search before text = c.code.search before' text := by
    rw [c.code_eq]
    exact Pattern.search_eq_of_ahead h text
  simp only [ruleAt?, hcode]

end Context

end ModalLex
