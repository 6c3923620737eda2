import Mathlib.Order.Nat
import Mathlib.Tactic.Set
import ModalLex.Proofs.Renaming

/-!
# Branches

The branches of an alternation have no label in common, so it finds what its first branch finds,
or else what the rest finds (`search_alt`): of many branches the first one that finds anything
decides (`search_ofBranches`).
-/

namespace ModalLex.Pattern

theorem Code.Labelled.mono {P Q : Nat → Prop} (h : ∀ label, P label → Q label) :
    ∀ {c : Code}, c.Labelled P → c.Labelled Q
  | skip, _ | look _, _ | mark _, _ => trivial
  | read _ _, hc => h _ hc
  | seq _ _, hc => ⟨hc.1.mono h, hc.2.mono h⟩
  | alt _ _ _, hc => ⟨h _ hc.1, hc.2.1.mono h, hc.2.2.mono h⟩
  | loop _ _ _, hc => ⟨h _ hc.1, hc.2.mono h⟩

/-! ## The labels that are written -/

/-- The labels from `lo` on and before `hi`. -/
def From (lo hi label : Nat) : Prop := lo ≤ label ∧ label < hi

/-- What is written has the labels from the given one on and before the next free one. -/
def Code.Writer.Fresh (w : Code.Writer) : Prop :=
  ∀ next, next ≤ (w next).2 ∧ (w next).1.Labelled (From next (w next).2)

theorem Code.Labelled.widen {lo hi lo' hi' : Nat} {c : Code} (hc : c.Labelled (From lo hi))
    (hlo : lo' ≤ lo) (hhi : hi ≤ hi') : c.Labelled (From lo' hi') :=
  hc.mono fun _ h => ⟨hlo.trans h.1, h.2.trans_le hhi⟩

section Fresh

namespace Code

theorem option_labelled {P : Nat → Prop} {body : Code} (hb : body.Labelled P) {label : Nat}
    (hl : P label) (greedy : Bool) : (option label greedy body).Labelled P := by
  cases greedy
  · exact ⟨hl, trivial, hb⟩
  · exact ⟨hl, hb, trivial⟩

theorem copies_labelled {body : Writer} (hb : body.Fresh) {lo : Nat} :
    ∀ (n : Nat) {rest : Code} {next : Nat}, lo ≤ next → rest.Labelled (From lo next) →
      next ≤ (copies body n rest next).2
        ∧ (copies body n rest next).1.Labelled (From lo (copies body n rest next).2)
  | 0, _, _, _, hr => ⟨le_rfl, hr⟩
  | n + 1, rest, next, hlo, hr => by
    obtain ⟨hle, hl⟩ := hb next
    have hrest : (Code.seq (body next).1 rest).Labelled (From lo (body next).2) :=
      ⟨hl.widen hlo le_rfl, hr.widen le_rfl hle⟩
    obtain ⟨hle', hl'⟩ := copies_labelled hb n (hlo.trans hle) hrest
    exact ⟨hle.trans hle', hl'⟩

theorem options_labelled {body : Writer} (hb : body.Fresh) {lo : Nat} (greedy : Bool) :
    ∀ (n : Nat) {rest : Code} {next : Nat}, lo ≤ next → rest.Labelled (From lo next) →
      next ≤ (options greedy body n rest next).2
        ∧ (options greedy body n rest next).1.Labelled (From lo (options greedy body n rest next).2)
  | 0, _, _, _, hr => ⟨le_rfl, hr⟩
  | n + 1, rest, next, hlo, hr => by
    obtain ⟨hle, hl⟩ := hb (next + 1)
    have hseq : (seq (body (next + 1)).1 rest).Labelled (From lo (body (next + 1)).2) :=
      ⟨hl.widen (by omega) le_rfl, hr.widen le_rfl (by omega)⟩
    obtain ⟨hle', hl'⟩ := options_labelled hb greedy n (by omega)
      (option_labelled hseq ⟨hlo, by omega⟩ greedy)
    exact ⟨by simp only [options]; omega, hl'⟩

theorem plus_fresh {body : Writer} (hb : body.Fresh) (greedy : Bool) :
    (plus greedy body).Fresh := by
  intro next
  obtain ⟨hle, hl⟩ := hb (next + 1)
  have hbody := hl.widen (show next ≤ next + 1 by omega) le_rfl
  refine ⟨by simp only [plus]; omega, hbody, ⟨le_rfl, ?_⟩, hbody⟩
  simp only [plus]
  omega

theorem star_fresh {body : Writer} (hb : body.Fresh) (greedy nonempty : Bool) :
    (star greedy nonempty body).Fresh := by
  intro next
  cases nonempty
  · obtain ⟨hle, hl⟩ := plus_fresh hb greedy (next + 1)
    refine ⟨by simp only [star, Bool.false_eq_true, if_false]; omega, ?_⟩
    exact option_labelled (hl.widen (by omega) le_rfl) ⟨le_rfl, by omega⟩ greedy
  · obtain ⟨hle, hl⟩ := hb (next + 1)
    refine ⟨by simp only [star, if_true]; omega, ⟨le_rfl, ?_⟩, hl.widen (by omega) le_rfl⟩
    simp only [star, if_true]
    omega

theorem text_fresh : ∀ cs : List Char, (text cs).Fresh
  | [], next => ⟨le_rfl, trivial⟩
  | [c], next => ⟨Nat.le_succ next, le_rfl, Nat.lt_succ_self next⟩
  | c :: d :: cs, next => by
    obtain ⟨hle, hl⟩ := text_fresh (d :: cs) (next + 1)
    refine ⟨by simp only [text]; omega, ⟨le_rfl, ?_⟩, hl.widen (by omega) le_rfl⟩
    simp only [text]
    omega

end Code

theorem write_fresh : ∀ n : Node, Code.Writer.Fresh n.write
  | .empty, _ => ⟨le_rfl, trivial⟩
  | .literal text, next => Code.text_fresh text next
  | .set .., next => ⟨Nat.le_succ next, le_rfl, Nat.lt_succ_self next⟩
  | .look _, _ => ⟨le_rfl, trivial⟩
  | .repeated 0 none greedy body, next => Code.star_fresh (write_fresh body) greedy _ next
  | .repeated (n + 1) none greedy body, next => by
    obtain ⟨hle, hl⟩ := Code.plus_fresh (write_fresh body) greedy next
    obtain ⟨hle', hl'⟩ := Code.copies_labelled (write_fresh body) n hle hl
    exact ⟨hle.trans hle', hl'⟩
  | .repeated min (some max) greedy body, next => by
    obtain ⟨hle, hl⟩ := Code.options_labelled (write_fresh body) greedy (max - min)
      (le_refl next) (show Code.skip.Labelled _ from trivial)
    obtain ⟨hle', hl'⟩ := Code.copies_labelled (write_fresh body) min hle hl
    exact ⟨hle.trans hle', hl'⟩
  | .capture _ body, next =>
    ⟨(write_fresh body next).1, trivial, (write_fresh body next).2, trivial⟩
  | .seq a b, next => by
    obtain ⟨hle, hl⟩ := write_fresh a next
    obtain ⟨hle', hl'⟩ := write_fresh b (a.write next).2
    exact ⟨hle.trans hle', hl.widen le_rfl hle', hl'.widen hle le_rfl⟩
  | .alt a b, next => by
    obtain ⟨hle, hl⟩ := write_fresh a (next + 1)
    obtain ⟨hle', hl'⟩ := write_fresh b (a.write (next + 1)).2
    refine ⟨by simp only [Node.write]; omega, ⟨le_rfl, ?_⟩, hl.widen (by omega) hle',
      hl'.widen (by omega) le_rfl⟩
    simp only [Node.write]
    omega

end Fresh

/-! ## Alternations -/

section Alternation

/-- Code with two ways finds what its first way finds, or else what the second one finds, if the
two have no label in common. -/
theorem search_alt_of_labelled {P Q : Nat → Prop} (hPQ : ∀ label, P label → ¬ Q label)
    {label : Nat} (hP : ¬ P label) (hQ : ¬ Q label) {a b : Code} (ha : a.Labelled P)
    (hb : b.Labelled Q) (before : Option Char) (text : List Char) :
    (Code.alt label a b).search before text = (a.search before text).or (b.search before text) := by
  set p : Place := ⟨before, text.head?, 0⟩
  have hwa : Way.Within P (wayOf p [a]) := wayOf_within p (by simpa using ha)
  have hwb : Way.Within Q (wayOf p [b]) := wayOf_within p (by simpa using hb)
  have hfirst : (wayOf p [a] [] (Labels.none.insert label)).1 = (wayOf p [a] [] .none).1 := by
    refine hwa.threads_eq [] fun other ho => ?_
    have hne : label ≠ other := by rintro rfl; exact hP ho
    simp [hne]
  have hsecond : (wayOf p [b] [] (wayOf p [a] [] (Labels.none.insert label)).2).1
      = (wayOf p [b] [] .none).1 := by
    refine hwb.threads_eq [] fun other ho => ?_
    have hne : label ≠ other := by rintro rfl; exact hQ ho
    rw [hwa.frame _ _ _ fun hp => hPQ other hp ho]
    simp [hne]
  have hthreads : (wayOf p [.alt label a b] [] .none).1
      = (wayOf p [a] [] .none).1 ++ (wayOf p [b] [] .none).1 := by
    rw [← hfirst, ← hsecond]
    change (Way.through label (.either (wayOf p [a]) (wayOf p [b])) [] .none).1 = _
    simp [Way.through, Way.either]
  simp only [Code.search]
  rw [hthreads, runThreads_append hPQ _ _ (hwa.labelled [] .none) (hwb.labelled [] .none)]

/-- An alternation finds what its first branch finds, or else what the rest finds. -/
theorem search_alt (a b : Node) (before : Option Char) (text : List Char) :
    (Node.alt a b).code.search before text
      = (a.code.search before text).or (b.code.search before text) := by
  obtain ⟨hle, hla⟩ := write_fresh a 1
  obtain ⟨-, hlb⟩ := write_fresh b (a.write 1).2
  rw [← search_write a 1, ← search_write b (a.write 1).2]
  refine search_alt_of_labelled (fun label h h' => ?_) (fun h => ?_) (fun h => ?_) hla hlb
    before text
  · exact absurd h.2 (by have := h'.1; omega)
  · exact absurd h.1 (by omega)
  · exact absurd h.1 (by omega)

/-- Of the branches, the first one that finds anything decides. -/
theorem search_ofBranches (before : Option Char) (text : List Char) :
    ∀ nodes : List Node, nodes ≠ [] →
      (Node.ofBranches nodes).code.search before text
        = nodes.findSome? fun n => n.code.search before text
  | [n], _ => by
    rw [List.findSome?_singleton]
    rfl
  | n :: m :: nodes, _ => by
    rw [List.findSome?_cons, ← search_ofBranches before text (m :: nodes) (by simp)]
    have := search_alt n (.ofBranches (m :: nodes)) before text
    rcases hn : n.code.search before text with _ | marks
    · rw [hn] at this
      simpa [Node.ofBranches] using this
    · rw [hn] at this
      simpa [Node.ofBranches] using this

end Alternation

end ModalLex.Pattern
