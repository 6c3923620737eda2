import ModalLex.Pattern.Reading
import ModalLex.Proofs.Groups

/-!
# What a round of reading does

A round of reading adds an item without captures, changes the mode, repeats the last item, begins
a branch, or opens or closes a group (`move_of_readNext`). What it notes as captures has numbers
that were given before, or the next one if it opens a group that captures (`Move.captures`). A node
whose captures are numbered from one on has none if its last one has the number zero
(`Node.silent_of_lastCapture_eq_zero`).
-/

namespace ModalLex.Pattern

theorem bind_eq_ok {ε α β : Type} {x : Except ε α} {f : α → Except ε β} {b : β}
    (h : x >>= f = .ok b) : ∃ a, x = .ok a ∧ f a = .ok b := by
  cases x with
  | error e => cases h
  | ok a => exact ⟨a, rfl, h⟩

theorem ok_bind {ε α β : Type} (a : α) (f : α → Except ε β) : Except.ok a >>= f = f a := rfl

/-! ## Captures of built nodes -/

namespace Node

theorem Captures.mono {P Q : Nat → Prop} (h : ∀ k, P k → Q k) :
    ∀ {n : Node}, n.Captures P → n.Captures Q
  | empty, _ | literal _, _ | set .., _ | look _, _ => trivial
  | repeated _ _ _ body, hn => mono (n := body) h hn
  | capture _ _, hn => ⟨h _ hn.1, mono h hn.2⟩
  | seq _ _, hn | alt _ _, hn => ⟨mono h hn.1, mono h hn.2⟩

section Build

variable {P : Nat → Prop}

theorem parts_captures : ∀ {n : Node}, n.Captures P → ∀ m ∈ n.parts, m.Captures P
  | seq _ _, h, m, hm => (List.mem_append.1 hm).elim (parts_captures h.1 m) (parts_captures h.2 m)
  | empty, _, _, hm => by simp [parts] at hm
  | literal _, h, _, hm | set .., h, _, hm | look _, h, _, hm | repeated .., h, _, hm
  | capture .., h, _, hm | alt .., h, _, hm => List.mem_singleton.1 hm ▸ h

theorem branches_captures : ∀ {n : Node}, n.Captures P → ∀ m ∈ n.branches, m.Captures P
  | alt _ _, h, m, hm =>
    (List.mem_append.1 hm).elim (branches_captures h.1 m) (branches_captures h.2 m)
  | empty, h, _, hm | literal _, h, _, hm | set .., h, _, hm | look _, h, _, hm
  | repeated .., h, _, hm | capture .., h, _, hm | seq .., h, _, hm => List.mem_singleton.1 hm ▸ h

theorem joinLiterals_captures :
    ∀ {ns : List Node}, (∀ n ∈ ns, n.Captures P) → ∀ n ∈ joinLiterals ns, n.Captures P
  | [], h => h
  | n :: ns, h => by
    obtain ⟨hn, hns⟩ := List.forall_mem_cons.1 h
    have ih := joinLiterals_captures hns
    cases n with
    | literal s =>
      simp only [joinLiterals]
      split
      · rename_i t rest heq
        rw [heq] at ih
        exact List.forall_mem_cons.2 ⟨trivial, fun m hm => ih m (List.mem_cons_of_mem _ hm)⟩
      · exact List.forall_mem_cons.2 ⟨hn, ih⟩
    | _ => exact List.forall_mem_cons.2 ⟨hn, ih⟩

theorem ofParts_captures : ∀ {ns : List Node}, (∀ n ∈ ns, n.Captures P) → (ofParts ns).Captures P
  | [], _ => trivial
  | [n], h => h n List.mem_cons_self
  | n :: _ :: _, h =>
    ⟨h n List.mem_cons_self, ofParts_captures fun m hm => h m (List.mem_cons_of_mem n hm)⟩

theorem ofBranches_captures :
    ∀ {ns : List Node}, (∀ n ∈ ns, n.Captures P) → (ofBranches ns).Captures P
  | [], _ => trivial
  | [n], h => h n List.mem_cons_self
  | n :: _ :: _, h =>
    ⟨h n List.mem_cons_self, ofBranches_captures fun m hm => h m (List.mem_cons_of_mem n hm)⟩

theorem concat_captures {ns : List Node} (h : ∀ n ∈ ns, n.Captures P) : (concat ns).Captures P := by
  refine ofParts_captures (joinLiterals_captures fun m hm => ?_)
  obtain ⟨n, hn, hm⟩ := List.mem_flatMap.1 hm
  exact parts_captures (h n hn) m hm

theorem ofSet_captures (bytes : Bool) (chars : CharSet) : (ofSet bytes chars).Captures P := by
  unfold ofSet
  split
  · trivial
  · split <;> trivial

theorem choice_captures {ns : List Node} (h : ∀ n ∈ ns, n.Captures P) : (choice ns).Captures P := by
  unfold choice
  split
  · trivial
  · exact h _ List.mem_cons_self
  · split
    · exact ofSet_captures _ _
    · split
      · exact ofSet_captures _ _
      · exact ofBranches_captures h

theorem mem_of_mem_commonPrefix {m : Node} :
    ∀ {as bs : List Node}, m ∈ commonPrefix as bs → m ∈ as
  | [], _, h => by simp [commonPrefix] at h
  | _ :: _, [], h => by simp [commonPrefix] at h
  | a :: as, b :: bs, h => by
    simp only [commonPrefix] at h
    split at h
    · rcases List.mem_cons.1 h with rfl | h
      · exact List.mem_cons_self
      · exact List.mem_cons_of_mem _ (mem_of_mem_commonPrefix h)
    · simp at h

theorem mem_of_mem_foldl_commonPrefix {m : Node} (ns : List Node) :
    ∀ {shared : List Node},
      m ∈ ns.foldl (fun shared b => match b with
        | seq .. => commonPrefix shared b.parts
        | _ => []) shared → m ∈ shared := by
  induction ns with
  | nil => exact id
  | cons n ns ih =>
    intro shared h
    rw [List.foldl_cons] at h
    have := ih h
    cases n with
    | seq a b => exact mem_of_mem_commonPrefix this
    | _ => simp at this

theorem sharedParts_captures {ns : List Node} (h : ∀ n ∈ ns, n.Captures P) :
    ∀ m ∈ sharedParts ns, m.Captures P := by
  intro m hm
  unfold sharedParts at hm
  split at hm
  · simp at hm
  · split at hm
    · exact parts_captures (h _ List.mem_cons_self) m (mem_of_mem_foldl_commonPrefix _ hm)
    · simp at hm

theorem alternation_captures {ns : List Node} (h : ∀ n ∈ ns, n.Captures P) :
    (alternation ns).Captures P := by
  have hb : ∀ m ∈ ns.flatMap branches, m.Captures P := by
    intro m hm
    obtain ⟨n, hn, hm⟩ := List.mem_flatMap.1 hm
    exact branches_captures (h n hn) m hm
  unfold alternation
  simp only
  split
  · exact choice_captures hb
  · split
    · exact choice_captures hb
    · rename_i shared _
      refine concat_captures fun m hm => ?_
      rcases List.mem_append.1 hm with hm | hm
      · exact sharedParts_captures hb m hm
      · obtain rfl := List.mem_singleton.1 hm
        refine choice_captures fun m hm => ?_
        obtain ⟨n, hn, hm⟩ := List.mem_flatMap.1 hm
        obtain ⟨b, hb', rfl⟩ := List.mem_map.1 hn
        refine branches_captures (concat_captures fun x hx => ?_) m hm
        exact parts_captures (hb b hb') x (List.mem_of_mem_drop hx)

theorem repetition_captures {min : Nat} {max : Option Nat} {greedy : Bool} {body : Node}
    (h : body.Captures P) : (repetition min max greedy body).Captures P := by
  unfold repetition
  split
  split
  · trivial
  · split
    · exact h
    · exact h

/-- A node whose captures are numbered from one on notes none if the last one is zero. -/
theorem silent_of_lastCapture_eq_zero :
    ∀ {n : Node}, n.Captures (1 ≤ ·) → n.lastCapture = 0 → n.Silent
  | empty, _, _ | literal _, _, _ | set .., _, _ | look _, _, _ => trivial
  | repeated _ _ _ body, h, h0 => silent_of_lastCapture_eq_zero (n := body) h h0
  | capture number body, h, h0 => by
    have := h.1
    simp only [lastCapture] at h0
    omega
  | seq a b, h, h0 | alt a b, h, h0 => by
    simp only [lastCapture] at h0
    exact ⟨silent_of_lastCapture_eq_zero h.1 (by omega),
      silent_of_lastCapture_eq_zero h.2 (by omega)⟩

end Build

end Node

/-! ## Moves -/

theorem Mode.literal_silent [Engine] (m : Mode) (c : Char) : (m.literal c).Silent := by
  unfold Mode.literal
  split
  · exact Node.ofSet_captures _ _
  · trivial

theorem Atom.node_silent [Engine] (m : Mode) : ∀ a : Atom, (a.node m).Silent
  | .char c => Mode.literal_silent m c
  | .set chars => Node.ofSet_captures _ chars
  | .look _ => trivial

theorem Mode.dot_silent {m : Mode} {n : Node} (h : m.dot = .ok n) : n.Silent := by
  unfold Mode.dot at h
  split_ifs at h <;> cases h <;> trivial

namespace Reading

/-- What one round can make of a reading. -/
inductive Move (r : Reading) : Reading → Prop
  | push (i : Item) (hi : i.node.Silent) : Move r (r.push i)
  | changeMode (mode : Mode) :
      Move r { r with group := { r.group with mode }.push ⟨.empty, 0, false⟩ }
  | repeatLast {min : Nat} {max : Option Nat} {lazily : Bool} {g : OpenGroup}
      (h : r.group.repeatLast min max lazily = .ok g) : Move r { r with group := g }
  | bar : Move r { r with group := r.group.bar }
  | openGroup (mode : Mode) : Move r (r.openGroup none mode)
  | openCapture (names : List (List Char)) : Move r { r with names }.openCapture
  | closeGroup {r' : Reading} (h : r.closeGroup = .ok r') : Move r r'

section Moves

variable {r r' : Reading} {text rest : List Char}

theorem move_of_readRepetition {min : Nat} {max : Option Nat}
    (h : r.readRepetition min max text = .ok (r', rest)) : Move r r' := by
  unfold readRepetition at h
  split at h
  all_goals
    obtain ⟨g, hg, h⟩ := bind_eq_ok h
    cases h
    exact .repeatLast hg

theorem move_of_goOn {mode : Mode} {any : Bool} (h : r.goOn mode any text = .ok (r', rest)) :
    Move r r' := by
  unfold goOn at h
  split at h
  · split at h
    · cases h
      exact .changeMode _
    · cases h
  · cases h
    exact .openGroup _

theorem move_of_readFlagged (h : r.readFlagged text = .ok (r', rest)) : Move r r' := by
  obtain ⟨_, -, h⟩ := bind_eq_ok h
  exact move_of_goOn h

variable [Engine]

theorem move_of_readNamed (h : r.readNamed text = .ok (r', rest)) : Move r r' := by
  obtain ⟨⟨name, rest'⟩, -, h⟩ := bind_eq_ok h
  simp only at h
  split at h
  · cases h
  · cases h
    exact .openCapture _

theorem move_of_readGroup (h : r.readGroup text = .ok (r', rest)) : Move r r' := by
  unfold readGroup at h
  split at h
  · cases h
  · cases h
  · cases h
  · cases h
  · exact move_of_readNamed h
  · exact move_of_readNamed h
  · cases h
  · exact move_of_readFlagged h
  · cases h
    exact .openCapture r.names

theorem move_of_readNext {c : Char} (h : r.readNext c text = .ok (r', rest)) : Move r r' := by
  unfold readNext at h
  split at h
  · exact move_of_readGroup h
  · obtain ⟨r'', hr, h⟩ := bind_eq_ok h
    cases h
    exact .closeGroup hr
  · cases h
    exact .bar
  · obtain ⟨⟨p, rest'⟩, -, h⟩ := bind_eq_ok h
    cases h
    exact .push _ (Node.ofSet_captures _ _)
  · exact move_of_readRepetition h
  · exact move_of_readRepetition h
  · exact move_of_readRepetition h
  · split at h
    · obtain ⟨⟨⟨min, max⟩, rest'⟩, -, h⟩ := bind_eq_ok h
      exact move_of_readRepetition h
    · cases h
  · obtain ⟨⟨a, rest'⟩, -, h⟩ := bind_eq_ok h
    cases h
    exact .push _ (Atom.node_silent _ a)
  · obtain ⟨n, hn, h⟩ := bind_eq_ok h
    cases h
    exact .push _ (Mode.dot_silent hn)
  · cases h
    exact .push _ trivial
  · cases h
    exact .push _ trivial
  · cases h
    exact .push _ (Mode.literal_silent _ _)

end Moves

/-! ## Numbers of captures -/

end Reading

/-- Every number under which the group has noted a capture is in `P`. -/
def OpenGroup.Captures (P : Nat → Prop) (g : OpenGroup) : Prop :=
  (∀ i ∈ g.items, i.node.Captures P) ∧ ∀ i ∈ g.branches, i.node.Captures P

/-- Every number that has been given to a capture is in `P`. -/
def Reading.Captures (P : Nat → Prop) (r : Reading) : Prop :=
  r.group.Captures P ∧ ∀ x ∈ r.outer, x.1.Captures P ∧ ∀ k, x.2 = some k → P k

section Captures

variable {P : Nat → Prop}

namespace OpenGroup

theorem push_captures {g : OpenGroup} (h : g.Captures P) {i : Item} (hi : i.node.Captures P) :
    (g.push i).Captures P :=
  ⟨List.forall_mem_cons.2 ⟨hi, h.1⟩, h.2⟩

theorem branch_captures {g : OpenGroup} (h : g.Captures P) : g.branch.node.Captures P := by
  unfold branch
  split
  · trivial
  · rename_i i heq
    exact h.1 i (by simp [heq])
  · refine Node.concat_captures fun n hn => ?_
    obtain ⟨i, hi, rfl⟩ := List.mem_map.1 hn
    exact h.1 i (List.mem_reverse.1 hi)

theorem whole_captures {g : OpenGroup} (h : g.Captures P) : g.whole.node.Captures P := by
  unfold whole
  split
  · exact branch_captures h
  · refine Node.alternation_captures fun n hn => ?_
    obtain ⟨i, hi, rfl⟩ := List.mem_map.1 hn
    rcases List.mem_cons.1 (List.mem_reverse.1 hi) with rfl | hi
    · exact branch_captures h
    · exact h.2 i hi

theorem repeatLast_captures {g g' : OpenGroup} {min : Nat} {max : Option Nat} {lazily : Bool}
    (h : g.Captures P) (hg : g.repeatLast min max lazily = .ok g') : g'.Captures P := by
  unfold repeatLast at hg
  split at hg
  · rename_i i items heq
    have hitems : ∀ j ∈ i :: items, j.node.Captures P := heq ▸ h.1
    obtain ⟨hi, hrest⟩ := List.forall_mem_cons.1 hitems
    split at hg
    · cases hg
      exact ⟨List.forall_mem_cons.2 ⟨Node.repetition_captures hi, hrest⟩, h.2⟩
    · cases hg
  · cases hg

end OpenGroup

namespace Reading

/-- A move notes captures under the numbers given before it, or under the next one if it takes a
capture. -/
theorem Move.captures {r r' : Reading} (h : Move r r') (hr : r.Captures P)
    (hnext : r.captures < r'.captures → P (r.captures + 1)) : r'.Captures P := by
  have hsilent : ∀ {n : Node}, n.Silent → n.Captures P := fun h => h.mono fun _ => False.elim
  have hnew : ∀ mode : Mode, OpenGroup.Captures P { mode } := fun _ => by
    simp [OpenGroup.Captures]
  cases h with
  | push i hi => exact ⟨OpenGroup.push_captures hr.1 (hsilent hi), hr.2⟩
  | changeMode mode => exact ⟨OpenGroup.push_captures (i := ⟨.empty, 0, false⟩) hr.1 trivial, hr.2⟩
  | repeatLast hg => exact ⟨OpenGroup.repeatLast_captures hr.1 hg, hr.2⟩
  | bar =>
    exact ⟨⟨by simp [OpenGroup.bar],
      List.forall_mem_cons.2 ⟨OpenGroup.branch_captures hr.1, hr.1.2⟩⟩, hr.2⟩
  | openGroup mode =>
    exact ⟨hnew mode, List.forall_mem_cons.2 ⟨⟨hr.1, by simp⟩, hr.2⟩⟩
  | openCapture names =>
    refine ⟨hnew _, List.forall_mem_cons.2 ⟨⟨hr.1, ?_⟩, hr.2⟩⟩
    rintro k hk
    cases hk
    exact hnext (Nat.lt_succ_self _)
  | closeGroup hc =>
    unfold Reading.closeGroup at hc
    split at hc
    · cases hc
    · rename_i g number outer heq
      cases hc
      obtain ⟨⟨hg, hnumber⟩, houter⟩ := List.forall_mem_cons.1 (heq ▸ hr.2)
      refine ⟨OpenGroup.push_captures hg ?_, houter⟩
      cases number with
      | none => exact OpenGroup.whole_captures hr.1
      | some k => exact ⟨hnumber k rfl, OpenGroup.whole_captures hr.1⟩

end Reading

end Captures

end ModalLex.Pattern
