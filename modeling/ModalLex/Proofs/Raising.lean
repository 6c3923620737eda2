import ModalLex.Proofs.Moves

/-!
# Raised captures

A pattern that is read after some captures notes its own ones under numbers that are higher by as
many. The functions that build nodes make nothing of the numbers but compare them, so it is one
whether they are raised before or after a node is built (`concat_raise`, `alternation_raise`,
`repetition_raise`), and the same goes for an open group (`OpenGroup.whole_raise`). A node without
captures is what it was, and a group that is one has no item with a capture
(`OpenGroup.captures_of_whole`).
-/

namespace ModalLex.Pattern

namespace Node

/-- The node with the numbers of its captures raised. -/
def raise (k : Nat) : Node → Node
  | empty => empty
  | literal text => literal text
  | set bytes chars => set bytes chars
  | look assertion => look assertion
  | repeated min max greedy body => repeated min max greedy (body.raise k)
  | capture number body => capture (k + number) (body.raise k)
  | seq a b => seq (a.raise k) (b.raise k)
  | alt a b => alt (a.raise k) (b.raise k)

section Raise

variable (k : Nat)

theorem raise_injective : Function.Injective (raise k) := by
  intro a
  induction a with
  | repeated min max greedy body ih =>
    intro b h
    cases b <;> simp only [raise, reduceCtorEq, repeated.injEq] at h
    rw [h.1, h.2.1, h.2.2.1, ih h.2.2.2]
  | capture number body ih =>
    intro b h
    cases b <;> simp only [raise, reduceCtorEq, capture.injEq, Nat.add_left_cancel_iff] at h
    rw [h.1, ih h.2]
  | seq a a' ih ih' | alt a a' ih ih' =>
    intro b h
    cases b <;> simp only [raise, reduceCtorEq, seq.injEq, alt.injEq] at h
    rw [ih h.1, ih' h.2]
  | _ =>
    intro b h
    cases b <;> simp_all [raise]

/-- A node without captures has none to raise. -/
theorem raise_of_silent : ∀ {n : Node}, n.Silent → n.raise k = n
  | empty, _ | literal _, _ | set .., _ | look _, _ => rfl
  | repeated _ _ _ body, h => congrArg (repeated _ _ _) (raise_of_silent (n := body) h)
  | capture _ _, h => h.1.elim
  | seq _ _, h => congrArg₂ seq (raise_of_silent h.1) (raise_of_silent h.2)
  | alt _ _, h => congrArg₂ alt (raise_of_silent h.1) (raise_of_silent h.2)

@[simp] theorem minLength_raise (n : Node) : (n.raise k).minLength = n.minLength := by
  induction n <;> simp [raise, minLength, *]

@[simp] theorem maxLength_raise (n : Node) : (n.raise k).maxLength = n.maxLength := by
  induction n <;> simp [raise, maxLength, *]

theorem parts_raise (n : Node) : (n.raise k).parts = n.parts.map (raise k) := by
  induction n <;> simp [raise, parts, *]

theorem branches_raise (n : Node) : (n.raise k).branches = n.branches.map (raise k) := by
  induction n <;> simp [raise, branches, *]

theorem flatMap_parts_raise (ns : List Node) :
    (ns.map (raise k)).flatMap parts = (ns.flatMap parts).map (raise k) := by
  simp only [List.flatMap_map, List.map_flatMap, parts_raise]

theorem flatMap_branches_raise (ns : List Node) :
    (ns.map (raise k)).flatMap branches = (ns.flatMap branches).map (raise k) := by
  simp only [List.flatMap_map, List.map_flatMap, branches_raise]

theorem joinLiterals_raise : ∀ ns : List Node,
    joinLiterals (ns.map (raise k)) = (joinLiterals ns).map (raise k)
  | [] => rfl
  | n :: ns => by
    have ih := joinLiterals_raise ns
    cases n with
    | literal s =>
      simp only [List.map_cons, raise, joinLiterals, ih]
      rcases joinLiterals ns with _ | ⟨m, rest⟩
      · rfl
      · cases m <;> rfl
    | _ => simp only [List.map_cons, raise, joinLiterals, ih]

theorem ofParts_raise : ∀ ns : List Node, ofParts (ns.map (raise k)) = (ofParts ns).raise k
  | [] => rfl
  | [_] => rfl
  | n :: m :: ns => congrArg (seq (n.raise k)) (ofParts_raise (m :: ns))

theorem ofBranches_raise : ∀ ns : List Node,
    ofBranches (ns.map (raise k)) = (ofBranches ns).raise k
  | [] => rfl
  | [_] => rfl
  | n :: m :: ns => congrArg (alt (n.raise k)) (ofBranches_raise (m :: ns))

theorem concat_raise (ns : List Node) : concat (ns.map (raise k)) = (concat ns).raise k := by
  rw [concat, flatMap_parts_raise, joinLiterals_raise, ofParts_raise, concat]

theorem mapM_raise {α : Type} {f : Node → Option α} (hf : ∀ n, f (n.raise k) = f n)
    (ns : List Node) : (ns.map (raise k)).mapM f = ns.mapM f := by
  induction ns with
  | nil => rfl
  | cons n ns ih => simp only [List.map_cons, List.mapM_cons, hf, ih]

theorem choice_raise (ns : List Node) : choice (ns.map (raise k)) = (choice ns).raise k := by
  rcases ns with _ | ⟨n, _ | ⟨m, ns⟩⟩
  · rfl
  · rfl
  have hchar := mapM_raise k (f := singleChar?) (fun n => by cases n <;> rfl) (n :: m :: ns)
  have hset := mapM_raise k (f := charSet?) (fun n => by cases n <;> rfl) (n :: m :: ns)
  have hbranches := ofBranches_raise k (n :: m :: ns)
  simp only [List.map_cons] at hchar hset hbranches ⊢
  simp only [choice, hchar, hset, hbranches]
  split
  · exact (raise_of_silent k (ofSet_captures _ _)).symm
  · split
    · exact (raise_of_silent k (ofSet_captures _ _)).symm
    · rfl

theorem commonPrefix_raise : ∀ as bs : List Node,
    commonPrefix (as.map (raise k)) (bs.map (raise k)) = (commonPrefix as bs).map (raise k)
  | [], _ | _ :: _, [] => by simp [commonPrefix]
  | a :: as, b :: bs => by
    simp only [List.map_cons, commonPrefix, (raise_injective k).eq_iff, commonPrefix_raise as bs]
    split <;> rfl

/-- The shared parts that one more branch begins with, too. -/
def shareWith (shared : List Node) (b : Node) : List Node :=
  match b with
  | seq .. => commonPrefix shared b.parts
  | _ => []

theorem shareWith_raise (shared : List Node) (b : Node) :
    shareWith (shared.map (raise k)) (b.raise k) = (shareWith shared b).map (raise k) := by
  cases b with
  | seq a b =>
    have hparts := parts_raise k (seq a b)
    simp only [raise] at hparts
    simp only [shareWith, raise, hparts, commonPrefix_raise]
  | _ => rfl

theorem sharedParts_seq (a b : Node) (ns : List Node) :
    sharedParts (seq a b :: ns) = ns.foldl shareWith (seq a b).parts := rfl

theorem sharedParts_raise (ns : List Node) :
    sharedParts (ns.map (raise k)) = (sharedParts ns).map (raise k) := by
  have hfold : ∀ ns shared : List Node, (ns.map (raise k)).foldl shareWith (shared.map (raise k))
      = (ns.foldl shareWith shared).map (raise k) := by
    intro ns
    induction ns with
    | nil => exact fun _ => rfl
    | cons n ns ih =>
      intro shared
      rw [List.map_cons, List.foldl_cons, List.foldl_cons, shareWith_raise, ih]
  rcases ns with _ | ⟨n, ns⟩
  · rfl
  · cases n with
    | seq a b =>
      have hparts := parts_raise k (seq a b)
      simp only [raise] at hparts
      rw [List.map_cons, raise, sharedParts_seq, hparts, hfold, sharedParts_seq]
    | _ => rfl

theorem alternation_raise (ns : List Node) :
    alternation (ns.map (raise k)) = (alternation ns).raise k := by
  unfold alternation
  simp only [flatMap_branches_raise, List.length_map, sharedParts_raise]
  split
  · exact choice_raise k _
  · rcases sharedParts (ns.flatMap branches) with _ | ⟨s, shared⟩
    · exact choice_raise k _
    · have hrests : ((ns.flatMap branches).map (raise k)).map
          (fun b => concat (b.parts.drop (s :: shared).length))
          = ((ns.flatMap branches).map fun b => concat (b.parts.drop (s :: shared).length)).map
            (raise k) := by
        rw [List.map_map, List.map_map]
        refine List.map_congr_left fun b _ => ?_
        simp only [Function.comp_apply, parts_raise, ← List.map_drop, concat_raise]
      simp only [List.map_cons, List.length_cons, List.length_map] at hrests ⊢
      rw [hrests, flatMap_branches_raise, choice_raise, ← concat_raise]
      simp

theorem repetition_raise (min : Nat) (max : Option Nat) (greedy : Bool) (body : Node) :
    repetition min max greedy (body.raise k) = (repetition min max greedy body).raise k := by
  unfold repetition
  rw [maxLength_raise]
  split
  split
  · rfl
  · split <;> rfl

end Raise

/-! ## Captures of what a node is built from -/

section Parts

variable {P : Nat → Prop}

theorem captures_of_parts : ∀ {n : Node}, (∀ m ∈ n.parts, m.Captures P) → n.Captures P
  | empty, _ => trivial
  | seq _ _, h => ⟨captures_of_parts fun m hm => h m (List.mem_append_left _ hm),
      captures_of_parts fun m hm => h m (List.mem_append_right _ hm)⟩
  | literal _, h | set .., h | look _, h | repeated .., h | capture .., h | alt .., h =>
    h _ List.mem_cons_self

theorem captures_of_branches : ∀ {n : Node}, (∀ m ∈ n.branches, m.Captures P) → n.Captures P
  | alt _ _, h => ⟨captures_of_branches fun m hm => h m (List.mem_append_left _ hm),
      captures_of_branches fun m hm => h m (List.mem_append_right _ hm)⟩
  | empty, h | literal _, h | set .., h | look _, h | repeated .., h | capture .., h | seq .., h =>
    h _ List.mem_cons_self

theorem captures_of_joinLiterals :
    ∀ {ns : List Node}, (∀ n ∈ joinLiterals ns, n.Captures P) → ∀ n ∈ ns, n.Captures P
  | [], _ => by simp
  | n :: ns, h => by
    cases n with
    | literal s =>
      refine List.forall_mem_cons.2 ⟨trivial, captures_of_joinLiterals ?_⟩
      simp only [joinLiterals] at h
      split at h
      · rename_i t rest heq
        rw [heq]
        exact List.forall_mem_cons.2 ⟨trivial, (List.forall_mem_cons.1 h).2⟩
      · exact (List.forall_mem_cons.1 h).2
    | _ =>
      obtain ⟨hn, hns⟩ := List.forall_mem_cons.1 h
      exact List.forall_mem_cons.2 ⟨hn, captures_of_joinLiterals hns⟩

theorem captures_of_ofParts :
    ∀ {ns : List Node}, (ofParts ns).Captures P → ∀ n ∈ ns, n.Captures P
  | [], _ => by simp
  | [_], h => List.forall_mem_singleton.2 h
  | _ :: _ :: _, h => List.forall_mem_cons.2 ⟨h.1, captures_of_ofParts h.2⟩

theorem captures_of_ofBranches :
    ∀ {ns : List Node}, (ofBranches ns).Captures P → ∀ n ∈ ns, n.Captures P
  | [], _ => by simp
  | [_], h => List.forall_mem_singleton.2 h
  | _ :: _ :: _, h => List.forall_mem_cons.2 ⟨h.1, captures_of_ofBranches h.2⟩

theorem captures_of_concat {ns : List Node} (h : (concat ns).Captures P) :
    ∀ n ∈ ns, n.Captures P := fun _ hn =>
  captures_of_parts fun m hm =>
    captures_of_joinLiterals (captures_of_ofParts h) m (List.mem_flatMap.2 ⟨_, hn, hm⟩)

theorem captures_of_mapM {α : Type} {f : Node → Option α}
    (hf : ∀ n a, f n = some a → n.Captures P) :
    ∀ {ns : List Node} {as : List α}, ns.mapM f = some as → ∀ n ∈ ns, n.Captures P
  | [], _, _ => by simp
  | n :: ns, _, h => by
    rw [List.mapM_cons] at h
    obtain ⟨a, ha, h⟩ := Option.bind_eq_some_iff.1 h
    obtain ⟨as, has, -⟩ := Option.bind_eq_some_iff.1 h
    exact List.forall_mem_cons.2 ⟨hf n a ha, captures_of_mapM hf has⟩

theorem captures_of_choice {ns : List Node} (h : (choice ns).Captures P) :
    ∀ n ∈ ns, n.Captures P := by
  unfold choice at h
  split at h
  · simp
  · exact List.forall_mem_singleton.2 h
  · split at h
    · rename_i hchars
      exact captures_of_mapM (fun n _ hn => by cases n <;> simp_all [singleChar?, Captures]) hchars
    · split at h
      · rename_i hsets
        exact captures_of_mapM (fun n _ hn => by cases n <;> simp_all [charSet?, Captures]) hsets
      · exact captures_of_ofBranches h

theorem commonPrefix_isPrefix : ∀ as bs : List Node,
    commonPrefix as bs <+: as ∧ commonPrefix as bs <+: bs
  | [], _ | _ :: _, [] => by simp [commonPrefix]
  | a :: as, b :: bs => by
    simp only [commonPrefix]
    split
    · rename_i hab
      subst hab
      simpa using commonPrefix_isPrefix as bs
    · exact ⟨List.nil_prefix, List.nil_prefix⟩

theorem shareWith_isPrefix (shared : List Node) (b : Node) :
    shareWith shared b <+: shared ∧ shareWith shared b <+: b.parts := by
  cases b with
  | seq a b => exact commonPrefix_isPrefix _ _
  | _ => exact ⟨List.nil_prefix, List.nil_prefix⟩

/-- Every branch begins with the parts that are shared. -/
theorem sharedParts_isPrefix {ns : List Node} : ∀ n ∈ ns, sharedParts ns <+: n.parts := by
  have hfold : ∀ ns shared : List Node, ns.foldl shareWith shared <+: shared ∧
      ∀ n ∈ ns, ns.foldl shareWith shared <+: n.parts := by
    intro ns
    induction ns with
    | nil => exact fun shared => ⟨List.prefix_refl _, by simp⟩
    | cons n ns ih =>
      intro shared
      obtain ⟨hshared, hparts⟩ := shareWith_isPrefix shared n
      obtain ⟨hfirst, hrest⟩ := ih (shareWith shared n)
      exact ⟨hfirst.trans hshared, List.forall_mem_cons.2 ⟨hfirst.trans hparts, hrest⟩⟩
  rcases ns with _ | ⟨n, ns⟩
  · simp
  · cases n with
    | seq a b =>
      rw [sharedParts_seq]
      exact List.forall_mem_cons.2 (hfold ns _)
    | _ => exact fun _ _ => List.nil_prefix

theorem captures_of_alternation {ns : List Node} (h : (alternation ns).Captures P) :
    ∀ n ∈ ns, n.Captures P := by
  suffices hbranches : ∀ b ∈ ns.flatMap branches, b.Captures P from
    fun n hn => captures_of_branches fun b hb => hbranches b (List.mem_flatMap.2 ⟨n, hn, hb⟩)
  unfold alternation at h
  simp only at h
  split at h
  · exact captures_of_choice h
  · split at h
    · exact captures_of_choice h
    · have hconcat := captures_of_concat h
      intro b hb
      refine captures_of_parts fun m hm => ?_
      rw [← List.take_append_drop (sharedParts (ns.flatMap branches)).length b.parts,
        ← List.prefix_iff_eq_take.1 (sharedParts_isPrefix b hb)] at hm
      rcases List.mem_append.1 hm with hm | hm
      · exact hconcat m (List.mem_append_left _ hm)
      · have hchoice := captures_of_choice
          (hconcat _ (List.mem_append_right _ (List.mem_singleton_self _)))
        exact captures_of_concat (captures_of_branches fun c hc =>
          hchoice c (List.mem_flatMap.2 ⟨_, List.mem_map_of_mem hb, hc⟩)) m hm

end Parts

end Node

/-! ## Open groups -/

def Item.raise (k : Nat) (i : Item) : Item := { i with node := i.node.raise k }

namespace OpenGroup

/-- The group with the numbers of all captures in it raised. -/
def raise (k : Nat) (g : OpenGroup) : OpenGroup :=
  { g with items := g.items.map (.raise k), branches := g.branches.map (.raise k) }

section Raise

variable (k : Nat) (g : OpenGroup)

theorem map_node_raise (items : List Item) :
    (items.map (Item.raise k)).map (·.node) = (items.map (·.node)).map (Node.raise k) := by
  rw [List.map_map, List.map_map]
  rfl

theorem map_depth_raise (items : List Item) :
    (items.map (Item.raise k)).map (·.depth) = items.map (·.depth) := by
  rw [List.map_map]
  rfl

theorem push_raise {i : Item} (hi : i.node.Silent) : (g.raise k).push i = (g.push i).raise k := by
  have hraise : i.raise k = i := by
    rw [Item.raise, Node.raise_of_silent k hi]
  simp only [push, raise, List.map_cons, hraise]

theorem branch_raise : (g.raise k).branch = g.branch.raise k := by
  rcases g with ⟨mode, _ | ⟨i, _ | ⟨j, items⟩⟩, branches⟩
  · rfl
  · rfl
  · have hnode := (congrArg Node.concat (map_node_raise k (i :: j :: items).reverse)).trans
      (Node.concat_raise k _)
    rw [List.map_reverse] at hnode
    exact congrArg₂ (fun node (depths : List Nat) => Item.mk node (depths.foldl max 0 + 1) true)
      hnode (map_depth_raise k (i :: j :: items))

theorem whole_raise : (g.raise k).whole = g.whole.raise k := by
  rcases g with ⟨mode, items, _ | ⟨b, branches⟩⟩
  · exact branch_raise k _
  · let g : OpenGroup := ⟨mode, items, b :: branches⟩
    have hbranches : (g.raise k).branch :: (g.raise k).branches
        = (g.branch :: g.branches).map (.raise k) := by
      rw [branch_raise]
      rfl
    have hnode := (congrArg Node.alternation
      (map_node_raise k (g.branch :: g.branches).reverse)).trans (Node.alternation_raise k _)
    have hdepth := map_depth_raise k (g.branch :: g.branches)
    rw [List.map_reverse, ← hbranches] at hnode
    rw [← hbranches] at hdepth
    exact congrArg₂ (fun node (depths : List Nat) => Item.mk node (depths.foldl max 0 + 1) true)
      hnode hdepth

theorem bar_raise : (g.raise k).bar = g.bar.raise k := by
  rw [bar, branch_raise]
  rfl

theorem repeatLast_raise (min : Nat) (max : Option Nat) (lazily : Bool) :
    (g.raise k).repeatLast min max lazily = (g.repeatLast min max lazily).map (raise k) := by
  rcases g with ⟨mode, _ | ⟨i, items⟩, branches⟩
  · rfl
  · simp only [repeatLast, raise, List.map_cons, Item.raise, Node.repetition_raise]
    split <;> rfl

end Raise

/-- What a group notes no capture of, none of its items and branches does. -/
theorem captures_of_whole {P : Nat → Prop} {g : OpenGroup} (h : g.whole.node.Captures P) :
    g.Captures P := by
  have hbranch : g.branch.node.Captures P → ∀ i ∈ g.items, i.node.Captures P := by
    intro h
    unfold branch at h
    split at h
    · rename_i heq
      simp [heq]
    · rename_i heq
      rw [heq]
      exact List.forall_mem_singleton.2 h
    · exact fun i hi => Node.captures_of_concat h _
        (List.mem_map_of_mem (List.mem_reverse.2 hi))
  unfold whole at h
  split at h
  · rename_i heq
    exact ⟨hbranch h, by simp [heq]⟩
  · rename_i heq
    have hall : ∀ i ∈ g.branch :: g.branches, i.node.Captures P := fun i hi =>
      Node.captures_of_alternation h _ (List.mem_map_of_mem (List.mem_reverse.2 hi))
    obtain ⟨hlast, hbefore⟩ := List.forall_mem_cons.1 hall
    exact ⟨hbranch hlast, hbefore⟩

end OpenGroup

end ModalLex.Pattern
