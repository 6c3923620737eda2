import ModalLex.Proofs.Readers

/-!
# Readings that go on

Reading a text takes rounds, each on the text from the next thing that counts (`Reads`), and a
text that stands for a node is read to its end (`reads_of_ofText`). There is one way to go on, and
the text gets shorter, so the texts that are come to tell the rounds apart (`Reads.unique`). More
text at the end changes nothing before the rounds come to it (`Reads.append`). Captures are numbered
from one on (`captures_of_ofText`).
-/

namespace ModalLex.Pattern.Reading

/-- One round reads what stands at the beginning of the text, and leaves the text from the next
thing that counts. -/
inductive Round [Engine] (r : Reading) : List Char → Reading → List Char → Prop where
  | mk {c : Char} {text rest : List Char} {r' : Reading} :
      r.readNext c text = .ok (r', rest) → Round r (c :: text) r' (r'.group.mode.skip rest)

/-- Some rounds come from one text to another. -/
inductive Reads [Engine] : Reading → List Char → Reading → List Char → Prop where
  | refl (r : Reading) (text : List Char) : Reads r text r text
  | step {r r₁ r' : Reading} {text text₁ text' : List Char} :
      Round r text r₁ text₁ → Reads r₁ text₁ r' text' → Reads r text r' text'

/-- A reading of which nothing is read yet. -/
def start (m : Mode) : Reading := ⟨{ mode := m }, [], 0, []⟩

section Rounds

variable [Engine] {r r₁ r₂ r' : Reading} {text text₁ text₂ text' : List Char}

theorem round_iff : Round r text r' text' ↔ ∃ c cs rest, text = c :: cs ∧
    r.readNext c cs = .ok (r', rest) ∧ text' = r'.group.mode.skip rest := by
  constructor
  · rintro ⟨h⟩
    exact ⟨_, _, _, rfl, h, rfl⟩
  · rintro ⟨c, cs, rest, rfl, h, rfl⟩
    exact .mk h

theorem Round.unique (h₁ : Round r text r₁ text₁) (h₂ : Round r text r₂ text₂) :
    r₁ = r₂ ∧ text₁ = text₂ := by
  cases h₁ with
  | mk h₁ =>
    cases h₂ with
    | mk h₂ =>
      rw [h₁] at h₂
      cases h₂
      exact ⟨rfl, rfl⟩

theorem Round.ne_nil (h : Round r text r' text') : text ≠ [] := by
  cases h
  exact List.cons_ne_nil _ _

theorem Round.length_lt (h : Round r text r' text') : text'.length < text.length := by
  cases h with
  | @mk c text rest _ h =>
    have hrest := (readNext_append h).1.length_le
    have hskip := (r'.group.mode.skip_suffix rest).length_le
    rw [List.length_cons]
    omega

theorem Round.append (h : Round r text r' text') (hne : text' ≠ []) (more : List Char) :
    Round r (text ++ more) r' (text' ++ more) := by
  cases h with
  | mk h =>
    rw [← Mode.skip_append hne]
    exact .mk ((readNext_append h).2 ((Mode.skip_suffix _ _).ne_nil hne) more)

/-! ## Many rounds -/

theorem Reads.trans (h₁ : Reads r text r₁ text₁) (h₂ : Reads r₁ text₁ r' text') :
    Reads r text r' text' := by
  induction h₁ with
  | refl => exact h₂
  | step h _ ih => exact .step h (ih h₂)

theorem Reads.length_le (h : Reads r text r' text') : text'.length ≤ text.length := by
  induction h with
  | refl => exact Nat.le_refl _
  | step h _ ih =>
    have := h.length_lt
    omega

theorem Reads.of_round (h : Reads r text r' text') (hround : Round r text r₁ text₁)
    (hlt : text'.length < text.length) : Reads r₁ text₁ r' text' := by
  cases h with
  | refl => exact absurd hlt (Nat.lt_irrefl _)
  | step hround' hrest =>
    obtain ⟨rfl, rfl⟩ := hround.unique hround'
    exact hrest

/-- Of two texts that are come to, the shorter one is come to from the longer one. -/
theorem Reads.of_length_le (h₁ : Reads r text r₁ text₁) (h₂ : Reads r text r₂ text₂)
    (hle : text₂.length ≤ text₁.length) : Reads r₁ text₁ r₂ text₂ := by
  induction h₁ with
  | refl => exact h₂
  | step h hrest ih =>
    cases h₂ with
    | refl =>
      have := h.length_lt
      have := hrest.length_le
      omega
    | step h' hrest' =>
      obtain ⟨rfl, rfl⟩ := h.unique h'
      exact ih hrest' hle

theorem Reads.unique (h₁ : Reads r text r₁ text') (h₂ : Reads r text r₂ text') : r₁ = r₂ := by
  cases h₁.of_length_le h₂ (Nat.le_refl _) with
  | refl => rfl
  | step h hrest =>
    have := h.length_lt
    have := hrest.length_le
    omega

theorem Reads.append (h : Reads r text r' text') (hne : text' ≠ []) (more : List Char) :
    Reads r (text ++ more) r' (text' ++ more) := by
  induction h with
  | refl => exact .refl _ _
  | step h hrest ih =>
    refine .step (h.append (fun hnil => hne ?_) more) (ih hne)
    have := hrest.length_le
    rw [hnil] at this
    exact List.length_eq_zero_iff.1 (Nat.le_zero.1 this)

/-- A text is read to its end exactly if rounds come to the end. -/
theorem readFrom_eq_ok_iff :
    ∀ {rounds : Nat} {r : Reading} {text : List Char}, text.length < rounds →
      (r.readFrom rounds text = .ok r' ↔ Reads r (r.group.mode.skip text) r' [])
  | 0, _, _, h => by omega
  | rounds + 1, r, text, hlen => by
    have hskip := (r.group.mode.skip_suffix text).length_le
    rw [readFrom]
    rcases htext : r.group.mode.skip text with _ | ⟨c, cs⟩
    · constructor
      · intro h
        cases h
        exact .refl _ []
      · intro h
        cases h with
        | refl => rfl
        | step h => cases h
    · rw [htext, List.length_cons] at hskip
      constructor
      · intro h
        obtain ⟨⟨r₁, rest⟩, hnext, h⟩ := bind_eq_ok h
        have hrest := (readNext_append hnext).1.length_le
        exact .step (.mk hnext) ((readFrom_eq_ok_iff (by omega)).1 h)
      · intro h
        cases h with
        | step h hreads =>
          cases h with
          | mk hnext =>
            have hrest := (readNext_append hnext).1.length_le
            simp only [hnext, ok_bind]
            exact (readFrom_eq_ok_iff (by omega)).2 hreads

/-- A text that stands for a node is read to its end, and there no group is open. -/
theorem reads_of_ofText {m : Mode} {n : Node} (h : Node.ofText m text = .ok n) :
    ∃ r, Reads (.start m) (m.skip text) r [] ∧ r.outer = [] ∧ r.group.whole.node = n := by
  obtain ⟨r, hr, h⟩ := bind_eq_ok h
  refine ⟨r, (readFrom_eq_ok_iff (Nat.lt_succ_self _)).1 hr, ?_⟩
  split at h
  · cases h
  · rename_i houter
    simp only at h
    split at h
    · cases h
    · split at h
      · exact ⟨not_not.1 houter, Except.ok.inj h⟩
      · cases h

end Rounds

/-! ## Captures -/

section Captures

variable {r r' : Reading} {text rest : List Char}

/-- The number of captures and the names that are taken. -/
def taken (r : Reading) : Nat × List (List Char) := (r.captures, r.names)

theorem taken_of_goOn {mode : Mode} {any : Bool} (h : r.goOn mode any text = .ok (r', rest)) :
    r'.taken = r.taken := by
  unfold goOn at h
  split at h
  · split at h
    · cases h
      rfl
    · cases h
  · cases h
    rfl

theorem taken_of_readFlagged (h : r.readFlagged text = .ok (r', rest)) : r'.taken = r.taken := by
  obtain ⟨_, -, h⟩ := bind_eq_ok h
  exact taken_of_goOn h

theorem taken_of_closeGroup (h : r.closeGroup = .ok r') : r'.taken = r.taken := by
  unfold closeGroup at h
  split at h <;> cases h
  rfl

theorem captures_of_closeGroup (h : r.closeGroup = .ok r') : r'.captures = r.captures :=
  congrArg Prod.fst (taken_of_closeGroup h)

theorem taken_of_readRepetition {min : Nat} {max : Option Nat}
    (h : r.readRepetition min max text = .ok (r', rest)) : r'.taken = r.taken := by
  unfold readRepetition at h
  split at h
  all_goals
    obtain ⟨g, -, h⟩ := bind_eq_ok h
    cases h
    rfl

theorem Move.captures_le (h : Move r r') : r.captures ≤ r'.captures := by
  cases h with
  | openCapture => exact Nat.le_succ _
  | closeGroup h => exact (captures_of_closeGroup h).ge
  | _ => exact Nat.le_refl _

theorem start_captures {P : Nat → Prop} (m : Mode) : (start m).Captures P := by
  simp [start, Reading.Captures, OpenGroup.Captures]

variable [Engine]

/-- Only a parenthesis takes a capture or a name. -/
theorem taken_of_readNext {c : Char} (hc : c ≠ '(') (h : r.readNext c text = .ok (r', rest)) :
    r'.taken = r.taken := by
  unfold readNext at h
  simp only at h
  split at h
  · exact absurd rfl hc
  · obtain ⟨r₁, hclose, h⟩ := bind_eq_ok h
    cases h
    exact taken_of_closeGroup hclose
  · cases h
    rfl
  · obtain ⟨_, -, h⟩ := bind_eq_ok h
    cases h
    rfl
  · exact taken_of_readRepetition h
  · exact taken_of_readRepetition h
  · exact taken_of_readRepetition h
  · split at h
    · obtain ⟨_, -, h⟩ := bind_eq_ok h
      exact taken_of_readRepetition h
    · cases h
  · obtain ⟨_, -, h⟩ := bind_eq_ok h
    cases h
    rfl
  · obtain ⟨_, -, h⟩ := bind_eq_ok h
    cases h
    rfl
  · cases h
    rfl
  · cases h
    rfl
  · cases h
    rfl

theorem Round.captures_le (h : Round r text r' rest) : r.captures ≤ r'.captures := by
  cases h with
  | mk h => exact (move_of_readNext h).captures_le

theorem Reads.captures_le (h : Reads r text r' rest) : r.captures ≤ r'.captures := by
  induction h with
  | refl => exact Nat.le_refl _
  | step h _ ih => exact h.captures_le.trans ih

/-- Rounds note captures under the numbers given before, or under those they take. -/
theorem Reads.captures {P : Nat → Prop} (h : Reads r text r' rest) (hr : r.Captures P)
    (hnext : ∀ k, r.captures < k → k ≤ r'.captures → P k) : r'.Captures P := by
  induction h with
  | refl => exact hr
  | step h hrest ih =>
    have hle := h.captures_le
    have hle' := hrest.captures_le
    cases h with
    | mk hread =>
      refine ih ((move_of_readNext hread).captures hr fun hlt => ?_) fun k hk => hnext k (by omega)
      exact hnext _ (Nat.lt_succ_self _) (by omega)

/-- The captures of the node of a text are numbered from one on. -/
theorem captures_of_ofText {m : Mode} {n : Node} (h : Node.ofText m text = .ok n) :
    n.Captures (1 ≤ ·) := by
  obtain ⟨r, hreads, -, rfl⟩ := reads_of_ofText h
  exact OpenGroup.whole_captures (hreads.captures (start_captures m) fun k hk _ =>
    Nat.one_le_of_lt hk).1

end Captures

end ModalLex.Pattern.Reading
