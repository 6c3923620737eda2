import ModalLex.Pattern.Search

/-!
# Labels

A way looks at the labels passed before it only as far as they are its own, and passes none but
its own (`way_within`). So threads of two pieces of code without a common label do not meet: what
they read next, they read side by side (`advance_append`), and the search among both prefers
what it finds among the first (`runThreads_append`).
-/

namespace ModalLex.Pattern

namespace Labels

@[simp] theorem contains_none (label : Nat) : none.contains label = false := by
  simp [none, contains]

@[simp] theorem contains_insert (s : Labels) (label other : Nat) :
    (s.insert label).contains other = (s.contains other || decide (label = other)) := by
  simp only [insert, contains, Nat.testBit_or, Nat.testBit_shiftLeft]
  congr 1
  rw [Bool.eq_iff_iff]
  simp only [Bool.and_eq_true, decide_eq_true_eq, Nat.testBit_one_eq_true_iff_self_eq_zero]
  omega

/-- The two sets have the same labels among those of `P`. -/
def Agree (P : Nat → Prop) (s t : Labels) : Prop :=
  ∀ label, P label → s.contains label = t.contains label

theorem Agree.insert {P : Nat → Prop} {s t : Labels} (h : s.Agree P t) (label : Nat) :
    (s.insert label).Agree P (t.insert label) := by
  intro other ho
  simp [h other ho]

end Labels

/-- All labels of the code are in `P`. -/
def Code.Labelled (P : Nat → Prop) : Code → Prop
  | skip | look _ | mark _ => True
  | read label _ => P label
  | seq a b => a.Labelled P ∧ b.Labelled P
  | alt label a b => P label ∧ a.Labelled P ∧ b.Labelled P
  | loop label _ body => P label ∧ body.Labelled P

/-- All labels that the thread can still come to are in `P`. -/
def Thread.Labelled (P : Nat → Prop) : Thread → Prop
  | reading _ rest _ => ∀ c ∈ rest, c.Labelled P
  | finished _ => True

/-- The way looks at labels of `P` only, passes labels of `P` only, and so do its threads. -/
structure Way.Within (P : Nat → Prop) (w : Way) : Prop where
  threads_eq : ∀ marks {s t : Labels}, s.Agree P t → (w marks s).1 = (w marks t).1
  seen_agree : ∀ marks {s t : Labels}, s.Agree P t → (w marks s).2.Agree P (w marks t).2
  frame : ∀ marks (s : Labels) label, ¬ P label → (w marks s).2.contains label = s.contains label
  labelled : ∀ marks s, ∀ t ∈ (w marks s).1, t.Labelled P

section Ways

variable {P : Nat → Prop}

namespace Way

theorem dead_within : Within P dead where
  threads_eq _ _ _ _ := rfl
  seen_agree _ _ _ h := h
  frame _ _ _ _ := rfl
  labelled _ _ _ h := by simp [dead] at h

theorem Within.either {v w : Way} (hv : Within P v) (hw : Within P w) :
    Within P (either v w) where
  threads_eq marks s t h := by
    simp only [Way.either, hv.threads_eq marks h, hw.threads_eq marks (hv.seen_agree marks h)]
  seen_agree marks s t h := hw.seen_agree marks (hv.seen_agree marks h)
  frame marks s label h := by
    simp only [Way.either, hw.frame marks _ label h, hv.frame marks s label h]
  labelled marks s t h := by
    rcases List.mem_append.1 h with h | h
    · exact hv.labelled marks s t h
    · exact hw.labelled marks _ t h

theorem Within.through {w : Way} (hw : Within P w) {label : Nat} (hl : P label) :
    Within P (through label w) where
  threads_eq marks s t h := by
    simp only [Way.through, h label hl]
    split
    · rfl
    · exact hw.threads_eq marks (h.insert label)
  seen_agree marks s t h := by
    simp only [Way.through, h label hl]
    split
    · exact h
    · exact hw.seen_agree marks (h.insert label)
  frame marks s other h := by
    have hne : label ≠ other := by rintro rfl; exact h hl
    simp only [Way.through]
    split
    · rfl
    · simp [hw.frame marks _ other h, hne]
  labelled marks s t h := by
    simp only [Way.through] at h
    split at h
    · simp at h
    · exact hw.labelled marks _ t h

theorem Within.mark {w : Way} (hw : Within P w) (m : Mark × Nat) :
    Within P fun marks seen => w (m :: marks) seen where
  threads_eq marks _ _ h := hw.threads_eq (m :: marks) h
  seen_agree marks _ _ h := hw.seen_agree (m :: marks) h
  frame marks s label h := hw.frame (m :: marks) s label h
  labelled marks s t h := hw.labelled (m :: marks) s t h

end Way

theorem reading_within {rest : List Code} (hr : ∀ c ∈ rest, c.Labelled P) (chars : CharSet) :
    Way.Within P fun marks seen => ([.reading chars rest marks], seen) where
  threads_eq _ _ _ _ := rfl
  seen_agree _ _ _ h := h
  frame _ _ _ _ := rfl
  labelled _ _ t h := by
    obtain rfl := List.mem_singleton.1 h
    exact hr

/-- A way through code keeps to the labels of the code and of the code after it. -/
theorem way_within (p : Place) :
    ∀ (c : Code) {rest : List Code} {go : Way}, c.Labelled P → (∀ d ∈ rest, d.Labelled P) →
      Way.Within P go → Way.Within P (c.way p rest go)
  | .skip, _, _, _, _, hgo => hgo
  | .read label chars, _, _, hc, hr, _ => (reading_within hr chars).through hc
  | .look assertion, _, go, _, _, hgo => by
    simp only [Code.way]
    split
    · exact hgo
    · exact Way.dead_within
  | .mark m, _, _, _, _, hgo => hgo.mark (m, p.read)
  | .seq a b, rest, go, hc, hr, hgo => by
    have hb : Way.Within P (b.way p rest go) := way_within p b hc.2 hr hgo
    exact way_within p a hc.1 (List.forall_mem_cons.2 ⟨hc.2, hr⟩) hb
  | .alt label a b, _, _, hc, hr, hgo =>
    ((way_within p a hc.2.1 hr hgo).either (way_within p b hc.2.2 hr hgo)).through hc.1
  | .loop label greedy body, rest, go, hc, hr, hgo => by
    have hround : Way.Within P (body.way p (.loop label greedy body :: rest) .dead) :=
      way_within p body hc.2 (List.forall_mem_cons.2 ⟨hc, hr⟩) Way.dead_within
    simp only [Code.way]
    split
    · exact (hround.either hgo).through hc.1
    · exact (hgo.either hround).through hc.1

theorem wayOf_within (p : Place) :
    ∀ {cs : List Code}, (∀ c ∈ cs, c.Labelled P) → Way.Within P (wayOf p cs)
  | [], _ => ⟨fun _ _ _ _ => rfl, fun _ _ _ h => h, fun _ _ _ _ => rfl, fun _ _ t h => by
      obtain rfl := List.mem_singleton.1 h
      trivial⟩
  | c :: _, h =>
    way_within p c (h c List.mem_cons_self) (fun d hd => h d (List.mem_cons_of_mem c hd))
      (wayOf_within p fun d hd => h d (List.mem_cons_of_mem c hd))

end Ways

/-! ## Threads side by side -/

section Threads

variable {P Q : Nat → Prop}

theorem finished?_append (as bs : List Thread) :
    finished? (as ++ bs) = (finished? as).or (finished? bs) := by
  induction as with
  | nil => rfl
  | cons a as ih =>
    cases a with
    | reading chars rest marks => simpa [finished?] using ih
    | finished marks => rfl

theorem advance_congr (c : Char) (p : Place) :
    ∀ {ts : List Thread} {s t : Labels}, (∀ th ∈ ts, th.Labelled P) → s.Agree P t →
      advance c p ts s = advance c p ts t
  | [], _, _, _, _ => rfl
  | .finished _ :: _, _, _, _, _ => rfl
  | .reading chars rest marks :: ts, s, t, h, hst => by
    have hrest : ∀ d ∈ rest, d.Labelled P := h _ List.mem_cons_self
    have hts : ∀ th ∈ ts, th.Labelled P := fun th hth => h th (List.mem_cons_of_mem _ hth)
    have hw := wayOf_within p hrest
    simp only [advance]
    split
    · rw [hw.threads_eq marks hst, advance_congr c p hts (hw.seen_agree marks hst)]
    · exact advance_congr c p hts hst

theorem advance_labelled (c : Char) (p : Place) :
    ∀ {ts : List Thread} {s : Labels}, (∀ th ∈ ts, th.Labelled P) →
      ∀ th ∈ advance c p ts s, th.Labelled P
  | [], _, _, th, h => by simp [advance] at h
  | .finished _ :: _, _, _, th, h => by simp [advance] at h
  | .reading chars rest marks :: ts, s, hts, th, h => by
    have htail : ∀ th ∈ ts, th.Labelled P := fun th hth => hts th (List.mem_cons_of_mem _ hth)
    simp only [advance] at h
    split at h
    · rcases List.mem_append.1 h with h | h
      · exact (wayOf_within p (hts _ List.mem_cons_self)).labelled marks s th h
      · exact advance_labelled c p htail th h
    · exact advance_labelled c p htail th h

/-- Once a thread has come to the end, those after it are given up. -/
theorem advance_append_of_finished (c : Char) (p : Place) (bs : List Thread) :
    ∀ {as : List Thread} {s : Labels}, finished? as ≠ none →
      advance c p (as ++ bs) s = advance c p as s
  | [], _, h => absurd rfl h
  | .finished _ :: _, _, _ => rfl
  | .reading chars rest marks :: as, s, h => by
    have htail : finished? as ≠ none := h
    simp only [List.cons_append, advance]
    split
    · rw [advance_append_of_finished c p bs htail]
    · exact advance_append_of_finished c p bs htail

/-- Threads without a common label read on side by side, as long as none of the first ones has
come to the end. -/
theorem advance_append (hPQ : ∀ label, P label → ¬ Q label) (c : Char) (p : Place)
    {bs : List Thread} (hb : ∀ th ∈ bs, th.Labelled Q) :
    ∀ {as : List Thread} {s : Labels}, (∀ th ∈ as, th.Labelled P) → finished? as = none →
      advance c p (as ++ bs) s = advance c p as s ++ advance c p bs s
  | [], _, _, _ => rfl
  | .finished _ :: _, _, _, h => by simp [finished?] at h
  | .reading chars rest marks :: as, s, ha, h => by
    have htail : ∀ th ∈ as, th.Labelled P := fun th hth => ha th (List.mem_cons_of_mem _ hth)
    have hnone : finished? as = none := h
    have hw := wayOf_within p (P := P) (ha _ List.mem_cons_self)
    simp only [List.cons_append, advance]
    split
    · -- the labels that the new threads have passed are none of those that `bs` looks at
      have hseen : (wayOf p rest marks s).2.Agree Q s := fun label hl =>
        hw.frame marks s label fun hp => hPQ label hp hl
      rw [advance_append hPQ c p hb htail hnone, advance_congr c p hb hseen, List.append_assoc]
    · exact advance_append hPQ c p hb htail hnone

end Threads

/-! ## The search -/

section Search

/-- The match found so far counts only if the threads find none. -/
theorem runThreads_found (found : Option Marks) (ts : List Thread) (read : Nat)
    (text : List Char) :
    runThreads found ts read text = (runThreads none ts read text).or found := by
  induction text generalizing found ts read with
  | nil => cases ts <;> simp [runThreads]
  | cons c text ih =>
    cases ts with
    | nil => simp [runThreads]
    | cons t ts =>
      simp only [runThreads]
      rw [ih ((finished? (t :: ts)).or found), ih ((finished? (t :: ts)).or none)]
      simp [Option.or_assoc]

theorem runThreads_nil (ts : List Thread) (read : Nat) :
    runThreads none ts read [] = finished? ts := by
  cases ts <;> simp [runThreads]

theorem runThreads_cons (ts : List Thread) (read : Nat) (c : Char) (text : List Char) :
    runThreads none ts read (c :: text) =
      (runThreads none (advance c ⟨some c, text.head?, read + 1⟩ ts .none) (read + 1) text).or
        (finished? ts) := by
  cases ts with
  | nil =>
    have : runThreads none [] (read + 1) text = none := by cases text <;> rfl
    simp [runThreads, advance, finished?, this]
  | cons t ts =>
    simp only [runThreads]
    rw [runThreads_found]
    simp

/-- The search among threads without a common label prefers what it finds among the first. -/
theorem runThreads_append {P Q : Nat → Prop} (hPQ : ∀ label, P label → ¬ Q label) :
    ∀ {as bs : List Thread} (read : Nat) (text : List Char), (∀ th ∈ as, th.Labelled P) →
      (∀ th ∈ bs, th.Labelled Q) →
      runThreads none (as ++ bs) read text
        = (runThreads none as read text).or (runThreads none bs read text)
  | as, bs, read, [], _, _ => by simp only [runThreads_nil, finished?_append]
  | as, bs, read, c :: text, ha, hb => by
    simp only [runThreads_cons, finished?_append]
    rcases hf : finished? as with _ | marks
    · rw [advance_append hPQ _ _ hb ha hf,
        runThreads_append hPQ _ _ (advance_labelled _ _ ha) (advance_labelled _ _ hb)]
      simp [Option.or_assoc]
    · rw [advance_append_of_finished _ _ _ (by simp [hf])]
      simp

end Search

end ModalLex.Pattern
