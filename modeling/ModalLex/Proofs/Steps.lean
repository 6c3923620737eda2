import ModalLex.Proofs.Dispatch
import ModalLex.Tokens
import ModalLex.Unicode.Engine

/-!
# Steps of a scan

What is found at a state: the end of the input exactly from its last byte on (`step_eq_ended_iff`),
or a piece exactly if the active context matches with a kind and chooses a context of the table
(`step_eq_piece_iff`). Draining the tokens takes one such step after the other (`collect_eq`).
-/

namespace ModalLex

namespace Context

variable [Pattern.Engine]

/-- A context is built from its rules if each pattern passes by itself and the composite is read as
the node. -/
theorem built_iff {c : Context} :
    c.Built ↔ (c.rules.forM fun r => checkPattern c.flags r.pattern) = .ok () ∧
      compositeNode c.flags (c.rules.map (·.pattern)) = .ok c.node := by
  obtain ⟨message, flags, rules, node, code, rfl⟩ := c
  change ofRules rules message flags = _ ↔ rules.forM (fun r => checkPattern flags r.pattern) = _ ∧
    compositeNode flags (rules.map (·.pattern)) = .ok node
  unfold ofRules
  generalize rules.forM (fun r => checkPattern flags r.pattern) = check
  generalize compositeNode flags (rules.map (·.pattern)) = composite
  rcases check with e | ⟨⟩
  · exact ⟨nofun, nofun⟩
  rcases composite with e | node
  · exact ⟨nofun, nofun⟩
  constructor
  · rintro ⟨⟩
    exact ⟨rfl, rfl⟩
  · rintro ⟨-, ⟨⟩⟩
    rfl

instance (c : Context) : Decidable c.Built := decidable_of_iff _ built_iff.symm

end Context

namespace Lexer

instance [Pattern.Engine] (l : Lexer) : Decidable l.Built :=
  inferInstanceAs (Decidable (∀ x ∈ l.contexts, x.2.Built))

/-- Every context of the lexer is well grouped. -/
def WellGrouped (l : Lexer) : Prop := ∀ x ∈ l.contexts, x.2.WellGrouped

variable {l : Lexer} {input : List Char} {s : ScanState}

theorem mem_of_context? {id : ContextId} {c : Context} (h : l.context? id = some c) :
    (id, c) ∈ l.contexts := by
  obtain ⟨as, bs, heq, -⟩ := List.lookup_eq_some_iff.1 h
  rw [heq]
  exact List.mem_append_right _ List.mem_cons_self

theorem registered_initial (l : Lexer) : l.context? l.initial ≠ none := by
  obtain ⟨contexts, hne, _⟩ := l
  cases contexts with
  | nil => exact absurd rfl hne
  | cons x xs => simp [context?, initial]

/-- Words, with notes between them that are in a context of their own. -/
def noteLexer : Lexer where
  contexts :=
    [(.name "text",
      { message := "no word"
        flags := {}
        rules := [.token "a|é" "word" (.name "text"), .skip "<\n" (.name "note")]
        node := .grouped [.set false (.ofList ['a', 'é']), .literal ['<', '\n'], .anyChar] }),
    (.name "note",
      { message := "no note"
        flags := {}
        rules := [.skip ">" (.name "text"), .token "b" "note" (.name "note")]
        node := .grouped [.literal ['>'], .literal ['b'], .anyChar] })]
  contexts_ne_nil := by simp
  ids_nodup := by simp

theorem wellGrouped_noteLexer : noteLexer.WellGrouped := by
  intro x hx
  rcases List.mem_cons.1 hx with rfl | hx
  · exact ⟨[.set false (.ofList ['a', 'é']), .literal ['<', '\n']], rfl,
      by simp [Pattern.Node.Captures], rfl⟩
  · obtain rfl := List.mem_singleton.1 hx
    exact ⟨[.literal ['>'], .literal ['b']], rfl, by simp [Pattern.Node.Captures], rfl⟩

open scoped Unicode in
theorem built_noteLexer : noteLexer.Built := by decide +kernel

/-! ## What is found -/

theorem step_eq_ended_iff : l.step input s = .ended ↔ Text.byteLength input ≤ s.offset := by
  rw [← Text.seek_eq_past_iff]
  constructor
  · intro h
    unfold step at h
    split at h
    · rename_i i hi
      exact ⟨i, hi⟩
    · split at h
      · cases h
      · split at h
        · cases h
        · unfold stepOfMatch at h
          split_ifs at h
          split at h <;> cases h
  · rintro ⟨i, h⟩
    unfold step
    rw [h]

/-- Before the end of the input, what the active context says there decides. -/
theorem step_eq_of_lt {c : Context} (hlt : s.offset < Text.byteLength input)
    (hc : l.context? s.context = some c) :
    l.step input s =
      match c.matchAt input s.offset s.row s.column with
      | .error e => .failed e
      | .ok m => l.stepOfMatch c s m := by
  unfold step Context.matchAt
  split
  · rename_i i hi
    have := Text.seek_eq_past_iff.1 ⟨i, hi⟩
    omega
  · rcases hm : c.matchSpot (Text.seek s.offset input) s.offset s.row s.column with e | m
    · simp only [hc, hm]
    · simp only [hc, hm]

/-- Before the end of the input, a context that is not in the table is an error. -/
theorem step_of_context?_eq_none (hlt : s.offset < Text.byteLength input)
    (hc : l.context? s.context = none) :
    l.step input s
      = .failed (unknownContext s.context (.point s.index s.offset s.row s.column)) := by
  unfold step
  split
  · rename_i i hi
    have := Text.seek_eq_past_iff.1 ⟨i, hi⟩
    omega
  · simp only [hc]

/-- Where the active context matches, the match decides. -/
theorem step_of_matchAt {c : Context} {m : Match} (hc : l.context? s.context = some c)
    (hm : c.matchAt input s.offset s.row s.column = .ok m) :
    l.step input s = l.stepOfMatch c s m := by
  unfold step
  unfold Context.matchAt at hm
  split
  · rename_i i hi
    rw [hi] at hm
    cases hm
  · simp only [hc, hm]

theorem stepOfMatch_eq_piece_iff {c : Context} (hc : l.context? s.context = some c) {m : Match}
    {t : Token} :
    l.stepOfMatch c s m = .piece t ↔
      ∃ kind, m.kind = some kind ∧ l.context? m.next ≠ none ∧ t = tokenOf s m kind := by
  unfold stepOfMatch
  constructor
  · intro h
    split_ifs at h with hn
    split at h
    · cases h
    · rename_i kind hk
      refine ⟨kind, hk, fun hnone => ?_, by cases h; rfl⟩
      refine hn ⟨fun heq => ?_, hnone⟩
      rw [heq, hc] at hnone
      cases hnone
  · rintro ⟨kind, hk, hn, rfl⟩
    simp [hk, hn]

/-- A piece is found exactly if the active context matches with a kind and chooses a context of
the table. -/
theorem step_eq_piece_iff {t : Token} :
    l.step input s = .piece t ↔
      ∃ c m kind, l.context? s.context = some c ∧
        c.matchAt input s.offset s.row s.column = .ok m ∧ m.kind = some kind ∧
        l.context? m.next ≠ none ∧ t = tokenOf s m kind := by
  constructor
  · intro h
    have hstep := h
    unfold step at h
    split at h
    · cases h
    · split at h
      · cases h
      · rename_i c hc
        split at h
        · cases h
        · rename_i m hm
          obtain ⟨kind, hk⟩ := (stepOfMatch_eq_piece_iff hc).1 h
          exact ⟨c, m, kind, hc, hm, hk⟩
  · rintro ⟨c, m, kind, hc, hm, hk⟩
    rw [step_of_matchAt hc hm, stepOfMatch_eq_piece_iff hc]
    exact ⟨kind, hk⟩

theorem resume_tokenOf_after (id : ContextId) (before : List Char) (m : Match) (kind : String) :
    (tokenOf (.after id before) m kind).resume = .after m.next (before ++ m.text.toList) :=
  ScanState.advance_after m.next before m.text.toList

/-! ## From step to step -/

theorem scan_eq_of_step_piece {t : Token} (h : l.step input s = .piece t) :
    l.scan input s = if t.keep then .ok (some t) else l.scan input t.resume := by
  rw [scan]
  split
  · simp_all
  · simp_all
  · rename_i u hu
    rw [h] at hu
    cases hu
    rfl

theorem scan_eq_of_step_ended (h : l.step input s = .ended) : l.scan input s = .ok none := by
  rw [scan]
  split <;> simp_all

theorem scan_eq_of_step_failed {e : Error} (h : l.step input s = .failed e) :
    l.scan input s = .error e := by
  rw [scan]
  split <;> simp_all

theorem Tokens.collect_eq_next (ts : Tokens) :
    ts.collect l input =
      match ts.next l input with
      | (none, _) => .ok []
      | (some (.error e), _) => .error e
      | (some (.ok t), us) => (us.collect l input).map (t :: ·) := by
  rw [Tokens.collect]
  split
  · rename_i h
    rw [h]
  · rename_i h
    rw [h]
  · rename_i us h
    rw [h]
    simp only
    cases us.collect l input <;> rfl

/-- Draining the tokens from a state on takes the step there, and goes on after the piece it
finds. -/
theorem collect_eq (l : Lexer) (input : List Char) (s : ScanState) :
    Tokens.collect l input ⟨some s⟩ =
      match l.step input s with
      | .ended => .ok []
      | .failed e => .error e
      | .piece t =>
        if t.keep then (Tokens.collect l input ⟨some t.resume⟩).map (t :: ·)
        else Tokens.collect l input ⟨some t.resume⟩ := by
  rw [Tokens.collect_eq_next]
  rcases hs : l.step input s with _ | e | t
  · simp [Tokens.next, scan_eq_of_step_ended hs]
  · simp [Tokens.next, scan_eq_of_step_failed hs]
  · have hscan := scan_eq_of_step_piece hs
    by_cases hk : t.keep
    · simp only [hk, if_true] at hscan ⊢
      simp only [Tokens.next, hscan]
    · simp only [hk, Bool.false_eq_true, if_false] at hscan ⊢
      rw [Tokens.collect_eq_next]
      simp only [Tokens.next, hscan]

end Lexer

end ModalLex
