import ModalLex.Proofs.Steps

/-!
# Where tokenizing fails

Tokenizing fails where the pieces of the input, each in the context chosen by the one before it,
lead to a context that has no match there, or a match without a kind or with an unknown next
context. The error tells which of these it is, in this order, and stands at the end of the last
piece (`tokenize_eq_error_iff`).
-/

namespace ModalLex

/-- The place at the end of a text. -/
def Position.after (before : List Char) : Position :=
  .point before.length (Text.byteLength before) (Text.rowAfter before) (Text.columnAfter before)

/-- The context matches after the text `before` of the input. -/
def Context.Matches (c : Context) (input before : List Char) (m : Match) : Prop :=
  ∀ row column, c.matchAt input (Text.byteLength before) row column = .ok m

namespace Lexer

/-- A match of the context `id` after the text `before` that has a kind and chooses a context of
the table. -/
structure Piece (l : Lexer) (input : List Char) (id : ContextId) (before : List Char)
    (m : Match) : Prop where
  matched : ∃ c, l.context? id = some c ∧ c.Matches input before m
  kind : m.kind ≠ none
  registered : l.context? m.next ≠ none

/-- The matches are pieces, each at the end of the one before it and in the context chosen by it,
and lead from one context and text to another. -/
inductive Leads (l : Lexer) (input : List Char) :
    ContextId → List Char → List Match → ContextId → List Char → Prop where
  | refl {id : ContextId} {before : List Char} : Leads l input id before [] id before
  | step {id id' : ContextId} {before before' : List Char} {m : Match} {ms : List Match} :
      l.Piece input id before m → Leads l input m.next (before ++ m.text.toList) ms id' before' →
        Leads l input id before (m :: ms) id' before'

/-- What is wrong with the context `c`, whose name is `id`, after the text `before`. -/
inductive FailsBy (l : Lexer) (input : List Char) (id : ContextId) (c : Context)
    (before : List Char) : Cause → Prop where
  | noRule {char : Char} {rest : List Char} :
      input = before ++ char :: rest → c.ruleAt? before.getLast? (char :: rest) = none →
        FailsBy l input id c before (.noRuleMatches char c.message)
  | emptyMatch {char : Char} {rest : List Char} {r : Rule} :
      input = before ++ char :: rest →
      c.ruleAt? before.getLast? (char :: rest) = some (r, []) →
        FailsBy l input id c before (.emptyMatch r.pattern)
  | unknownNext {m : Match} :
      c.Matches input before m → m.next ≠ id → l.context? m.next = none →
        FailsBy l input id c before (.unknownContext m.next.written)
  | noKind {m : Match} :
      c.Matches input before m → (m.next = id ∨ l.context? m.next ≠ none) → m.kind = none →
        FailsBy l input id c before (.missingKind c.message m.text)

/-- The pieces lead from the start of the input to the context `c`, named `id`, and the text
`before`, and the error tells what is wrong there. -/
structure FailsAfter (l : Lexer) (input : List Char) (ms : List Match) (id : ContextId)
    (c : Context) (before : List Char) (e : Error) : Prop where
  leads : l.Leads input l.initial [] ms id before
  context : l.context? id = some c
  cause : l.FailsBy input id c before e.cause
  position : e.position = some (.after before)

variable {l : Lexer} {input before : List Char} {id : ContextId} {c : Context}

/-! ## What is found after a text -/

theorem piece_of_step {t : Token} (h : l.step input (.after id before) = .piece t) :
    ∃ m kind, l.Piece input id before m ∧ m.kind = some kind ∧
      t = tokenOf (.after id before) m kind := by
  obtain ⟨c, m, kind, hc, hm, hkind, hnext, rfl⟩ := step_eq_piece_iff.1 h
  exact ⟨m, kind, ⟨⟨c, hc, Context.matchAt_ok_congr hm⟩, by simp [hkind], hnext⟩, hkind, rfl⟩

theorem Piece.step {m : Match} (h : l.Piece input id before m) :
    ∃ kind, l.step input (.after id before) = .piece (tokenOf (.after id before) m kind) := by
  obtain ⟨⟨c, hc, hm⟩, hkind, hnext⟩ := h
  obtain ⟨kind, hkind⟩ := Option.ne_none_iff_exists'.1 hkind
  exact ⟨kind, step_eq_piece_iff.2 ⟨c, m, kind, hc, hm _ _, hkind, hnext, rfl⟩⟩

theorem Piece.unique {m m' : Match} (h : l.Piece input id before m)
    (h' : l.Piece input id before m') : m = m' := by
  obtain ⟨⟨c, hc, hm⟩, -, -⟩ := h
  obtain ⟨⟨c', hc', hm'⟩, -, -⟩ := h'
  obtain rfl : c = c' := Option.some.inj (hc.symm.trans hc')
  exact Except.ok.inj ((hm 0 0).symm.trans (hm' 0 0))

/-- In a well-grouped lexer a piece stands in the input, after the text before it. -/
theorem Piece.stands (hl : l.WellGrouped) (hbefore : before <+: input) {m : Match}
    (h : l.Piece input id before m) :
    m.text.toList ≠ [] ∧ before ++ m.text.toList <+: input := by
  obtain ⟨⟨c, hc, hm⟩, -, -⟩ := h
  obtain ⟨rest, rfl⟩ := hbefore
  obtain ⟨hne, rest', rfl⟩ :=
    Context.text_append_of_matchAt (hl _ (mem_of_context? hc)) (hm 0 0)
  exact ⟨hne, rest', List.append_assoc ..⟩

theorem lt_byteLength_append_cons {char : Char} {rest : List Char} :
    Text.byteLength before < Text.byteLength (before ++ char :: rest) :=
  (Text.lt_and_isBoundary_iff.2 ⟨before, char, rest, rfl, rfl⟩).1

theorem step_of_matchAt_error {s : ScanState} {e : Error}
    (hlt : s.offset < Text.byteLength input) (hc : l.context? s.context = some c)
    (hm : c.matchAt input s.offset s.row s.column = .error e) : l.step input s = .failed e := by
  rw [step_eq_of_lt hlt hc, hm]

/-- At a character the context has no match exactly if no rule is found there, or one that matches
the empty text. -/
theorem matchAt_eq_error_iff {char : Char} {rest : List Char} {e : Error} :
    c.matchAt (before ++ char :: rest) (Text.byteLength before) (Text.rowAfter before)
        (Text.columnAfter before) = .error e ↔
      e.position = some (.after before) ∧
        ((c.ruleAt? before.getLast? (char :: rest) = none ∧
            e.cause = .noRuleMatches char c.message) ∨
          ∃ r, c.ruleAt? before.getLast? (char :: rest) = some (r, []) ∧
            e.cause = .emptyMatch r.pattern) := by
  obtain ⟨cause, position⟩ := e
  rw [Context.matchAt_append, Context.matchSpot]
  rcases h : c.ruleAt? before.getLast? (char :: rest) with _ | ⟨r, _ | ⟨x, part⟩⟩
  · simp [Position.after, eq_comm, and_comm]
  · simp [Position.after, eq_comm, and_comm]
  · simp

theorem stepOfMatch_eq_failed_iff {s : ScanState} {m : Match} {e : Error} :
    l.stepOfMatch c s m = .failed e ↔
      e.position = some (.point s.index s.offset s.row s.column) ∧
        ((m.next ≠ s.context ∧ l.context? m.next = none ∧
            e.cause = .unknownContext m.next.written) ∨
          ((m.next = s.context ∨ l.context? m.next ≠ none) ∧ m.kind = none ∧
            e.cause = .missingKind c.message m.text)) := by
  obtain ⟨cause, position⟩ := e
  unfold stepOfMatch
  by_cases hnext : m.next ≠ s.context ∧ l.context? m.next = none
  · simp [hnext, unknownContext, eq_comm, and_comm]
  · have hor : m.next = s.context ∨ l.context? m.next ≠ none := by
      rwa [← not_ne_iff, ← not_and_or]
    have hnot : ¬ (m.next ≠ s.context ∧ l.context? m.next = none ∧
        cause = .unknownContext m.next.written) := fun h => hnext ⟨h.1, h.2.1⟩
    rcases hkind : m.kind with _ | kind
    · simp only [if_neg hnext, hnot, hor, false_or, true_and, Step.failed.injEq, Error.mk.injEq]
      rw [and_comm, @eq_comm _ cause, @eq_comm _ position]
    · simp [if_neg hnext, hnot]

/-- A step fails at a character only. -/
theorem exists_append_of_failed (hbefore : before <+: input) {e : Error}
    (h : l.step input (.after id before) = .failed e) :
    ∃ char rest, input = before ++ char :: rest := by
  obtain ⟨_ | ⟨char, rest⟩, rfl⟩ := hbefore
  · rw [step_eq_ended_iff.2 (by simp [ScanState.after])] at h
    cases h
  · exact ⟨char, rest, rfl⟩

/-- A step fails exactly if something is wrong with the active context, and the error tells it. -/
theorem step_eq_failed_iff (hbefore : before <+: input) (hc : l.context? id = some c) {e : Error} :
    l.step input (.after id before) = .failed e ↔
      l.FailsBy input id c before e.cause ∧ e.position = some (.after before) := by
  obtain ⟨cause, position⟩ := e
  constructor
  · intro h
    obtain ⟨char, rest, rfl⟩ := exists_append_of_failed hbefore h
    rw [step_eq_of_lt lt_byteLength_append_cons hc] at h
    simp only [ScanState.after] at h
    split at h
    · rename_i e hm
      cases h
      obtain ⟨hposition, ⟨hnone, rfl⟩ | ⟨r, hsome, rfl⟩⟩ := matchAt_eq_error_iff.1 hm
      · exact ⟨.noRule rfl hnone, hposition⟩
      · exact ⟨.emptyMatch rfl hsome, hposition⟩
    · rename_i m hm
      have hm := Context.matchAt_ok_congr hm
      obtain ⟨hposition, ⟨hnext, hnone, rfl⟩ | ⟨hnext, hkind, rfl⟩⟩ :=
        stepOfMatch_eq_failed_iff.1 h
      · exact ⟨.unknownNext hm hnext hnone, hposition⟩
      · exact ⟨.noKind hm hnext hkind, hposition⟩
  · rintro ⟨h, hposition⟩
    cases h with
    | noRule hinput hnone =>
      subst hinput
      exact step_of_matchAt_error lt_byteLength_append_cons hc
        (matchAt_eq_error_iff.2 ⟨hposition, .inl ⟨hnone, rfl⟩⟩)
    | emptyMatch hinput hsome =>
      subst hinput
      exact step_of_matchAt_error lt_byteLength_append_cons hc
        (matchAt_eq_error_iff.2 ⟨hposition, .inr ⟨_, hsome, rfl⟩⟩)
    | unknownNext hm hnext hnone =>
      rw [step_of_matchAt hc (hm _ _), stepOfMatch_eq_failed_iff]
      exact ⟨hposition, .inl ⟨hnext, hnone, rfl⟩⟩
    | noKind hm hnext hkind =>
      rw [step_of_matchAt hc (hm _ _), stepOfMatch_eq_failed_iff]
      exact ⟨hposition, .inr ⟨hnext, hkind, rfl⟩⟩

/-! ## What the pieces lead to -/

theorem Leads.stands (hl : l.WellGrouped) {id' : ContextId} {before' : List Char}
    {ms : List Match} (h : l.Leads input id before ms id' before') (hbefore : before <+: input)
    (hid : l.context? id ≠ none) : before' <+: input ∧ l.context? id' ≠ none := by
  induction h with
  | refl => exact ⟨hbefore, hid⟩
  | step hm _ ih => exact ih (hm.stands hl hbefore).2 hm.registered

/-- Where the pieces lead to a failure, draining the tokens ends in its error. -/
theorem collect_of_leads {id' : ContextId} {before' : List Char} {ms : List Match} {e : Error}
    (h : l.Leads input id before ms id' before')
    (he : l.step input (.after id' before') = .failed e) :
    Tokens.collect l input ⟨some (.after id before)⟩ = .error e := by
  induction h with
  | refl => rw [collect_eq, he]
  | step hm _ ih =>
    obtain ⟨kind, hstep⟩ := hm.step
    rw [collect_eq, hstep]
    simp only [resume_tokenOf_after, ih he, Except.map, ite_self]

theorem eq_error_of_map {ε α β : Type} {f : α → β} {x : Except ε α} {e : ε}
    (h : x.map f = .error e) : x = .error e := by
  cases x with
  | error e' => exact congrArg _ (Except.error.inj h)
  | ok a => cases h

/-- An error that ends the draining comes from a failure that the pieces lead to. -/
theorem exists_leads_of_collect (hl : l.WellGrouped) (hbefore : before <+: input) {e : Error}
    (h : Tokens.collect l input ⟨some (.after id before)⟩ = .error e) :
    ∃ ms id' before', l.Leads input id before ms id' before' ∧
      l.step input (.after id' before') = .failed e := by
  induction hn : input.length - before.length using Nat.strong_induction_on
    generalizing id before with
  | _ n ih =>
    rw [collect_eq] at h
    rcases hs : l.step input (.after id before) with _ | e' | t <;> rw [hs] at h
    · cases h
    · cases h
      exact ⟨[], id, before, .refl, hs⟩
    · obtain ⟨m, kind, hm, -, rfl⟩ := piece_of_step hs
      obtain ⟨hne, hstands⟩ := hm.stands hl hbefore
      have hcollect : Tokens.collect l input
          ⟨some (.after m.next (before ++ m.text.toList))⟩ = .error e := by
        simp only [resume_tokenOf_after] at h
        split at h
        · exact eq_error_of_map h
        · exact h
      have hshorter : input.length - (before ++ m.text.toList).length < n := by
        have := List.length_pos_iff.2 hne
        have := hstands.length_le
        simp only [List.length_append] at this ⊢
        omega
      obtain ⟨ms, id', before', hleads, hfailed⟩ := ih _ hshorter hstands hcollect rfl
      exact ⟨m :: ms, id', before', .step hm hleads, hfailed⟩

/-- Pieces from the same place in the same context that lead to failures are the same. -/
theorem leads_unique {id₁ id₂ : ContextId} {before₁ before₂ : List Char} {ms₁ ms₂ : List Match}
    {e₁ e₂ : Error} (h₁ : l.Leads input id before ms₁ id₁ before₁)
    (h₂ : l.Leads input id before ms₂ id₂ before₂)
    (he₁ : l.step input (.after id₁ before₁) = .failed e₁)
    (he₂ : l.step input (.after id₂ before₂) = .failed e₂) :
    ms₁ = ms₂ ∧ id₁ = id₂ ∧ before₁ = before₂ := by
  induction h₁ generalizing ms₂ with
  | refl =>
    cases h₂ with
    | refl => exact ⟨rfl, rfl, rfl⟩
    | step hm _ =>
      obtain ⟨kind, hstep⟩ := hm.step
      rw [hstep] at he₁
      cases he₁
  | step hm₁ _ ih =>
    cases h₂ with
    | refl =>
      obtain ⟨kind, hstep⟩ := hm₁.step
      rw [hstep] at he₂
      cases he₂
    | step hm₂ h₂ =>
      obtain rfl := hm₁.unique hm₂
      obtain ⟨rfl, rfl, rfl⟩ := ih h₂ he₁
      exact ⟨rfl, rfl, rfl⟩

/-- Tokenizing fails exactly if the pieces from the start of the input lead to a failure, with the
error that tells what is wrong there; they lead to one failure only. Where a match fails, its error
is the one of tokenizing. -/
theorem tokenize_eq_error_iff (hl : l.WellGrouped) (input : List Char) :
    (∀ e, l.tokenize input = .error e ↔ ∃ ms id c before, l.FailsAfter input ms id c before e) ∧
    (∀ ms₁ id₁ c₁ before₁ e₁ ms₂ id₂ c₂ before₂ e₂, l.FailsAfter input ms₁ id₁ c₁ before₁ e₁ →
      l.FailsAfter input ms₂ id₂ c₂ before₂ e₂ →
        ms₁ = ms₂ ∧ id₁ = id₂ ∧ before₁ = before₂ ∧ e₁ = e₂) ∧
    ∀ ms id c before e, l.Leads input l.initial [] ms id before → l.context? id = some c →
      before ≠ input →
      c.matchAt input (Text.byteLength before) (Text.rowAfter before) (Text.columnAfter before)
        = .error e → l.tokenize input = .error e := by
  have hinitial := registered_initial l
  have hfails : ∀ {ms id c before e}, l.FailsAfter input ms id c before e →
      l.step input (.after id before) = .failed e := fun h =>
    (step_eq_failed_iff (h.leads.stands hl List.nil_prefix hinitial).1 h.context).2
      ⟨h.cause, h.position⟩
  refine ⟨fun e => ⟨fun h => ?_, ?_⟩, ?_, ?_⟩
  · obtain ⟨ms, id, before, hleads, hfailed⟩ := exists_leads_of_collect hl List.nil_prefix h
    obtain ⟨hbefore, hid⟩ := hleads.stands hl List.nil_prefix hinitial
    obtain ⟨c, hc⟩ := Option.ne_none_iff_exists'.1 hid
    obtain ⟨hcause, hposition⟩ := (step_eq_failed_iff hbefore hc).1 hfailed
    exact ⟨ms, id, c, before, hleads, hc, hcause, hposition⟩
  · rintro ⟨ms, id, c, before, h⟩
    exact collect_of_leads h.leads (hfails h)
  · intro ms₁ id₁ c₁ before₁ e₁ ms₂ id₂ c₂ before₂ e₂ h₁ h₂
    obtain ⟨rfl, rfl, rfl⟩ := leads_unique h₁.leads h₂.leads (hfails h₁) (hfails h₂)
    exact ⟨rfl, rfl, rfl, Step.failed.inj ((hfails h₁).symm.trans (hfails h₂))⟩
  · intro ms id c before e hleads hc hne hm
    obtain ⟨⟨_ | ⟨char, rest⟩, rfl⟩, -⟩ := hleads.stands hl List.nil_prefix hinitial
    · exact absurd (List.append_nil _).symm hne
    · exact collect_of_leads hleads (step_of_matchAt_error lt_byteLength_append_cons hc hm)

/-- The error of tokenizing stands at a character of the input. -/
theorem position_of_tokenize (hl : l.WellGrouped) {e : Error}
    (h : l.tokenize input = .error e) :
    ∃ before char rest, input = before ++ char :: rest ∧ e.position = some (.after before) := by
  obtain ⟨ms, id, before, hleads, hfailed⟩ := exists_leads_of_collect hl List.nil_prefix h
  obtain ⟨hbefore, hid⟩ := hleads.stands hl List.nil_prefix (registered_initial l)
  obtain ⟨c, hc⟩ := Option.ne_none_iff_exists'.1 hid
  obtain ⟨char, rest, rfl⟩ := exists_append_of_failed hbefore hfailed
  exact ⟨before, char, rest, rfl, ((step_eq_failed_iff hbefore hc).1 hfailed).2⟩

/-- A lexer with rules that have no kind, and one that chooses a context not in the table. -/
def faultyLexer : Lexer where
  contexts :=
    [(.name "text",
      { message := "no word"
        flags := {}
        rules := [.skip "é\n" (.name "text"), ⟨"a", fun _ => ⟨none, .name "note", false⟩⟩,
          ⟨"b", fun _ => ⟨none, .name "gone", true⟩⟩]
        node := .grouped [.literal ['é', '\n'], .literal ['a'], .literal ['b'], .anyChar] }),
    (.name "note", { message := "no note", flags := {}, rules := [], node := .grouped [.anyChar] })]
  contexts_ne_nil := by simp
  ids_nodup := by simp

/-- The name tells the context that a rule of each of the faulty lexers chooses. -/
theorem written_gone : (ContextId.name "gone").written = "Name(\"gone\")" := by decide +kernel

open scoped Unicode in
/-- After a skipped piece, a match without a kind is told with the message of the context it is a
match of, and an unknown next context comes before that. -/
theorem tokenize_faultyLexer :
    faultyLexer.Built ∧ faultyLexer.WellGrouped ∧
    faultyLexer.tokenize ['é', '\n', 'a']
      = .error ⟨.missingKind "no word" "a", some (.point 2 3 2 1)⟩ ∧
    faultyLexer.tokenize ['é', '\n', 'b']
      = .error ⟨.unknownContext "Name(\"gone\")", some (.point 2 3 2 1)⟩ := by
  have hl : faultyLexer.WellGrouped := by
    intro x hx
    rcases List.mem_cons.1 hx with rfl | hx
    · exact ⟨[.literal ['é', '\n'], .literal ['a'], .literal ['b']], rfl,
        by simp [Pattern.Node.Captures], rfl⟩
    · obtain rfl := List.mem_singleton.1 hx
      exact ⟨[], rfl, by simp, rfl⟩
  have hleads : ∀ char : Char, faultyLexer.Leads ['é', '\n', char] faultyLexer.initial []
      [⟨some "", .name "text", "é\n", false⟩] (.name "text") ['é', '\n'] := by
    intro char
    exact .step ⟨⟨_, rfl, fun _ _ => rfl⟩, by simp, by simp [faultyLexer, context?]⟩ .refl
  rw [← written_gone]
  refine ⟨by decide +kernel, hl,
    ((tokenize_eq_error_iff hl _).1 _).2 ⟨_, _, _, _, hleads 'a', rfl, ?_, rfl⟩,
    ((tokenize_eq_error_iff hl _).1 _).2 ⟨_, _, _, _, hleads 'b', rfl, ?_, rfl⟩⟩
  · exact .noKind (m := ⟨none, .name "note", "a", false⟩) (fun _ _ => rfl)
      (.inr (by simp [faultyLexer, context?])) rfl
  · exact .unknownNext (m := ⟨none, .name "gone", "b", true⟩) (fun _ _ => rfl) (by simp)
      (by simp [faultyLexer, context?])

end Lexer

end ModalLex
