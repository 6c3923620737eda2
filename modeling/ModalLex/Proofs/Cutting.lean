import ModalLex.Proofs.Steps

/-!
# Cutting the input

Tokenizing succeeds exactly if the input can be cut into pieces without gaps, each of which the
context chosen by the piece before it matches where it stands. There is one such cutting at most,
and the tokens are its kept pieces (`tokenize_eq_ok_iff_cuts`).
-/

namespace ModalLex

namespace Lexer

/-- From the context `id` on, the matches cut what comes after `before` in the input. Each is what
the context chosen by the one before it matches where that one ends; it is not empty, has a kind
and chooses a context of the table. The last one ends where the input does. -/
def Cuts (l : Lexer) (input : List Char) :
    (id : ContextId) → (before : List Char) → List Match → Prop
  | _, before, [] => before = input
  | id, before, m :: ms =>
    (∃ c, l.context? id = some c ∧
      ∀ row column, c.matchAt input (Text.byteLength before) row column = .ok m) ∧
    m.text.toList ≠ [] ∧ m.kind ≠ none ∧ l.context? m.next ≠ none ∧
    l.Cuts input m.next (before ++ m.text.toList) ms

/-- The kept ones of the matches that follow a text: kind, text and offset. -/
def keptPieces : (before : List Char) → List Match → List (Option String × String × Nat)
  | _, [] => []
  | before, m :: ms =>
    let rest := keptPieces (before ++ m.text.toList) ms
    if m.keep then (m.kind, m.text, Text.byteLength before) :: rest else rest

variable {l : Lexer} {input : List Char}

/-- Nothing is cut off at the end of the input. -/
theorem not_cuts_cons_input {id : ContextId} {m : Match} {ms : List Match} :
    ¬ l.Cuts input id input (m :: ms) := by
  rintro ⟨⟨c, -, hm⟩, -⟩
  obtain ⟨before, char, rest, heq, hlen⟩ := Context.exists_append_of_matchAt (hm 0 0)
  have hlt := (Text.lt_and_isBoundary_iff.2 ⟨before, char, rest, heq, hlen⟩).1
  omega

/-- Two cuttings from the same place in the same context are one. -/
theorem cuts_unique :
    ∀ {ms ms' : List Match} {id : ContextId} {before : List Char}, l.Cuts input id before ms →
      l.Cuts input id before ms' → ms = ms'
  | [], [], _, _, _, _ => rfl
  | [], _ :: _, _, before, (h : before = input), h' => absurd (h ▸ h') not_cuts_cons_input
  | _ :: _, [], _, before, h, (h' : before = input) => absurd (h' ▸ h) not_cuts_cons_input
  | m :: ms, m' :: ms', id, before, h, h' => by
    obtain ⟨⟨c, hc, hm⟩, -, -, -, hrest⟩ := h
    obtain ⟨⟨c', hc', hm'⟩, -, -, -, hrest'⟩ := h'
    rw [hc] at hc'
    obtain rfl := Option.some.inj hc'
    have heq := hm 0 0
    rw [hm' 0 0] at heq
    obtain rfl := Except.ok.inj heq
    rw [cuts_unique hrest hrest']

/-- Where the rest of the input is cut, the tokens from there on are the kept pieces. -/
theorem collect_of_cuts :
    ∀ {ms : List Match} {id : ContextId} {before : List Char}, l.Cuts input id before ms →
      ∃ tokens, Tokens.collect l input ⟨some (.after id before)⟩ = .ok tokens ∧
        tokens.map (fun t => (some t.kind, t.text, t.position.offset)) = keptPieces before ms
  | [], id, before, h => by
    have hended : l.step input (.after id before) = .ended :=
      step_eq_ended_iff.2 (congrArg Text.byteLength (h : before = input)).ge
    exact ⟨[], by rw [collect_eq, hended], rfl⟩
  | m :: ms, id, before, h => by
    obtain ⟨⟨c, hc, hm⟩, -, hkind, hnext, hrest⟩ := h
    obtain ⟨kind, hkind⟩ := Option.ne_none_iff_exists'.1 hkind
    obtain ⟨tokens, htokens, hkept⟩ := collect_of_cuts hrest
    have hpiece : l.step input (.after id before) = .piece (tokenOf (.after id before) m kind) :=
      step_eq_piece_iff.2 ⟨c, m, kind, hc, hm _ _, hkind, hnext, rfl⟩
    rw [collect_eq, hpiece]
    simp only [resume_tokenOf_after, htokens, keptPieces]
    by_cases hk : m.keep
    · refine ⟨tokenOf (.after id before) m kind :: tokens, ?_, ?_⟩
      · simp [tokenOf, hk, Except.map]
      · simp [hkept, hk, hkind, tokenOf, ScanState.after]
    · exact ⟨tokens, by simp [tokenOf, hk], by simp [hkept, hk]⟩

/-- Where all tokens of the rest of the input are found, the rest is cut. -/
theorem exists_cuts_of_collect (hl : l.WellGrouped) {id : ContextId} {before rest : List Char}
    {tokens : List Token} (hinput : input = before ++ rest)
    (h : Tokens.collect l input ⟨some (.after id before)⟩ = .ok tokens) :
    ∃ ms, l.Cuts input id before ms := by
  induction hn : rest.length using Nat.strong_induction_on generalizing id before rest tokens with
  | _ n ih =>
    rw [collect_eq] at h
    rcases hs : l.step input (.after id before) with _ | e | t
    · -- at the end there is nothing left to cut
      have hle : Text.byteLength input ≤ Text.byteLength before := step_eq_ended_iff.1 hs
      cases rest with
      | nil => exact ⟨[], by simp [Cuts, hinput]⟩
      | cons c rest =>
        have := c.utf8Size_pos
        simp only [hinput, Text.byteLength_append, Text.byteLength_cons] at hle
        omega
    · rw [hs] at h
      cases h
    · obtain ⟨c, m, kind, hc, hm, hkind, hnext, rfl⟩ := step_eq_piece_iff.1 hs
      have hcg : c.WellGrouped := hl _ (mem_of_context? hc)
      have hm' := hm
      rw [hinput] at hm'
      obtain ⟨hne, rest', hrest⟩ := Context.text_append_of_matchAt hcg hm'
      have hcollect : ∃ tokens', Tokens.collect l input
          ⟨some (.after m.next (before ++ m.text.toList))⟩ = .ok tokens' := by
        rw [hs] at h
        simp only [resume_tokenOf_after] at h
        split at h
        · rcases hrec : Tokens.collect l input
            ⟨some (.after m.next (before ++ m.text.toList))⟩ with e | tokens'
          · rw [hrec] at h
            cases h
          · exact ⟨tokens', rfl⟩
        · exact ⟨tokens, h⟩
      obtain ⟨tokens', htokens'⟩ := hcollect
      have hshorter : rest'.length < n := by
        have := List.length_pos_iff.2 hne
        rw [← hn, hrest, List.length_append]
        omega
      have hinput' : input = (before ++ m.text.toList) ++ rest' := by
        rw [hinput, hrest, List.append_assoc]
      obtain ⟨ms, hms⟩ := ih rest'.length hshorter hinput' htokens' rfl
      exact ⟨m :: ms, ⟨c, hc, Context.matchAt_ok_congr hm⟩, hne, by simp [hkind], hnext, hms⟩

/-- Tokenizing succeeds exactly if the input can be cut, from the first context on; it is cut in one
way only, and the tokens are the kept pieces. -/
theorem tokenize_eq_ok_iff_cuts (hl : l.WellGrouped) (input : List Char) :
    ((∃ tokens, l.tokenize input = .ok tokens) ↔ ∃ ms, l.Cuts input l.initial [] ms) ∧
    (∀ ms ms', l.Cuts input l.initial [] ms → l.Cuts input l.initial [] ms' → ms = ms') ∧
    ∀ tokens ms, l.tokenize input = .ok tokens → l.Cuts input l.initial [] ms →
      tokens.map (fun t => (some t.kind, t.text, t.position.offset)) = keptPieces [] ms := by
  refine ⟨⟨?_, ?_⟩, fun _ _ => cuts_unique, ?_⟩
  · rintro ⟨tokens, h⟩
    exact exists_cuts_of_collect hl rfl h
  · rintro ⟨ms, h⟩
    obtain ⟨tokens, htokens, -⟩ := collect_of_cuts h
    exact ⟨tokens, htokens⟩
  · intro tokens ms h hms
    obtain ⟨tokens', htokens', hkept⟩ := collect_of_cuts hms
    obtain rfl : tokens = tokens' := Except.ok.inj (h.symm.trans htokens')
    exact hkept

open scoped Unicode in
/-- Around and in a note the skipped pieces leave no gap. -/
theorem tokenize_noteLexer :
    noteLexer.Built ∧ noteLexer.WellGrouped ∧
    ∃ tokens, noteLexer.tokenize ['é', '<', '\n', 'b', '>', 'a'] = .ok tokens ∧
      tokens.map (fun t => (some t.kind, t.text, t.position.offset))
        = [(some "word", "é", 0), (some "note", "b", 4), (some "word", "a", 6)] := by
  have hl := wellGrouped_noteLexer
  have hcuts : noteLexer.Cuts ['é', '<', '\n', 'b', '>', 'a'] noteLexer.initial []
      [⟨some "word", .name "text", "é", true⟩, ⟨some "", .name "note", "<\n", false⟩,
        ⟨some "note", .name "note", "b", true⟩, ⟨some "", .name "text", ">", false⟩,
        ⟨some "word", .name "text", "a", true⟩] := by
    refine ⟨⟨_, rfl, fun _ _ => rfl⟩, by simp, by simp, by simp [noteLexer, context?], ?_⟩
    refine ⟨⟨_, rfl, fun _ _ => rfl⟩, by simp, by simp, by simp [noteLexer, context?], ?_⟩
    refine ⟨⟨_, rfl, fun _ _ => rfl⟩, by simp, by simp, by simp [noteLexer, context?], ?_⟩
    refine ⟨⟨_, rfl, fun _ _ => rfl⟩, by simp, by simp, by simp [noteLexer, context?], ?_⟩
    refine ⟨⟨_, rfl, fun _ _ => rfl⟩, by simp, by simp, by simp [noteLexer, context?], ?_⟩
    rfl
  obtain ⟨hiff, -, hkept⟩ := tokenize_eq_ok_iff_cuts hl ['é', '<', '\n', 'b', '>', 'a']
  obtain ⟨tokens, htokens⟩ := hiff.2 ⟨_, hcuts⟩
  exact ⟨built_noteLexer, hl, tokens, htokens, hkept tokens _ htokens hcuts⟩

end Lexer

end ModalLex
