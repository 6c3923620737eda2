import ModalLex.Chain
import ModalLex.Proofs.Steps

/-!
# Where tokens stand

A token that a well-grouped lexer yields is a slice of the input, and its position and the state
after it count what comes before it and what it adds (`StandsAfter`). So it is for the tokens of an
input all at once, by calls one after the other, or along a chain of successors: in each case the
scan from where a token stops finds the next one (`Walk`), so they follow each other in the input.
-/

namespace ModalLex

namespace Token

/-- The token stands after the text `before` in the input. -/
structure StandsAfter (l : Lexer) (input before : List Char) (t : Token) : Prop where
  text_ne_nil : t.text.toList ≠ []
  slice : before ++ t.text.toList <+: input
  offset : t.position.offset = Text.byteLength before
  stop : t.stop = Text.byteLength (before ++ t.text.toList)
  index : t.position.index = before.length
  rowBegin : t.position.rowBegin = Text.rowAfter before
  columnBegin : t.position.columnBegin = Text.columnAfter before
  rowEnd : t.position.rowEnd = Text.rowAfter (before ++ t.text.toList)
  columnEnd : t.position.columnEnd = Text.columnAfter (before ++ t.text.toList)
  resume : t.resume = .after t.resume.context (before ++ t.text.toList)
  registered : l.context? t.resume.context ≠ none

/-- The first token ends where the second one begins or before. -/
def Precedes (t u : Token) : Prop :=
  t.stop ≤ u.position.offset ∧ t.position.index + t.text.toList.length ≤ u.position.index

variable {l : Lexer} {input : List Char}

theorem StandsAfter.precedes {before more : List Char} {t u : Token}
    (ht : t.StandsAfter l input before)
    (hu : u.StandsAfter l input (before ++ t.text.toList ++ more)) : t.Precedes u := by
  refine ⟨?_, ?_⟩
  · rw [ht.stop, hu.offset, Text.byteLength_append (before ++ t.text.toList)]
    exact Nat.le_add_right _ _
  · rw [ht.index, hu.index, List.length_append, List.length_append]
    omega

end Token

/-- The items that the next `n` calls of an iterator give. -/
def Tokens.items (l : Lexer) (input : List Char) : Nat → Tokens → List (Except Error Token)
  | 0, _ => []
  | n + 1, ts => (ts.next l input).1.toList ++ items l input n (ts.next l input).2

/-- The chain comes from the first token of the input by asking its tokens for the next ones. -/
inductive Chain.Reached (l : Lexer) (input : List Char) : Chain → Prop where
  | first {t : Token} : l.parse input = .ok (some t) → Reached l input (.ofToken t)
  | next {c : Chain} (place : Nat) : Reached l input c → Reached l input (c.next l input place).2.1

namespace Lexer

/-- The input yields the tokens in this order: all at once, by some calls of the iterator, or along
a chain. -/
inductive Yields (l : Lexer) (input : List Char) : List Token → Prop where
  | all {tokens : List Token} : l.tokenize input = .ok tokens → Yields l input tokens
  | calls (n : Nat) :
      Yields l input ((l.tokens.items l input n).filterMap fun item => item.toOption)
  | chain {c : Chain} : c.Reached l input → Yields l input c.tokens.toList

/-- From the state on, the scans find the tokens, each from where the one before it stops. -/
def Walk (l : Lexer) (input : List Char) : ScanState → List Token → Prop
  | _, [] => True
  | s, t :: ts => l.scan input s = .ok (some t) ∧ l.Walk input t.resume ts

variable {l : Lexer} {input : List Char}

/-! ## Tokens are found by walks -/

theorem walk_of_collect {ts : Tokens} {tokens : List Token} (h : ts.collect l input = .ok tokens) :
    ∀ s, ts.state = some s → l.Walk input s tokens := by
  fun_induction Tokens.collect l input ts generalizing tokens with
  | case1 =>
    cases h
    exact fun _ _ => trivial
  | case2 => cases h
  | case3 ts t us hnext tokens' hus ih =>
    cases h
    intro s hs
    simp only [Tokens.next, hs] at hnext
    split at hnext
    · rename_i u hu
      cases hnext
      exact ⟨hu, ih hus _ rfl⟩
    · cases hnext
    · cases hnext
  | case4 => cases h

theorem items_ended (l : Lexer) (input : List Char) : ∀ n, Tokens.items l input n ⟨none⟩ = []
  | 0 => rfl
  | n + 1 => items_ended l input n

theorem walk_items :
    ∀ (n : Nat) (s : ScanState),
      l.Walk input s ((Tokens.items l input n ⟨some s⟩).filterMap fun item => item.toOption)
  | 0, _ => trivial
  | n + 1, s => by
    rcases hs : l.scan input s with e | _ | t
    · simp [Tokens.items, Tokens.next, hs, items_ended, Except.toOption, Walk]
    · simp [Tokens.items, Tokens.next, hs, items_ended, Walk]
    · simpa [Tokens.items, Tokens.next, hs, Except.toOption, Walk] using walk_items n t.resume

theorem Walk.concat {t u : Token} (h : l.scan input t.resume = .ok (some u)) :
    ∀ {tokens : List Token} {s : ScanState}, l.Walk input s (tokens ++ [t]) →
      l.Walk input s (tokens ++ [t] ++ [u])
  | [], _, hw => ⟨hw.1, h, trivial⟩
  | _ :: _, _, hw => ⟨hw.1, concat h hw.2⟩

theorem exists_concat_of_last {c : Chain} {place : Nat} {t : Token}
    (ht : c.tokens[place]? = some t) (hlast : c.tokens[place + 1]? = none) :
    ∃ tokens, c.tokens.toList = tokens ++ [t] := by
  have := (Array.getElem?_eq_some_iff.1 ht).1
  have := Array.getElem?_eq_none_iff.1 hlast
  have hsize : c.tokens.toList.length - 1 = place := by
    rw [Array.length_toList]
    omega
  rw [← List.getLast?_eq_some_iff, List.getLast?_eq_getElem?, hsize, Array.getElem?_toList]
  exact ht

/-- Only the last token of a chain is scanned after. -/
theorem walk_of_reached {c : Chain} (h : c.Reached l input) :
    l.Walk input l.initialState c.tokens.toList := by
  induction h with
  | first ht => exact ⟨ht, trivial⟩
  | @next c place _ ih =>
    unfold Chain.next
    split
    · exact ih
    · rename_i hlast
      split
      · exact ih
      · exact ih
      · rename_i t _ ht
        rcases hs : l.scan input t.resume with e | _ | u
        · exact ih
        · exact ih
        · obtain ⟨tokens, hlist⟩ := exists_concat_of_last ht hlast
          simp only [Chain.remember, Array.toList_push]
          rw [hlist] at ih ⊢
          exact ih.concat hs

theorem walk_of_yields {tokens : List Token} (h : l.Yields input tokens) :
    l.Walk input l.initialState tokens := by
  cases h with
  | all h => exact walk_of_collect h _ rfl
  | calls n => exact walk_items n _
  | chain h => exact walk_of_reached h

/-! ## What a walk finds -/

/-- A piece that is found at the end of a text stands after it. -/
theorem standsAfter_of_step (hl : l.WellGrouped) {id : ContextId} {before : List Char} {t : Token}
    (hbefore : before <+: input) (h : l.step input (.after id before) = .piece t) :
    t.StandsAfter l input before := by
  obtain ⟨rest, rfl⟩ := hbefore
  obtain ⟨c, m, kind, hc, hm, -, hnext, rfl⟩ := step_eq_piece_iff.1 h
  obtain ⟨hne, rest', rfl⟩ := Context.text_append_of_matchAt (hl _ (mem_of_context? hc)) hm
  have hresume : { ScanState.after id before with context := m.next }.advance m.text.toList
      = .after m.next (before ++ m.text.toList) := ScanState.advance_after m.next before _
  constructor
  case text_ne_nil => exact hne
  case slice => exact ⟨rest', List.append_assoc ..⟩
  case stop =>
    rw [Token.stop, Text.byteLength_append, Text.byteLength_toList]
    rfl
  all_goals simp only [tokenOf, hresume]
  case registered => exact hnext
  all_goals rfl

/-- A token that is found from the end of a text on stands after it and the pieces skipped. -/
theorem standsAfter_of_scan (hl : l.WellGrouped) {id : ContextId} {before : List Char} {t : Token}
    (hbefore : before <+: input) (h : l.scan input (.after id before) = .ok (some t)) :
    ∃ skipped, t.StandsAfter l input (before ++ skipped) := by
  generalize hs : ScanState.after id before = s at h
  fun_induction scan l input s generalizing id before with
  | case1 => cases h
  | case2 => cases h
  | case3 s u hu =>
    cases h
    subst hs
    exact ⟨[], by rw [List.append_nil]; exact standsAfter_of_step hl hbefore hu⟩
  | case4 s u hu _ ih =>
    subst hs
    have hstands := standsAfter_of_step hl hbefore hu
    obtain ⟨skipped, ht⟩ := ih hstands.slice hstands.resume.symm h
    exact ⟨u.text.toList ++ skipped, by rwa [← List.append_assoc]⟩

theorem standsAfter_of_walk (hl : l.WellGrouped) :
    ∀ {tokens : List Token} {id : ContextId} {before : List Char}, before <+: input →
      l.Walk input (.after id before) tokens →
      (∀ t ∈ tokens, ∃ between, t.StandsAfter l input (before ++ between)) ∧
        tokens.Pairwise Token.Precedes
  | [], _, _, _, _ => ⟨by simp, .nil⟩
  | t :: ts, id, before, hbefore, ⟨hscan, hwalk⟩ => by
    obtain ⟨skipped, ht⟩ := standsAfter_of_scan hl hbefore hscan
    rw [ht.resume] at hwalk
    obtain ⟨hstand, hpairs⟩ := standsAfter_of_walk hl ht.slice hwalk
    refine ⟨?_, List.pairwise_cons.2 ⟨?_, hpairs⟩⟩
    · intro u hu
      rcases List.mem_cons.1 hu with rfl | hu
      · exact ⟨skipped, ht⟩
      · obtain ⟨between, hu⟩ := hstand u hu
        exact ⟨skipped ++ t.text.toList ++ between, by simpa using hu⟩
    · intro u hu
      obtain ⟨between, hu⟩ := hstand u hu
      exact ht.precedes hu

/-- Every token that an input yields stands after some text of it, and a token comes before those
that are yielded after it. -/
theorem standsAfter_of_yields (hl : l.WellGrouped) {tokens : List Token}
    (h : l.Yields input tokens) :
    (∀ t ∈ tokens, ∃ before, t.StandsAfter l input before) ∧ tokens.Pairwise Token.Precedes :=
  standsAfter_of_walk hl (List.nil_prefix) (walk_of_yields h)

open scoped Unicode in
/-- The piece that is skipped after the word is counted in the place of the note. -/
theorem yields_noteLexer :
    let word : Token :=
      ⟨"word", "é", ⟨0, 0, 1, 1, 1, 2⟩, true, ⟨.name "text", 1, 2, 1, 2⟩⟩
    let note : Token :=
      ⟨"note", "b", ⟨3, 4, 2, 1, 2, 2⟩, true, ⟨.name "note", 4, 5, 2, 2⟩⟩
    noteLexer.Built ∧ noteLexer.WellGrouped ∧
      noteLexer.Yields ['é', '<', '\n', 'b'] [word, note] ∧
      (∃ before, note.StandsAfter noteLexer ['é', '<', '\n', 'b'] before) ∧
      word.Precedes note := by
  intro word note
  have hfirst : noteLexer.parse ['é', '<', '\n', 'b'] = .ok (some word) :=
    scan_eq_of_step_piece (show noteLexer.step _ noteLexer.initialState = .piece word from rfl)
  have hsecond : noteLexer.scan ['é', '<', '\n', 'b'] word.resume = .ok (some note) := by
    rw [scan_eq_of_step_piece (t := ⟨"", "<\n", ⟨1, 2, 1, 2, 2, 1⟩, false,
      ⟨.name "note", 3, 4, 2, 1⟩⟩) rfl]
    exact scan_eq_of_step_piece (t := note) rfl
  have h : noteLexer.Yields ['é', '<', '\n', 'b'] [word, note] := by
    have hnext : ((Chain.ofToken word).next noteLexer ['é', '<', '\n', 'b'] 0).2.1
        = (Chain.ofToken word).remember (noteLexer.scan ['é', '<', '\n', 'b'] word.resume) := rfl
    have hchain := Yields.chain (.next 0 (.first hfirst))
    rwa [hnext, hsecond] at hchain
  obtain ⟨hstands, hpairs⟩ := standsAfter_of_yields wellGrouped_noteLexer h
  exact ⟨built_noteLexer, wellGrouped_noteLexer, h, hstands note (by simp), by simpa using hpairs⟩

end Lexer

end ModalLex
