import ModalLex.Proofs.Asking
import ModalLex.Proofs.Runs

/-!
# Calls of an iterator

However often an iterator is called, it answers with tokens at ascending offsets, then with at most
one error, and then with nothing. It has a state as long as every answer was a token: the one after
the last of them, and scanning from there finds all that is still to come. Each call up to the first
answer that is no token scans once, from the state of the iterator; no call after that one scans
(`exists_called`).
-/

namespace ModalLex

/-- What a scan finds, and the state that it begins at. -/
def Lexer.scanFrom (l : Lexer) (input : List Char) (s : ScanState) :
    Except Error (Option Token) × List ScanState :=
  (l.scan input s, [s])

namespace Tokens

/-- The next item and the iterator after it, with the states that are scanned from. -/
def nextScanning (l : Lexer) (input : List Char) (ts : Tokens) :
    (Option (Except Error Token) × Tokens) × List ScanState :=
  match ts.state with
  | none => ((none, ⟨none⟩), [])
  | some s =>
    match l.scanFrom input s with
    | (.ok (some t), scanned) => ((some (.ok t), ⟨some t.resume⟩), scanned)
    | (.ok none, scanned) => ((none, ⟨none⟩), scanned)
    | (.error e, scanned) => ((some (.error e), ⟨none⟩), scanned)

/-- What the next `n` calls answer; nothing where there is no item any more. -/
def answers (l : Lexer) (input : List Char) : Nat → Tokens → List (Option (Except Error Token))
  | 0, _ => []
  | n + 1, ts => (ts.next l input).1 :: answers l input n (ts.next l input).2

/-- The states that the next `n` calls scan from. -/
def scanned (l : Lexer) (input : List Char) : Nat → Tokens → List ScanState
  | 0, _ => []
  | n + 1, ts => (ts.nextScanning l input).2 ++ scanned l input n (ts.next l input).2

/-- The first `n` calls of an iterator of the input have answered with the tokens, the error if
there is one, and `silent` times with nothing. -/
structure Called (l : Lexer) (input : List Char) (n : Nat) (tokens : List Token)
    (error : Option Error) (silent : Nat) : Prop where
  /-- Each token is found by scanning from the state before it. -/
  walk : l.Walk input l.initialState tokens
  answers : l.tokens.answers l input n
    = tokens.map (some <| .ok ·) ++ error.toList.map (some <| .error ·) ++ .replicate silent none
  ascending : tokens.Pairwise (·.position.offset < ·.position.offset)
  /-- There is a state as long as every answer was a token. -/
  state : (l.tokens.after l input n).state
    = if error = none ∧ silent = 0 then some (tokens.getLast?.elim l.initialState (·.resume))
      else none
  /-- Up to the first answer that is no token, each call scans from the state before it. -/
  scanned : l.tokens.scanned l input n = (l.initialState :: tokens.map (·.resume)).take n
  /-- What is still to come is found by scanning from the state, and from the ones after the tokens
  found. -/
  remaining : ∀ s, (l.tokens.after l input n).state = some s →
    (l.tokens.after l input n).drain l input = (l.run input s).items
  /-- What has been answered and what is still to come are all items. -/
  drain : l.tokens.drain l input
    = tokens.map .ok ++ error.toList.map .error ++ (l.tokens.after l input n).drain l input
  /-- Without a state, further calls neither scan nor answer with an item, and bring none back. -/
  finished : (l.tokens.after l input n).state = none → ∀ m,
    (l.tokens.after l input n).answers l input m = .replicate m none ∧
      (l.tokens.after l input n).scanned l input m = [] ∧
      ((l.tokens.after l input n).after l input m).state = none

end Tokens

namespace Lexer

variable {l : Lexer} {input : List Char} {s : ScanState}

/-! ## Tokens of a walk -/

theorem position_of_step {t : Token} (h : l.step input s = .piece t) :
    t.position.offset = s.offset := by
  obtain ⟨c, m, kind, -, -, -, -, rfl⟩ := step_eq_piece_iff.1 h
  rfl

/-- A token that is found begins at the state or after it, and before the state after the token. -/
theorem position_of_scan {t : Token} (h : l.scan input s = .ok (some t)) :
    s.offset ≤ t.position.offset ∧ t.position.offset < t.resume.offset := by
  fun_induction scan l input s with
  | case1 => cases h
  | case2 => cases h
  | case3 s u hu =>
    cases h
    rw [position_of_step hu]
    exact ⟨le_rfl, (offset_lt_of_step hu).2⟩
  | case4 s u hu _ ih =>
    have := offset_lt_of_step hu
    have := ih h
    omega

/-- The tokens of a walk begin at ascending offsets, whether the lexer is well grouped or not. -/
theorem Walk.ascending :
    ∀ {tokens : List Token} {s : ScanState}, l.Walk input s tokens →
      (∀ t ∈ tokens, s.offset ≤ t.position.offset) ∧
        tokens.Pairwise (·.position.offset < ·.position.offset)
  | [], _, _ => ⟨by simp, .nil⟩
  | t :: ts, s, ⟨hscan, hwalk⟩ => by
    obtain ⟨hle, hlt⟩ := position_of_scan hscan
    obtain ⟨hafter, hpairs⟩ := hwalk.ascending
    refine ⟨List.forall_mem_cons.2 ⟨hle, fun u hu => ?_⟩, List.pairwise_cons.2 ⟨?_, hpairs⟩⟩
    · exact (hle.trans hlt.le).trans (hafter u hu)
    · exact fun u hu => hlt.trans_le (hafter u hu)

/-! ## Calls without a state -/

theorem answers_ended (l : Lexer) (input : List Char) :
    ∀ n, Tokens.answers l input n ⟨none⟩ = .replicate n none
  | 0 => rfl
  | n + 1 => congrArg (none :: ·) (answers_ended l input n)

theorem scanned_ended (l : Lexer) (input : List Char) : ∀ n, Tokens.scanned l input n ⟨none⟩ = []
  | 0 => rfl
  | n + 1 => scanned_ended l input n

theorem after_ended (l : Lexer) (input : List Char) : ∀ n, Tokens.after l input n ⟨none⟩ = ⟨none⟩
  | 0 => rfl
  | n + 1 => after_ended l input n

/-! ## Calls one after the other -/

theorem nextScanning_fst (l : Lexer) (input : List Char) (ts : Tokens) :
    (ts.nextScanning l input).1 = ts.next l input := by
  obtain ⟨_ | s⟩ := ts
  · rfl
  · simp only [Tokens.nextScanning, Tokens.next, scanFrom]
    rcases l.scan input s with e | _ | t <;> rfl

theorem nextScanning_snd (l : Lexer) (input : List Char) (s : ScanState) :
    (Tokens.nextScanning l input ⟨some s⟩).2 = [s] := by
  simp only [Tokens.nextScanning, scanFrom]
  rcases l.scan input s with e | _ | t <;> rfl

/-- However many calls there are, they answer with the tokens of a walk, then with an error or not,
then with nothing. -/
theorem exists_answers (l : Lexer) (input : List Char) :
    ∀ n s, ∃ tokens error silent, l.Walk input s tokens ∧
      Tokens.answers l input n ⟨some s⟩ = tokens.map (some <| .ok ·)
        ++ error.toList.map (some <| .error ·) ++ .replicate silent none ∧
      (Tokens.after l input n ⟨some s⟩).state
        = (if error = none ∧ silent = 0 then some (tokens.getLast?.elim s (·.resume)) else none) ∧
      Tokens.scanned l input n ⟨some s⟩ = (s :: tokens.map (·.resume)).take n
  | 0, s => ⟨[], none, 0, trivial, rfl, rfl, rfl⟩
  | n + 1, s => by
    simp only [Tokens.scanned, nextScanning_snd, Tokens.answers, Tokens.after, Tokens.next]
    rcases hs : l.scan input s with e | _ | t
    · refine ⟨[], some e, n, trivial, ?_, ?_, ?_⟩
      · simp [answers_ended]
      · simp [after_ended]
      · simp [scanned_ended]
    · refine ⟨[], none, n + 1, trivial, ?_, ?_, ?_⟩
      · simp [answers_ended, List.replicate_succ]
      · simp [after_ended]
      · simp [scanned_ended]
    · obtain ⟨tokens, error, silent, hwalk, hanswers, hstate, hscanned⟩ :=
        exists_answers l input n t.resume
      refine ⟨t :: tokens, error, silent, ⟨hs, hwalk⟩, ?_, ?_, ?_⟩
      · rw [hanswers]
        rfl
      · rw [hstate, List.getLast?_cons]
        cases tokens.getLast? <;> rfl
      · rw [hscanned]
        rfl

/-- The items answered by some calls come before those that the iterator gives after them. -/
theorem drain_eq_append (l : Lexer) (input : List Char) :
    ∀ n ts, Tokens.drain l input ts
      = (Tokens.answers l input n ts).filterMap id ++ (Tokens.after l input n ts).drain l input
  | 0, _ => rfl
  | n + 1, ts => by
    have hrest := drain_eq_append l input n (ts.next l input).2
    rw [Tokens.answers, Tokens.after, drain_eq_next]
    rcases hnext : ts.next l input with ⟨_ | item, us⟩
    · have hended := Tokens.snd_next_of_fst_eq_none (congrArg Prod.fst hnext)
      rw [hnext] at hended hrest
      simp only at hended hrest
      rw [hended] at hrest ⊢
      exact drain_ended.symm.trans hrest
    · rw [hnext] at hrest
      exact congrArg (item :: ·) hrest

theorem drain_of_state {ts : Tokens} (h : ts.state = some s) :
    ts.drain l input = (l.run input s).items := by
  obtain ⟨_⟩ := ts
  cases h
  exact drain_eq_items s

theorem finished_of_state {ts : Tokens} (h : ts.state = none) (m : Nat) :
    ts.answers l input m = .replicate m none ∧ ts.scanned l input m = [] ∧
      (ts.after l input m).state = none := by
  obtain ⟨_⟩ := ts
  cases h
  exact ⟨answers_ended l input m, scanned_ended l input m,
    congrArg (·.state) (after_ended l input m)⟩

/-- Any number of calls of an iterator of the input have answered with tokens at ascending offsets,
then with at most one error, then with nothing. The iterator has a state as long as every answer was
a token. -/
theorem exists_called (l : Lexer) (input : List Char) (n : Nat) :
    (∀ ts : Tokens, (ts.nextScanning l input).1 = ts.next l input) ∧
    ∃ tokens error silent, Tokens.Called l input n tokens error silent := by
  obtain ⟨tokens, error, silent, hwalk, hanswers, hstate, hscanned⟩ :=
    exists_answers l input n l.initialState
  have hdrain := drain_eq_append l input n l.tokens
  have hitems : (l.tokens.answers l input n).filterMap id
      = tokens.map .ok ++ error.toList.map .error := by
    rw [show l.tokens.answers l input n = _ from hanswers]
    simp
  rw [hitems] at hdrain
  exact ⟨nextScanning_fst l input, tokens, error, silent, hwalk, hanswers, hwalk.ascending.2,
    hstate, hscanned, fun s hs => drain_of_state hs, hdrain, fun hs m => finished_of_state hs m⟩

open scoped Unicode in
/-- The third call fails, so it is the last one that scans. -/
theorem called_noteLexer :
    let input := ['é', '<', '\n', 'b', 'x']
    let word : Token := ⟨"word", "é", ⟨0, 0, 1, 1, 1, 2⟩, true, ⟨.name "text", 1, 2, 1, 2⟩⟩
    let note : Token := ⟨"note", "b", ⟨3, 4, 2, 1, 2, 2⟩, true, ⟨.name "note", 4, 5, 2, 2⟩⟩
    let e : Error := ⟨.noRuleMatches 'x' "no note", some (.point 4 5 2 2)⟩
    let ts := noteLexer.tokens.after noteLexer input 4
    noteLexer.Built ∧
      noteLexer.tokens.answers noteLexer input 4
        = [some (.ok word), some (.ok note), some (.error e), none] ∧
      noteLexer.tokens.scanned noteLexer input 4
        = [noteLexer.initialState, word.resume, note.resume] ∧
      ts.state = none ∧ ∀ m, ts.answers noteLexer input m = .replicate m none ∧
        ts.scanned noteLexer input m = [] ∧ (ts.after noteLexer input m).state = none := by
  intro input word note e ts
  have hword : noteLexer.scan input noteLexer.initialState = .ok (some word) :=
    scan_eq_of_step_piece (t := word) rfl
  have hnote : noteLexer.scan input word.resume = .ok (some note) := by
    rw [scan_eq_of_step_piece (t := ⟨"", "<\n", ⟨1, 2, 1, 2, 2, 1⟩, false,
      ⟨.name "note", 3, 4, 2, 1⟩⟩) rfl]
    exact scan_eq_of_step_piece (t := note) rfl
  have herror : noteLexer.scan input note.resume = .error e := scan_eq_of_step_failed rfl
  have hstate : ts.state = none := by
    simp only [ts, tokens, Tokens.after, Tokens.next, hword, hnote, herror]
  obtain ⟨-, _, _, _, hcalled⟩ := exists_called noteLexer input 4
  refine ⟨built_noteLexer, ?_, ?_, hstate, hcalled.finished hstate⟩
  · simp only [tokens, Tokens.answers, Tokens.next, hword, hnote, herror]
  · simp only [tokens, Tokens.scanned, nextScanning_snd, Tokens.next, hword, hnote, herror]
    rfl

end Lexer

end ModalLex
