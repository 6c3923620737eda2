import Mathlib.Data.List.Forall2
import ModalLex.Chain
import ModalLex.Proofs.Steps

/-!
# Runs

The tokens of an input can be had from an iterator, by asking each token for the next one, by
scanning from state to state, and all at once. It makes no difference: there is one run from each
state, and what comes after a token in it is the run from the state after that token
(`walks_agree`).
-/

namespace ModalLex

/-- Tokens one after the other, and the error that ends them unless the end of the input does. -/
structure Run where
  tokens : List Token
  error : Option Error
deriving DecidableEq, Repr

namespace Run

def cons (t : Token) (r : Run) : Run := { r with tokens := t :: r.tokens }

/-- The run item by item; an error is the last one. -/
def items (r : Run) : List (Except Error Token) := r.tokens.map .ok ++ (r.error.map .error).toList

/-- The run as a whole: an error takes the place of the tokens before it. -/
def outcome (r : Run) : Except Error (List Token) := r.error.elim (.ok r.tokens) .error

/-- The first token, or the error or the end that comes instead of one. -/
def first (r : Run) : Except Error (Option Token) :=
  match r.tokens with
  | [] => r.error.elim (.ok none) .error
  | t :: _ => .ok (some t)

/-- What comes after the token at a place of the run. -/
def after (r : Run) (place : Nat) : Run := { r with tokens := r.tokens.drop (place + 1) }

/-- The run without the tokens that are not to be kept. -/
def kept (r : Run) : Run := { r with tokens := r.tokens.filter (·.keep) }

@[simp] theorem items_cons (t : Token) (r : Run) : (r.cons t).items = .ok t :: r.items := rfl

theorem outcome_eq_ok_iff {r : Run} {tokens : List Token} :
    r.outcome = .ok tokens ↔ r.error = none ∧ r.tokens = tokens := by
  rcases h : r.error <;> simp [outcome, h]

theorem outcome_eq_error_iff {r : Run} {e : Error} : r.outcome = .error e ↔ r.error = some e := by
  rcases h : r.error <;> simp [outcome, h]

theorem outcome_cons (t : Token) (r : Run) : (r.cons t).outcome = r.outcome.map (t :: ·) := by
  unfold outcome cons
  cases r.error <;> rfl

/-- Two runs of related tokens, one by one, that end in related errors or none. -/
structure Rel (R : Token → Token → Prop) (E : Error → Error → Prop) (r q : Run) : Prop where
  tokens : List.Forall₂ R r.tokens q.tokens
  error : Option.Rel E r.error q.error

/-- Where related tokens are kept alike, what is kept of related runs is related. -/
theorem Rel.kept {R : Token → Token → Prop} {E : Error → Error → Prop} {r q : Run}
    (h : r.Rel R E q) (hkeep : ∀ {t u}, R t u → t.keep = u.keep) : r.kept.Rel R E q.kept :=
  ⟨List.rel_filter (fun _ _ ht => iff_of_eq (congrArg (· = true) (hkeep ht))) h.tokens, h.error⟩

end Run

/-- Two steps that find related things. -/
inductive Step.Rel (R : Token → Token → Prop) (E : Error → Error → Prop) : Step → Step → Prop where
  | ended : Rel R E .ended .ended
  | failed {e f : Error} : E e f → Rel R E (.failed e) (.failed f)
  | piece {t u : Token} : R t u → Rel R E (.piece t) (.piece u)

namespace Tokens

/-- An iterator gives an item only as long as it has a state before the end of the input. -/
theorem left_next_lt_of_some {l : Lexer} {input : List Char} {ts us : Tokens}
    {item : Except Error Token} (h : ts.next l input = (some item, us)) :
    us.left input < ts.left input := by
  cases item with
  | ok t => exact left_next_lt h
  | error e =>
    unfold next at h
    split at h
    · cases h
    · rename_i s hs
      have hlt : s.offset < Text.byteLength input := Nat.lt_of_not_le fun hle => by
        rw [Lexer.scan_eq_of_step_ended (Lexer.step_eq_ended_iff.2 hle)] at h
        cases h
      split at h
      · cases h
      · cases h
      · cases h
        simp only [left, hs, Option.elim_some, Option.elim_none]
        omega

/-- All items that are still to come. -/
def drain (l : Lexer) (input : List Char) (ts : Tokens) : List (Except Error Token) :=
  match _h : ts.next l input with
  | (none, _) => []
  | (some item, us) => item :: us.drain l input
termination_by ts.left input
decreasing_by exact left_next_lt_of_some _h

end Tokens

namespace Chain

/-- What is found by asking the token at a place of a chain for the next one, and going on with
that one in the same way. -/
inductive Follows (l : Lexer) (input : List Char) : Chain → Nat → Run → Prop where
  | ended {c c' : Chain} {place : Nat} {log : List Event} :
      c.next l input place = (.ok none, c', log) → Follows l input c place ⟨[], none⟩
  | failed {c c' : Chain} {place : Nat} {log : List Event} {e : Error} :
      c.next l input place = (.error e, c', log) → Follows l input c place ⟨[], some e⟩
  | found {c c' : Chain} {place : Nat} {log : List Event} {t : Token} {r : Run} :
      c.next l input place = (.ok (some t), c', log) → Follows l input c' (place + 1) r →
        Follows l input c place (r.cons t)

/-- What is found by way of a chain that begins with a token, if there is one. -/
inductive FollowsFrom (l : Lexer) (input : List Char) :
    Except Error (Option Token) → Run → Prop where
  | ended : FollowsFrom l input (.ok none) ⟨[], none⟩
  | failed {e : Error} : FollowsFrom l input (.error e) ⟨[], some e⟩
  | found {t : Token} {r : Run} :
      (ofToken t).Follows l input 0 r → FollowsFrom l input (.ok (some t)) (r.cons t)

end Chain

namespace Lexer

/-- What is found by scanning from a state, and again from the state after each token. -/
def run (l : Lexer) (input : List Char) (s : ScanState) : Run :=
  match _h : l.scan input s with
  | .ok none => ⟨[], none⟩
  | .error e => ⟨[], some e⟩
  | .ok (some t) => (l.run input t.resume).cons t
termination_by Text.byteLength input - s.offset
decreasing_by have := offset_lt_of_scan _h; omega

/-- All pieces from a state on, also those that are skipped. -/
def pieces (l : Lexer) (input : List Char) (s : ScanState) : Run :=
  match _h : l.step input s with
  | .ended => ⟨[], none⟩
  | .failed e => ⟨[], some e⟩
  | .piece t => (l.pieces input t.resume).cons t
termination_by Text.byteLength input - s.offset
decreasing_by have := offset_lt_of_step _h; omega

variable {l : Lexer} {input : List Char}

theorem drain_eq_next (ts : Tokens) :
    ts.drain l input =
      match ts.next l input with
      | (none, _) => []
      | (some item, us) => item :: us.drain l input := by
  rw [Tokens.drain]
  split <;> simp_all

theorem drain_ended : Tokens.drain l input ⟨none⟩ = [] := by
  rw [drain_eq_next]
  rfl

theorem drain_eq_items (s : ScanState) :
    Tokens.drain l input ⟨some s⟩ = (l.run input s).items := by
  fun_induction run l input s with
  | case1 s h =>
    rw [drain_eq_next]
    simp only [Tokens.next, h]
    rfl
  | case2 s e h =>
    rw [drain_eq_next]
    simp only [Tokens.next, h, drain_ended]
    rfl
  | case3 s t h ih =>
    rw [drain_eq_next]
    simp only [Tokens.next, h, ih, Run.items_cons]

theorem collect_eq_outcome (s : ScanState) :
    Tokens.collect l input ⟨some s⟩ = (l.run input s).outcome := by
  fun_induction run l input s with
  | case1 s h =>
    rw [Tokens.collect_eq_next]
    simp only [Tokens.next, h]
    rfl
  | case2 s e h =>
    rw [Tokens.collect_eq_next]
    simp only [Tokens.next, h]
    rfl
  | case3 s t h ih =>
    rw [Tokens.collect_eq_next]
    simp only [Tokens.next, h, ih, Run.outcome_cons]

/-- A token that has no successor yet, at the end of a chain, is scanned after. -/
theorem next_of_last {c : Chain} {place : Nat} {t : Token} (hending : c.ending = none)
    (ht : c.tokens[place]? = some t) (hlast : c.tokens[place + 1]? = none) :
    c.next l input place
      = (l.scan input t.resume, c.remember (l.scan input t.resume),
          l.scanLog input t.resume) := by
  simp only [Chain.next, hlast, hending, ht]

/-- From the last token of a chain on, the chain follows the run from the state after it. -/
theorem follows_iff {c : Chain} {place : Nat} {t : Token} {r : Run} (hending : c.ending = none)
    (ht : c.tokens[place]? = some t) (hlast : c.tokens[place + 1]? = none) :
    c.Follows l input place r ↔ r = l.run input t.resume := by
  have hnext : c.next l input place = (l.scan input t.resume, c.remember (l.scan input t.resume),
      l.scanLog input t.resume) := next_of_last hending ht hlast
  generalize t.resume = s at hnext
  fun_induction run l input s generalizing c place t r with
  | case1 s hs =>
    rw [hs] at hnext
    constructor
    · intro h
      cases h with
      | ended => rfl
      | failed h | found h => rw [hnext] at h; cases h
    · rintro rfl
      exact .ended hnext
  | case2 s e hs =>
    rw [hs] at hnext
    constructor
    · intro h
      cases h with
      | ended h | found h => rw [hnext] at h; cases h
      | failed h => rw [hnext] at h; cases h; rfl
    · rintro rfl
      exact .failed hnext
  | case3 s u hs ih =>
    rw [hs] at hnext
    have hsize : c.tokens.size = place + 1 :=
      Nat.le_antisymm (Array.getElem?_eq_none_iff.1 hlast) (Array.getElem?_eq_some_iff.1 ht).1
    -- the chain goes on with the token found, which has no successor yet
    have hu : (c.tokens.push u)[place + 1]? = some u := by simp [← hsize]
    have hulast : (c.tokens.push u)[place + 1 + 1]? = none := by simp [hsize]
    have hfollows : ∀ r, (c.remember (.ok (some u))).Follows l input (place + 1) r ↔
        r = l.run input u.resume := fun r =>
      ih hending hu hulast (next_of_last (c := c.remember (.ok (some u))) hending hu hulast)
    constructor
    · intro h
      cases h with
      | ended h | failed h => rw [hnext] at h; cases h
      | found h hr =>
        rw [hnext] at h
        cases h
        rw [(hfollows _).1 hr]
    · rintro rfl
      exact .found hnext ((hfollows _).2 rfl)

theorem run_eq (l : Lexer) (input : List Char) (s : ScanState) :
    l.run input s =
      match l.scan input s with
      | .ok none => ⟨[], none⟩
      | .error e => ⟨[], some e⟩
      | .ok (some t) => (l.run input t.resume).cons t := by
  rw [run]
  split <;> simp_all

/-- A run takes the step at its state, and goes on after the piece it finds. -/
theorem run_eq_step (l : Lexer) (input : List Char) (s : ScanState) :
    l.run input s =
      match l.step input s with
      | .ended => ⟨[], none⟩
      | .failed e => ⟨[], some e⟩
      | .piece t => if t.keep then (l.run input t.resume).cons t else l.run input t.resume := by
  rw [run_eq]
  rcases hs : l.step input s with _ | e | t
  · rw [scan_eq_of_step_ended hs]
  · rw [scan_eq_of_step_failed hs]
  · rw [scan_eq_of_step_piece hs]
    by_cases hk : t.keep
    · simp only [hk, if_true]
    · simp only [hk, Bool.false_eq_true, if_false]
      rw [← run_eq]

theorem pieces_eq (l : Lexer) (input : List Char) (s : ScanState) :
    l.pieces input s =
      match l.step input s with
      | .ended => ⟨[], none⟩
      | .failed e => ⟨[], some e⟩
      | .piece t => (l.pieces input t.resume).cons t := by
  rw [pieces]
  split <;> simp_all

/-- Where related states take related steps, the pieces from them are related. -/
theorem pieces_rel {l k : Lexer} {input text : List Char} {S : ScanState → ScanState → Prop}
    {R : Token → Token → Prop} {E : Error → Error → Prop}
    (hstep : ∀ s q, S s q → (l.step input s).Rel R E (k.step text q))
    (hresume : ∀ t u, R t u → S t.resume u.resume) {s q : ScanState} (h : S s q) :
    (l.pieces input s).Rel R E (k.pieces text q) := by
  fun_induction pieces l input s generalizing q with
  | case1 s hs =>
    have hrel := hs ▸ hstep s q h
    rw [pieces_eq k]
    generalize k.step text q = found at hrel
    cases hrel
    exact ⟨.nil, .none⟩
  | case2 s e hs =>
    have hrel := hs ▸ hstep s q h
    rw [pieces_eq k]
    generalize k.step text q = found at hrel
    cases hrel with
    | failed he => exact ⟨.nil, .some he⟩
  | case3 s t hs ih =>
    have hrel := hs ▸ hstep s q h
    rw [pieces_eq k]
    generalize k.step text q = found at hrel
    cases hrel with
    | piece ht =>
      obtain ⟨htokens, herror⟩ := ih (hresume _ _ ht)
      exact ⟨.cons ht htokens, herror⟩

/-- A run is what is kept of the pieces. -/
theorem run_eq_kept (s : ScanState) : l.run input s = (l.pieces input s).kept := by
  fun_induction pieces l input s with
  | case1 s hs =>
    rw [run_eq_step, hs]
    rfl
  | case2 s e hs =>
    rw [run_eq_step, hs]
    rfl
  | case3 s t hs ih =>
    rw [run_eq_step, hs]
    by_cases hk : t.keep
    · simp [hk, ih, Run.kept, Run.cons]
    · simp [hk, ih, Run.kept, Run.cons]

theorem followsFrom_iff {s : ScanState} {r : Run} :
    Chain.FollowsFrom l input (l.scan input s) r ↔ r = l.run input s := by
  rw [run_eq]
  rcases l.scan input s with e | _ | t
  · constructor
    · rintro ⟨⟩
      rfl
    · rintro rfl
      exact .failed
  · constructor
    · rintro ⟨⟩
      rfl
    · rintro rfl
      exact .ended
  · have hfollows : ∀ r, (Chain.ofToken t).Follows l input 0 r ↔ r = l.run input t.resume :=
      fun r => follows_iff rfl rfl rfl
    constructor
    · intro h
      cases h with
      | found h => rw [(hfollows _).1 h]
    · rintro rfl
      exact .found ((hfollows _).2 rfl)

/-- From the state after a token of a run, the run goes on with what comes after the token. -/
theorem run_resume {s : ScanState} {place : Nat} {t : Token}
    (h : (l.run input s).tokens[place]? = some t) :
    l.run input t.resume = (l.run input s).after place := by
  fun_induction run l input s generalizing place with
  | case1 => simp at h
  | case2 => simp at h
  | case3 s u _ ih =>
    cases place with
    | zero =>
      obtain rfl : u = t := by simpa [Run.cons] using h
      rfl
    | succ place => exact ih (by simpa [Run.cons] using h)

/-- An iterator, a chain of tokens and scans from state to state come to the same run, of which
tokenizing gives the outcome; and from the state after a token of the run they come to what is
after the token in it. -/
theorem walks_agree (l : Lexer) (input : List Char) :
    l.tokens.drain l input = (l.run input l.initialState).items ∧
    (∀ r, Chain.FollowsFrom l input (l.parse input) r ↔ r = l.run input l.initialState) ∧
    l.tokenize input = (l.run input l.initialState).outcome ∧
    ∀ place t, (l.run input l.initialState).tokens[place]? = some t →
      Tokens.drain l input ⟨some t.resume⟩
        = ((l.run input l.initialState).after place).items ∧
      (∀ r, Chain.FollowsFrom l input (l.scan input t.resume) r ↔
        r = (l.run input l.initialState).after place) ∧
      l.run input t.resume = (l.run input l.initialState).after place := by
  refine ⟨drain_eq_items _, fun r => followsFrom_iff, collect_eq_outcome _, fun place t h => ?_⟩
  rw [← run_resume h]
  exact ⟨drain_eq_items _, fun r => followsFrom_iff, rfl⟩

open scoped Unicode in
/-- The piece that is skipped between the two tokens is in no run. -/
theorem walks_agree_noteLexer :
    let word : Token :=
      ⟨"word", "é", ⟨0, 0, 1, 1, 1, 2⟩, true, ⟨.name "text", 1, 2, 1, 2⟩⟩
    let note : Token :=
      ⟨"note", "b", ⟨3, 4, 2, 1, 2, 2⟩, true, ⟨.name "note", 4, 5, 2, 2⟩⟩
    noteLexer.Built ∧ noteLexer.tokenize ['é', '<', '\n', 'b'] = .ok [word, note] ∧
      Tokens.drain noteLexer ['é', '<', '\n', 'b'] ⟨some word.resume⟩ = [.ok note] := by
  intro word note
  have hrun : noteLexer.run ['é', '<', '\n', 'b'] noteLexer.initialState
      = ⟨[word, note], none⟩ := by
    rw [run_eq_step, show noteLexer.step _ noteLexer.initialState = .piece word from rfl]
    change Run.cons word _ = _
    rw [run_eq_step, show noteLexer.step _ word.resume = .piece ⟨"", "<\n", ⟨1, 2, 1, 2, 2, 1⟩,
      false, ⟨.name "note", 3, 4, 2, 1⟩⟩ from rfl]
    change Run.cons word (noteLexer.run _ ⟨.name "note", 3, 4, 2, 1⟩) = _
    rw [run_eq_step, show noteLexer.step _ ⟨.name "note", 3, 4, 2, 1⟩ = .piece note from rfl]
    change Run.cons word (Run.cons note _) = _
    rw [run_eq_step, show noteLexer.step _ note.resume = .ended from rfl]
    rfl
  obtain ⟨-, -, htokenize, hresume⟩ := walks_agree noteLexer ['é', '<', '\n', 'b']
  have hdrain := (hresume 0 word (by rw [hrun]; rfl)).1
  rw [hrun] at htokenize hdrain
  exact ⟨built_noteLexer, htokenize, hdrain⟩

end Lexer

end ModalLex
