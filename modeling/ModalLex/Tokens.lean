import ModalLex.Scan

/-!
# Tokens one by one

An iterator over the kept pieces of an input. It has a state as long as it may find another one;
the end of the input or an error takes the state away for good.
-/

namespace ModalLex

structure Tokens where
  /-- The state that the next call scans from. -/
  state : Option ScanState
deriving DecidableEq, Repr

namespace Tokens

/-- The next item, and the iterator after it. -/
def next (l : Lexer) (input : List Char) (ts : Tokens) : Option (Except Error Token) × Tokens :=
  match ts.state with
  | none => (none, ⟨none⟩)
  | some s =>
    match l.scan input s with
    | .ok (some t) => (some (.ok t), ⟨some t.resume⟩)
    | .ok none => (none, ⟨none⟩)
    | .error e => (some (.error e), ⟨none⟩)

/-- A bound on the tokens that are still to come. -/
def left (input : List Char) (ts : Tokens) : Nat :=
  ts.state.elim 0 fun s => Text.byteLength input + 1 - s.offset

theorem left_next_lt {l : Lexer} {input : List Char} {ts us : Tokens} {t : Token}
    (h : ts.next l input = (some (.ok t), us)) : us.left input < ts.left input := by
  unfold next at h
  split at h
  · cases h
  · rename_i s hs
    split at h
    · rename_i u hu
      cases h
      have := Lexer.offset_lt_of_scan hu
      simp only [left, hs, Option.elim_some]
      omega
    · cases h
    · cases h

/-- All tokens that are still to come, or the error that comes after some of them. -/
def collect (l : Lexer) (input : List Char) (ts : Tokens) : Except Error (List Token) :=
  match _h : ts.next l input with
  | (none, _) => .ok []
  | (some (.error e), _) => .error e
  | (some (.ok t), us) =>
    match collect l input us with
    | .ok tokens => .ok (t :: tokens)
    | .error e => .error e
termination_by ts.left input
decreasing_by exact left_next_lt _h

end Tokens

namespace Lexer

/-- The iterator at the start of an input. -/
def tokens (l : Lexer) : Tokens := ⟨some l.initialState⟩

/-- All tokens of an input. -/
def tokenize (l : Lexer) (input : List Char) : Except Error (List Token) :=
  l.tokens.collect l input

end Lexer

end ModalLex
