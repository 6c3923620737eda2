import ModalLex.Scan

/-!
# Machines

The numbers of a machine are below a bound. A caller may begin a scan at counters near the bound,
and then a sum can reach it: a machine that checks its sums stops there, and one that does not goes
on with the remainder. An input takes fewer bytes than the bound, so the offset of a scan stays
below it.
-/

namespace ModalLex

/-- What a machine does at a sum that is not below its bound. -/
inductive Overflow where
  /-- The program stops. -/
  | stops
  /-- The sum is taken modulo the bound. -/
  | wraps
deriving DecidableEq, Repr

/-- A machine with the numbers below a bound. -/
structure Machine where
  bound : Nat
  overflow : Overflow
deriving DecidableEq, Repr

/-- An input that takes fewer bytes than the bound. -/
structure Machine.Input (bound : Nat) where
  text : List Char
  byteLength_lt : Text.byteLength text < bound

namespace Machine

/-- The sum of two numbers; nothing where the machine stops. -/
def add? (machine : Machine) (a b : Nat) : Option Nat :=
  if a + b < machine.bound then some (a + b)
  else
    match machine.overflow with
    | .stops => none
    | .wraps => some ((a + b) % machine.bound)

/-- Counts one character; a newline ends the row. -/
def countChar? (machine : Machine) (s : ScanState) (c : Char) : Option ScanState := do
  let index ← machine.add? s.index 1
  if c = '\n' then
    return { s with index, row := ← machine.add? s.row 1, column := 1 }
  else
    return { s with index, column := ← machine.add? s.column 1 }

/-- Moves past a text that stands at the current offset. -/
def advance? (machine : Machine) (s : ScanState) (text : List Char) : Option ScanState := do
  let offset ← machine.add? s.offset (Text.byteLength text)
  text.foldlM machine.countChar? { s with offset }

/-- A piece that is found at a state, with its end counted by the machine. -/
def recount? (machine : Machine) (s : ScanState) (t : Token) : Option Token := do
  let resume ← machine.advance? { s with context := t.resume.context } t.text.toList
  let position := { t.position with rowEnd := resume.row, columnEnd := resume.column }
  return { t with position, resume }

theorem add?_of_lt {machine : Machine} {a b : Nat} (h : a + b < machine.bound) :
    machine.add? a b = some (a + b) := if_pos h

theorem offset_of_countChar? {machine : Machine} {s q : ScanState} {c : Char}
    (h : machine.countChar? s c = some q) : q.offset = s.offset := by
  obtain ⟨index, -, h⟩ := Option.bind_eq_some_iff.1 h
  split at h
  · obtain ⟨row, -, h⟩ := Option.bind_eq_some_iff.1 h
    cases h
    rfl
  · obtain ⟨column, -, h⟩ := Option.bind_eq_some_iff.1 h
    cases h
    rfl

theorem offset_of_foldlM {machine : Machine} :
    ∀ {text : List Char} {s q : ScanState}, text.foldlM machine.countChar? s = some q →
      q.offset = s.offset
  | [], s, q, h => by
    cases h
    rfl
  | c :: text, s, q, h => by
    rw [List.foldlM_cons] at h
    obtain ⟨s', hs, h⟩ := Option.bind_eq_some_iff.1 h
    rw [offset_of_foldlM h, offset_of_countChar? hs]

/-- Within an input the offset moves by the bytes of the text. -/
theorem offset_of_advance? {machine : Machine} {s q : ScanState} {text : List Char}
    (h : machine.advance? s text = some q)
    (hlt : s.offset + Text.byteLength text < machine.bound) :
    q.offset = s.offset + Text.byteLength text := by
  rw [advance?, add?_of_lt hlt] at h
  exact offset_of_foldlM h

/-- What is found at a state; nothing where the machine stops. -/
def step? (machine : Machine) (l : Lexer) (input : List Char) (s : ScanState) : Option Step :=
  match l.step input s with
  | .ended => some .ended
  | .failed e => some (.failed e)
  | .piece t => (machine.recount? s t).map .piece

/-- The scan goes on after a piece. -/
theorem offset_lt_of_step? {machine : Machine} {l : Lexer} {input : Input machine.bound}
    {s : ScanState} {t : Token} (h : machine.step? l input.text s = some (.piece t)) :
    s.offset < Text.byteLength input.text ∧ s.offset < t.resume.offset := by
  unfold step? at h
  split at h
  · cases h
  · cases h
  · rename_i u hu
    obtain ⟨t', ht, heq⟩ := Option.map_eq_some_iff.1 h
    cases heq
    obtain ⟨q, hq, heq⟩ := Option.bind_eq_some_iff.1 ht
    cases heq
    obtain ⟨m, kind, rfl, hne, hle⟩ := Lexer.exists_match_of_step hu
    have hoffset := offset_of_advance? hq (Nat.lt_of_le_of_lt hle input.byteLength_lt)
    have := Text.byteLength_pos hne
    simp only [Lexer.tokenOf] at hoffset ⊢
    omega

/-- The first kept piece from a state on; nothing where the machine stops. -/
def scan? (machine : Machine) (l : Lexer) (input : Input machine.bound) (s : ScanState) :
    Option (Except Error (Option Token)) :=
  match _h : machine.step? l input.text s with
  | none => none
  | some .ended => some (.ok none)
  | some (.failed e) => some (.error e)
  | some (.piece t) => if t.keep then some (.ok (some t)) else machine.scan? l input t.resume
termination_by Text.byteLength input.text - s.offset
decreasing_by have := offset_lt_of_step? _h; omega

end Machine

end ModalLex
