import ModalLex.Proofs.Ahead
import ModalLex.Proofs.Counters
import ModalLex.Proofs.Standing

/-!
# Restarting

If no pattern looks behind, a scan that begins after a text finds what it would find if the rest
were the whole input. All that differs is where things lie: characters, bytes and rows are counted
from the start of the text before, and so are columns in the row that both share (`run_append`).
-/

namespace ModalLex

namespace Text

/-- The column of the row `row` once `p` comes before it; only the first row goes on from a row
of `p`. -/
def columnBehind (p : List Char) (row column : Nat) : Nat :=
  if row = 1 then column + (lastRow p).length else column

end Text

/-! ## With a text before -/

section Behind

variable (p : List Char)

def Position.behind (q : Position) : Position where
  index := q.index + p.length
  offset := q.offset + Text.byteLength p
  rowBegin := q.rowBegin + p.count '\n'
  columnBegin := Text.columnBehind p q.rowBegin q.columnBegin
  rowEnd := q.rowEnd + p.count '\n'
  columnEnd := Text.columnBehind p q.rowEnd q.columnEnd

def ScanState.behind (s : ScanState) : ScanState where
  context := s.context
  index := s.index + p.length
  offset := s.offset + Text.byteLength p
  row := s.row + p.count '\n'
  column := Text.columnBehind p s.row s.column

def Token.behind (t : Token) : Token :=
  { t with position := t.position.behind p, resume := t.resume.behind p }

def Error.behind (e : Error) : Error := { e with position := e.position.map (Position.behind p) }

def Step.behind : Step → Step
  | ended => ended
  | failed e => failed (e.behind p)
  | piece t => piece (t.behind p)

/-- The run with everything where it lies once `p` comes before the input. -/
def Run.behind (r : Run) : Run := ⟨r.tokens.map (Token.behind p), r.error.map (Error.behind p)⟩

end Behind

/-! ## The same steps -/

section Append

variable {p text : List Char} {id : ContextId}

namespace Text

/-- What is as far from the end of `p` as from the start of a text lies where it does behind `p`. -/
theorem behind_of_parallel {row column row' column' : Nat}
    (h : Cell.Parallel ⟨1, 1⟩ ⟨rowAfter p, columnAfter p⟩ ⟨row, column⟩ ⟨row', column'⟩) :
    row' = row + p.count '\n' ∧ column' = columnBehind p row column := by
  cases h with
  | beside columns =>
    rw [length_lastRow, columnBehind, if_pos rfl]
    exact ⟨rfl, Nat.add_right_comm ..⟩
  | below rows column =>
    have hrow : ¬ 1 + rows + 1 = 1 := by omega
    rw [columnBehind, if_neg hrow]
    exact ⟨by simp only [rowAfter]; omega, rfl⟩

end Text

theorem ScanState.after_append (id : ContextId) (p text : List Char) :
    after id (p ++ text) = (after id text).behind p := by
  have hcell : Cell.Parallel ⟨1, 1⟩ ⟨Text.rowAfter p, Text.columnAfter p⟩ (after id text).cell
      (after id (p ++ text)).cell := by
    rw [← advance_after id p text, ← List.nil_append text, ← advance_after id [] text,
      List.nil_append, advance_cell, advance_cell]
    exact Cell.Parallel.foldl text (.beside 0)
  obtain ⟨hrow, hcolumn⟩ := Text.behind_of_parallel hcell
  simp only [after] at hrow hcolumn
  have hindex : (p ++ text).length = text.length + p.length := by
    rw [List.length_append, Nat.add_comm]
  have hoffset : Text.byteLength (p ++ text) = Text.byteLength text + Text.byteLength p := by
    rw [Text.byteLength_append, Nat.add_comm]
  simp only [after, behind, hindex, hoffset, hrow, hcolumn]

namespace Lexer

variable {l : Lexer}

/-- No pattern of the lexer looks behind. -/
def LooksAhead (l : Lexer) : Prop := ∀ x ∈ l.contexts, x.2.node.looksBehind = false

theorem tokenOf_behind (m : Match) (kind : String) :
    tokenOf ((ScanState.after id text).behind p) m kind
      = (tokenOf (.after id text) m kind).behind p := by
  have hresume : (tokenOf ((ScanState.after id text).behind p) m kind).resume
      = (tokenOf (.after id text) m kind).resume.behind p := by
    rw [← ScanState.after_append, resume_tokenOf_after, resume_tokenOf_after, List.append_assoc,
      ScanState.after_append]
  have hrow := congrArg ScanState.row hresume
  have hcolumn := congrArg ScanState.column hresume
  simp only [tokenOf, Token.behind, Position.behind, ScanState.behind] at hresume hrow hcolumn ⊢
  rw [hrow, hcolumn, hresume]

theorem stepOfMatch_behind (c : Context) (m : Match) :
    l.stepOfMatch c ((ScanState.after id text).behind p) m
      = (l.stepOfMatch c (.after id text) m).behind p := by
  have hcontext :
      ((ScanState.after id text).behind p).context = (ScanState.after id text).context := rfl
  unfold stepOfMatch
  simp only [tokenOf_behind, hcontext]
  by_cases hnext : m.next ≠ (ScanState.after id text).context ∧ l.context? m.next = none
  · simp only [if_pos hnext]
    rfl
  · simp only [if_neg hnext]
    cases m.kind <;> rfl

/-- A match is the same behind `p`, if the context does not look behind. -/
theorem matchSpot_eq_of_ahead {c : Context} (h : c.node.looksBehind = false) (index : Nat)
    (before before' : Option Char) (char : Char) (rest : List Char) :
    c.matchSpot (.at index before char rest) = c.matchSpot (.at index before' char rest) := by
  funext offset row column
  simp only [Context.matchSpot, Context.ruleAt?_eq_of_ahead h before before']

/-- At a character, the step from the end of a text finds the same behind `p`. -/
theorem step_cons_behind (h : l.LooksAhead) (char : Char) (rest : List Char) :
    l.step (p ++ (text ++ char :: rest)) ((ScanState.after id text).behind p)
      = (l.step (text ++ char :: rest) (.after id text)).behind p := by
  have hseek : Text.seek (ScanState.after id text).offset (text ++ char :: rest)
      = .at text.length text.getLast? char rest := Text.seek_append text char rest
  have hseekBehind : Text.seek ((ScanState.after id text).behind p).offset
      (p ++ (text ++ char :: rest))
        = .at (text.length + p.length) (p ++ text).getLast? char rest := by
    have happend := Text.seek_append (p ++ text) char rest
    rw [List.append_assoc, List.length_append, Nat.add_comm p.length] at happend
    rw [← happend, ← ScanState.after_append]
    rfl
  unfold step
  rw [hseek, hseekBehind, show ((ScanState.after id text).behind p).context = id from rfl,
    show (ScanState.after id text).context = id from rfl]
  rcases hc : l.context? id with _ | c
  · rfl
  · have hmatch := matchSpot_eq_of_ahead (h _ (mem_of_context? hc)) (text.length + p.length)
      (p ++ text).getLast? text.getLast? char rest
    rcases c.matchSpot_at text.getLast? char rest with ⟨m, hm⟩ | ⟨cause, he⟩
    · simp only [hmatch, hm]
      exact stepOfMatch_behind c m
    · simp only [hmatch, he]
      rfl

/-- The step from the end of a text finds the same behind `p`. -/
theorem step_behind (h : l.LooksAhead) {input : List Char} (htext : text <+: input) :
    l.step (p ++ input) ((ScanState.after id text).behind p)
      = (l.step input (.after id text)).behind p := by
  obtain ⟨_ | ⟨char, rest⟩, rfl⟩ := htext
  · rw [List.append_nil, ← ScanState.after_append, step_eq_ended_iff.2 le_rfl,
      step_eq_ended_iff.2 le_rfl]
    rfl
  · exact step_cons_behind h char rest

/-! ## The same runs -/

theorem pieces_behind (hl : l.WellGrouped) (h : l.LooksAhead) {input : List Char}
    (htext : text <+: input) :
    l.pieces (p ++ input) ((ScanState.after id text).behind p)
      = (l.pieces input (.after id text)).behind p := by
  generalize hs : ScanState.after id text = s
  fun_induction pieces l input s generalizing id text with
  | case1 s hstep =>
    subst hs
    rw [pieces_eq, step_behind h htext, hstep]
    rfl
  | case2 s e hstep =>
    subst hs
    rw [pieces_eq, step_behind h htext, hstep]
    rfl
  | case3 s t hstep ih =>
    subst hs
    have hstands := standsAfter_of_step hl htext hstep
    rw [pieces_eq, step_behind h htext, hstep]
    exact congrArg (Run.cons (t.behind p)) (ih hstands.slice hstands.resume.symm)

theorem kept_behind (r : Run) : (r.behind p).kept = r.kept.behind p := by
  simp only [Run.kept, Run.behind, List.filter_map]
  rfl

/-- If no pattern looks behind, the run on a text from its start is, but for where things lie, the
run on it behind another text from the end of that one. -/
theorem run_append (hl : l.WellGrouped) (h : l.LooksAhead) (id : ContextId) (p s : List Char) :
    l.run (p ++ s) ((ScanState.start id).advance p) = (l.run s (.start id)).behind p := by
  have hstart : (ScanState.start id).advance p = (ScanState.after id []).behind p := by
    rw [← ScanState.after_append, List.append_nil]
    exact ScanState.advance_after id [] p
  rw [hstart, run_eq_kept, run_eq_kept, pieces_behind hl h List.nil_prefix, kept_behind]
  rfl

open scoped Unicode in
/-- The column of the word goes on from the row before; that of the error, a row below, does not. -/
theorem run_append_noteLexer :
    let word : Token :=
      ⟨"word", "é", ⟨3, 3, 2, 2, 2, 3⟩, true, ⟨.name "text", 4, 5, 2, 3⟩⟩
    let error : Error := ⟨.noRuleMatches 'x' "no note", some ⟨6, 7, 3, 1, 3, 1⟩⟩
    noteLexer.Built ∧ noteLexer.WellGrouped ∧ noteLexer.LooksAhead ∧
      noteLexer.run ['b', '\n', 'a', 'é', '<', '\n', 'x']
        ((ScanState.start (.name "text")).advance ['b', '\n', 'a']) = ⟨[word], some error⟩ := by
  intro word error
  have hahead : noteLexer.LooksAhead :=
    List.forall_mem_cons.2 ⟨rfl, List.forall_mem_singleton.2 rfl⟩
  have hrun : noteLexer.run ['é', '<', '\n', 'x'] (.start (.name "text"))
      = ⟨[⟨"word", "é", ⟨0, 0, 1, 1, 1, 2⟩, true, ⟨.name "text", 1, 2, 1, 2⟩⟩],
        some ⟨.noRuleMatches 'x' "no note", some ⟨3, 4, 2, 1, 2, 1⟩⟩⟩ := by
    rw [run_eq_step, show noteLexer.step _ (.start (.name "text"))
      = .piece ⟨"word", "é", ⟨0, 0, 1, 1, 1, 2⟩, true, ⟨.name "text", 1, 2, 1, 2⟩⟩ from rfl]
    change Run.cons _ (noteLexer.run _ ⟨.name "text", 1, 2, 1, 2⟩) = _
    rw [run_eq_step, show noteLexer.step _ ⟨.name "text", 1, 2, 1, 2⟩
      = .piece ⟨"", "<\n", ⟨1, 2, 1, 2, 2, 1⟩, false, ⟨.name "note", 3, 4, 2, 1⟩⟩ from rfl]
    change Run.cons _ (noteLexer.run _ ⟨.name "note", 3, 4, 2, 1⟩) = _
    rw [run_eq_step, show noteLexer.step _ ⟨.name "note", 3, 4, 2, 1⟩
      = .failed ⟨.noRuleMatches 'x' "no note", some ⟨3, 4, 2, 1, 2, 1⟩⟩ from rfl]
    rfl
  have happend := run_append wellGrouped_noteLexer hahead (.name "text") ['b', '\n', 'a']
    ['é', '<', '\n', 'x']
  rw [hrun] at happend
  exact ⟨built_noteLexer, wellGrouped_noteLexer, hahead, happend⟩

end Lexer

end Append

end ModalLex
