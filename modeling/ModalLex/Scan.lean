import ModalLex.Event

/-!
# Scanning

A scan goes from piece to piece: each is what the active context matches at the current offset,
and the classifier of its rule chooses the context of the next one. Skipped pieces are passed
over, up to the first one that is kept. A piece is never empty, so a scan ends.
-/

namespace ModalLex

/-- What is found at a state: the end of the input, an error, or a piece of text, kept or not. -/
inductive Step where
  | ended
  | failed (e : Error)
  | piece (t : Token)
deriving DecidableEq, Repr

namespace Lexer

/-- The error of a context that is not in the table. -/
def unknownContext (id : ContextId) (p : Position) : Error :=
  ⟨.unknownContext id.written, some p⟩

/-- The token of a match at a state. -/
def tokenOf (s : ScanState) (m : Match) (kind : String) : Token :=
  let resume := { s with context := m.next }.advance m.text.toList
  ⟨kind, m.text, ⟨s.index, s.offset, s.row, s.column, resume.row, resume.column⟩, m.keep, resume⟩

/-- What a match at a state in the context `c` leads to. A context that is not in the table comes
before a missing kind. -/
def stepOfMatch (l : Lexer) (c : Context) (s : ScanState) (m : Match) : Step :=
  let start : Position := .point s.index s.offset s.row s.column
  if m.next ≠ s.context ∧ l.context? m.next = none then .failed (unknownContext m.next start)
  else
    match m.kind with
    | none => .failed ⟨.missingKind c.message m.text, some start⟩
    | some kind => .piece (tokenOf s m kind)

/-- What is found at a state. -/
def step (l : Lexer) (input : List Char) (s : ScanState) : Step :=
  match Text.seek s.offset input with
  | .past _ => .ended
  | spot =>
    match l.context? s.context with
    | none => .failed (unknownContext s.context (.point s.index s.offset s.row s.column))
    | some c =>
      match c.matchSpot spot s.offset s.row s.column with
      | .error e => .failed e
      | .ok m => l.stepOfMatch c s m

/-- A piece is the token of a match with a kind. -/
theorem exists_kind_of_stepOfMatch {l : Lexer} {c : Context} {s : ScanState} {m : Match}
    {t : Token} (h : l.stepOfMatch c s m = .piece t) : ∃ kind, t = tokenOf s m kind := by
  unfold stepOfMatch at h
  dsimp only at h
  split at h
  · cases h
  · split at h
    · cases h
    · cases h
      exact ⟨_, rfl⟩

/-- A piece is the token of a match, which is not empty and lies within the input. -/
theorem exists_match_of_step {l : Lexer} {input : List Char} {s : ScanState} {t : Token}
    (h : l.step input s = .piece t) :
    ∃ m kind, t = tokenOf s m kind ∧ m.text.toList ≠ [] ∧
      s.offset + Text.byteLength m.text.toList ≤ Text.byteLength input := by
  unfold step at h
  split at h
  · cases h
  · split at h
    · cases h
    · split at h
      · cases h
      · rename_i m hm
        obtain ⟨kind, ht⟩ := exists_kind_of_stepOfMatch h
        refine ⟨m, kind, ht, Context.text_ne_nil_of_matchSpot hm, ?_⟩
        rcases hspot : Text.seek s.offset input with i | _ | ⟨i, before, char, rest⟩
        · rw [hspot] at hm
          cases hm
        · rw [hspot] at hm
          cases hm
        · rw [hspot] at hm
          have hinput := Text.byteLength_of_seekFrom hspot
          have htext := Context.byteLength_le_of_matchSpot hm
          omega

/-- A piece lies within the input, and the scan goes on after it. -/
theorem offset_lt_of_step {l : Lexer} {input : List Char} {s : ScanState} {t : Token}
    (h : l.step input s = .piece t) :
    s.offset < Text.byteLength input ∧ s.offset < t.resume.offset := by
  obtain ⟨m, kind, rfl, hne, hle⟩ := exists_match_of_step h
  have := Text.byteLength_pos hne
  simp only [tokenOf, ScanState.advance_offset]
  omega

/-- The first kept piece from a state on; nothing if the input ends before there is one. -/
def scan (l : Lexer) (input : List Char) (s : ScanState) : Except Error (Option Token) :=
  match _h : l.step input s with
  | .ended => .ok none
  | .failed e => .error e
  | .piece t => if t.keep then .ok (some t) else l.scan input t.resume
termination_by Text.byteLength input - s.offset
decreasing_by have := offset_lt_of_step _h; omega

/-- The first kept piece of an input. -/
def parse (l : Lexer) (input : List Char) : Except Error (Option Token) :=
  l.scan input l.initialState

/-- The scan goes on after a kept piece. -/
theorem offset_lt_of_scan {l : Lexer} {input : List Char} {s : ScanState} {t : Token}
    (h : l.scan input s = .ok (some t)) :
    s.offset < Text.byteLength input ∧ s.offset < t.resume.offset := by
  fun_induction scan l input s with
  | case1 => cases h
  | case2 => cases h
  | case3 s u hs => cases h; exact offset_lt_of_step hs
  | case4 s u hs _ ih =>
    have := offset_lt_of_step hs
    have := ih h
    omega

/-! ## What is told -/

/-- What is told of a match at a state. A context that is not in the table is told by the error
alone. -/
def matchLog (l : Lexer) (s : ScanState) (m : Match) : List Event :=
  let outcome : Event := match m.kind with
    | none => .noKind m.text
    | some kind =>
      if m.keep then .accepted m.text (tokenOf s m kind).position
      else .skipped m.text (tokenOf s m kind).position
  if m.next = s.context then [outcome]
  else if l.context? m.next = none then []
  else [.switching s.context m.next, outcome]

/-- What is told of one step. -/
def stepLog (l : Lexer) (input : List Char) (s : ScanState) : List Event :=
  match Text.seek s.offset input with
  | .past _ => []
  | spot =>
    match l.context? s.context with
    | none => []
    | some c =>
      match c.matchSpot spot s.offset s.row s.column with
      | .error e => [.scanFailed s.context e]
      | .ok m => l.matchLog s m

/-- What is told while the first kept piece is looked for. -/
def scanLog (l : Lexer) (input : List Char) (s : ScanState) : List Event :=
  l.stepLog input s ++
    match _h : l.step input s with
    | .piece t => if t.keep then [] else l.scanLog input t.resume
    | _ => []
termination_by Text.byteLength input - s.offset
decreasing_by have := offset_lt_of_step _h; omega

/-- What is told while all kept pieces from a state on are looked for. -/
def drainLog (l : Lexer) (input : List Char) (s : ScanState) : List Event :=
  l.scanLog input s ++
    match _h : l.scan input s with
    | .ok (some t) => l.drainLog input t.resume
    | _ => []
termination_by Text.byteLength input - s.offset
decreasing_by have := offset_lt_of_scan _h; omega

end Lexer

end ModalLex
