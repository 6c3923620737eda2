import ModalLex.Machine
import ModalLex.Proofs.Counters

/-!
# Scans of machines

A machine finds at a state what is found with counters that have no bound, if it finds anything: the
same where it stops at an overflow (`eq_scan_of_stops`), and the same with the counters modulo the
bound where sums wrap (`scan?_wraps`). It finds something where there is room for the bytes that are
left (`exists_scan?`); so a run from the start of an input is the one without a bound
(`run?_initialState`).
-/

namespace ModalLex

open Machine

/-! ## Counters as a machine has them -/

/-- A number as it stands in a machine that sums have led to it. -/
def Machine.reduce (machine : Machine) (n : Nat) : Nat :=
  match machine.overflow with
  | .stops => n
  | .wraps => n % machine.bound

/-- A state with its counters as a machine has them. The offset is within the input. -/
def ScanState.on (machine : Machine) (s : ScanState) : ScanState where
  context := s.context
  index := machine.reduce s.index
  offset := s.offset
  row := machine.reduce s.row
  column := machine.reduce s.column

/-- The state moved to another offset. -/
def ScanState.atOffset (s : ScanState) (offset : Nat) : ScanState := { s with offset }

def Position.on (machine : Machine) (p : Position) : Position where
  index := machine.reduce p.index
  offset := p.offset
  rowBegin := machine.reduce p.rowBegin
  columnBegin := machine.reduce p.columnBegin
  rowEnd := machine.reduce p.rowEnd
  columnEnd := machine.reduce p.columnEnd

def Token.on (machine : Machine) (t : Token) : Token :=
  { t with position := t.position.on machine, resume := t.resume.on machine }

def Error.on (machine : Machine) (e : Error) : Error :=
  { e with position := e.position.map (.on machine) }

def Step.on (machine : Machine) : Step → Step
  | .ended => .ended
  | .failed e => .failed (e.on machine)
  | .piece t => .piece (t.on machine)

def Run.on (machine : Machine) (r : Run) : Run :=
  ⟨r.tokens.map (.on machine), r.error.map (.on machine)⟩

/-- What a scan finds, with the counters as a machine has them. -/
def Found.on (machine : Machine) : Except Error (Option Token) → Except Error (Option Token)
  | .ok t => .ok (t.map (.on machine))
  | .error e => .error (e.on machine)

/-- The counters are numbers of a machine with the bound. -/
structure ScanState.Below (bound : Nat) (s : ScanState) : Prop where
  index : s.index < bound
  row : s.row < bound
  column : s.column < bound

/-- A machine wraps, or has numbers to count each byte that is left as a character of a new row. -/
def ScanState.HasRoom (machine : Machine) (left : Nat) (s : ScanState) : Prop :=
  machine.overflow = .wraps ∨ (s.index + left < machine.bound ∧ s.row + left < machine.bound ∧
    s.column + left < machine.bound)

namespace Machine

variable {machine : Machine} {l : Lexer} {s q : ScanState} {text : List Char}

theorem reduce_of_wraps (h : machine.overflow = .wraps) (n : Nat) :
    machine.reduce n = n % machine.bound := by
  rw [reduce, h]

theorem reduce_of_lt {n : Nat} (h : n < machine.bound) : machine.reduce n = n := by
  unfold reduce
  split
  · rfl
  · exact Nat.mod_eq_of_lt h

theorem on_of_below (h : s.Below machine.bound) : s.on machine = s := by
  rw [ScanState.on, reduce_of_lt h.index, reduce_of_lt h.row, reduce_of_lt h.column]

/-! ## Sums -/

theorem reduce_reduce_add (a b : Nat) :
    machine.reduce (machine.reduce a + b) = machine.reduce (a + b) := by
  unfold reduce
  split
  · rfl
  · exact Nat.mod_add_mod a machine.bound b

/-- A sum is right as far as the machine has numbers. -/
theorem eq_reduce_of_add? {a b n : Nat} (h : machine.add? (machine.reduce a) b = some n) :
    n = machine.reduce (a + b) := by
  rw [← reduce_reduce_add]
  unfold add? at h
  split at h
  · rename_i hlt
    cases h
    exact (reduce_of_lt hlt).symm
  · split at h
    · cases h
    · rename_i hwraps
      cases h
      exact (reduce_of_wraps hwraps _).symm

theorem eq_on_of_countChar? {c : Char} {offset : Nat} (hbound : 1 < machine.bound)
    (h : machine.countChar? ((s.on machine).atOffset offset) c = some q) :
    q = ((s.advanceChar c).on machine).atOffset offset := by
  obtain ⟨index, hindex, h⟩ := Option.bind_eq_some_iff.1 h
  unfold ScanState.advanceChar
  split_ifs at h ⊢ with hc
  · obtain ⟨row, hrow, h⟩ := Option.bind_eq_some_iff.1 h
    cases h
    rw [eq_reduce_of_add? hindex, eq_reduce_of_add? hrow]
    simp only [ScanState.on, ScanState.atOffset, reduce_of_lt hbound]
  · obtain ⟨column, hcolumn, h⟩ := Option.bind_eq_some_iff.1 h
    cases h
    rw [eq_reduce_of_add? hindex, eq_reduce_of_add? hcolumn]
    rfl

theorem eq_on_of_foldlM {offset : Nat} (hbound : 1 < machine.bound) :
    ∀ {text : List Char} {s q : ScanState},
      text.foldlM machine.countChar? ((s.on machine).atOffset offset) = some q →
        q = ((s.advance text).on machine).atOffset offset
  | [], s, q, h => by
    cases h
    rfl
  | c :: text, s, q, h => by
    rw [List.foldlM_cons] at h
    obtain ⟨s', hs, h⟩ := Option.bind_eq_some_iff.1 h
    obtain rfl := eq_on_of_countChar? hbound hs
    have hq := eq_on_of_foldlM hbound h
    exact hq

/-- Within an input the state moves past a text as it does without a bound. -/
theorem eq_on_of_advance? (hne : text ≠ [])
    (hlt : s.offset + Text.byteLength text < machine.bound)
    (h : machine.advance? (s.on machine) text = some q) : q = (s.advance text).on machine := by
  have hpos := Text.byteLength_pos hne
  rw [advance?, show (s.on machine).offset = s.offset from rfl, add?_of_lt hlt] at h
  rw [eq_on_of_foldlM (by omega) h, ← ScanState.advance_offset]
  rfl

/-! ## Steps -/

theorem step_on (machine : Machine) (l : Lexer) {input : List Char}
    (hinput : Text.byteLength input < machine.bound) (s : ScanState) :
    (l.step input s).Rel
      (fun t u => ∃ m kind, t = Lexer.tokenOf s m kind ∧ u = Lexer.tokenOf (s.on machine) m kind)
      (fun e f => f = e.on machine) (l.step input (s.on machine)) := by
  have hoffset : (s.on machine).offset = s.offset := rfl
  have hcontext : (s.on machine).context = s.context := rfl
  unfold Lexer.step
  rw [hoffset, hcontext]
  -- a match that fails gives the index that it counts in the input, not the one of the state
  have hpoint : ∀ cause index, index < machine.bound →
      (⟨cause, some (.point index s.offset (s.on machine).row (s.on machine).column)⟩ : Error)
        = Error.on machine ⟨cause, some (.point index s.offset s.row s.column)⟩ := by
    intro cause index hindex
    simp only [Error.on, Option.map_some, Position.on, Position.point, reduce_of_lt hindex]
    rfl
  rcases hspot : Text.seek s.offset input with i | _ | ⟨i, before, char, rest⟩
  · exact .ended
  · rcases l.context? s.context with _ | c
    · exact .failed rfl
    · refine .failed (hpoint _ _ ?_)
      have hlt : ¬ Text.byteLength input ≤ s.offset := fun hle => by
        obtain ⟨i, hi⟩ := Text.exists_seekFrom_eq_past hle 0 []
        rw [Text.seek, hi] at hspot
        cases hspot
      omega
  · rcases l.context? s.context with _ | c
    · exact .failed rfl
    · rcases c.matchSpot_at before char rest with ⟨m, hm⟩ | ⟨cause, he⟩
      · simp only [hm]
        unfold Lexer.stepOfMatch
        rw [hcontext]
        split
        · exact .failed rfl
        · cases m.kind with
          | none => exact .failed rfl
          | some kind => exact .piece ⟨m, kind, rfl, rfl⟩
      · simp only [he]
        refine .failed (hpoint _ _ ?_)
        obtain ⟨before, rfl, -, rfl, -⟩ := Text.exists_of_seek_eq_at hspot
        have := Text.length_le_byteLength before
        rw [Text.byteLength_append] at hinput
        omega

theorem recount?_tokenOf (m : Match) (kind : String) :
    machine.recount? s (Lexer.tokenOf s m kind)
      = (machine.advance? { s with context := m.next } m.text.toList).map fun q =>
        ⟨kind, m.text, ⟨s.index, s.offset, s.row, s.column, q.row, q.column⟩, m.keep, q⟩ := by
  rw [recount?, show (Lexer.tokenOf s m kind).resume.context = m.next from
    ScanState.advance_context _ _, Option.map_eq_bind]
  rfl

theorem eq_on_of_recount? {m : Match} {kind : String} {t : Token} (hne : m.text.toList ≠ [])
    (hlt : s.offset + Text.byteLength m.text.toList < machine.bound)
    (h : machine.recount? (s.on machine) (Lexer.tokenOf (s.on machine) m kind) = some t) :
    t = (Lexer.tokenOf s m kind).on machine := by
  rw [recount?_tokenOf] at h
  obtain ⟨q, hq, rfl⟩ := Option.map_eq_some_iff.1 h
  rw [eq_on_of_advance? (s := { s with context := m.next }) hne hlt hq]
  rfl

/-- A machine finds at a state what is found without a bound, as far as it has numbers. -/
theorem eq_on_of_step? {input : List Char} (hinput : Text.byteLength input < machine.bound)
    {found : Step} (h : machine.step? l input (s.on machine) = some found) :
    found = (l.step input s).on machine := by
  have hrel := step_on machine l hinput s
  unfold step? at h
  generalize l.step input (s.on machine) = found' at h hrel
  generalize hs : l.step input s = unbounded at hrel ⊢
  cases hrel with
  | ended => exact (Option.some.inj h).symm
  | failed he =>
    rw [← Option.some.inj h, he]
    rfl
  | piece ht =>
    obtain ⟨m, kind, rfl, rfl⟩ := ht
    obtain ⟨m', kind', heq, hne, hle⟩ := Lexer.exists_match_of_step hs
    rw [show m'.text = m.text from congrArg Token.text heq.symm] at hne hle
    obtain ⟨t, ht, rfl⟩ := Option.map_eq_some_iff.1 h
    rw [eq_on_of_recount? hne (Nat.lt_of_le_of_lt hle hinput) ht]
    rfl

/-! ## Scans and runs -/

theorem scan?_eq (machine : Machine) (l : Lexer) (input : Input machine.bound) (s : ScanState) :
    machine.scan? l input s =
      (machine.step? l input.text s).bind fun
        | .ended => some (.ok none)
        | .failed e => some (.error e)
        | .piece t => if t.keep then some (.ok (some t)) else machine.scan? l input t.resume := by
  rw [scan?]
  split <;> simp_all

/-- The scan goes on after a kept piece. -/
theorem offset_lt_of_scan? {input : Input machine.bound} {t : Token}
    (h : machine.scan? l input s = some (.ok (some t))) :
    s.offset < Text.byteLength input.text ∧ s.offset < t.resume.offset := by
  fun_induction scan? machine l input s with
  | case1 => cases h
  | case2 => cases h
  | case3 => cases h
  | case4 s u hs => cases h; exact offset_lt_of_step? hs
  | case5 s u hs _ ih =>
    have := offset_lt_of_step? hs
    have := ih h
    omega

/-- What a machine finds by scanning from a state, and again from the state after each token. -/
def run? (machine : Machine) (l : Lexer) (input : Input machine.bound) (s : ScanState) :
    Option Run :=
  match _h : machine.scan? l input s with
  | none => none
  | some (.ok none) => some ⟨[], none⟩
  | some (.error e) => some ⟨[], some e⟩
  | some (.ok (some t)) => (machine.run? l input t.resume).map (.cons t)
termination_by Text.byteLength input.text - s.offset
decreasing_by have := offset_lt_of_scan? _h; omega

theorem run?_eq (machine : Machine) (l : Lexer) (input : Input machine.bound) (s : ScanState) :
    machine.run? l input s =
      (machine.scan? l input s).bind fun
        | .ok none => some ⟨[], none⟩
        | .error e => some ⟨[], some e⟩
        | .ok (some t) => (machine.run? l input t.resume).map (.cons t) := by
  rw [run?]
  split <;> simp_all

/-- A machine finds by scanning what is found without a bound, as far as it has numbers. -/
theorem eq_on_of_scan? {input : Input machine.bound} {found : Except Error (Option Token)}
    (h : machine.scan? l input (s.on machine) = some found) :
    found = Found.on machine (l.scan input.text s) := by
  fun_induction Lexer.scan l input.text s with
  | case1 s hs | case2 s e hs =>
    rw [scan?_eq] at h
    obtain ⟨step, hstep, h⟩ := Option.bind_eq_some_iff.1 h
    rw [eq_on_of_step? input.byteLength_lt hstep, hs] at h
    exact (Option.some.inj h).symm
  | case3 s t hs hk =>
    rw [scan?_eq] at h
    obtain ⟨step, hstep, h⟩ := Option.bind_eq_some_iff.1 h
    rw [eq_on_of_step? input.byteLength_lt hstep, hs] at h
    simp only [Step.on, show (t.on machine).keep = t.keep from rfl, hk, if_true] at h
    exact (Option.some.inj h).symm
  | case4 s t hs hk ih =>
    rw [scan?_eq] at h
    obtain ⟨step, hstep, h⟩ := Option.bind_eq_some_iff.1 h
    rw [eq_on_of_step? input.byteLength_lt hstep, hs] at h
    simp only [Step.on, show (t.on machine).keep = t.keep from rfl, hk] at h
    exact ih h

/-- A run of a machine is the one without a bound, as far as it has numbers. -/
theorem eq_on_of_run? {input : Input machine.bound} {r : Run}
    (h : machine.run? l input (s.on machine) = some r) : r = (l.run input.text s).on machine := by
  fun_induction Lexer.run l input.text s generalizing r with
  | case1 s hs | case2 s e hs =>
    rw [run?_eq] at h
    obtain ⟨found, hfound, h⟩ := Option.bind_eq_some_iff.1 h
    rw [eq_on_of_scan? hfound, hs] at h
    exact (Option.some.inj h).symm
  | case3 s t hs ih =>
    rw [run?_eq] at h
    obtain ⟨found, hfound, h⟩ := Option.bind_eq_some_iff.1 h
    rw [eq_on_of_scan? hfound, hs] at h
    obtain ⟨r', hr, rfl⟩ := Option.map_eq_some_iff.1 h
    rw [ih hr]
    rfl

/-! ## Room for what is left -/

theorem exists_add? {a b : Nat} (h : machine.overflow = .wraps ∨ a + b < machine.bound) :
    ∃ n, machine.add? a b = some n ∧ n ≤ a + b := by
  unfold add?
  split
  · exact ⟨_, rfl, Nat.le_refl _⟩
  · rename_i hnot
    rw [h.resolve_right hnot]
    exact ⟨_, rfl, Nat.mod_le ..⟩

theorem exists_countChar? {c : Char} {left : Nat} (h : s.HasRoom machine (c.utf8Size + left)) :
    ∃ q, machine.countChar? s c = some q ∧ q.HasRoom machine left := by
  have hpos := c.utf8Size_pos
  obtain ⟨index, hindex, _⟩ := exists_add? (h.imp_right fun h => (by omega : s.index + 1 < _))
  obtain ⟨row, hrow, _⟩ := exists_add? (h.imp_right fun h => (by omega : s.row + 1 < _))
  obtain ⟨column, hcolumn, _⟩ := exists_add? (h.imp_right fun h => (by omega : s.column + 1 < _))
  simp only [countChar?, hindex, hrow, hcolumn]
  split
  · exact ⟨_, rfl, h.imp_right fun h => by simp only; omega⟩
  · exact ⟨_, rfl, h.imp_right fun h => by simp only; omega⟩

theorem exists_foldlM {left : Nat} :
    ∀ {text : List Char} {s : ScanState}, s.HasRoom machine (Text.byteLength text + left) →
      ∃ q, text.foldlM machine.countChar? s = some q ∧ q.HasRoom machine left
  | [], s, h => ⟨s, rfl, by simpa using h⟩
  | c :: text, s, h => by
    rw [Text.byteLength_cons, Nat.add_assoc] at h
    obtain ⟨s', hs, h⟩ := exists_countChar? h
    obtain ⟨q, hq, hroom⟩ := exists_foldlM h
    refine ⟨q, ?_, hroom⟩
    rw [List.foldlM_cons, hs]
    exact hq

/-- A machine with room for what is left of an input takes a step and then has room for the rest. -/
theorem exists_step? {input : Input machine.bound}
    (h : s.HasRoom machine (Text.byteLength input.text - s.offset)) :
    ∃ found, machine.step? l input.text s = some found ∧ ∀ t, found = .piece t →
      t.resume.HasRoom machine (Text.byteLength input.text - t.resume.offset) := by
  unfold step?
  rcases hs : l.step input.text s with _ | e | t
  · exact ⟨_, rfl, nofun⟩
  · exact ⟨_, rfl, nofun⟩
  · obtain ⟨m, kind, rfl, -, hle⟩ := Lexer.exists_match_of_step hs
    have hinput := input.byteLength_lt
    have hroom : ScanState.HasRoom machine (Text.byteLength m.text.toList
        + (Text.byteLength input.text - (s.offset + Text.byteLength m.text.toList)))
        ⟨m.next, s.index, s.offset + Text.byteLength m.text.toList, s.row, s.column⟩ :=
      h.imp_right fun h => by simp only; omega
    obtain ⟨q, hq, hroom⟩ := exists_foldlM hroom
    have hadvance : machine.advance? { s with context := m.next } m.text.toList = some q := by
      rw [advance?, add?_of_lt (by simp only; omega)]
      exact hq
    have hoffset := offset_of_advance? hadvance (by simp only; omega)
    simp only [recount?_tokenOf, hadvance, Option.map_some]
    refine ⟨_, rfl, ?_⟩
    rintro _ ⟨⟩
    rw [show q.offset = s.offset + Text.byteLength m.text.toList from hoffset]
    exact hroom

theorem exists_scan? {input : Input machine.bound}
    (h : s.HasRoom machine (Text.byteLength input.text - s.offset)) :
    ∃ found, machine.scan? l input s = some found ∧ ∀ t, found = .ok (some t) →
      t.resume.HasRoom machine (Text.byteLength input.text - t.resume.offset) := by
  fun_induction scan? machine l input s with
  | case1 s hs =>
    obtain ⟨found, hfound, -⟩ := exists_step? (l := l) h
    rw [hs] at hfound
    cases hfound
  | case2 s hs => exact ⟨_, rfl, nofun⟩
  | case3 s e hs => exact ⟨_, rfl, nofun⟩
  | case4 s t hs hk =>
    obtain ⟨found, hfound, hroom⟩ := exists_step? (l := l) h
    rw [hs] at hfound
    cases hfound
    refine ⟨_, rfl, ?_⟩
    rintro _ ⟨⟩
    exact hroom t rfl
  | case5 s t hs hk ih =>
    obtain ⟨found, hfound, hroom⟩ := exists_step? (l := l) h
    rw [hs] at hfound
    cases hfound
    exact ih (hroom t rfl)

/-- A machine that wraps, or has room for what is left of an input, runs to the end. -/
theorem exists_run? {input : Input machine.bound}
    (h : s.HasRoom machine (Text.byteLength input.text - s.offset)) :
    ∃ r, machine.run? l input s = some r := by
  fun_induction run? machine l input s with
  | case1 s hs =>
    obtain ⟨found, hfound, -⟩ := exists_scan? (l := l) h
    rw [hs] at hfound
    cases hfound
  | case2 s hs => exact ⟨_, rfl⟩
  | case3 s e hs => exact ⟨_, rfl⟩
  | case4 s t hs ih =>
    obtain ⟨found, hfound, hroom⟩ := exists_scan? (l := l) h
    rw [hs] at hfound
    cases hfound
    obtain ⟨r, hr⟩ := ih (hroom t rfl)
    exact ⟨r.cons t, by rw [hr]; rfl⟩

/-! ## Where no sum overflows -/

section Stops

variable {bound : Nat} (overflow : Overflow)

theorem add?_of_stops {a b n : Nat} (h : add? ⟨bound, .stops⟩ a b = some n) :
    add? ⟨bound, overflow⟩ a b = some n := by
  unfold add? at h
  split at h
  · rename_i hlt
    rw [← h]
    exact add?_of_lt hlt
  · cases h

theorem countChar?_of_stops {c : Char} (h : countChar? ⟨bound, .stops⟩ s c = some q) :
    countChar? ⟨bound, overflow⟩ s c = some q := by
  obtain ⟨index, hindex, h⟩ := Option.bind_eq_some_iff.1 h
  refine Option.bind_eq_some_iff.2 ⟨index, add?_of_stops overflow hindex, ?_⟩
  split at h
  · rename_i hc
    obtain ⟨row, hrow, h⟩ := Option.bind_eq_some_iff.1 h
    rw [if_pos hc]
    exact Option.bind_eq_some_iff.2 ⟨row, add?_of_stops overflow hrow, h⟩
  · rename_i hc
    obtain ⟨column, hcolumn, h⟩ := Option.bind_eq_some_iff.1 h
    rw [if_neg hc]
    exact Option.bind_eq_some_iff.2 ⟨column, add?_of_stops overflow hcolumn, h⟩

theorem foldlM_of_stops :
    ∀ {text : List Char} {s : ScanState}, text.foldlM (countChar? ⟨bound, .stops⟩) s = some q →
      text.foldlM (countChar? ⟨bound, overflow⟩) s = some q
  | [], _, h => h
  | c :: text, s, h => by
    rw [List.foldlM_cons] at h ⊢
    obtain ⟨s', hs, h⟩ := Option.bind_eq_some_iff.1 h
    exact Option.bind_eq_some_iff.2 ⟨s', countChar?_of_stops overflow hs, foldlM_of_stops h⟩

theorem advance?_of_stops (h : advance? ⟨bound, .stops⟩ s text = some q) :
    advance? ⟨bound, overflow⟩ s text = some q := by
  obtain ⟨offset, hoffset, h⟩ := Option.bind_eq_some_iff.1 h
  refine Option.bind_eq_some_iff.2 ⟨offset, add?_of_stops overflow hoffset, ?_⟩
  exact foldlM_of_stops overflow h

theorem recount?_of_stops {t u : Token} (h : recount? ⟨bound, .stops⟩ s t = some u) :
    recount? ⟨bound, overflow⟩ s t = some u := by
  obtain ⟨q, hq, h⟩ := Option.bind_eq_some_iff.1 h
  exact Option.bind_eq_some_iff.2 ⟨q, advance?_of_stops overflow hq, h⟩

theorem step?_of_stops {input : List Char} {found : Step}
    (h : step? ⟨bound, .stops⟩ l input s = some found) :
    step? ⟨bound, overflow⟩ l input s = some found := by
  unfold step? at h ⊢
  split at h
  · exact h
  · exact h
  · obtain ⟨t, ht, rfl⟩ := Option.map_eq_some_iff.1 h
    exact Option.map_eq_some_iff.2 ⟨t, recount?_of_stops overflow ht, rfl⟩

/-- What a scan finds without an overflow is found on any machine with the bound. -/
theorem scan?_of_stops {input : Input bound} {found : Except Error (Option Token)}
    (h : scan? ⟨bound, .stops⟩ l input s = some found) :
    scan? ⟨bound, overflow⟩ l input s = some found := by
  fun_induction scan? ⟨bound, .stops⟩ l input s with
  | case1 => cases h
  | case2 s hs | case3 s e hs =>
    rw [scan?_eq, step?_of_stops overflow hs]
    exact h
  | case4 s t hs hk =>
    rw [scan?_eq, step?_of_stops overflow hs]
    exact (if_pos hk).trans h
  | case5 s t hs hk ih =>
    rw [scan?_eq, step?_of_stops overflow hs]
    exact (if_neg hk).trans (ih h)

theorem run?_of_stops {input : Input bound} {r : Run}
    (h : run? ⟨bound, .stops⟩ l input s = some r) :
    run? ⟨bound, overflow⟩ l input s = some r := by
  fun_induction run? ⟨bound, .stops⟩ l input s generalizing r with
  | case1 => cases h
  | case2 s hs | case3 s e hs =>
    rw [run?_eq, scan?_of_stops overflow hs]
    exact h
  | case4 s t hs ih =>
    rw [run?_eq, scan?_of_stops overflow hs]
    obtain ⟨r', hr, rfl⟩ := Option.map_eq_some_iff.1 h
    exact Option.map_eq_some_iff.2 ⟨r', ih hr, rfl⟩

end Stops

/-! ## Either machine -/

theorem on_stops (bound : Nat) :
    Found.on ⟨bound, .stops⟩ = id ∧ Run.on ⟨bound, .stops⟩ = id := by
  have htoken : Token.on ⟨bound, .stops⟩ = id := rfl
  have herror : Error.on ⟨bound, .stops⟩ = id := by
    funext ⟨cause, position⟩
    cases position <;> rfl
  refine ⟨funext fun found => ?_, funext fun r => ?_⟩
  · rcases found with e | t
    · rw [Found.on, herror]
      rfl
    · rw [Found.on, htoken, Option.map_id]
      rfl
  · rw [Run.on, htoken, herror, List.map_id, Option.map_id]
    rfl

section Either

variable {bound : Nat} {input : Input bound}

theorem eq_run_of_stops {r : Run} (hs : s.Below bound)
    (h : run? ⟨bound, .stops⟩ l input s = some r) : r = l.run input.text s := by
  have hon : s.on ⟨bound, .stops⟩ = s := on_of_below hs
  rw [← hon] at h
  rw [eq_on_of_run? h, (on_stops bound).2]
  rfl

/-- Where one more than the bytes of an input is below the bound, the run from the start of the
input is the one without a bound. -/
theorem run?_initialState (l : Lexer) (overflow : Overflow)
    (h : Text.byteLength input.text + 1 < bound) :
    run? ⟨bound, overflow⟩ l input l.initialState = some (l.run input.text l.initialState) := by
  have hbelow : l.initialState.Below bound := by
    constructor <;> simp only [Lexer.initialState, ScanState.start] <;> omega
  obtain ⟨r, hr⟩ : ∃ r, run? ⟨bound, .stops⟩ l input l.initialState = some r :=
    exists_run? (.inr (by simp only [Lexer.initialState, ScanState.start]; omega))
  rw [run?_of_stops overflow hr, eq_run_of_stops hbelow hr]

end Either

end Machine

end ModalLex
