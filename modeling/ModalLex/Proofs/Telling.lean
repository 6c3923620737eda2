import ModalLex.Proofs.Failing
import ModalLex.Proofs.Runs

/-!
# What is told

What is told while the tokens of an input are drained is a trace of the run. The pieces it names
are the input up to where the run ends, the accepted ones are the tokens, and the contexts it names
are those that the pieces are matched in: a switch is told right before what comes of the match
that makes it, and only there (`faithful_drainLog`).
-/

namespace ModalLex

namespace Event

/-- The position of a piece that is told to be accepted or skipped. -/
def position? : Event → Option Position
  | accepted _ position | skipped _ position => some position
  | _ => none

/-- The text of a piece that is told to be accepted or skipped. -/
def part : Event → List Char
  | accepted text _ | skipped text _ => text.toList
  | _ => []

/-- The text and the position of a piece that is told to be accepted. -/
def accepted? : Event → Option (String × Position)
  | accepted text position => some (text, position)
  | _ => none

/-- The context that is switched to. -/
def target? : Event → Option ContextId
  | switching _ target => some target
  | _ => none

/-- Whether it is told what comes of a match. -/
def isOutcome : Event → Bool
  | accepted .. | skipped .. | noKind .. => true
  | _ => false

/-- What is told to come of the match. -/
inductive Tells (m : Match) : Event → Prop where
  | noKind : m.kind = none → Tells m (.noKind m.text)
  | accepted (position : Position) : m.kind ≠ none → m.keep = true →
      Tells m (.accepted m.text position)
  | skipped (position : Position) : m.kind ≠ none → m.keep = false →
      Tells m (.skipped m.text position)

theorem Tells.isOutcome {m : Match} {e : Event} (h : e.Tells m) : e.isOutcome := by
  cases h <;> rfl

end Event

/-- The texts of the pieces that are told, one after the other. -/
def partsOf (log : List Event) : List Char := log.flatMap Event.part

/-- The last context that is switched to, or the context `id` if there is none. -/
def contextAfter (id : ContextId) (log : List Event) : ContextId :=
  (log.filterMap Event.target?).getLast?.getD id

section Logs

variable {id : ContextId} {e x : Event} {as before after log : List Event}

@[simp] theorem partsOf_nil : partsOf [] = [] := rfl

@[simp] theorem partsOf_append (a b : List Event) : partsOf (a ++ b) = partsOf a ++ partsOf b := by
  simp [partsOf]

@[simp] theorem partsOf_cons (e : Event) (log : List Event) :
    partsOf (e :: log) = e.part ++ partsOf log := by
  simp [partsOf]

@[simp] theorem contextAfter_nil (id : ContextId) : contextAfter id [] = id := rfl

theorem contextAfter_append (id : ContextId) (a b : List Event) :
    contextAfter id (a ++ b) = contextAfter (contextAfter id a) b := by
  simp only [contextAfter, List.filterMap_append, List.getLast?_append]
  cases (b.filterMap Event.target?).getLast? <;> rfl

theorem contextAfter_cons_of_outcome (h : e.isOutcome) (log : List Event) :
    contextAfter id (e :: log) = contextAfter id log := by
  cases e <;> first | rfl | cases h

/-- An event among others comes before one of them, is that one, or comes after it. -/
theorem append_cons_eq_append_cons (h : as ++ e :: log = before ++ x :: after) :
    (x ∈ as ∧ ∃ between, as = before ++ x :: between ∧ after = between ++ e :: log) ∨
      (before = as ∧ x = e ∧ after = log) ∨
      ∃ before', before = as ++ e :: before' ∧ log = before' ++ x :: after := by
  rcases List.append_eq_append_iff.1 h with ⟨cs, rfl, hcs⟩ | ⟨cs, rfl, hcs⟩
  · cases cs with
    | nil =>
      obtain ⟨rfl, rfl⟩ := List.cons.inj hcs
      exact .inr (.inl ⟨by simp, rfl, rfl⟩)
    | cons c cs =>
      obtain ⟨rfl, rfl⟩ := List.cons.inj hcs
      exact .inr (.inr ⟨cs, rfl, rfl⟩)
  · cases cs with
    | nil =>
      obtain ⟨rfl, rfl⟩ := List.cons.inj hcs
      exact .inr (.inl ⟨by simp, rfl, rfl⟩)
    | cons c cs =>
      obtain ⟨rfl, rfl⟩ := List.cons.inj hcs
      exact .inl ⟨by simp, cs, rfl, rfl⟩

end Logs

/-- What the next `n` calls of an iterator tell. -/
def Tokens.told (l : Lexer) (input : List Char) : Nat → Tokens → List Event
  | 0, _ => []
  | n + 1, ts => ts.state.elim [] (l.scanLog input) ++ told l input n (ts.next l input).2

namespace Lexer

/-- The switch that the match makes in the context `id`, if it chooses another context. -/
def switches (id : ContextId) (m : Match) : List Event :=
  if m.next = id then [] else [.switching id m.next]

/-- A match is made in the context that the events `told` lead to and after the pieces that they
tell, and `e` tells what comes of it; in between nothing is told but the switch that the match
makes. -/
structure Outcome (l : Lexer) (input : List Char) (id : ContextId) (before : List Char)
    (told earlier : List Event) (c : Context) (m : Match) (e : Event) : Prop where
  context : l.context? (contextAfter id told) = some c
  matched : c.Matches input (before ++ partsOf told) m
  tells : e.Tells m
  earlier_eq : earlier = told ++ switches (contextAfter id told) m
  /-- What is told before is a piece, and so no switch. -/
  last : ∀ x, told.getLast? = some x → x.position? ≠ none

/-- The event `e` is told between the others as the run `r` has it, which goes on in the context
`id` after the text `before`. -/
structure FaithfulAt (l : Lexer) (input : List Char) (id : ContextId) (before : List Char)
    (r : Run) (earlier : List Event) (e : Event) (later : List Event) : Prop where
  /-- What is told to be accepted is the next token, and the run goes on after it in the context
  that the last switch has led to. -/
  token : ∀ text position, e = .accepted text position →
    ∃ t, r.tokens[(earlier.filterMap Event.accepted?).length]? = some t ∧ t.text = text ∧
      t.position = position ∧
      t.resume = .after (contextAfter id earlier) (before ++ partsOf earlier ++ text.toList)
  /-- A piece stands where those told before it end. -/
  position : ∀ p, e.position? = some p → p.offset = Text.byteLength (before ++ partsOf earlier)
  /-- A switch begins at the context that the one before it has led to, and what comes of the match
  that makes it comes next. -/
  switching : ∀ source target, e = .switching source target →
    source = contextAfter id earlier ∧ ∃ x rest, later = x :: rest ∧ x.isOutcome
  /-- What comes of a match is told right after the switch that the match makes, if it does. -/
  outcome : e.isOutcome → ∃ told c m, l.Outcome input id before told earlier c m e
  /-- A scan that fails does so in the context that the last switch has led to. -/
  failed : ∀ name error, e = .scanFailed name error → name = contextAfter id earlier

/-- What is told of the run `r`, which goes on in the context `id` after the text `before`. -/
structure Faithful (l : Lexer) (input : List Char) (id : ContextId) (before : List Char)
    (log : List Event) (r : Run) : Prop where
  /-- A run without an error has told all of the input. -/
  whole : r.error = none → before ++ partsOf log = input
  /-- Otherwise the input is told up to the error. -/
  upToError : ∀ e, r.error = some e → before ++ partsOf log <+: input ∧
    e.position = some (.after (before ++ partsOf log))
  /-- What is told to be accepted are the tokens, in their order. -/
  accepted : log.filterMap Event.accepted? = r.tokens.map fun t => (t.text, t.position)
  event : ∀ earlier e later, log = earlier ++ e :: later →
    l.FaithfulAt input id before r earlier e later

variable {l : Lexer} {input before : List Char} {id : ContextId} {s : ScanState} {c : Context}
  {m : Match}

/-! ## What one step tells -/

theorem stepLog_of_ended (h : Text.byteLength input ≤ s.offset) : l.stepLog input s = [] := by
  obtain ⟨i, hi⟩ := Text.seek_eq_past_iff.2 h
  unfold stepLog
  rw [hi]

theorem stepLog_of_matchAt (hc : l.context? s.context = some c)
    (hm : c.matchAt input s.offset s.row s.column = .ok m) :
    l.stepLog input s = l.matchLog s m := by
  unfold stepLog
  unfold Context.matchAt at hm
  split
  · rename_i i hi
    rw [hi] at hm
    cases hm
  · simp only [hc, hm]

theorem stepLog_of_context?_eq_none (hc : l.context? s.context = none) :
    l.stepLog input s = [] := by
  unfold stepLog
  split
  · rfl
  · simp only [hc]

theorem stepLog_of_matchAt_error {e : Error} (hlt : s.offset < Text.byteLength input)
    (hc : l.context? s.context = some c)
    (hm : c.matchAt input s.offset s.row s.column = .error e) :
    l.stepLog input s = [.scanFailed s.context e] := by
  unfold stepLog
  unfold Context.matchAt at hm
  split
  · rename_i i hi
    have := Text.seek_eq_past_iff.1 ⟨i, hi⟩
    omega
  · simp only [hc, hm]

/-- What is told to come of the match at a state. -/
def outcomeOf (s : ScanState) (m : Match) : Event :=
  match m.kind with
  | none => .noKind m.text
  | some kind =>
    if m.keep then .accepted m.text (tokenOf s m kind).position
    else .skipped m.text (tokenOf s m kind).position

/-- A match that chooses a context of the table is told after the switch that it makes. -/
theorem matchLog_of_registered (hnext : m.next = s.context ∨ l.context? m.next ≠ none) :
    l.matchLog s m = switches s.context m ++ [outcomeOf s m] := by
  unfold matchLog switches
  by_cases h : m.next = s.context
  · simp only [h, if_true, List.nil_append]
    rfl
  · simp only [h, if_false, hnext.resolve_left h, List.singleton_append]
    rfl

theorem tells_outcomeOf (s : ScanState) (m : Match) : (outcomeOf s m).Tells m := by
  unfold outcomeOf
  split
  · rename_i hkind
    exact .noKind hkind
  · rename_i kind hkind
    have hne : m.kind ≠ none := by simp [hkind]
    split
    · rename_i hkeep
      exact .accepted _ hne hkeep
    · rename_i hkeep
      exact .skipped _ hne (eq_false_of_ne_true hkeep)

theorem outcomeOf_of_kind {kind : String} (h : m.kind = some kind) :
    outcomeOf s m = if m.keep then .accepted m.text (tokenOf s m kind).position
      else .skipped m.text (tokenOf s m kind).position := by
  simp only [outcomeOf, h]

theorem part_outcomeOf (h : m.kind ≠ none) : (outcomeOf s m).part = m.text.toList := by
  obtain ⟨kind, hkind⟩ := Option.ne_none_iff_exists'.1 h
  rw [outcomeOf_of_kind hkind]
  split <;> rfl

theorem position?_outcomeOf {kind : String} (h : m.kind = some kind) :
    (outcomeOf s m).position? = some (tokenOf s m kind).position := by
  rw [outcomeOf_of_kind h]
  split <;> rfl

/-! ## Faithful logs -/

section Switches

variable {log : List Event}

theorem contextAfter_switches (id : ContextId) (m : Match) (log : List Event) :
    contextAfter id (switches id m ++ log) = contextAfter m.next log := by
  rw [contextAfter_append]
  unfold switches
  split
  · rename_i h
    rw [h]
    rfl
  · rfl

theorem partsOf_switches (id : ContextId) (m : Match) : partsOf (switches id m) = [] := by
  unfold switches
  split <;> rfl

theorem accepted?_switches (id : ContextId) (m : Match) :
    (switches id m).filterMap Event.accepted? = [] := by
  unfold switches
  split <;> rfl

/-- An event of a log that begins with a match is the switch that the match makes, is what comes of
it, or comes after that. -/
theorem event_of_switches {e x : Event} {earlier later : List Event}
    (h : switches id m ++ e :: log = earlier ++ x :: later) :
    (m.next ≠ id ∧ earlier = [] ∧ x = .switching id m.next ∧ later = e :: log) ∨
      (earlier = switches id m ∧ x = e ∧ later = log) ∨
      ∃ earlier', earlier = switches id m ++ e :: earlier' ∧ log = earlier' ++ x :: later := by
  rcases append_cons_eq_append_cons h with ⟨hmem, between, hbetween, rfl⟩ | h | h
  · unfold switches at hmem hbetween
    split at hmem
    · cases hmem
    · rename_i hne
      rw [if_neg hne] at hbetween
      obtain rfl := List.mem_singleton.1 hmem
      rcases earlier with _ | ⟨y, earlier⟩
      · obtain ⟨-, rfl⟩ := List.cons.inj hbetween
        exact .inl ⟨hne, rfl, rfl, rfl⟩
      · simp at hbetween
  · exact .inr (.inl h)
  · exact .inr (.inr h)

/-- What is told first comes of the match, after the switch it makes. -/
theorem outcome_of_matches {e : Event} (hc : l.context? id = some c) (hm : c.Matches input before m)
    (he : e.Tells m) : l.Outcome input id before [] (switches id m) c m e where
  context := hc
  matched := by rwa [partsOf_nil, List.append_nil]
  tells := he
  earlier_eq := rfl
  last := by simp

end Switches

section Runs

variable {log : List Event} {r : Run}

/-- Where nothing is told, the input ends or an error stands. -/
theorem faithful_nil (hwhole : r.error = none → before = input) (htokens : r.tokens = [])
    (herror : ∀ e, r.error = some e → before <+: input ∧ e.position = some (.after before)) :
    l.Faithful input id before [] r where
  whole h := by simpa using hwhole h
  upToError e h := by simpa using herror e h
  accepted := by simp [htokens]
  event := by simp

/-- Where a match fails, that is told. -/
theorem faithful_scanFailed {e : Error} (hbefore : before <+: input)
    (hposition : e.position = some (.after before)) :
    l.Faithful input id before [.scanFailed id e] ⟨[], some e⟩ where
  whole := by simp
  upToError := by
    rintro _ ⟨rfl⟩
    simpa [Event.part] using And.intro hbefore hposition
  accepted := rfl
  event earlier x later h := by
    obtain ⟨rfl, rfl, -⟩ : [] = earlier ∧ Event.scanFailed id e = x ∧ [] = later := by
      rcases earlier with _ | ⟨y, earlier⟩
      · simpa using h
      · simp at h
    constructor
    case failed =>
      rintro _ _ ⟨rfl⟩
      rfl
    all_goals simp [Event.position?, Event.isOutcome]

/-- The switch that a match makes is told from the context that the match is made in. -/
theorem faithfulAt_switching {e : Event} {target : ContextId} (he : e.isOutcome) :
    l.FaithfulAt input id before r [] (.switching id target) (e :: log) where
  token := by simp
  position := by simp [Event.position?]
  switching := by
    rintro _ _ ⟨rfl⟩
    exact ⟨rfl, e, log, rfl, he⟩
  outcome := by simp [Event.isOutcome]
  failed := by simp

/-- Where a match has no kind, that is told. -/
theorem faithful_noKind {e : Error} (hbefore : before <+: input)
    (hposition : e.position = some (.after before)) (hc : l.context? id = some c)
    (hm : c.Matches input before m) (hkind : m.kind = none) :
    l.Faithful input id before (switches id m ++ [.noKind m.text]) ⟨[], some e⟩ where
  whole := by simp
  upToError := by
    rintro _ ⟨rfl⟩
    simpa [partsOf_switches, Event.part] using And.intro hbefore hposition
  accepted := by simp [accepted?_switches, Event.accepted?]
  event earlier x later h := by
    have htells : (Event.noKind m.text).Tells m := .noKind hkind
    rcases event_of_switches h with ⟨-, rfl, rfl, rfl⟩ | ⟨rfl, rfl, rfl⟩ | ⟨earlier', -, hnil⟩
    · exact faithfulAt_switching htells.isOutcome
    · constructor
      case outcome => exact fun _ => ⟨[], c, m, outcome_of_matches hc hm htells⟩
      all_goals simp [Event.position?]
    · simp at hnil

variable {kind : String}

theorem accepted?_piece (hkind : m.kind = some kind) (log : List Event) :
    (switches id m ++ outcomeOf s m :: log).filterMap Event.accepted?
      = (if m.keep then [(m.text, (tokenOf s m kind).position)] else [])
        ++ log.filterMap Event.accepted? := by
  rw [List.filterMap_append, accepted?_switches, outcomeOf_of_kind hkind]
  split <;> rfl

theorem partsOf_piece (hkind : m.kind ≠ none) (log : List Event) :
    partsOf (switches id m ++ outcomeOf s m :: log) = m.text.toList ++ partsOf log := by
  simp [partsOf_switches, part_outcomeOf hkind]

theorem contextAfter_piece (log : List Event) :
    contextAfter id (switches id m ++ outcomeOf s m :: log) = contextAfter m.next log := by
  rw [contextAfter_switches,
    contextAfter_cons_of_outcome (tells_outcomeOf s m).isOutcome]

/-- A piece is told after the switch that its match makes. -/
theorem faithfulAt_outcome (hm : l.Piece input id before m) (hkind : m.kind = some kind) :
    l.FaithfulAt input id before
      ⟨(if m.keep then [tokenOf (.after id before) m kind] else []) ++ r.tokens, r.error⟩
      (switches id m) (outcomeOf (.after id before) m) log where
  token text position h := by
    rw [outcomeOf_of_kind hkind] at h
    split at h
    · rename_i hkeep
      cases h
      refine ⟨tokenOf (.after id before) m kind, by simp [accepted?_switches, hkeep], rfl, rfl, ?_⟩
      have hcontext := contextAfter_switches id m []
      rw [List.append_nil, contextAfter_nil] at hcontext
      rw [resume_tokenOf_after, partsOf_switches, List.append_nil, hcontext]
    · cases h
  position p h := by
    rw [position?_outcomeOf hkind] at h
    cases h
    rw [partsOf_switches, List.append_nil]
    rfl
  switching source target h := by
    have := (tells_outcomeOf (.after id before) m).isOutcome
    rw [h] at this
    cases this
  outcome _ := by
    obtain ⟨⟨c, hc, hmatches⟩, -, -⟩ := hm
    exact ⟨[], c, m, outcome_of_matches hc hmatches (tells_outcomeOf _ m)⟩
  failed name error h := by
    have := (tells_outcomeOf (.after id before) m).isOutcome
    rw [h] at this
    cases this

/-- What is told after a piece goes on where the piece ends, in the context that it chooses. -/
theorem FaithfulAt.cons {earlier later : List Event} {e : Event} (hkind : m.kind = some kind)
    (h : l.FaithfulAt input m.next (before ++ m.text.toList) r earlier e later) :
    l.FaithfulAt input id before
      ⟨(if m.keep then [tokenOf (.after id before) m kind] else []) ++ r.tokens, r.error⟩
      (switches id m ++ outcomeOf (.after id before) m :: earlier) e later := by
  have hne : m.kind ≠ none := by simp [hkind]
  have hparts : before ++ partsOf (switches id m ++ outcomeOf (.after id before) m :: earlier)
      = before ++ m.text.toList ++ partsOf earlier := by
    rw [partsOf_piece hne, List.append_assoc]
  constructor
  case token =>
    intro text position he
    obtain ⟨t, ht, htext⟩ := h.token text position he
    rw [accepted?_piece hkind, hparts, contextAfter_piece]
    refine ⟨t, ?_, htext⟩
    split <;> simpa [Nat.add_comm] using ht
  case position =>
    rw [hparts]
    exact h.position
  case switching =>
    rw [contextAfter_piece]
    exact h.switching
  case outcome =>
    intro he
    obtain ⟨told, c, n, ho⟩ := h.outcome he
    refine ⟨switches id m ++ outcomeOf (.after id before) m :: told, c, n, ?_⟩
    constructor
    case context => rw [contextAfter_piece]; exact ho.context
    case matched => rw [partsOf_piece hne, ← List.append_assoc]; exact ho.matched
    case tells => exact ho.tells
    case earlier_eq => rw [contextAfter_piece, ho.earlier_eq, List.append_assoc, List.cons_append]
    case last =>
      intro x hx
      rw [List.getLast?_append, List.getLast?_cons] at hx
      rcases hlast : told.getLast? with _ | y
      · simp only [hlast, Option.getD_none, Option.some_or, Option.some.injEq] at hx
        rw [← hx, position?_outcomeOf hkind]
        simp
      · simp only [hlast, Option.getD_some, Option.some_or, Option.some.injEq] at hx
        exact hx ▸ ho.last y hlast
  case failed =>
    rw [contextAfter_piece]
    exact h.failed

/-- Where a piece is read, it is told before what is told after it. -/
theorem Faithful.cons (hm : l.Piece input id before m) (hkind : m.kind = some kind)
    (h : l.Faithful input m.next (before ++ m.text.toList) log r) :
    l.Faithful input id before (switches id m ++ outcomeOf (.after id before) m :: log)
      ⟨(if m.keep then [tokenOf (.after id before) m kind] else []) ++ r.tokens, r.error⟩ where
  whole herror := by
    rw [partsOf_piece hm.kind, ← List.append_assoc]
    exact h.whole herror
  upToError e herror := by
    rw [partsOf_piece hm.kind, ← List.append_assoc]
    exact h.upToError e herror
  accepted := by
    rw [accepted?_piece hkind, h.accepted, List.map_append]
    split <;> rfl
  event earlier e later heq := by
    rcases event_of_switches heq with ⟨-, rfl, rfl, rfl⟩ | ⟨rfl, rfl, rfl⟩ | ⟨earlier', rfl, hlog⟩
    · exact faithfulAt_switching (tells_outcomeOf _ m).isOutcome
    · exact faithfulAt_outcome hm hkind
    · exact (h.event earlier' e later hlog).cons hkind

end Runs

/-! ## What a run tells -/

theorem scanLog_eq (l : Lexer) (input : List Char) (s : ScanState) :
    l.scanLog input s = l.stepLog input s ++
      match l.step input s with
      | .piece t => if t.keep then [] else l.scanLog input t.resume
      | _ => [] := by
  rw [scanLog]
  split <;> simp_all

theorem drainLog_eq (l : Lexer) (input : List Char) (s : ScanState) :
    l.drainLog input s = l.scanLog input s ++
      match l.scan input s with
      | .ok (some t) => l.drainLog input t.resume
      | _ => [] := by
  rw [drainLog]
  split <;> simp_all

/-- What is told while the tokens are drained is what the step at the state tells, and what is told
after the piece it finds. -/
theorem drainLog_eq_step (l : Lexer) (input : List Char) (s : ScanState) :
    l.drainLog input s = l.stepLog input s ++
      match l.step input s with
      | .piece t => l.drainLog input t.resume
      | _ => [] := by
  rw [drainLog_eq, scanLog_eq]
  rcases hs : l.step input s with _ | e | t
  · simp [scan_eq_of_step_ended hs]
  · simp [scan_eq_of_step_failed hs]
  · rw [scan_eq_of_step_piece hs]
    by_cases hk : t.keep
    · simp [hk]
    · simp only [hk, Bool.false_eq_true, if_false, List.append_assoc]
      rw [← drainLog_eq]

/-- What is told where a step fails. -/
theorem faithful_of_failed (hbefore : before <+: input) (hc : l.context? id = some c) {e : Error}
    (h : l.step input (.after id before) = .failed e) :
    l.Faithful input id before (l.stepLog input (.after id before)) ⟨[], some e⟩ := by
  obtain ⟨hcause, hposition⟩ := (step_eq_failed_iff hbefore hc).1 h
  obtain ⟨char, rest, rfl⟩ := exists_append_of_failed hbefore h
  have hlt : (ScanState.after id before).offset < Text.byteLength (before ++ char :: rest) :=
    lt_byteLength_append_cons
  rw [step_eq_of_lt hlt hc] at h
  split at h
  · rename_i e' hm
    cases h
    rw [stepLog_of_matchAt_error hlt hc hm]
    exact faithful_scanFailed hbefore hposition
  · rename_i m hm
    rw [stepLog_of_matchAt hc hm]
    obtain ⟨-, ⟨hnext, hnone, -⟩ | ⟨hnext, hkind, -⟩⟩ := stepOfMatch_eq_failed_iff.1 h
    · have hsilent : l.matchLog (.after id before) m = [] := by
        simp only [matchLog, if_neg hnext, if_pos hnone]
      rw [hsilent]
      refine faithful_nil (by simp) rfl ?_
      rintro _ ⟨rfl⟩
      exact ⟨hbefore, hposition⟩
    · have hkindless : outcomeOf (.after id before) m = .noKind m.text := by
        simp only [outcomeOf, hkind]
      rw [matchLog_of_registered hnext, hkindless]
      exact faithful_noKind hbefore hposition hc (Context.matchAt_ok_congr hm) hkind

/-- What is told of the rest of the input is faithful to the run through it. -/
theorem faithful_of_after (hl : l.WellGrouped) (hbefore : before <+: input)
    (hid : l.context? id ≠ none) :
    l.Faithful input id before (l.drainLog input (.after id before))
      (l.run input (.after id before)) := by
  generalize hs : ScanState.after id before = s
  fun_induction pieces l input s generalizing id before with
  | case1 s hstep =>
    have hle := step_eq_ended_iff.1 hstep
    rw [drainLog_eq_step, run_eq_step, hstep, stepLog_of_ended hle]
    obtain ⟨rest, rfl⟩ := hbefore
    subst hs
    refine faithful_nil (fun _ => ?_) rfl (by simp)
    rcases rest with _ | ⟨char, rest⟩
    · rw [List.append_nil]
    · exact absurd lt_byteLength_append_cons (Nat.not_lt.2 hle)
  | case2 s e hstep =>
    subst hs
    obtain ⟨c, hc⟩ := Option.ne_none_iff_exists'.1 hid
    rw [drainLog_eq_step, run_eq_step, hstep]
    simpa using faithful_of_failed hbefore hc hstep
  | case3 s t hstep ih =>
    subst hs
    obtain ⟨m, kind, hm, hkind, rfl⟩ := piece_of_step hstep
    have htail := ih (hm.stands hl hbefore).2 hm.registered
      (resume_tokenOf_after id before m kind).symm
    have hlog : l.stepLog input (.after id before)
        = switches id m ++ [outcomeOf (.after id before) m] := by
      obtain ⟨c, hc, hmatches⟩ := hm.matched
      rw [stepLog_of_matchAt hc (hmatches _ _)]
      exact matchLog_of_registered (.inr hm.registered)
    have hcons := htail.cons hm hkind
    rw [drainLog_eq_step, run_eq_step, hstep, hlog, List.append_assoc]
    simp only [List.singleton_append]
    have hrun : (if (tokenOf (.after id before) m kind).keep = true
          then (l.run input (tokenOf (.after id before) m kind).resume).cons
            (tokenOf (.after id before) m kind)
          else l.run input (tokenOf (.after id before) m kind).resume)
        = ⟨(if m.keep then [tokenOf (.after id before) m kind] else [])
            ++ (l.run input (tokenOf (.after id before) m kind).resume).tokens,
          (l.run input (tokenOf (.after id before) m kind).resume).error⟩ := by
      have hkeep : (tokenOf (.after id before) m kind).keep = m.keep := rfl
      rw [hkeep]
      split <;> rfl
    rw [hrun]
    exact hcons

theorem told_ended (l : Lexer) (input : List Char) : ∀ n, Tokens.told l input n ⟨none⟩ = []
  | 0 => rfl
  | n + 1 => told_ended l input n

/-- As many calls of an iterator as it has tokens left tell what draining it tells. -/
theorem told_eq_drainLog {n : Nat} {ts : Tokens} (h : ts.left input ≤ n) :
    ts.told l input n = ts.state.elim [] (l.drainLog input) := by
  induction n generalizing ts with
  | zero =>
    rcases ts with ⟨_ | s⟩
    · rfl
    · have hle : Text.byteLength input ≤ s.offset := by
        simp only [Tokens.left, Option.elim_some] at h
        omega
      have hnil : l.drainLog input s = [] := by
        rw [drainLog_eq_step, step_eq_ended_iff.2 hle, stepLog_of_ended hle]
        rfl
      simp [Tokens.told, hnil]
  | succ n ih =>
    rcases ts with ⟨_ | s⟩
    · exact told_ended l input _
    · simp only [Tokens.told, Option.elim_some]
      rw [drainLog_eq]
      rcases hs : l.scan input s with e | _ | t
      · simp [Tokens.next, hs, told_ended]
      · simp [Tokens.next, hs, told_ended]
      · have hnext : Tokens.next l input ⟨some s⟩ = (some (.ok t), ⟨some t.resume⟩) := by
          simp only [Tokens.next, hs]
        have hle := Nat.le_of_lt_succ ((Tokens.left_next_lt hnext).trans_le h)
        rw [hnext, ih hle]
        rfl

/-- What is told while the tokens of an input are drained, call by call, is faithful to the run that
the calls find. -/
theorem faithful_drainLog (hl : l.WellGrouped) (input : List Char) :
    (∀ n, Text.byteLength input < n →
      l.tokens.told l input n = l.drainLog input l.initialState) ∧
    ∃ r : Run, l.tokens.drain l input = r.items ∧
      l.Faithful input l.initial [] (l.drainLog input l.initialState) r := by
  refine ⟨fun n hn => told_eq_drainLog hn, l.run input l.initialState, drain_eq_items _, ?_⟩
  exact faithful_of_after hl List.nil_prefix (registered_initial l)

open scoped Unicode in
/-- The switch is told before the skipped piece that makes it, and the error in the context that it
has led to. -/
theorem told_noteLexer :
    let input := ['é', '<', '\n', 'x']
    let log : List Event := [.accepted "é" ⟨0, 0, 1, 1, 1, 2⟩,
      .switching (.name "text") (.name "note"), .skipped "<\n" ⟨1, 2, 1, 2, 2, 1⟩,
      .scanFailed (.name "note") ⟨.noRuleMatches 'x' "no note", some (.point 3 4 2 1)⟩]
    noteLexer.Built ∧ noteLexer.WellGrouped ∧ noteLexer.tokens.told noteLexer input 6 = log ∧
      ∃ r, noteLexer.tokens.drain noteLexer input = r.items ∧
        noteLexer.Faithful input (.name "text") [] log r := by
  intro input log
  have hlog : noteLexer.drainLog input noteLexer.initialState = log := by
    rw [drainLog_eq_step, show noteLexer.step input noteLexer.initialState
      = .piece ⟨"word", "é", ⟨0, 0, 1, 1, 1, 2⟩, true, ⟨.name "text", 1, 2, 1, 2⟩⟩ from rfl]
    simp only
    rw [drainLog_eq_step, show noteLexer.step input ⟨.name "text", 1, 2, 1, 2⟩
      = .piece ⟨"", "<\n", ⟨1, 2, 1, 2, 2, 1⟩, false, ⟨.name "note", 3, 4, 2, 1⟩⟩ from rfl]
    simp only
    rw [drainLog_eq_step]
    rfl
  obtain ⟨htold, hfaithful⟩ := faithful_drainLog wellGrouped_noteLexer input
  rw [hlog] at htold hfaithful
  exact ⟨built_noteLexer, wellGrouped_noteLexer, htold 6 (by decide), hfaithful⟩

end Lexer

end ModalLex
