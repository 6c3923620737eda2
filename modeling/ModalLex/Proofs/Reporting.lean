import ModalLex.Proofs.Reaching
import ModalLex.Proofs.Telling

/-!
# Failures that are reported

A scan that fails where a context matches, or fails to match, reports that with the last event it
tells and with no other one, in the context of the state at which it fails. If a context is missing
from the table nothing is reported: only the error tells it. A scan that does not fail reports
nothing (`reports_scanLog`).
-/

namespace ModalLex

/-- The causes for which a context has no match at a place. -/
def Cause.isOfMatch : Cause → Bool
  | noRuleMatches .. | emptyMatch .. | invalidOffset .. => true
  | _ => false

namespace Event

/-- Whether it is told that a scan fails. -/
def isReport : Event → Bool
  | scanFailed .. | noKind _ => true
  | _ => false

/-- The event reports the error of a scan that fails in the context `id`: the whole error where
there is no match, the text of the match where it has no kind. -/
inductive Reports (id : ContextId) (e : Error) : Event → Prop where
  | scanFailed : e.cause.isOfMatch → Reports id e (.scanFailed id e)
  | noKind {message text : String} : e.cause = .missingKind message text →
      Reports id e (.noKind text)

theorem Reports.isTrace_eq_false {id : ContextId} {e : Error} {x : Event} (h : x.Reports id e) :
    x.isTrace = false := by
  cases h <;> rfl

end Event

/-- The events that report a failure. -/
def reportsOf (log : List Event) : List Event := log.filter Event.isReport

@[simp] theorem reportsOf_append (a b : List Event) :
    reportsOf (a ++ b) = reportsOf a ++ reportsOf b :=
  List.filter_append ..

/-- The error is reported by the last event that is told and by no other one, or it names a context
that is not in the table and is not reported. -/
inductive ReportedIn (id : ContextId) (e : Error) (log : List Event) : Prop where
  | last {x : Event} : x.Reports id e → reportsOf log = [x] → log.getLast? = some x →
      ReportedIn id e log
  | silent {name : String} : e.cause = .unknownContext name → reportsOf log = [] →
      ReportedIn id e log

/-- What is told before and reports nothing makes no difference. -/
theorem ReportedIn.append {id : ContextId} {e : Error} {log : List Event}
    (h : ReportedIn id e log) {told : List Event} (htold : reportsOf told = []) :
    ReportedIn id e (told ++ log) := by
  cases h with
  | @last x hx honly hlast =>
    refine .last hx ?_ ?_
    · rw [reportsOf_append, htold, honly, List.nil_append]
    · rw [List.getLast?_append, hlast]
      rfl
  | silent hname hnone =>
    refine .silent hname ?_
    rw [reportsOf_append, htold, hnone, List.nil_append]

namespace Context

theorem isOfMatch_of_matchAt {c : Context} {input : List Char} {offset row column : Nat} {e : Error}
    (h : c.matchAt input offset row column = .error e) : e.cause.isOfMatch := by
  unfold matchAt matchSpot at h
  split at h
  · cases h
    rfl
  · cases h
    rfl
  · simp only at h
    split at h
    · cases h
      rfl
    · cases h
      rfl
    · cases h

end Context

namespace Lexer

variable {l : Lexer} {input : List Char} {s : ScanState}

/-! ## What one step reports -/

theorem reportsOf_switches (id : ContextId) (m : Match) : reportsOf (switches id m) = [] := by
  unfold switches
  split <;> rfl

theorem reportsOf_stepLog_of_piece {t : Token} (h : l.step input s = .piece t) :
    reportsOf (l.stepLog input s) = [] := by
  obtain ⟨c, m, kind, hc, hm, hkind, hnext, -⟩ := step_eq_piece_iff.1 h
  rw [stepLog_of_matchAt hc hm, matchLog_of_registered (.inr hnext), reportsOf_append,
    reportsOf_switches, outcomeOf_of_kind hkind]
  split <;> rfl

theorem reportedIn_matchLog {c : Context} {m : Match} {e : Error}
    (h : l.stepOfMatch c s m = .failed e) : ReportedIn s.context e (l.matchLog s m) := by
  obtain ⟨-, ⟨hnext, hnone, hcause⟩ | ⟨hnext, hkind, hcause⟩⟩ := stepOfMatch_eq_failed_iff.1 h
  · have hlog : l.matchLog s m = [] := by simp [matchLog, hnext, hnone]
    rw [hlog]
    exact .silent hcause rfl
  · have houtcome : outcomeOf s m = .noKind m.text := by simp [outcomeOf, hkind]
    rw [matchLog_of_registered hnext, houtcome]
    have hlast : ReportedIn s.context e [.noKind m.text] := .last (.noKind hcause) rfl rfl
    exact hlast.append (reportsOf_switches ..)

/-- A step that fails reports it, unless it is for a context that is not in the table. -/
theorem reportedIn_stepLog {e : Error} (h : l.step input s = .failed e) :
    ReportedIn s.context e (l.stepLog input s) := by
  have hlt : s.offset < Text.byteLength input := Nat.lt_of_not_le fun hle => by
    rw [step_eq_ended_iff.2 hle] at h
    cases h
  rcases hc : l.context? s.context with _ | c
  · rw [step_of_context?_eq_none hlt hc] at h
    cases h
    rw [stepLog_of_context?_eq_none hc]
    exact .silent rfl rfl
  · rcases hm : c.matchAt input s.offset s.row s.column with e' | m
    · rw [step_of_matchAt_error hlt hc hm] at h
      cases h
      rw [stepLog_of_matchAt_error hlt hc hm]
      exact .last (.scanFailed (Context.isOfMatch_of_matchAt hm)) rfl rfl
    · rw [step_of_matchAt hc hm] at h
      rw [stepLog_of_matchAt hc hm]
      exact reportedIn_matchLog h

/-! ## What a scan reports -/

/-- What a scan tells before it comes to a state reports nothing. -/
theorem exists_scanLog_eq_of_passes {q : ScanState} (h : l.Passes input s q) :
    ∃ told, l.scanLog input s = told ++ l.scanLog input q ∧ reportsOf told = [] := by
  induction h with
  | refl => exact ⟨[], rfl, rfl⟩
  | @skip s q t hstep hkeep _ ih =>
    obtain ⟨told, hlog, hquiet⟩ := ih
    refine ⟨l.stepLog input s ++ told, ?_, ?_⟩
    · rw [scanLog_eq, hstep, List.append_assoc, ← hlog]
      simp [hkeep]
    · rw [reportsOf_append, reportsOf_stepLog_of_piece hstep, hquiet, List.nil_append]

theorem scanLog_eq_stepLog_of_halts (h : l.Halts input s) :
    l.scanLog input s = l.stepLog input s := by
  rw [scanLog_eq]
  rcases hs : l.step input s with _ | e | t
  · exact List.append_nil _
  · exact List.append_nil _
  · simp [h t hs]

theorem reportsOf_scanLog_of_ok {found : Option Token} (h : l.scan input s = .ok found) :
    reportsOf (l.scanLog input s) = [] := by
  obtain ⟨q, hq, hhalts⟩ := exists_passes_halts l input s
  obtain ⟨told, hlog, hquiet⟩ := exists_scanLog_eq_of_passes hq
  rw [hlog, reportsOf_append, hquiet, scanLog_eq_stepLog_of_halts hhalts, List.nil_append]
  rcases hs : l.step input q with _ | e | t
  · rw [stepLog_of_ended (step_eq_ended_iff.1 hs)]
    rfl
  · rw [scan_eq_of_passes hq, scan_eq_of_step_failed hs] at h
    cases h
  · exact reportsOf_stepLog_of_piece hs

/-- A scan that fails reports it, in the context of the state at which it does, unless it is for a
context that is not in the table. -/
theorem exists_reportedIn_scanLog {e : Error} (h : l.scan input s = .error e) :
    ∃ q, l.Passes input s q ∧ l.step input q = .failed e ∧
      ReportedIn q.context e (l.scanLog input s) := by
  obtain ⟨q, hq, hfailed⟩ := exists_passes_of_scan h
  obtain ⟨told, hlog, hquiet⟩ := exists_scanLog_eq_of_passes hq
  refine ⟨q, hq, hfailed, ?_⟩
  rw [hlog, scanLog_eq_stepLog_of_halts (halts_of_failed hfailed)]
  exact (reportedIn_stepLog hfailed).append hquiet

/-- A scan reports nothing exactly if it finds a token or the end of the input, or fails for a
context that is not in the table. Any other failure is reported by the last event that the scan
tells and by no other one, in the context of the state at which the scan fails. -/
theorem reports_scanLog (l : Lexer) (input : List Char) (s : ScanState) :
    (reportsOf (l.scanLog input s) = [] ↔
      (∃ found, l.scan input s = .ok found) ∨
        ∃ e name, l.scan input s = .error e ∧ e.cause = .unknownContext name) ∧
    ∀ e, l.scan input s = .error e → (∀ name, e.cause ≠ .unknownContext name) →
      ∃ x q, reportsOf (l.scanLog input s) = [x] ∧ (l.scanLog input s).getLast? = some x ∧
        x.isTrace = false ∧ l.Passes input s q ∧ l.step input q = .failed e ∧
        x.Reports q.context e := by
  have hreported : ∀ e, l.scan input s = .error e → (∀ name, e.cause ≠ .unknownContext name) →
      ∃ x q, reportsOf (l.scanLog input s) = [x] ∧ (l.scanLog input s).getLast? = some x ∧
        x.isTrace = false ∧ l.Passes input s q ∧ l.step input q = .failed e ∧
        x.Reports q.context e := by
    intro e he hknown
    obtain ⟨q, hq, hfailed, h⟩ := exists_reportedIn_scanLog he
    cases h with
    | last hx honly hlast => exact ⟨_, q, honly, hlast, hx.isTrace_eq_false, hq, hfailed, hx⟩
    | silent hname => exact absurd hname (hknown _)
  refine ⟨⟨fun hquiet => ?_, ?_⟩, hreported⟩
  · rcases hs : l.scan input s with e | found
    · refine .inr ⟨e, ?_⟩
      by_contra hunknown
      obtain ⟨x, _, honly, -⟩ := hreported e hs fun name hname => hunknown ⟨name, rfl, hname⟩
      rw [hquiet] at honly
      cases honly
    · exact .inl ⟨found, rfl⟩
  · rintro (⟨found, h⟩ | ⟨e, name, h, hname⟩)
    · exact reportsOf_scanLog_of_ok h
    · obtain ⟨q, -, -, hreport⟩ := exists_reportedIn_scanLog h
      cases hreport with
      | silent _ hnone => exact hnone
      | last hx =>
        cases hx with
        | scanFailed hmatch =>
          rw [hname] at hmatch
          cases hmatch
        | noKind hkind =>
          rw [hname] at hkind
          cases hkind

open scoped Unicode in
/-- The character that no rule of the note matches is reported, and the context that the rule of
the last word chooses is not. -/
theorem reports_strayLexer :
    let e : Error := ⟨.noRuleMatches 'x' "no note", some (.point 2 2 2 1)⟩
    let stray : Error := ⟨.unknownContext "Name(\"gone\")", some (.point 2 3 2 1)⟩
    let word : ScanState := ⟨.name "text", 1, 2, 1, 2⟩
    (noteLexer.Built ∧ noteLexer.scan ['<', '\n', 'x'] noteLexer.initialState = .error e ∧
      (∀ name, e.cause ≠ .unknownContext name) ∧
      ∃ x q, reportsOf (noteLexer.scanLog ['<', '\n', 'x'] noteLexer.initialState) = [x] ∧
        (noteLexer.scanLog ['<', '\n', 'x'] noteLexer.initialState).getLast? = some x ∧
        x.Reports q e) ∧
    strayLexer.Built ∧ strayLexer.scan ['é', '\n', 'b'] word = .error stray ∧
      reportsOf (strayLexer.scanLog ['é', '\n', 'b'] word) = [] := by
  intro e stray word
  have hnote : noteLexer.scan ['<', '\n', 'x'] noteLexer.initialState = .error e := by
    rw [scan_eq_of_step_piece (t := ⟨"", "<\n", ⟨0, 0, 1, 1, 2, 1⟩, false,
      ⟨.name "note", 2, 2, 2, 1⟩⟩) rfl]
    exact scan_eq_of_step_failed rfl
  have hstray : strayLexer.scan ['é', '\n', 'b'] word = .error stray := by
    rw [scan_eq_of_step_piece (t := ⟨"", "\n", ⟨1, 2, 1, 2, 2, 1⟩, false,
      ⟨.name "text", 2, 3, 2, 1⟩⟩) rfl]
    simp only [stray, ← written_gone]
    exact scan_eq_of_step_failed rfl
  have hknown : ∀ name, e.cause ≠ .unknownContext name := nofun
  obtain ⟨x, q, honly, hlast, -, -, -, hx⟩ := (reports_scanLog _ _ _).2 e hnote hknown
  exact ⟨⟨built_noteLexer, hnote, hknown, x, q.context, honly, hlast, hx⟩, by decide +kernel,
    hstray, (reports_scanLog _ _ _).1.2 (.inr ⟨stray, _, hstray, rfl⟩)⟩

end Lexer

end ModalLex
