import ModalLex.Proofs.Failing
import ModalLex.Proofs.Standing

/-!
# Reachable states

However scans, resets and moves past parts of the input are mixed, a state stays at a place of the
input that it counts right, and in a context of the table. So do the states that a scan passes on
its way. Hence no scan from such a state fails for an offset or for the context of a state: an
unknown context is one that a classifier has chosen right there (`standsIn_of_reachable`).
-/

namespace ModalLex

/-- The state is in a context of the table, at the end of a text that the input begins with, and
counts that text. -/
structure ScanState.StandsIn (l : Lexer) (input : List Char) (s : ScanState) : Prop where
  registered : l.context? s.context ≠ none
  place : ∃ before, before <+: input ∧ s = .after s.context before

/-- A token ends at a place of the input, in a context of the table. -/
theorem Token.StandsAfter.standsIn_resume {l : Lexer} {input before : List Char} {t : Token}
    (h : t.StandsAfter l input before) : t.resume.StandsIn l input :=
  ⟨h.registered, _, h.slice, h.resume⟩

/-- The rule of a match is one of the context's, and tells of the matched text what the match
tells. -/
theorem Context.exists_rule_of_matchAt {c : Context} {input : List Char} {offset row column : Nat}
    {m : Match} (h : c.matchAt input offset row column = .ok m) :
    ∃ r ∈ c.rules, r.classify m.text = ⟨m.kind, m.next, m.keep⟩ := by
  unfold matchAt matchSpot at h
  split at h
  · cases h
  · cases h
  · rename_i before char rest _
    simp only at h
    split at h
    · cases h
    · cases h
    · rename_i r part _ hrule
      cases h
      simp only [ruleAt?, Option.bind_eq_bind, Option.bind_eq_some_iff] at hrule
      obtain ⟨_, -, _, -, r', hr', heq⟩ := hrule
      cases heq
      exact ⟨r, List.mem_of_getElem? hr', rfl⟩

namespace Lexer

/-- The states that a caller can come to on an input: from the initial one, by going on after a
token that a scan has found, by resets, and by moving past a text that stands there in the input. -/
inductive Reachable (l : Lexer) (input : List Char) : ScanState → Prop where
  | initial : Reachable l input l.initialState
  | resume {s : ScanState} {t : Token} :
      Reachable l input s → l.scan input s = .ok (some t) → Reachable l input t.resume
  | reset {s : ScanState} : Reachable l input s → Reachable l input (l.reset s)
  | advance {s : ScanState} {before text rest : List Char} :
      Reachable l input s → input = before ++ text ++ rest → Text.byteLength before = s.offset →
        Reachable l input (s.advance text)

/-- The states that a scan passes: the one it begins at, and the ones after the pieces it skips. -/
inductive Passes (l : Lexer) (input : List Char) : ScanState → ScanState → Prop where
  | refl {s : ScanState} : Passes l input s s
  | skip {s q : ScanState} {t : Token} :
      l.step input s = .piece t → t.keep = false → Passes l input t.resume q → Passes l input s q

/-- A scan goes no further than this state: it finds no piece there that it skips. -/
def Halts (l : Lexer) (input : List Char) (s : ScanState) : Prop :=
  ∀ t, l.step input s = .piece t → t.keep = true

/-- A rule of the active context matches at the state, and its classifier chooses the context `id`,
which is not in the table. -/
def Strays (l : Lexer) (input : List Char) (s : ScanState) (id : ContextId) : Prop :=
  ∃ c m, l.context? s.context = some c ∧ c.matchAt input s.offset s.row s.column = .ok m ∧
    (∃ r ∈ c.rules, (r.classify m.text).next = id) ∧ l.context? id = none

variable {l : Lexer} {input : List Char} {s : ScanState}

theorem standsIn_after {id : ContextId} {before : List Char} (hid : l.context? id ≠ none)
    (hbefore : before <+: input) : (ScanState.after id before).StandsIn l input :=
  ⟨hid, before, hbefore, rfl⟩

theorem standsIn_of_step (hl : l.WellGrouped) {t : Token} (h : l.step input s = .piece t)
    (hs : s.StandsIn l input) : t.resume.StandsIn l input := by
  obtain ⟨-, before, hbefore, heq⟩ := hs
  rw [heq] at h
  exact (standsAfter_of_step hl hbefore h).standsIn_resume

theorem standsIn_of_passes (hl : l.WellGrouped) {q : ScanState} (h : l.Passes input s q)
    (hs : s.StandsIn l input) : q.StandsIn l input := by
  induction h with
  | refl => exact hs
  | skip hstep _ _ ih => exact ih (standsIn_of_step hl hstep hs)

/-- A scan that fails does so at a state it passes. -/
theorem exists_passes_of_scan {e : Error} (h : l.scan input s = .error e) :
    ∃ q, l.Passes input s q ∧ l.step input q = .failed e := by
  fun_induction scan l input s with
  | case1 => cases h
  | case2 s e' hstep =>
    cases h
    exact ⟨s, .refl, hstep⟩
  | case3 => cases h
  | case4 s t hstep hkeep ih =>
    obtain ⟨q, hq, hfailed⟩ := ih h
    exact ⟨q, .skip hstep (eq_false_of_ne_true hkeep) hq, hfailed⟩

/-- A scan that comes by a state finds what the scan from there finds. -/
theorem scan_eq_of_passes {q : ScanState} (h : l.Passes input s q) :
    l.scan input s = l.scan input q := by
  induction h with
  | refl => rfl
  | skip hstep hkeep _ ih => rw [scan_eq_of_step_piece hstep, hkeep, ← ih]; rfl

theorem halts_of_ended (h : l.step input s = .ended) : l.Halts input s := by
  intro t ht
  rw [h] at ht
  cases ht

theorem halts_of_failed {e : Error} (h : l.step input s = .failed e) : l.Halts input s := by
  intro t ht
  rw [h] at ht
  cases ht

/-- Every scan comes to a state at which it skips nothing. -/
theorem exists_passes_halts (l : Lexer) (input : List Char) (s : ScanState) :
    ∃ q, l.Passes input s q ∧ l.Halts input q := by
  fun_induction scan l input s with
  | case1 s hstep => exact ⟨s, .refl, halts_of_ended hstep⟩
  | case2 s e hstep => exact ⟨s, .refl, halts_of_failed hstep⟩
  | case3 s t hstep hkeep =>
    refine ⟨s, .refl, fun u hu => ?_⟩
    rw [hstep] at hu
    cases hu
    exact hkeep
  | case4 s t hstep hkeep ih =>
    obtain ⟨q, hq, hhalts⟩ := ih
    exact ⟨q, .skip hstep (eq_false_of_ne_true hkeep) hq, hhalts⟩

/-- What fails at a place of the input in a context of the table is no offset, and an unknown
context only if a classifier has chosen it. -/
theorem cause_of_step (hs : s.StandsIn l input) {e : Error} (h : l.step input s = .failed e) :
    (∀ offset, e.cause ≠ .invalidOffset offset) ∧
      ∀ name, e.cause = .unknownContext name → ∃ id, l.Strays input s id ∧ name = id.written := by
  obtain ⟨hid, before, hbefore, heq⟩ := hs
  obtain ⟨c, hc⟩ := Option.ne_none_iff_exists'.1 hid
  generalize s.context = id at heq hc
  subst heq
  have hfails := ((step_eq_failed_iff hbefore hc).1 h).1
  generalize e.cause = cause at hfails
  cases hfails with
  | noRule | emptyMatch | noKind => exact ⟨nofun, nofun⟩
  | @unknownNext m hm hne hnone =>
    refine ⟨nofun, ?_⟩
    rintro name ⟨rfl⟩
    obtain ⟨r, hr, hclassify⟩ := Context.exists_rule_of_matchAt (hm 0 0)
    exact ⟨m.next, ⟨c, m, hc, hm _ _, ⟨r, hr, by rw [hclassify]⟩, hnone⟩, rfl⟩

theorem Reachable.standsIn (hl : l.WellGrouped) (h : l.Reachable input s) :
    s.StandsIn l input := by
  induction h with
  | initial => exact ⟨registered_initial l, [], List.nil_prefix, rfl⟩
  | resume _ hscan ih =>
    obtain ⟨-, before, hbefore, heq⟩ := ih
    rw [heq] at hscan
    obtain ⟨skipped, hstands⟩ := standsAfter_of_scan hl hbefore hscan
    exact hstands.standsIn_resume
  | reset _ ih =>
    obtain ⟨-, before, hbefore, heq⟩ := ih
    rw [heq]
    exact standsIn_after (registered_initial l) hbefore
  | @advance s before text rest _ hinput hoffset ih =>
    obtain ⟨hid, before', ⟨rest', hrest'⟩, heq⟩ := ih
    have hsplit : before ++ (text ++ rest) = before' ++ rest' := by
      rw [hrest', hinput, List.append_assoc]
    rw [heq] at hoffset ⊢
    obtain ⟨rfl, rfl⟩ := Text.eq_of_byteLength_eq hsplit hoffset
    rw [ScanState.advance_after]
    exact standsIn_after hid ⟨rest, hinput.symm⟩

/-- A reachable state and all that a scan from it passes stand in the input, in a context of the
table. If the scan fails, it does so at one of these, never for its offset, and for an unknown
context only if a classifier has chosen that one there. -/
theorem standsIn_of_reachable (hl : l.WellGrouped) (h : l.Reachable input s) :
    s.StandsIn l input ∧ (∀ q, l.Passes input s q → q.StandsIn l input) ∧
      ∀ e, l.scan input s = .error e → (∀ offset, e.cause ≠ .invalidOffset offset) ∧
        ∀ name, e.cause = .unknownContext name →
          ∃ q id, l.Passes input s q ∧ l.step input q = .failed e ∧ l.Strays input q id ∧
            name = id.written := by
  have hs := h.standsIn hl
  refine ⟨hs, fun q hq => standsIn_of_passes hl hq hs, fun e he => ?_⟩
  obtain ⟨q, hq, hfailed⟩ := exists_passes_of_scan he
  obtain ⟨hoffset, hname⟩ := cause_of_step (standsIn_of_passes hl hq hs) hfailed
  refine ⟨hoffset, fun name hcause => ?_⟩
  obtain ⟨id, hstrays, hwritten⟩ := hname name hcause
  exact ⟨q, id, hq, hfailed, hstrays, hwritten⟩

/-- Words, with newlines between them, and a rule that chooses a context not in the table. -/
def strayLexer : Lexer where
  contexts :=
    [(.name "text",
      { message := "no word"
        flags := {}
        rules := [.token "é" "word" (.name "text"), .skip "\n" (.name "text"),
          .token "b" "word" (.name "gone")]
        node := .grouped [.literal ['é'], .literal ['\n'], .literal ['b'], .anyChar] })]
  contexts_ne_nil := by simp
  ids_nodup := by simp

open scoped Unicode in
/-- The scan fails after a skipped piece, at the word whose rule chooses the unknown context. -/
theorem standsIn_strayLexer :
    let s := strayLexer.reset (strayLexer.initialState.advance ['é'])
    strayLexer.Built ∧ strayLexer.WellGrouped ∧ strayLexer.Reachable ['é', '\n', 'b'] s ∧
      s.StandsIn strayLexer ['é', '\n', 'b'] ∧
      strayLexer.scan ['é', '\n', 'b'] s
        = .error ⟨.unknownContext "Name(\"gone\")", some (.point 2 3 2 1)⟩ ∧
      ∃ q id, strayLexer.Passes ['é', '\n', 'b'] s q ∧ strayLexer.Strays ['é', '\n', 'b'] q id ∧
        "Name(\"gone\")" = id.written := by
  intro s
  have hl : strayLexer.WellGrouped := by
    intro x hx
    obtain rfl := List.mem_singleton.1 hx
    exact ⟨[.literal ['é'], .literal ['\n'], .literal ['b']], rfl,
      by simp [Pattern.Node.Captures], rfl⟩
  have hinput : ['é', '\n', 'b'] = [] ++ ['é'] ++ ['\n', 'b'] := rfl
  have hs : strayLexer.Reachable ['é', '\n', 'b'] s := .reset (.advance .initial hinput rfl)
  have hscan : strayLexer.scan ['é', '\n', 'b'] s
      = .error ⟨.unknownContext "Name(\"gone\")", some (.point 2 3 2 1)⟩ := by
    rw [← written_gone, scan_eq_of_step_piece (t := ⟨"", "\n", ⟨1, 2, 1, 2, 2, 1⟩, false,
      ⟨.name "text", 2, 3, 2, 1⟩⟩) rfl]
    exact scan_eq_of_step_failed rfl
  obtain ⟨hstands, -, herror⟩ := standsIn_of_reachable hl hs
  obtain ⟨q, id, hq, -, hstrays, hwritten⟩ := (herror _ hscan).2 _ rfl
  exact ⟨by decide +kernel, hl, hs, hstands, hscan, q, id, hq, hstrays, hwritten⟩

end Lexer

end ModalLex
