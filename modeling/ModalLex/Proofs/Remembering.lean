import ModalLex.Proofs.Telling

/-!
# Answers that are remembered

However the tokens of a chain are asked for the next ones, in any order and again and again, every
call on a token is answered by what scanning from the state after the token finds. Only the first
call on a token scans, so what is told is what one scan for each token tells that was asked, and no
call changes what another token answers (`answeredOnce_of_asks`).
-/

namespace ModalLex

namespace Chain

/-- The answer of the token at a place is remembered. -/
def Remembers (c : Chain) (place : Nat) : Prop :=
  place + 1 < c.tokens.size ∨ place + 1 = c.tokens.size ∧ c.ending.isSome

instance (c : Chain) (place : Nat) : Decidable (c.Remembers place) :=
  inferInstanceAs (Decidable (_ ∨ _))

/-- A call on the token at a place, with the chain before and after it. -/
structure Call where
  place : Nat
  token : Token
  before : Chain
  after : Chain
  answer : Except Error (Option Token)
  log : List Event

/-- The call finds no answer that is remembered. -/
def Call.Scans (k : Call) : Prop := ¬ k.before.Remembers k.place

instance (k : Call) : Decidable k.Scans := inferInstanceAs (Decidable (¬ _))

/-- Calls one after the other lead from one chain to another. Each is on a token that is obtained by
then. -/
inductive Asks (l : Lexer) (input : List Char) : Chain → List Call → Chain → Prop where
  | refl (c : Chain) : Asks l input c [] c
  | call {c c' d : Chain} {place : Nat} {token : Token} {answer : Except Error (Option Token)}
      {log : List Event} {calls : List Call} :
      c.tokens[place]? = some token → c.next l input place = (answer, c', log) →
        Asks l input c' calls d → Asks l input c (⟨place, token, c, c', answer, log⟩ :: calls) d

/-- What the chain remembers is what scanning after its tokens finds. -/
structure Sound (l : Lexer) (input : List Char) (c : Chain) : Prop where
  successor : ∀ place t u, c.tokens[place]? = some t → c.tokens[place + 1]? = some u →
    l.scan input t.resume = .ok (some u)
  ending : ∀ place t answer, c.tokens[place]? = some t → c.tokens[place + 1]? = none →
    c.ending = some answer → l.scan input t.resume = answer
  ending_ne : ∀ u, c.ending ≠ some (.ok (some u))

/-- How the calls are answered that lead to the chain `d`. -/
structure AnsweredOnce (l : Lexer) (input : List Char) (calls : List Call) (d : Chain) : Prop where
  /-- A call is answered by what scanning from the state after its token finds. -/
  answer : ∀ k ∈ calls, k.answer = l.scan input k.token.resume
  /-- A token keeps its place, and all calls on it that find a token find the one after it. -/
  place : ∀ k ∈ calls, d.tokens[k.place]? = some k.token ∧
    ∀ u, k.answer = .ok (some u) → d.tokens[k.place + 1]? = some u
  /-- The first call on a token scans, and no other does. -/
  scans_iff : ∀ earlier k later, calls = earlier ++ k :: later →
    (k.Scans ↔ ∀ j ∈ earlier, j.place ≠ k.place)
  /-- There is one scan after each token that is asked, and none after the others. -/
  once : ∀ place, calls.countP (fun k => k.place = place ∧ k.Scans)
    = if ∃ k ∈ calls, k.place = place then 1 else 0
  /-- A call that scans answers what the lexer finds, whichever it is. -/
  scan : ∀ k ∈ calls, k.Scans → ∀ l' input', k.before.next l' input' k.place
    = (l'.scan input' k.token.resume, k.before.remember (l'.scan input' k.token.resume),
        l'.scanLog input' k.token.resume)
  /-- A call that does not scan answers the same whatever the lexer would find. -/
  remembered : ∀ k ∈ calls, ¬ k.Scans → ∀ l' input',
    k.before.next l' input' k.place = (k.answer, k.before, [])
  /-- What is told is what the scans tell, in the order of the first calls. -/
  log : calls.flatMap (·.log)
    = (calls.filter (·.Scans)).flatMap fun k => l.scanLog input k.token.resume
  /-- A call changes no token that is obtained, and not what any of them answers. -/
  others : ∀ k ∈ calls, ∀ place t, k.before.tokens[place]? = some t →
    k.after.tokens[place]? = some t ∧
      (k.after.next l input place).1 = (k.before.next l input place).1

variable {l : Lexer} {input : List Char} {c : Chain} {place : Nat} {t : Token}

/-! ## One call -/

/-- A call that finds its answer remembered changes nothing and tells nothing. -/
theorem next_of_remembers (h : c.Remembers place) :
    ∃ answer, ∀ l input, c.next l input place = (answer, c, []) := by
  rcases h with hlt | ⟨hsize, hending⟩
  · exact ⟨.ok (some c.tokens[place + 1]), fun l input => by simp [next, hlt]⟩
  · obtain ⟨answer, hanswer⟩ := Option.isSome_iff_exists.1 hending
    exact ⟨answer, fun l input => by simp [next, hsize, hanswer]⟩

/-- A call that does not is on the last token, and scans. -/
theorem next_of_not_remembers (ht : c.tokens[place]? = some t) (h : ¬ c.Remembers place)
    (l : Lexer) (input : List Char) :
    place + 1 = c.tokens.size ∧ c.ending = none ∧ c.next l input place
      = (l.scan input t.resume, c.remember (l.scan input t.resume), l.scanLog input t.resume) := by
  obtain ⟨hlt, -⟩ := Array.getElem?_eq_some_iff.1 ht
  simp only [Remembers, not_or, not_and] at h
  have hsize : place + 1 = c.tokens.size := by omega
  have hending : c.ending = none := by simpa using h.2 hsize
  exact ⟨hsize, hending, Lexer.next_of_last hending ht (by simp [hsize])⟩

/-- However a token is answered, it is what scanning from the state after it finds. -/
theorem Sound.answer_next (hs : c.Sound l input) (ht : c.tokens[place]? = some t) :
    (c.next l input place).1 = l.scan input t.resume := by
  unfold next
  split
  · rename_i u hu
    exact (hs.successor place t u ht hu).symm
  · rename_i hu
    split
    · rename_i answer hanswer
      exact (hs.ending place t answer ht hu hanswer).symm
    · rename_i hnone
      rw [ht] at hnone
      cases hnone
    · rename_i v hv
      rw [ht] at hv
      cases hv
      rfl

/-- Tokens that are obtained stay where they are. -/
theorem getElem?_next (l : Lexer) (input : List Char) (ht : c.tokens[place]? = some t)
    (asked : Nat) :
    (c.next l input asked).2.1.tokens[place]? = some t := by
  unfold next
  split
  · exact ht
  · split
    · exact ht
    · exact ht
    · rename_i v _ _
      obtain ⟨hlt, -⟩ := Array.getElem?_eq_some_iff.1 ht
      rcases l.scan input v.resume with e | _ | u
      · exact ht
      · exact ht
      · simpa [remember, Array.getElem?_push_lt, hlt] using ht

/-- A call makes the chain remember the answer of its token, and of no other. -/
theorem remembers_next (l : Lexer) (input : List Char) (ht : c.tokens[place]? = some t)
    (p : Nat) :
    (c.next l input place).2.1.Remembers p ↔ c.Remembers p ∨ p = place := by
  by_cases h : c.Remembers place
  · obtain ⟨answer, hanswer⟩ := next_of_remembers h
    rw [hanswer]
    exact ⟨.inl, fun hp => hp.elim id (· ▸ h)⟩
  · obtain ⟨hsize, hending, hnext⟩ := next_of_not_remembers ht h l input
    rw [hnext]
    rcases l.scan input t.resume with e | _ | u
    all_goals
      simp only [remember, Remembers, hending, Array.size_push, Option.isSome_none,
        Option.isSome_some, Bool.false_eq_true, and_true, and_false, or_false]
      omega

theorem Sound.next (hs : c.Sound l input) (ht : c.tokens[place]? = some t) :
    (c.next l input place).2.1.Sound l input := by
  by_cases h : c.Remembers place
  · obtain ⟨answer, hanswer⟩ := next_of_remembers h
    rwa [hanswer]
  obtain ⟨hsize, hending, hnext⟩ := next_of_not_remembers ht h l input
  -- Only the last token lacks a successor, and it is the one that is asked.
  have hlast : ∀ p u, c.tokens[p]? = some u → c.tokens[p + 1]? = none → u = t := by
    intro p u hu hnone
    obtain ⟨hlt, -⟩ := Array.getElem?_eq_some_iff.1 hu
    have hge := Array.getElem?_eq_none_iff.1 hnone
    obtain rfl : p = place := by omega
    exact Option.some.inj (hu.symm.trans ht)
  have hstopped : ∀ answer, l.scan input t.resume = answer → (∀ u, answer ≠ .ok (some u)) →
      Sound l input { c with ending := some answer } := by
    intro answer hscan hne
    refine ⟨hs.successor, fun p u answer' hu hnone hanswer => ?_, fun u hu => ?_⟩
    · cases hlast p u hu hnone
      exact hscan.trans (Option.some.inj hanswer)
    · exact hne u (Option.some.inj hu)
  rw [hnext]
  rcases hscan : l.scan input t.resume with e | _ | u
  · exact hstopped _ hscan (by simp)
  · exact hstopped _ hscan (by simp)
  · refine ⟨fun p v w hv hw => ?_, fun p v answer hv hnone hanswer => ?_, fun v hv => ?_⟩
    · simp only [remember, Array.getElem?_push] at hv hw
      have hlt : p < c.tokens.size := by
        by_contra hge
        rw [if_neg (by omega), Array.getElem?_eq_none (by omega)] at hw
        cases hw
      rw [if_neg (by omega)] at hv
      split at hw
      · cases hw
        cases hlast p v hv (Array.getElem?_eq_none (by omega))
        exact hscan
      · exact hs.successor p v w hv hw
    · simp [remember, hending] at hanswer
    · simp [remember, hending] at hv

/-- The token that a call finds is the one after the token that is asked. -/
theorem Sound.getElem?_answer (hs : c.Sound l input) (ht : c.tokens[place]? = some t) {u : Token}
    (hu : (c.next l input place).1 = .ok (some u)) :
    (c.next l input place).2.1.tokens[place + 1]? = some u := by
  by_cases h : c.Remembers place
  · rcases h with hlt | ⟨hsize, hending⟩
    · simpa [Chain.next, hlt] using hu
    · obtain ⟨answer, hanswer⟩ := Option.isSome_iff_exists.1 hending
      simp only [Chain.next, hsize, hanswer, Array.getElem?_size] at hu
      exact absurd (hanswer.trans (congrArg some hu)) (hs.ending_ne u)
  · obtain ⟨hsize, -, hnext⟩ := next_of_not_remembers ht h l input
    rw [hnext] at hu ⊢
    simp only at hu ⊢
    simp [hu, remember, hsize]

/-! ## Calls one after the other -/

theorem Asks.getElem? {calls : List Call} {d : Chain} (h : Asks l input c calls d)
    (ht : c.tokens[place]? = some t) : d.tokens[place]? = some t := by
  induction h with
  | refl => exact ht
  | @call c c' d asked u answer log calls hu hnext _ ih =>
    have := getElem?_next l input ht asked
    rw [hnext] at this
    exact ih this

/-- What holds of each of some calls. -/
theorem Asks.forall {calls : List Call} {d : Chain} (h : Asks l input c calls d)
    (hs : c.Sound l input) :
    ∀ k ∈ calls, k.before.Sound l input ∧ k.before.tokens[k.place]? = some k.token ∧
      k.before.next l input k.place = (k.answer, k.after, k.log) ∧
      ∀ (p : Nat) (u : Token), k.after.tokens[p]? = some u → d.tokens[p]? = some u := by
  induction h with
  | refl => simp
  | @call c c' d asked u answer log calls hu hnext hcalls ih =>
    have hs' := hs.next hu
    rw [hnext] at hs'
    exact List.forall_mem_cons.2
      ⟨⟨hs, hu, hnext, fun _ _ hv => hcalls.getElem? hv⟩, ih hs'⟩

/-- A call scans if nothing was remembered for its token at the outset and no earlier one was on
it. -/
theorem Asks.scans_iff {earlier later : List Call} {k : Call} {d : Chain}
    (h : Asks l input c (earlier ++ k :: later) d) :
    k.Scans ↔ ¬ c.Remembers k.place ∧ ∀ j ∈ earlier, j.place ≠ k.place := by
  induction earlier generalizing c with
  | nil =>
    cases h
    simp [Call.Scans]
  | cons j earlier ih =>
    rcases h with _ | @⟨c, c', d, asked, u, answer, log, _, hu, hnext, hcalls⟩
    have hiff := remembers_next l input hu k.place
    rw [hnext] at hiff
    rw [ih hcalls, hiff, List.forall_mem_cons, not_or, and_assoc, ne_comm (a := asked)]

theorem Asks.countP_scans {calls : List Call} {d : Chain} (h : Asks l input c calls d) (p : Nat) :
    calls.countP (fun k => k.place = p ∧ k.Scans)
      = if ¬ c.Remembers p ∧ ∃ k ∈ calls, k.place = p then 1 else 0 := by
  induction h with
  | refl => simp
  | @call c c' d asked u answer log calls hu hnext hcalls ih =>
    have hiff := remembers_next l input hu p
    rw [hnext] at hiff
    simp only at hiff
    simp only [List.countP_cons, ih, hiff, List.exists_mem_cons_iff]
    by_cases hp : asked = p
    · subst hp
      by_cases hr : c.Remembers asked <;> simp [Call.Scans, hr]
    · simp [hp, Ne.symm hp]

/-- A list of logs, when some of them are empty. -/
theorem flatMap_log {calls : List Call} {logOf : Call → List Event}
    (h : ∀ k ∈ calls, k.log = if k.Scans then logOf k else []) :
    calls.flatMap (·.log) = (calls.filter (·.Scans)).flatMap logOf := by
  induction calls with
  | nil => rfl
  | cons k calls ih =>
    obtain ⟨hk, hcalls⟩ := List.forall_mem_cons.1 h
    rw [List.flatMap_cons, ih hcalls, hk, List.filter_cons]
    by_cases hscans : k.Scans <;> simp [hscans]

theorem sound_ofToken (t : Token) : (ofToken t).Sound l input where
  successor place u v _ hv := by
    rw [ofToken, Array.getElem?_eq_none (by simp)] at hv
    cases hv
  ending _ _ _ _ _ h := by cases h
  ending_ne _ h := by cases h

theorem not_remembers_ofToken (t : Token) (place : Nat) : ¬ (ofToken t).Remembers place := by
  simp [Remembers, ofToken]

/-- Calls in any order, and repeated at will, are answered as if each had scanned, and each token
that is asked is scanned after once. -/
theorem answeredOnce_of_asks {t : Token} {calls : List Call} {d : Chain}
    (h : (ofToken t).Asks l input calls d) : AnsweredOnce l input calls d := by
  have hforall := h.forall (sound_ofToken t)
  have hanswer : ∀ k ∈ calls, k.answer = l.scan input k.token.resume := by
    intro k hk
    obtain ⟨hs, htoken, hnext, -⟩ := hforall k hk
    rw [← hs.answer_next htoken, hnext]
  refine ⟨hanswer, fun k hk => ?_, fun earlier k later hcalls => ?_, fun place => ?_,
    fun k hk hscans => ?_, fun k hk hscans => ?_, ?_, fun k hk place u hu => ?_⟩
  · obtain ⟨hs, htoken, hnext, hafter⟩ := hforall k hk
    have hkept := getElem?_next l input htoken k.place
    have hfound := fun u => hs.getElem?_answer htoken (u := u)
    rw [hnext] at hkept hfound
    exact ⟨hafter _ _ hkept, fun u hu => hafter _ _ (hfound u hu)⟩
  · subst hcalls
    rw [h.scans_iff, and_iff_right (not_remembers_ofToken t _)]
  · rw [h.countP_scans]
    simp only [not_remembers_ofToken, not_false_eq_true, true_and]
  · obtain ⟨-, htoken, -, -⟩ := hforall k hk
    exact fun l' input' => (next_of_not_remembers htoken hscans l' input').2.2
  · obtain ⟨-, -, hnext, -⟩ := hforall k hk
    obtain ⟨answer, hsame⟩ := next_of_remembers (not_not.1 hscans)
    have hfst : k.answer = answer := congrArg Prod.fst (hnext.symm.trans (hsame l input))
    rwa [hfst]
  · refine flatMap_log fun k hk => ?_
    obtain ⟨-, htoken, hnext, -⟩ := hforall k hk
    split
    · rename_i hscans
      have hscan := (next_of_not_remembers htoken hscans l input).2.2
      exact congrArg (·.2.2) (hnext.symm.trans hscan)
    · rename_i hscans
      obtain ⟨answer, hsame⟩ := next_of_remembers (not_not.1 hscans)
      exact congrArg (·.2.2) (hnext.symm.trans (hsame l input))
  · obtain ⟨hs, htoken, hnext, -⟩ := hforall k hk
    have hkept := getElem?_next l input hu k.place
    have hs' := hs.next htoken
    rw [hnext] at hkept hs'
    exact ⟨hkept, (hs'.answer_next hkept).trans (hs.answer_next hu).symm⟩

open scoped Unicode in
/-- The second token answers an error, which it remembers as the first one remembers the second. -/
theorem answeredOnce_noteLexer :
    let input := ['é', '<', '\n', 'b', 'x']
    let word : Token := ⟨"word", "é", ⟨0, 0, 1, 1, 1, 2⟩, true, ⟨.name "text", 1, 2, 1, 2⟩⟩
    let note : Token := ⟨"note", "b", ⟨3, 4, 2, 1, 2, 2⟩, true, ⟨.name "note", 4, 5, 2, 2⟩⟩
    let e : Error := ⟨.noRuleMatches 'x' "no note", some (.point 4 5 2 2)⟩
    Lexer.noteLexer.Built ∧ Lexer.parse Lexer.noteLexer input = .ok (some word) ∧
      ∃ calls d, (ofToken word).Asks Lexer.noteLexer input calls d ∧
        calls.map (fun k => (k.place, k.answer, k.log)) =
          [(0, .ok (some note), [.switching (.name "text") (.name "note"),
              .skipped "<\n" ⟨1, 2, 1, 2, 2, 1⟩, .accepted "b" note.position]),
            (1, .error e, [.scanFailed (.name "note") e]),
            (0, .ok (some note), []), (1, .error e, [])] ∧
        AnsweredOnce Lexer.noteLexer input calls d := by
  intro input word note e
  have hskipped : Lexer.noteLexer.step input word.resume
      = .piece ⟨"", "<\n", ⟨1, 2, 1, 2, 2, 1⟩, false, ⟨.name "note", 3, 4, 2, 1⟩⟩ := rfl
  have hnote : Lexer.noteLexer.step input ⟨.name "note", 3, 4, 2, 1⟩ = .piece note := rfl
  have hfailed : Lexer.noteLexer.step input note.resume = .failed e := rfl
  have hparse : Lexer.noteLexer.parse input = .ok (some word) :=
    Lexer.scan_eq_of_step_piece (t := word) rfl
  have hfound : Lexer.noteLexer.scan input word.resume = .ok (some note) := by
    rw [Lexer.scan_eq_of_step_piece hskipped, if_neg (by decide),
      Lexer.scan_eq_of_step_piece hnote, if_pos rfl]
  have herror := Lexer.scan_eq_of_step_failed hfailed
  have hfoundLog : Lexer.noteLexer.scanLog input word.resume
      = [.switching (.name "text") (.name "note"), .skipped "<\n" ⟨1, 2, 1, 2, 2, 1⟩,
        .accepted "b" note.position] := by
    rw [Lexer.scanLog_eq, hskipped]
    simp only [Bool.false_eq_true, if_false]
    rw [Lexer.scanLog_eq, hnote]
    rfl
  have herrorLog : Lexer.noteLexer.scanLog input note.resume = [.scanFailed (.name "note") e] := by
    rw [Lexer.scanLog_eq, hfailed]
    rfl
  have hfirst : (ofToken word).next Lexer.noteLexer input 0
      = (.ok (some note), ⟨#[word, note], none⟩, [.switching (.name "text") (.name "note"),
        .skipped "<\n" ⟨1, 2, 1, 2, 2, 1⟩, .accepted "b" note.position]) := by
    rw [(next_of_not_remembers (t := word) rfl (not_remembers_ofToken word 0) _ _).2.2, hfound,
      hfoundLog]
    rfl
  have hsecond : Chain.next Lexer.noteLexer input ⟨#[word, note], none⟩ 1
      = (.error e, ⟨#[word, note], some (.error e)⟩, [.scanFailed (.name "note") e]) := by
    rw [(next_of_not_remembers (t := note) rfl (by decide) _ _).2.2, herror, herrorLog]
    rfl
  have hthird : Chain.next Lexer.noteLexer input ⟨#[word, note], some (.error e)⟩ 0
      = (.ok (some note), ⟨#[word, note], some (.error e)⟩, []) := rfl
  have hfourth : Chain.next Lexer.noteLexer input ⟨#[word, note], some (.error e)⟩ 1
      = (.error e, ⟨#[word, note], some (.error e)⟩, []) := rfl
  have hasks := Asks.call rfl hfirst <| .call rfl hsecond <| .call rfl hthird <|
    .call rfl hfourth <| .refl _
  exact ⟨Lexer.built_noteLexer, hparse, _, _, hasks, rfl, answeredOnce_of_asks hasks⟩

end Chain

end ModalLex
