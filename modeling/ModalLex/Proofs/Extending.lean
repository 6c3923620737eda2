import ModalLex.Proofs.Revealing

/-!
# More rules and contexts

Rules that are added after a context's own, and contexts that are added to the table, come into play
only where a scan would fail for want of one. So what a lexer yields, the extended one yields first;
and if the lexer comes to the end, or fails for another cause, the two do the same
(`run_of_extendedBy`).
-/

namespace ModalLex

/-- Whether the cause is that a rule or a context is wanting. -/
def Cause.isWant : Cause → Bool
  | noRuleMatches .. | unknownContext _ => true
  | _ => false

/-- The second context has the rules of the first one and then more. -/
structure Context.ExtendedBy (c d : Context) : Prop where
  message : c.message = d.message
  flags : c.flags = d.flags
  rules : c.rules <+: d.rules

namespace Lexer

/-- The second lexer has the contexts of the first one in their order, each with more rules or none,
and then more contexts. -/
def ExtendedBy (l k : Lexer) : Prop :=
  ∃ contexts more, k.contexts = contexts ++ more ∧
    List.Forall₂ (fun x y => x.1 = y.1 ∧ x.2.ExtendedBy y.2) l.contexts contexts

/-- Every context is built from its rules, and its composite is the choice among what their patterns
are by themselves. -/
def GroupedByPatterns [Pattern.Engine] (l : Lexer) : Prop :=
  ∀ x ∈ l.contexts, x.2.Built ∧ x.2.GroupedByPatterns

end Lexer

/-- The second run goes on where the first one ends for want of a rule or a context, and else is the
same. -/
structure Run.ExtendedBy (r q : Run) : Prop where
  tokens : r.tokens <+: q.tokens
  eq : (∀ e, r.error = some e → e.cause.isWant = false) → q = r

/-! ## The first rule -/

namespace Context

variable [Pattern.Engine] {c d : Context}

theorem ruleAt?_eq_tryRules (hc : c.Built) (hp : c.GroupedByPatterns) (before : Option Char)
    (text : List Char) : c.ruleAt? before text = tryRules c.flags before text c.rules := by
  obtain ⟨nodes, hown, hnode⟩ := hp
  rw [ruleAt?_eq (groupedBy_of_patterns hc hown hnode), tryRules_eq_firstMatch? before text hown]

/-- What the first rules find is found with more rules after them too. -/
theorem tryRules_append {flags : Flags} {before : Option Char} {text : List Char}
    {x : Rule × List Char} (more : List Rule) :
    ∀ {rules : List Rule}, tryRules flags before text rules = some x →
      tryRules flags before text (rules ++ more) = some x
  | [], h => by cases h
  | r :: rules, h => by
    simp only [List.cons_append, tryRules] at h ⊢
    rcases hr : ownMatch? flags before text r with _ | part
    · rw [hr] at h
      exact tryRules_append more h
    · rw [hr] at h
      exact h

theorem ExtendedBy.ruleAt? (hc : c.Built ∧ c.GroupedByPatterns) (hd : d.Built ∧ d.GroupedByPatterns)
    (h : c.ExtendedBy d) {before : Option Char} {text : List Char} {x : Rule × List Char}
    (hx : c.ruleAt? before text = some x) : d.ruleAt? before text = some x := by
  obtain ⟨more, hrules⟩ := h.rules
  rw [ruleAt?_eq_tryRules hc.1 hc.2] at hx
  rw [ruleAt?_eq_tryRules hd.1 hd.2, ← h.flags, ← hrules]
  exact tryRules_append more hx

/-- What comes of a match is the same with more rules, unless no rule matches. -/
theorem ExtendedBy.matchSpot (hc : c.Built ∧ c.GroupedByPatterns)
    (hd : d.Built ∧ d.GroupedByPatterns) (h : c.ExtendedBy d) (spot : Text.Spot)
    (offset row column : Nat) :
    (∃ e, c.matchSpot spot offset row column = .error e ∧ e.cause.isWant = true) ∨
      d.matchSpot spot offset row column = c.matchSpot spot offset row column := by
  rcases spot with index | _ | ⟨index, before, char, rest⟩
  · exact .inr rfl
  · exact .inr rfl
  · rcases hx : c.ruleAt? before (char :: rest) with _ | ⟨r, part⟩
    · exact .inl ⟨⟨.noRuleMatches char c.message, some (.point index offset row column)⟩,
        by simp only [Context.matchSpot, hx], rfl⟩
    · have hy := h.ruleAt? hc hd hx
      refine .inr ?_
      cases part <;> simp only [Context.matchSpot, hx, hy]

end Context

namespace Lexer

variable {l k : Lexer}

/-! ## The same steps -/

theorem ExtendedBy.context? (h : l.ExtendedBy k) {id : ContextId} {c : Context}
    (hc : l.context? id = some c) : ∃ d, k.context? id = some d ∧ c.ExtendedBy d := by
  obtain ⟨contexts, more, hk, hrel⟩ := h
  have hlookup := rel_lookup_of_forall₂ id hrel
  rw [show l.contexts.lookup id = some c from hc] at hlookup
  generalize hd : contexts.lookup id = x at hlookup
  cases hlookup with
  | @some _ d hcd =>
    refine ⟨d, ?_, hcd⟩
    rw [Lexer.context?, hk, List.lookup_append, hd]
    rfl

theorem ExtendedBy.initialState (h : l.ExtendedBy k) : k.initialState = l.initialState := by
  obtain ⟨contexts, more, hk, hrel⟩ := h
  obtain ⟨_ | ⟨x, xs⟩, hne, _⟩ := l
  · exact absurd rfl hne
  obtain ⟨_, hne, _⟩ := k
  obtain rfl := hk
  cases hrel with
  | cons hxy _ => exact congrArg ScanState.start hxy.1.symm

theorem ExtendedBy.stepOfMatch (h : l.ExtendedBy k) {c d : Context}
    (hmessage : c.message = d.message) (s : ScanState) (m : Match) :
    (∃ e, l.stepOfMatch c s m = .failed e ∧ e.cause.isWant = true) ∨
      k.stepOfMatch d s m = l.stepOfMatch c s m := by
  by_cases hnext : m.next ≠ s.context ∧ l.context? m.next = none
  · refine .inl ⟨_, by simp only [Lexer.stepOfMatch, if_pos hnext]; rfl, rfl⟩
  · have hnext' : ¬ (m.next ≠ s.context ∧ k.context? m.next = none) := by
      rintro ⟨hne, hnone⟩
      refine hnext ⟨hne, ?_⟩
      by_contra hsome
      obtain ⟨c', hc'⟩ := Option.ne_none_iff_exists'.1 hsome
      obtain ⟨d', hd', -⟩ := h.context? hc'
      rw [hnone] at hd'
      cases hd'
    refine .inr ?_
    simp only [Lexer.stepOfMatch, if_neg hnext, if_neg hnext', hmessage]

section Reading

variable [Pattern.Engine]

/-- A step is the same with more rules and contexts, unless it fails for want of one. -/
theorem ExtendedBy.step (hl : l.GroupedByPatterns) (hk : k.GroupedByPatterns) (h : l.ExtendedBy k)
    (input : List Char) (s : ScanState) :
    (∃ e, l.step input s = .failed e ∧ e.cause.isWant = true) ∨
      k.step input s = l.step input s := by
  unfold Lexer.step
  split
  · exact .inr rfl
  · rcases hc : l.context? s.context with _ | c
    · exact .inl ⟨_, rfl, rfl⟩
    · obtain ⟨d, hd, hcd⟩ := h.context? hc
      have hmatch := hcd.matchSpot (hl _ (mem_of_context? hc)) (hk _ (mem_of_context? hd))
        (Text.seek s.offset input) s.offset s.row s.column
      simp only [hd]
      rcases hmatch with ⟨e, he, hwant⟩ | hmatch
      · exact .inl ⟨e, by rw [he], hwant⟩
      · rw [hmatch]
        rcases c.matchSpot (Text.seek s.offset input) s.offset s.row s.column with e | m
        · exact .inr rfl
        · exact h.stepOfMatch hcd.message s m

/-! ## The same runs -/

theorem ExtendedBy.pieces (hl : l.GroupedByPatterns) (hk : k.GroupedByPatterns)
    (h : l.ExtendedBy k) (input : List Char) (s : ScanState) :
    (l.pieces input s).ExtendedBy (k.pieces input s) := by
  fun_induction Lexer.pieces l input s with
  | case1 s hstep =>
    rcases h.step hl hk input s with ⟨e, he, -⟩ | heq
    · rw [hstep] at he
      cases he
    · rw [pieces_eq, heq, hstep]
      exact ⟨List.prefix_refl _, fun _ => rfl⟩
  | case2 s e hstep =>
    rcases h.step hl hk input s with ⟨e', he, hwant⟩ | heq
    · rw [hstep] at he
      cases he
      refine ⟨List.nil_prefix, fun hnot => ?_⟩
      rw [hnot e rfl] at hwant
      cases hwant
    · rw [pieces_eq, heq, hstep]
      exact ⟨List.prefix_refl _, fun _ => rfl⟩
  | case3 s t hstep ih =>
    rcases h.step hl hk input s with ⟨e, he, -⟩ | heq
    · rw [hstep] at he
      cases he
    · rw [pieces_eq k, heq, hstep]
      exact ⟨(List.prefix_cons_inj t).2 ih.tokens, fun hnot => congrArg (Run.cons t) (ih.eq hnot)⟩

theorem ExtendedBy.run (hl : l.GroupedByPatterns) (hk : k.GroupedByPatterns)
    (h : l.ExtendedBy k) (input : List Char) (s : ScanState) :
    (l.run input s).ExtendedBy (k.run input s) := by
  have hpieces := h.pieces hl hk input s
  rw [run_eq_kept, run_eq_kept]
  exact ⟨hpieces.tokens.filter _, fun hnot => congrArg Run.kept (hpieces.eq hnot)⟩

/-- The tokens of a lexer are the first ones of the extended lexer. If the lexer takes the input to
its end, both give the same tokens; and if it fails, but not for want of a rule or a context, both
fail alike after the same tokens. -/
theorem run_of_extendedBy (hl : l.GroupedByPatterns) (hk : k.GroupedByPatterns)
    (h : l.ExtendedBy k) (input : List Char) :
    (l.run input l.initialState).tokens <+: (k.run input k.initialState).tokens ∧
    (∀ tokens, l.tokenize input = .ok tokens → k.tokenize input = .ok tokens) ∧
    ∀ e, l.tokenize input = .error e → e.cause.isWant = false →
      k.run input k.initialState = l.run input l.initialState ∧ k.tokenize input = .error e := by
  have hrun := h.run hl hk input l.initialState
  have hfirst : l.tokenize input = (l.run input l.initialState).outcome := collect_eq_outcome _
  have hsecond : k.tokenize input = (k.run input l.initialState).outcome := by
    rw [← h.initialState]
    exact collect_eq_outcome _
  rw [hfirst, hsecond, h.initialState]
  refine ⟨hrun.tokens, fun tokens htokens => ?_, fun e he hwant => ?_⟩
  · have hnone := (Run.outcome_eq_ok_iff.1 htokens).1
    rw [hrun.eq (by simp [hnone]), htokens]
  · have hsome := Run.outcome_eq_error_iff.1 he
    have heq := hrun.eq (by simpa [hsome] using hwant)
    exact ⟨heq, by rw [heq, he]⟩

end Reading

open scoped Unicode

/-- Words of one letter, and a letter whose rule gives no kind. -/
def wordLexer : Lexer where
  contexts :=
    [(.name "text",
      { message := "no word"
        flags := {}
        rules := [.token "a" "word" (.name "text"), ⟨"c", fun _ => ⟨none, .name "text", true⟩⟩]
        node := .grouped [.literal ['a'], .literal ['c'], .anyChar] })]
  contexts_ne_nil := by simp
  ids_nodup := by simp

/-- The same with a rule for notes after the two, and with a context for what follows a note. -/
def noteAfterWordLexer : Lexer where
  contexts :=
    [(.name "text",
      { message := "no word"
        flags := {}
        rules := [.token "a" "word" (.name "text"), ⟨"c", fun _ => ⟨none, .name "text", true⟩⟩,
          .token "b" "note" (.name "note")]
        node := .grouped [.literal ['a'], .literal ['c'], .literal ['b'], .anyChar] }),
    (.name "note",
      { message := "no note"
        flags := {}
        rules := [.token ">" "bracket" (.name "text")]
        node := .grouped [.literal ['>'], .anyChar] })]
  contexts_ne_nil := by simp
  ids_nodup := by simp

/-- The first lexer has no rule for the letter of a note; a letter without a kind fails in both. -/
theorem run_wordLexer :
    let word : Token := ⟨"word", "a", ⟨0, 0, 1, 1, 1, 2⟩, true, ⟨.name "text", 1, 1, 1, 2⟩⟩
    let unknown : Error := ⟨.noRuleMatches 'b' "no word", some (.point 1 1 1 2)⟩
    let unkind : Error := ⟨.missingKind "no word" "c", some (.point 1 1 1 2)⟩
    wordLexer.GroupedByPatterns ∧ noteAfterWordLexer.GroupedByPatterns ∧
      wordLexer.ExtendedBy noteAfterWordLexer ∧
      wordLexer.run ['a', 'b'] wordLexer.initialState = ⟨[word], some unknown⟩ ∧
      [word] <+: (noteAfterWordLexer.run ['a', 'b'] noteAfterWordLexer.initialState).tokens ∧
      noteAfterWordLexer.tokenize ['a', 'c'] = .error unkind := by
  intro word unknown unkind
  have hword : wordLexer.GroupedByPatterns :=
    List.forall_mem_singleton.2 ⟨by rfl, [.literal ['a'], .literal ['c']], by rfl, by rfl⟩
  have hnote : noteAfterWordLexer.GroupedByPatterns :=
    List.forall_mem_cons.2
      ⟨⟨by rfl, [.literal ['a'], .literal ['c'], .literal ['b']], by rfl, by rfl⟩,
        List.forall_mem_singleton.2 ⟨by rfl, [.literal ['>']], by rfl, by rfl⟩⟩
  have hextended : wordLexer.ExtendedBy noteAfterWordLexer :=
    ⟨noteAfterWordLexer.contexts.take 1, noteAfterWordLexer.contexts.drop 1, rfl,
      .cons ⟨rfl, rfl, rfl, _, rfl⟩ .nil⟩
  have hunknown : wordLexer.run ['a', 'b'] wordLexer.initialState = ⟨[word], some unknown⟩ := by
    rw [run_eq_step, show wordLexer.step _ wordLexer.initialState = .piece word from rfl]
    change Run.cons _ (wordLexer.run _ word.resume) = _
    rw [run_eq_step, show wordLexer.step _ word.resume = .failed unknown from rfl]
    rfl
  have hunkind : wordLexer.run ['a', 'c'] wordLexer.initialState = ⟨[word], some unkind⟩ := by
    rw [run_eq_step, show wordLexer.step _ wordLexer.initialState = .piece word from rfl]
    change Run.cons _ (wordLexer.run _ word.resume) = _
    rw [run_eq_step, show wordLexer.step _ word.resume = .failed unkind from rfl]
    rfl
  have hfails : wordLexer.tokenize ['a', 'c'] = .error unkind :=
    (collect_eq_outcome _).trans (congrArg Run.outcome hunkind)
  have hprefix := (run_of_extendedBy hword hnote hextended ['a', 'b']).1
  have hsame := (run_of_extendedBy hword hnote hextended ['a', 'c']).2.2 unkind hfails rfl
  rw [hunknown] at hprefix
  exact ⟨hword, hnote, hextended, hunknown, hprefix, hsame.2⟩

end Lexer

end ModalLex
