import ModalLex.Proofs.Extending
import ModalLex.Proofs.Reaching

/-!
# Total lexers

A lexer is total if in each of its contexts some rule matches at every character by itself, no rule
matches the empty text, and every text gets a kind and a context of the table. Wherever a scan
comes to, a rule is found there then, be it the one that matches everywhere or one before it. So no
step fails, every input is tokenized, and its pieces, kept or skipped, cover it
(`tokenize_of_total`).
-/

namespace ModalLex

namespace Lexer

variable {l : Lexer} {input : List Char}

/-- Each of the pieces stands where the one before it ends, the first one after the text `before`,
and the last one ends where the input does. -/
def Covers (l : Lexer) (input : List Char) : (before : List Char) → List Token → Prop
  | before, [] => before = input
  | before, t :: ts => t.StandsAfter l input before ∧ l.Covers input (before ++ t.text.toList) ts

/-! ## Pieces without an error -/

/-- Pieces that no error ends cover what comes after the state they begin at. -/
theorem covers_of_pieces (hl : l.WellGrouped) {id : ContextId} {before : List Char}
    (hbefore : before <+: input) (h : (l.pieces input (.after id before)).error = none) :
    l.Covers input before (l.pieces input (.after id before)).tokens := by
  generalize hs : ScanState.after id before = s at h ⊢
  fun_induction pieces l input s generalizing id before with
  | case1 s hended =>
    subst hs
    obtain ⟨_ | ⟨char, rest⟩, rfl⟩ := hbefore
    · exact (List.append_nil before).symm
    · exact absurd (step_eq_ended_iff.1 hended) (Nat.not_le_of_lt lt_byteLength_append_cons)
  | case2 => cases h
  | case3 s t hpiece ih =>
    subst hs
    have hstands := standsAfter_of_step hl hbefore hpiece
    exact ⟨hstands, ih hstands.slice hstands.resume.symm h⟩

theorem Covers.append_eq : ∀ {pieces : List Token} {before : List Char},
    l.Covers input before pieces → before ++ pieces.flatMap (·.text.toList) = input
  | [], before, h => (List.append_nil before).trans h
  | t :: ts, before, h => by
    rw [List.flatMap_cons, ← List.append_assoc]
    exact append_eq h.2

theorem tokenize_eq_filter {pieces : List Token}
    (h : l.pieces input l.initialState = ⟨pieces, none⟩) :
    l.tokenize input = .ok (pieces.filter (·.keep)) := by
  rw [tokenize, tokens, collect_eq_outcome, run_eq_kept, h]
  rfl

end Lexer

section Totality

variable [Pattern.Engine]

namespace Rule

/-- By itself the rule's pattern matches at every character of every text. -/
def MatchesEverywhere (flags : Flags) (r : Rule) : Prop :=
  ∀ before char rest, Context.ownMatch? flags before (char :: rest) r ≠ none

/-- By itself the rule's pattern matches the empty text at no character of any text. -/
def NeverEmpty (flags : Flags) (r : Rule) : Prop :=
  ∀ before char rest, Context.ownMatch? flags before (char :: rest) r ≠ some []

end Rule

namespace Lexer

/-- Each composite is the choice among what its rules' patterns are by themselves. In each context
some rule matches everywhere, and no rule matches the empty text; whatever a rule matches, it gives
it a kind and a context of the table. -/
structure Total (l : Lexer) : Prop where
  grouped : l.GroupedByPatterns
  everywhere : ∀ x ∈ l.contexts, ∃ r ∈ x.2.rules, r.MatchesEverywhere x.2.flags
  neverEmpty : ∀ x ∈ l.contexts, ∀ r ∈ x.2.rules, r.NeverEmpty x.2.flags
  kind : ∀ x ∈ l.contexts, ∀ r ∈ x.2.rules, ∀ text, (r.classify text).kind ≠ none
  registered : ∀ x ∈ l.contexts, ∀ r ∈ x.2.rules, ∀ text,
    l.context? (r.classify text).next ≠ none

end Lexer

/-! ## Rules that match -/

namespace Context

/-- Where a dot is a pattern at all, it matches one character, a newline too. -/
theorem ownMatch?_dot {flags : Flags} {r : Rule} (hr : r.pattern = ".")
    (h : checkPattern flags r.pattern = .ok ()) (before : Option Char) (char : Char)
    (rest : List Char) : ownMatch? flags before (char :: rest) r = some [char] := by
  have hnode : nodeOf flags "." = .ok Pattern.Node.anyChar := by
    obtain ⟨caseInsensitive, multiLine, unicode, ignoreWhitespace, swapGreed, crlf⟩ := flags
    rw [hr] at h
    cases unicode with
    | false => cases ignoreWhitespace <;> cases h
    | true =>
      obtain ⟨n, hn, -⟩ := silent_of_checkPattern h
      obtain ⟨e, hreads, -, rfl⟩ := Pattern.Reading.reads_of_ofText (ofText_of_nodeOf hn)
      rw [hn]
      cases ignoreWhitespace
      all_goals
        rw [hreads.unique (.step (.mk rfl) (.refl _ _))]
        rfl
  rw [ownMatch?, hr, hnode]
  simp [Pattern.Node.match?, Pattern.matchLength?_anyChar]

end Context

namespace Rule

variable {flags : Flags} {r : Rule}

theorem matchesEverywhere_dot (hr : r.pattern = ".")
    (h : checkPattern flags r.pattern = .ok ()) : r.MatchesEverywhere flags :=
  fun before char rest => by simp [Context.ownMatch?_dot hr h]

theorem neverEmpty_dot (hr : r.pattern = ".") (h : checkPattern flags r.pattern = .ok ()) :
    r.NeverEmpty flags :=
  fun before char rest => by simp [Context.ownMatch?_dot hr h]

end Rule

namespace Context

theorem tryRules_eq_findSome? (flags : Flags) (before : Option Char) (text : List Char) :
    ∀ rules : List Rule, tryRules flags before text rules
      = rules.findSome? fun r => (ownMatch? flags before text r).map (r, ·)
  | [] => rfl
  | r :: rules => by
    rw [tryRules, List.findSome?_cons, tryRules_eq_findSome? flags before text rules]
    cases ownMatch? flags before text r <;> rfl

theorem tryRules_ne_none {flags : Flags} {before : Option Char} {text : List Char}
    {rules : List Rule} {r : Rule} (hr : r ∈ rules) (h : ownMatch? flags before text r ≠ none) :
    tryRules flags before text rules ≠ none := by
  rw [tryRules_eq_findSome?, Ne, List.findSome?_eq_none_iff]
  intro hnone
  exact h (Option.map_eq_none_iff.1 (hnone r hr))

theorem ownMatch?_of_tryRules {flags : Flags} {before : Option Char} {text part : List Char}
    {rules : List Rule} {r : Rule} (h : tryRules flags before text rules = some (r, part)) :
    r ∈ rules ∧ ownMatch? flags before text r = some part := by
  rw [tryRules_eq_findSome?] at h
  obtain ⟨q, hq, hpart⟩ := List.exists_of_findSome?_eq_some h
  obtain ⟨part', hown, heq⟩ := Option.map_eq_some_iff.1 hpart
  cases heq
  exact ⟨hq, hown⟩

end Context

namespace Lexer

variable {l : Lexer} {input : List Char}

theorem GroupedByPatterns.wellGrouped (h : l.GroupedByPatterns) : l.WellGrouped := by
  intro x hx
  obtain ⟨hbuilt, nodes, hown, hnode⟩ := h x hx
  exact ⟨nodes, Context.groupedBy_of_patterns hbuilt hown hnode⟩

/-! ## No step fails -/

/-- In a total lexer nothing is wrong with any context, wherever it is active. -/
theorem Total.not_failsBy (hl : l.Total) {id : ContextId} {c : Context}
    (hc : l.context? id = some c) {before : List Char} {cause : Cause} :
    ¬ l.FailsBy input id c before cause := by
  have hx := mem_of_context? hc
  obtain ⟨hbuilt, hpatterns⟩ := hl.grouped _ hx
  intro h
  cases h with
  | noRule hinput hnone =>
    obtain ⟨r, hr, heverywhere⟩ := hl.everywhere _ hx
    rw [Context.ruleAt?_eq_tryRules hbuilt hpatterns] at hnone
    exact Context.tryRules_ne_none hr (heverywhere _ _ _) hnone
  | emptyMatch hinput hsome =>
    rw [Context.ruleAt?_eq_tryRules hbuilt hpatterns] at hsome
    obtain ⟨hr, hempty⟩ := Context.ownMatch?_of_tryRules hsome
    exact hl.neverEmpty _ hx _ hr _ _ _ hempty
  | unknownNext hm hne hnone =>
    obtain ⟨r, hr, hclassify⟩ := Context.exists_rule_of_matchAt (hm 0 0)
    exact hl.registered _ hx r hr _ (by rw [hclassify]; exact hnone)
  | noKind hm hnext hkind =>
    obtain ⟨r, hr, hclassify⟩ := Context.exists_rule_of_matchAt (hm 0 0)
    exact hl.kind _ hx r hr _ (by rw [hclassify]; exact hkind)

/-- No step of a total lexer fails at a place of the input in a context of the table. -/
theorem Total.step_ne_failed (hl : l.Total) {s : ScanState} (hs : s.StandsIn l input) (e : Error) :
    l.step input s ≠ .failed e := by
  obtain ⟨hid, before, hbefore, heq⟩ := hs
  obtain ⟨c, hc⟩ := Option.ne_none_iff_exists'.1 hid
  rw [heq]
  intro h
  exact hl.not_failsBy hc ((step_eq_failed_iff hbefore hc).1 h).1

theorem Total.error_pieces (hl : l.Total) {s : ScanState} (hs : s.StandsIn l input) :
    (l.pieces input s).error = none := by
  fun_induction pieces l input s with
  | case1 => rfl
  | case2 s e h => exact absurd h (hl.step_ne_failed hs e)
  | case3 s t h ih => exact ih (standsIn_of_step hl.grouped.wellGrouped h hs)

/-- A total lexer tokenizes every input, and the pieces, kept or skipped, cover it. A rule whose
pattern is a dot is one that matches everywhere, and never the empty text. -/
theorem tokenize_of_total :
    (∀ (flags : Flags) (r : Rule), r.pattern = "." → checkPattern flags r.pattern = .ok () →
      r.MatchesEverywhere flags ∧ r.NeverEmpty flags) ∧
    ∀ l : Lexer, l.Total → ∀ input, ∃ pieces, l.pieces input l.initialState = ⟨pieces, none⟩ ∧
      l.tokenize input = .ok (pieces.filter (·.keep)) ∧ l.Covers input [] pieces ∧
      pieces.flatMap (·.text.toList) = input := by
  refine ⟨fun flags r hr h => ⟨Rule.matchesEverywhere_dot hr h, Rule.neverEmpty_dot hr h⟩,
    fun l hl input => ?_⟩
  have herror : (l.pieces input l.initialState).error = none :=
    hl.error_pieces (standsIn_after (registered_initial l) List.nil_prefix)
  have hpieces : l.pieces input l.initialState
      = ⟨(l.pieces input l.initialState).tokens, none⟩ := by
    rw [← herror]
  have hcovers : l.Covers input [] (l.pieces input l.initialState).tokens :=
    covers_of_pieces hl.grouped.wellGrouped List.nil_prefix herror
  exact ⟨_, hpieces, tokenize_eq_filter hpieces, hcovers, hcovers.append_eq⟩

end Lexer

end Totality

namespace Lexer

open scoped Unicode

/-- A letter, any other character as a mark, and after a mark any but the letter as a note. -/
def markLexer : Lexer where
  contexts :=
    [(.name "text",
      { message := "no letter"
        flags := {}
        rules := [.token "a" "letter" (.name "text"), .skip "." (.name "note")]
        node := .grouped [.literal ['a'], .anyChar, .anyChar] }),
    (.name "note",
      { message := "no note"
        flags := {}
        rules := [.skip "a" (.name "text"), .token "." "note" (.name "text")]
        node := .grouped [.literal ['a'], .anyChar, .anyChar] })]
  contexts_ne_nil := by simp
  ids_nodup := by simp

theorem total_markLexer : markLexer.Total := by
  have hletter : ∀ r : Rule, r.pattern = "a" → r.NeverEmpty {} := by
    intro r hr before char rest
    have hnode : nodeOf {} "a" = .ok (.literal ['a']) := by rfl
    rw [Context.ownMatch?, hr, hnode]
    change (Pattern.Node.set false (.singleton 'a')).match? before (char :: rest) ≠ some []
    simp only [Pattern.Node.match?, Pattern.matchLength?_set]
    split <;> simp
  have hpatterns : ∀ {x : ContextId × Context}, x ∈ markLexer.contexts →
      x.2.flags = {} ∧ ∃ r q : Rule, x.2.rules = [r, q] ∧ r.pattern = "a" ∧ q.pattern = "." := by
    intro x hx
    rcases List.mem_cons.1 hx with rfl | hx
    · exact ⟨rfl, _, _, rfl, rfl, rfl⟩
    · obtain rfl := List.mem_singleton.1 hx
      exact ⟨rfl, _, _, rfl, rfl, rfl⟩
  constructor
  case grouped =>
    exact List.forall_mem_cons.2
      ⟨⟨by rfl, [.literal ['a'], .anyChar], by rfl, by rfl⟩,
        List.forall_mem_singleton.2 ⟨by rfl, [.literal ['a'], .anyChar], by rfl, by rfl⟩⟩
  case everywhere =>
    intro x hx
    obtain ⟨hflags, r, q, hrules, -, hq⟩ := hpatterns hx
    rw [hflags, hrules]
    exact ⟨q, by simp, Rule.matchesEverywhere_dot hq (by rw [hq]; rfl)⟩
  case neverEmpty =>
    intro x hx
    obtain ⟨hflags, r, q, hrules, hr, hq⟩ := hpatterns hx
    rw [hflags, hrules]
    exact List.forall_mem_cons.2
      ⟨hletter r hr, List.forall_mem_singleton.2 (Rule.neverEmpty_dot hq (by rw [hq]; rfl))⟩
  case kind => simp [markLexer, Rule.token, Rule.skip, Rule.skipKind]
  case registered => simp [markLexer, Rule.token, Rule.skip, Rule.skipKind, context?]

/-- The rule that matches everywhere is the last one of the first context, where the newline is the
mark of a note. -/
theorem tokenize_markLexer :
    let a : Token := ⟨"letter", "a", ⟨0, 0, 1, 1, 1, 2⟩, true, ⟨.name "text", 1, 1, 1, 2⟩⟩
    let mark : Token := ⟨"", "\n", ⟨1, 1, 1, 2, 2, 1⟩, false, ⟨.name "note", 2, 2, 2, 1⟩⟩
    let note : Token := ⟨"note", "é", ⟨2, 2, 2, 1, 2, 2⟩, true, ⟨.name "text", 3, 4, 2, 2⟩⟩
    markLexer.Total ∧ markLexer.tokenize ['a', '\n', 'é'] = .ok [a, note] ∧
      markLexer.Covers ['a', '\n', 'é'] [] [a, mark, note] := by
  intro a mark note
  have hpieces : markLexer.pieces ['a', '\n', 'é'] markLexer.initialState
      = ⟨[a, mark, note], none⟩ := by
    rw [pieces_eq, show markLexer.step _ markLexer.initialState = .piece a from rfl]
    change Run.cons a (markLexer.pieces _ a.resume) = _
    rw [pieces_eq, show markLexer.step _ a.resume = .piece mark from rfl]
    change Run.cons a (Run.cons mark (markLexer.pieces _ mark.resume)) = _
    rw [pieces_eq, show markLexer.step _ mark.resume = .piece note from rfl]
    change Run.cons a (Run.cons mark (Run.cons note (markLexer.pieces _ note.resume))) = _
    rw [pieces_eq, show markLexer.step _ note.resume = .ended from rfl]
    rfl
  obtain ⟨pieces, heq, htokenize, hcovers, -⟩ :=
    tokenize_of_total.2 markLexer total_markLexer ['a', '\n', 'é']
  obtain rfl : [a, mark, note] = pieces := congrArg Run.tokens (hpieces.symm.trans heq)
  exact ⟨total_markLexer, htokenize, hcovers⟩

end Lexer

end ModalLex
