import Mathlib.Data.List.Forall2
import ModalLex.Proofs.Dispatch
import ModalLex.Proofs.Rounds
import ModalLex.Unicode.Engine

/-!
# Rules in order

If the composite of a context is the choice among what the rules' patterns are by themselves, each
in a group, then the one search for the composite gives what trying the rules one by one would
give, in their order and each by itself: the first that matches decides, and its group alone takes
part (`matchAt_eq_tryInOrder`).
-/

namespace ModalLex

open Pattern

theorem forM_eq_ok_iff {ε α : Type} {f : α → Except ε Unit} :
    ∀ {xs : List α}, xs.forM f = .ok () ↔ ∀ x ∈ xs, f x = .ok ()
  | [] => ⟨fun _ => by simp, fun _ => rfl⟩
  | x :: xs => by
    change f x >>= (fun _ => xs.forM f) = _ ↔ _
    rw [List.forall_mem_cons, ← forM_eq_ok_iff]
    constructor
    · intro h
      obtain ⟨⟨⟩, hx, hxs⟩ := bind_eq_ok h
      exact ⟨hx, hxs⟩
    · rintro ⟨hx, hxs⟩
      rw [hx, ok_bind, hxs]

theorem exists_forall₂ {α β : Type} {R : α → β → Prop} :
    ∀ {xs : List α}, (∀ x ∈ xs, ∃ y, R x y) → ∃ ys, List.Forall₂ R xs ys
  | [], _ => ⟨[], .nil⟩
  | _ :: _, h => by
    obtain ⟨⟨y, hy⟩, hrest⟩ := List.forall_mem_cons.1 h
    obtain ⟨ys, hys⟩ := exists_forall₂ hrest
    exact ⟨y :: ys, .cons hy hys⟩

theorem rel_getElem?_of_forall₂ {α β : Type} {R : α → β → Prop} :
    ∀ {xs : List α} {ys : List β}, List.Forall₂ R xs ys → ∀ i : Nat, Option.Rel R xs[i]? ys[i]?
  | _, _, .nil, _ => .none
  | _, _, .cons hx _, 0 => .some hx
  | _, _, .cons _ hxs, i + 1 => by simpa using rel_getElem?_of_forall₂ hxs i

theorem exists_getElem?_of_forall₂ {α β : Type} {R : α → β → Prop} {xs : List α} {ys : List β}
    (h : List.Forall₂ R xs ys) {i : Nat} {x : α} (hx : xs[i]? = some x) :
    ∃ y, ys[i]? = some y ∧ R x y := by
  have hrel := rel_getElem?_of_forall₂ h i
  rw [hx] at hrel
  generalize ys[i]? = y at hrel ⊢
  cases hrel with
  | some h => exact ⟨_, rfl, h⟩

section Reading

variable [Engine]

theorem ofText_of_readNode {reason : Fault → String} {flags : Flags} {text : String} {n : Node}
    (h : readNode reason flags text = .ok n) : Node.ofText flags.mode text.toList = .ok n := by
  unfold readNode at h
  split at h
  · cases h
    assumption
  · cases h

theorem ofText_of_nodeOf {flags : Flags} {pattern : String} {n : Node}
    (h : nodeOf flags pattern = .ok n) : Node.ofText flags.mode pattern.toList = .ok n :=
  ofText_of_readNode h

/-- An admitted pattern is read by itself, as a node without captures. -/
theorem silent_of_checkPattern {flags : Flags} {pattern : String}
    (h : checkPattern flags pattern = .ok ()) :
    ∃ n, nodeOf flags pattern = .ok n ∧ n.Silent := by
  obtain ⟨n, hn, h⟩ := bind_eq_ok h
  refine ⟨n, hn, ?_⟩
  split at h
  · rename_i h0
    exact Node.silent_of_lastCapture_eq_zero (Reading.captures_of_ofText (ofText_of_nodeOf hn)) h0
  · cases h

end Reading

namespace Context

/-! ## The group that takes part -/

/-- A group takes part in the search at a place: it holds a part of the text. -/
def TakesPart (c : Context) (before : Option Char) (text : List Char) (group : Nat) : Prop :=
  ∃ marks part, c.code.search before text = some marks ∧ marks.captured? group text = some part

section Groups

variable {c : Context}

/-- At a character, some group of a well-grouped composite takes part. -/
theorem exists_firstGroup? (before : Option Char) (char : Char) (rest : List Char) :
    ∀ (nodes : List Node) (first : Nat), ∃ number stop,
      firstGroup? before (char :: rest) first (nodes ++ [.anyChar]) = some (.ofGroup number stop) ∧
        first ≤ number ∧ number ≤ first + nodes.length
  | [], first => ⟨first, 1, by simp [firstGroup?, matchLength?_anyChar]⟩
  | n :: nodes, first => by
    rcases h : n.matchLength? before (char :: rest) with _ | stop
    · obtain ⟨number, stop, hs, hle, hge⟩ := exists_firstGroup? before char rest nodes (first + 1)
      exact ⟨number, stop, by simp [firstGroup?, h, hs], by omega,
        by simp only [List.length_cons]; omega⟩
    · exact ⟨first, stop, by simp [firstGroup?, h], le_rfl, by omega⟩

/-- In a well-grouped context one group takes part in the search at a character, and no other: the
group of the rule that matches, or the last group if no rule does. -/
theorem takesPart_iff {nodes : List Node} (hg : c.GroupedBy nodes) (before : Option Char)
    (char : Char) (rest : List Char) :
    ∃ group, (∀ other, c.TakesPart before (char :: rest) other ↔ other = group) ∧
      1 ≤ group ∧ group ≤ c.rules.length + 1 ∧
      c.rules[group - 1]? = (c.ruleAt? before (char :: rest)).map (·.1) := by
  obtain ⟨number, stop, hs, hle, hge⟩ := exists_firstGroup? before char rest nodes 1
  rw [← search_of_groupedBy hg] at hs
  have hlen := hg.1
  refine ⟨number, fun other => ⟨?_, ?_⟩, hle, by omega, ?_⟩
  · rintro ⟨marks, part, hmarks, hpart⟩
    rw [hs] at hmarks
    obtain rfl := Option.some.inj hmarks
    by_contra hne
    rw [captured?_ofGroup_of_ne hne] at hpart
    cases hpart
  · rintro rfl
    exact ⟨_, _, hs, captured?_ofGroup_self _ stop _⟩
  · rw [ruleAt?, hs, groups_of_groupedBy hg]
    simp only [Option.bind_eq_bind, Option.bind_some,
      firstCaptured?_ofGroup hle (show number ≤ c.rules.length + 1 by omega)]
    cases c.rules[number - 1]? <;> rfl

theorem matchAt_invalid_iff {input : List Char} {offset row column : Nat} :
    (∃ p, c.matchAt input offset row column = .error ⟨.invalidOffset offset, p⟩) ↔
      Text.byteLength input ≤ offset ∨ ¬ Text.IsBoundary offset input := by
  rw [← Nat.not_lt, ← not_and_or, Text.lt_and_isBoundary_iff]
  constructor
  · rintro ⟨p, h⟩ ⟨before, char, rest, rfl, rfl⟩
    rw [matchAt_append, matchSpot] at h
    simp only at h
    split at h <;> cases h
  · intro h
    rcases hs : Text.seek offset input with i | _ | ⟨i, b, char, rest⟩
    · exact ⟨_, by rw [matchAt, hs]; rfl⟩
    · exact ⟨_, by rw [matchAt, hs]; rfl⟩
    · obtain ⟨before, rfl, rfl, -⟩ := Text.exists_of_seek_eq_at hs
      exact absurd ⟨before, char, rest, rfl, rfl⟩ h

end Groups

section InOrder

variable [Engine]

/-- A context that has been built holds what it was built from, its composite is read, and each
pattern is read by itself, without captures. -/
theorem of_ofRules {rules : List Rule} {message : String} {flags : Flags} {c : Context}
    (h : ofRules rules message flags = .ok c) :
    c.message = message ∧ c.flags = flags ∧ c.rules = rules ∧
      Node.ofText flags.mode (compositeText flags (rules.map (·.pattern))).toList = .ok c.node ∧
      ∀ r ∈ rules, ∃ n, nodeOf flags r.pattern = .ok n ∧ n.Silent := by
  obtain ⟨_, hcheck, h⟩ := bind_eq_ok h
  obtain ⟨node, hnode, h⟩ := bind_eq_ok h
  cases h
  exact ⟨rfl, rfl, rfl, ofText_of_readNode hnode,
    fun r hr => silent_of_checkPattern (forM_eq_ok_iff.1 hcheck r hr)⟩

/-- The composite is the choice among what the rules' patterns are by themselves, each in the group
with its number, and any one character in the last group. -/
def GroupedByPatterns (c : Context) : Prop :=
  ∃ nodes : List Node, (c.rules.map fun r => nodeOf c.flags r.pattern) = nodes.map .ok ∧
    c.node = .grouped (nodes ++ [.anyChar])

/-! ## One rule after the other -/

/-- What the pattern of a rule matches at a place by itself. -/
def ownMatch? (flags : Flags) (before : Option Char) (text : List Char) (r : Rule) :
    Option (List Char) :=
  match nodeOf flags r.pattern with
  | .ok n => n.match? before text
  | .error _ => none

/-- The first rule whose pattern matches by itself, and what it matches. -/
def tryRules (flags : Flags) (before : Option Char) (text : List Char) :
    List Rule → Option (Rule × List Char)
  | [] => none
  | r :: rules =>
    match ownMatch? flags before text r with
    | some part => some (r, part)
    | none => tryRules flags before text rules

/-- What comes of trying the rules one by one where `char` and `rest` come after `before`. -/
def tryInOrder (c : Context) (before : List Char) (char : Char) (rest : List Char)
    (row column : Nat) : Except Error Match :=
  let position := some (.point before.length (Text.byteLength before) row column)
  match tryRules c.flags before.getLast? (char :: rest) c.rules with
  | none => .error ⟨.noRuleMatches char c.message, position⟩
  | some (r, []) => .error ⟨.emptyMatch r.pattern, position⟩
  | some (r, part) =>
    let text := String.ofList part
    .ok ⟨(r.classify text).kind, (r.classify text).next, text, (r.classify text).keep⟩

variable {c : Context}

theorem tryRules_eq_firstMatch? {flags : Flags} (before : Option Char) (text : List Char) :
    ∀ {rules : List Rule} {nodes : List Node},
      (rules.map fun r => nodeOf flags r.pattern) = nodes.map .ok →
      tryRules flags before text rules = firstMatch? before text (rules.zip nodes)
  | [], [], _ => rfl
  | [], _ :: _, h => by simp at h
  | _ :: _, [], h => by simp at h
  | r :: rules, n :: nodes, h => by
    obtain ⟨hn, h⟩ := List.cons.inj h
    have ih := tryRules_eq_firstMatch? before text h
    simp only [tryRules, ownMatch?, hn, firstMatch?, List.zip_cons_cons, List.findSome?_cons]
    rcases hm : n.match? before text with _ | part
    · exact ih
    · rfl

/-- A context that has been built, and whose composite is the choice among its rules' own
patterns, is well grouped by them. -/
theorem groupedBy_of_patterns {rules : List Rule} {message : String} {flags : Flags}
    (h : ofRules rules message flags = .ok c) {nodes : List Node}
    (hown : (c.rules.map fun r => nodeOf c.flags r.pattern) = nodes.map .ok)
    (hnode : c.node = .grouped (nodes ++ [.anyChar])) : c.GroupedBy nodes := by
  obtain ⟨-, rfl, rfl, -, hread⟩ := of_ofRules h
  refine ⟨by simpa using (congrArg List.length hown).symm, fun n hn => ?_, hnode⟩
  have hmem : (.ok n : Except Error Node) ∈ c.rules.map fun r => nodeOf c.flags r.pattern :=
    hown ▸ List.mem_map_of_mem hn
  obtain ⟨r, hr, hrn⟩ := List.mem_map.1 hmem
  obtain ⟨n', hn', hs⟩ := hread r hr
  rw [hrn] at hn'
  exact Except.ok.inj hn' ▸ hs

/-- In a context whose composite is the choice among its rules' own patterns, a match at a valid
offset is what trying the rules one by one gives, and the group of the rule found, or the last
group if there is none, takes part and no other does; any other offset is invalid. -/
theorem matchAt_eq_tryInOrder {rules : List Rule} {message : String} {flags : Flags}
    (h : ofRules rules message flags = .ok c) (hp : c.GroupedByPatterns)
    (input : List Char) (offset row column : Nat) :
    ((∃ p, c.matchAt input offset row column = .error ⟨.invalidOffset offset, p⟩) ↔
      Text.byteLength input ≤ offset ∨ ¬ Text.IsBoundary offset input) ∧
    ∀ before char rest, input = before ++ char :: rest → Text.byteLength before = offset →
      c.matchAt input offset row column = c.tryInOrder before char rest row column ∧
      ∃ group, (∀ other, c.TakesPart before.getLast? (char :: rest) other ↔ other = group) ∧
        1 ≤ group ∧ group ≤ c.rules.length + 1 ∧
        c.rules[group - 1]? =
          (tryRules c.flags before.getLast? (char :: rest) c.rules).map (·.1) := by
  refine ⟨matchAt_invalid_iff, ?_⟩
  rintro before char rest rfl rfl
  obtain ⟨nodes, hown, hnode⟩ := hp
  have hg := groupedBy_of_patterns h hown hnode
  rw [tryRules_eq_firstMatch? before.getLast? (char :: rest) hown, ← ruleAt?_eq hg]
  refine ⟨?_, takesPart_iff hg _ _ _⟩
  rewrite [matchAt_append, matchSpot, tryInOrder, ruleAt?_eq hg,
    tryRules_eq_firstMatch? before.getLast? (char :: rest) hown]
  rfl

end InOrder

open scoped Unicode

/-- Words that begin with an `a`, and blanks that may be empty. -/
def wordRules : List Rule :=
  [.token "a|ab" "word" (.name "main"), .skip "b*" (.name "main")]

def wordContext : Context where
  message := "unexpected character"
  flags := {}
  rules := wordRules
  node := .grouped [.alt (.literal ['a']) (.literal ['a', 'b']),
    .repeated 0 none true (.literal ['b']), .anyChar]

/-- The first branch of the first rule decides, though the second one would match more. -/
theorem matchAt_wordContext :
    ofRules wordRules "unexpected character" {} = .ok wordContext ∧
    wordContext.GroupedByPatterns ∧
    wordContext.matchAt ['é', 'a', 'b'] 2 1 2
      = .ok ⟨some "word", .name "main", "a", true⟩ := by
  have h : ofRules wordRules "unexpected character" {} = .ok wordContext := by rfl
  have hp : wordContext.GroupedByPatterns :=
    ⟨[.alt (.literal ['a']) (.literal ['a', 'b']), .repeated 0 none true (.literal ['b'])],
      by rfl, by rfl⟩
  have hmatch := (matchAt_eq_tryInOrder h hp ['é', 'a', 'b'] 2 1 2).2 ['é'] 'a' ['b'] rfl rfl
  exact ⟨h, hp, hmatch.1.trans (by rfl)⟩

end Context

end ModalLex
