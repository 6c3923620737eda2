import ModalLex.Context
import ModalLex.Proofs.Groups
import ModalLex.Proofs.Places

/-!
# From groups to rules

In a well-grouped context each rule has the group with its number, and the last group takes any
one character. There the search finds the first rule whose node matches (`ruleAt?_eq`), in marks of
its group alone, and what it finds starts at the offset (`exists_append_of_matchAt`).
-/

namespace ModalLex

namespace Context

/-- The composite is the choice among the nodes, one for each rule, and any one character, each in
a group of its own, and there is no other group. -/
def GroupedBy (c : Context) (nodes : List Pattern.Node) : Prop :=
  nodes.length = c.rules.length ∧ (∀ n ∈ nodes, n.Silent) ∧
    c.node = .grouped (nodes ++ [.anyChar])

/-- The composite is a choice among groups, one for each rule and, as the last one, one that takes
any one character. -/
def WellGrouped (c : Context) : Prop := ∃ nodes, c.GroupedBy nodes

end Context

namespace Pattern

open CharSet in
theorem contains_all (c : Char) : CharSet.all.contains c = true := by
  have h := c.valid
  simp only [CharSet.contains, CharSet.all, spansContain]
  have hlt : c.toNat < 0xD800 ∨ 0xDFFF < c.toNat ∧ c.toNat < 0x110000 := h
  rw [if_neg (Nat.not_lt_zero _), if_pos (by omega)]

/-- A set matches one character, if it is in the set. -/
theorem matchLength?_set (bytes : Bool) (set : CharSet) (before : Option Char) (c : Char)
    (text : List Char) : (Node.set bytes set).matchLength? before (c :: text)
      = if set.contains c then some 1 else none := by
  have hsearch : (Node.capture 0 (.set bytes set)).code.search before (c :: text)
      = if set.contains c then some (.ofGroup 0 1) else none := by
    change runThreads none [.reading set [.mark (.closes 0)] [(.opens 0, 0)]] 0 (c :: text) = _
    rw [runThreads_cons]
    by_cases hc : set.contains c
    · simp only [advance, hc, if_true, finished?, Option.or_none, List.append_nil]
      change runThreads none [.finished (.ofGroup 0 1)] 1 text = _
      cases text with
      | nil => rfl
      | cons d text =>
        rw [runThreads_cons]
        cases text <;> rfl
    · simp only [advance, hc, Bool.false_eq_true, if_false, finished?, Option.or_none]
      cases text <;> rfl
  rw [Node.matchLength?, hsearch]
  split <;> rfl

/-- The node for any one character matches one character. -/
theorem matchLength?_anyChar (before : Option Char) (c : Char) (text : List Char) :
    Node.anyChar.matchLength? before (c :: text) = some 1 := by
  rw [Node.anyChar, matchLength?_set, if_pos (contains_all c)]

theorem Node.lastCapture_of_silent : ∀ {n : Node}, n.Silent → n.lastCapture = 0
  | empty, _ | literal _, _ | set .., _ | look _, _ => rfl
  | repeated _ _ _ body, h => lastCapture_of_silent (n := body) h
  | capture _ _, h => h.1.elim
  | seq _ _, h | alt _ _, h => by
    simp [lastCapture, lastCapture_of_silent h.1, lastCapture_of_silent h.2]

theorem Node.lastCapture_groupedFrom :
    ∀ {nodes : List Node} (first : Nat), (∀ n ∈ nodes, n.Silent) → nodes ≠ [] →
      (Node.groupedFrom first nodes).lastCapture + 1 = first + nodes.length
  | [n], first, hs, _ => by
    have hn : n.lastCapture = 0 := lastCapture_of_silent (hs n List.mem_cons_self)
    simp [groupedFrom, ofBranches, lastCapture, hn]
  | n :: m :: nodes, first, hs, _ => by
    have hn : n.lastCapture = 0 := lastCapture_of_silent (hs n List.mem_cons_self)
    have ih : (groupedFrom (first + 1) (m :: nodes)).lastCapture + 1
        = first + 1 + (m :: nodes).length :=
      lastCapture_groupedFrom _ (fun x hx => hs x (List.mem_cons_of_mem _ hx)) (by simp)
    simp only [groupedFrom, List.zipIdx_cons, List.map_cons, ofBranches, lastCapture, hn,
      List.length_cons] at ih ⊢
    omega

end Pattern

namespace Context

open Pattern

variable {c : Context} {nodes : List Node}

theorem silent_of_groupedBy (h : c.GroupedBy nodes) :
    ∀ n ∈ nodes ++ [.anyChar], n.Silent := by
  intro n hn
  rcases List.mem_append.1 hn with hn | hn
  · exact h.2.1 n hn
  · obtain rfl := List.mem_singleton.1 hn
    trivial

/-- A well-grouped composite has one group more than the context has rules. -/
theorem groups_of_groupedBy (h : c.GroupedBy nodes) : c.groups = c.rules.length + 1 := by
  have hlast := Node.lastCapture_groupedFrom 1 (silent_of_groupedBy h) (by simp)
  have hlen := h.1
  simp only [groups, h.2.2, Node.grouped, List.length_append, List.length_singleton] at hlast ⊢
  omega

/-- The search of a well-grouped composite finds the first group whose node matches. -/
theorem search_of_groupedBy (h : c.GroupedBy nodes) (before : Option Char) (text : List Char) :
    c.code.search before text = firstGroup? before text 1 (nodes ++ [.anyChar]) := by
  rw [c.code_eq, h.2.2]
  exact search_groupedFrom before text (by simp) (silent_of_groupedBy h) 1

/-- The first rule whose node matches, and the part of the text it matches. -/
def firstMatch? (before : Option Char) (text : List Char) (pairs : List (Rule × Node)) :
    Option (Rule × List Char) :=
  pairs.findSome? fun (r, n) => (n.match? before text).map (r, ·)

/-- The rules from a place on are found by the numbers of their groups. -/
theorem bind_firstGroup?_eq (before : Option Char) (text : List Char) {groups : Nat} :
    ∀ (done rules : List Rule) (nodes : List Node), nodes.length = rules.length →
      (done ++ rules).length + 1 = groups →
      ((firstGroup? before text (done.length + 1) (nodes ++ [.anyChar])).bind fun marks =>
        (marks.firstCaptured? groups text).bind fun (number, part) =>
          ((done ++ rules)[number - 1]?).bind fun r => some (r, part))
        = firstMatch? before text (rules.zip nodes)
  | done, [], [], _, hg => by
    rcases h : Node.anyChar.matchLength? before text with _ | stop
    · simp [h, firstGroup?, firstMatch?]
    · simp only [List.append_nil] at hg
      simp [h, firstGroup?, firstMatch?,
        firstCaptured?_ofGroup (Nat.le_add_left 1 done.length) hg.le]
  | done, r :: rules, n :: nodes, hlen, hg => by
    rcases h : n.matchLength? before text with _ | stop
    · have ih := bind_firstGroup?_eq before text (done ++ [r]) rules nodes (by simpa using hlen)
        (by simpa using hg)
      simp only [List.append_assoc, List.singleton_append, List.length_append,
        List.length_singleton] at ih
      simpa [h, firstGroup?, firstMatch?, Node.match?] using ih
    · have hle : done.length + 1 ≤ groups := by
        simp only [List.length_append, List.length_cons] at hg
        omega
      simp [h, firstGroup?, firstMatch?, Node.match?,
        firstCaptured?_ofGroup (Nat.le_add_left 1 done.length) hle]

/-- The rule of a well-grouped context is the first one whose node matches, with what that node
matches. -/
theorem ruleAt?_eq (h : c.GroupedBy nodes) (before : Option Char) (text : List Char) :
    c.ruleAt? before text = firstMatch? before text (c.rules.zip nodes) := by
  rw [← bind_firstGroup?_eq before text [] c.rules nodes h.1 rfl, ruleAt?,
    search_of_groupedBy h, groups_of_groupedBy h]
  rfl

/-! ## Matches -/

/-- The match where a character comes after a text. -/
theorem matchAt_append (c : Context) (before : List Char) (char : Char) (rest : List Char)
    (row column : Nat) :
    c.matchAt (before ++ char :: rest) (Text.byteLength before) row column
      = c.matchSpot (.at before.length before.getLast? char rest) (Text.byteLength before)
          row column := by
  rw [matchAt, Text.seek_append]

/-- Only errors tell the row and the column. -/
theorem matchAt_ok_congr {input : List Char} {offset row column : Nat} {m : Match}
    (h : c.matchAt input offset row column = .ok m) (row' column' : Nat) :
    c.matchAt input offset row' column' = .ok m := by
  unfold matchAt matchSpot at h ⊢
  split at h
  · cases h
  · cases h
  · simp only at h ⊢
    split at h
    · cases h
    · cases h
    · exact h

/-- What comes of a match at a character does not depend on where it is counted to be; an error only
tells that. -/
theorem matchSpot_at (c : Context) (before : Option Char) (char : Char) (rest : List Char) :
    (∃ m, ∀ index offset row column,
      c.matchSpot (.at index before char rest) offset row column = .ok m) ∨
    ∃ cause, ∀ index offset row column,
      c.matchSpot (.at index before char rest) offset row column
        = .error ⟨cause, some (.point index offset row column)⟩ := by
  rcases h : c.ruleAt? before (char :: rest) with _ | ⟨r, _ | ⟨x, part⟩⟩
  · exact .inr ⟨.noRuleMatches char c.message, fun _ _ _ _ => by simp only [matchSpot, h]⟩
  · exact .inr ⟨.emptyMatch r.pattern, fun _ _ _ _ => by simp only [matchSpot, h]⟩
  · exact .inl ⟨_, fun _ _ _ _ => by simp only [matchSpot, h]; rfl⟩

/-- A match begins at a character. -/
theorem exists_append_of_matchAt {input : List Char} {offset row column : Nat} {m : Match}
    (h : c.matchAt input offset row column = .ok m) :
    ∃ before char rest, input = before ++ char :: rest ∧ Text.byteLength before = offset := by
  rcases hs : Text.seek offset input with i | _ | ⟨i, b, char, rest⟩
  · simp only [matchAt, hs, matchSpot] at h
    cases h
  · simp only [matchAt, hs, matchSpot] at h
    cases h
  · obtain ⟨before, rfl, rfl, -⟩ := Text.exists_of_seek_eq_at hs
    exact ⟨before, char, rest, rfl, rfl⟩

/-- What a well-grouped context matches is not empty and stands at the offset. -/
theorem text_append_of_matchAt (hc : c.WellGrouped) {before after : List Char}
    {row column : Nat} {m : Match}
    (h : c.matchAt (before ++ after) (Text.byteLength before) row column = .ok m) :
    m.text.toList ≠ [] ∧ ∃ rest, after = m.text.toList ++ rest := by
  obtain ⟨nodes, hg⟩ := hc
  refine ⟨text_ne_nil_of_matchSpot h, ?_⟩
  obtain ⟨before', char, rest, heq, hlen⟩ := exists_append_of_matchAt h
  obtain ⟨rfl, rfl⟩ := Text.eq_of_byteLength_eq heq hlen.symm
  rw [matchAt_append, matchSpot, ruleAt?_eq hg] at h
  simp only at h
  split at h
  · cases h
  · cases h
  · rename_i rule part _ hfirst
    cases h
    rw [firstMatch?, List.findSome?_eq_some_iff] at hfirst
    obtain ⟨_, ⟨r, n⟩, _, -, hpart, -⟩ := hfirst
    simp only [Node.match?, Option.map_map, Option.map_eq_some_iff, Function.comp_apply,
      Prod.mk.injEq] at hpart
    obtain ⟨stop, -, -, rfl⟩ := hpart
    exact ⟨(char :: rest).drop stop, by simp⟩

end Context

end ModalLex
