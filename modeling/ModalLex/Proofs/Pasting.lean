import ModalLex.Proofs.InOrder
import ModalLex.Proofs.Nesting

/-!
# Patterns pasted together

A composite is put together as text: each pattern is pasted between a parenthesis and a closing
text, and a bar comes after it. The signs around the patterns are read in the same way whatever the
patterns are. A group is opened within the composite after the captures before it
(`round_openGroup`), closed as a branch that is a capture (`reads_nextGroup`), and the last group
closes the composite (`reads_lastGroup`), which is then the choice among the groups
(`whole_of_captures`).
-/

namespace ModalLex

open Pattern Pattern.Reading

/-- What comes after a pattern in its group, up to the parenthesis that should close it. -/
def closing (flags : Flags) : List Char :=
  if flags.ignoreWhitespace then ['\n', ')'] else [')']

/-- The composite from the group of the first pattern on. -/
def groupsText (flags : Flags) : List String → List Char
  | [] => ['(', '(', '?', 's', 'u', ':', '.', ')', ')', ')']
  | p :: patterns => '(' :: (p.toList ++ closing flags ++ '|' :: groupsText flags patterns)

theorem toList_compositeText (flags : Flags) (patterns : List String) :
    (compositeText flags patterns).toList = '(' :: '?' :: ':' :: groupsText flags patterns := by
  have hgroups : ∀ patterns : List String,
      (String.join (patterns.map (groupText flags)) ++ "((?su:.)))").toList
        = groupsText flags patterns := by
    intro patterns
    induction patterns with
    | nil =>
      rw [List.map_nil, String.join_nil, String.empty_append]
      rfl
    | cons p patterns ih =>
      rw [List.map_cons, String.join_cons, String.append_assoc, String.toList_append, ih]
      cases hx : flags.ignoreWhitespace <;> simp [groupText, groupsText, closing, hx]
  rw [compositeText, String.append_assoc, String.toList_append, hgroups]
  rfl

theorem head?_groupsText (flags : Flags) (patterns : List String) :
    (groupsText flags patterns).head? = some '(' := by
  cases patterns <;> rfl

theorem groupsText_drop_suffix (flags : Flags) : ∀ (patterns : List String) (k : Nat),
    groupsText flags (patterns.drop k) <:+ groupsText flags patterns
  | _, 0 => List.suffix_refl _
  | [], _ + 1 => List.suffix_refl _
  | p :: patterns, k + 1 => (groupsText_drop_suffix flags patterns k).trans
      ⟨'(' :: (p.toList ++ closing flags ++ ['|']), by simp [groupsText]⟩

namespace Pattern.Reading

section Rounds

variable [Engine] {r r' : Reading} {text text' : List Char}

theorem round_of_readNext {c : Char} (h : r.readNext c text = .ok (r', text'))
    (hskip : r'.group.mode.skip text' = text') : Round r (c :: text) r' text' := by
  have hround := Round.mk h
  rwa [hskip] at hround

/-- A parenthesis opens a capture unless a question mark comes after it. -/
theorem round_openCapture (h : (r.group.mode.skip text).head? ≠ some '?') :
    Round r ('(' :: text) r.openCapture (r.group.mode.skip text) := by
  have hround := Round.mk (show r.readNext '(' text = .ok (r.openCapture, r.group.mode.skip text)
    from readGroup_capture h)
  have hmode : r.openCapture.group.mode = r.group.mode := rfl
  rwa [hmode, Mode.skip_skip] at hround

/-- A parenthesis closes the innermost group. -/
theorem round_closeGroup (text : List Char) {g : OpenGroup} {number : Option Nat}
    {outer : List (OpenGroup × Option Nat)} (h : r.outer = (g, number) :: outer)
    (hskip : g.mode.skip text = text) :
    Round r (')' :: text) { r with
      group := g.push ⟨number.elim r.group.whole.node (Node.capture · r.group.whole.node),
        r.group.whole.depth + 1, true⟩
      outer } text := by
  have hclose : r.closeGroup = .ok { r with
      group := g.push ⟨number.elim r.group.whole.node (Node.capture · r.group.whole.node),
        r.group.whole.depth + 1, true⟩
      outer } := by
    rw [closeGroup, h]
  refine round_of_readNext ?_ hskip
  simp only [readNext, hclose]
  rfl

theorem round_bar (text : List Char) (hskip : r.group.mode.skip text = text) :
    Round r ('|' :: text) { r with group := r.group.bar } text :=
  round_of_readNext rfl hskip

/-- Whatever the mode, any one character is read as such. -/
theorem reads_anyChar (text : List Char) (hskip : r.group.mode.skip text = text) :
    Reads r ('(' :: '?' :: 's' :: 'u' :: ':' :: '.' :: ')' :: text) (r.push ⟨.anyChar, 1, true⟩)
      text := by
  let m : Mode := { r.group.mode with dotMatchesNewline := true, unicode := true }
  have hopen : Round r ('(' :: '?' :: 's' :: 'u' :: ':' :: '.' :: ')' :: text)
      (r.openGroup none m) ('.' :: ')' :: text) :=
    round_of_readNext (show r.readNext '(' _ = .ok (r.openGroup none m, _) from
      readGroup_flagged (Mode.skip_of_counts (by decide) (by decide) _) (by decide) (by decide)
        (by decide) (by decide)) (Mode.skip_of_counts (by decide) (by decide) _)
  have hdot : Round (r.openGroup none m) ('.' :: ')' :: text)
      ((r.openGroup none m).push ⟨.anyChar, 0, true⟩) (')' :: text) :=
    round_of_readNext rfl (Mode.skip_of_counts (by decide) (by decide) _)
  have hclose := round_closeGroup (r := (r.openGroup none m).push ⟨.anyChar, 0, true⟩) text rfl
    hskip
  exact .step hopen (.step hdot (.step hclose (.refl _ _)))

/-- Nothing can be repeated at the start. -/
theorem not_round_start_question {m : Mode} : ¬ Round (.start m) ('?' :: text) r' text' := by
  intro h
  obtain ⟨_, _, rest, heq, hnext, -⟩ := round_iff.1 h
  cases heq
  simp only [readNext, readRepetition] at hnext
  split at hnext
  all_goals
    obtain ⟨g, hg, -⟩ := bind_eq_ok hnext
    cases hg

theorem Reads.head?_ne_question {m : Mode} (h : Reads (.start m) text r' text')
    (hne : text'.head? ≠ some '?') : text.head? ≠ some '?' := by
  cases h with
  | refl => exact hne
  | step h =>
    intro hhead
    obtain ⟨tail, rfl⟩ := List.head?_eq_some_iff.1 hhead
    exact not_round_start_question h

end Rounds

end Pattern.Reading

open Pattern.Reading

/-! ## The signs around the patterns -/

/-- The reading before a group of the composite. -/
def beforeGroup (m : Mode) (items : List Item) (captures : Nat) (names : List (List Char)) :
    Reading :=
  ⟨{ mode := m, branches := items.reverse }, [({ mode := m }, none)], captures, names⟩

/-- The groups around a pattern of the composite. -/
def around (m : Mode) (items : List Item) (captures : Nat) : List (OpenGroup × Option Nat) :=
  [({ mode := m, branches := items.reverse }, some (captures + 1)), ({ mode := m }, none)]

section Signs

variable {m : Mode} {text : List Char} {r : Reading} {items : List Item} {captures : Nat}
  {names : List (List Char)}

theorem beforeGroup_concat (i : Item) : beforeGroup m (items ++ [i]) captures names =
    ⟨{ mode := m, branches := i :: items.reverse }, [({ mode := m }, none)], captures, names⟩ := by
  simp [beforeGroup]

variable [Engine]

/-- Before the first group a parenthesis is open that captures nothing. -/
theorem reads_beginning (m : Mode) (htext : text.head? = some '(') :
    Reads (.start m) (m.skip ('(' :: '?' :: ':' :: text)) (beforeGroup m [] 0 []) text := by
  obtain ⟨tail, rfl⟩ := List.head?_eq_some_iff.1 htext
  have hread : (start m).readNext '(' ('?' :: ':' :: '(' :: tail)
      = .ok (beforeGroup m [] 0 [], '(' :: tail) :=
    readGroup_flagged (r := start m) (Mode.skip_of_counts (by decide) (by decide) _) (by decide)
      (by decide) (by decide) (by decide)
  have hround := Round.mk hread
  rw [Mode.skip_of_counts (by decide) (by decide)] at hround ⊢
  exact .step hround (.refl _ _)

/-- A parenthesis opens the group of a pattern. -/
theorem round_openGroup (h : (m.skip text).head? ≠ some '?') (items : List Item) (captures : Nat)
    (names : List (List Char)) :
    Round (beforeGroup m items captures names) ('(' :: text)
      ((start m).inside (around m items captures) (captures + 1) names) (m.skip text) :=
  round_openCapture (r := beforeGroup m items captures names) h

/-- The parenthesis that closes a group of the composite and the bar after it end a branch, which is
a capture. -/
theorem reads_nextGroup {branches : List Item} {number : Nat} (text : List Char)
    (houter : r.outer = [({ mode := m, branches }, some number), ({ mode := m }, none)]) :
    Reads r (')' :: '|' :: '(' :: text) ⟨{ mode := m, branches :=
      ⟨.capture number r.group.whole.node, r.group.whole.depth + 1, true⟩ :: branches },
      [({ mode := m }, none)], r.captures, r.names⟩ ('(' :: text) := by
  have hclose := round_closeGroup ('|' :: '(' :: text) houter
    (Mode.skip_of_counts (by decide) (by decide) _)
  have hbar := round_bar (r := ⟨({ mode := m, branches } : OpenGroup).push
    ⟨.capture number r.group.whole.node, r.group.whole.depth + 1, true⟩, [({ mode := m }, none)],
    r.captures, r.names⟩) ('(' :: text) (Mode.skip_of_counts (by decide) (by decide) text)
  exact .step hclose (.step hbar (.refl _ _))

/-- The last group is a capture of any one character, and closes the composite. -/
theorem reads_lastGroup (flags : Flags) (m : Mode) (branches : List Item) (captures : Nat)
    (names : List (List Char)) :
    let whole := (({ mode := m, branches } : OpenGroup).push
      ⟨.capture (captures + 1) .anyChar, 2, true⟩).whole
    Reads ⟨{ mode := m, branches }, [({ mode := m }, none)], captures, names⟩
      (groupsText flags []) ⟨({ mode := m } : OpenGroup).push ⟨whole.node, whole.depth + 1, true⟩,
        [], captures + 1, names⟩ [] := by
  intro whole
  let r : Reading := ⟨{ mode := m, branches }, [({ mode := m }, none)], captures, names⟩
  have hsign : ∀ {c : Char} {cs : List Char}, c = '(' ∨ c = ')' → m.skip (c :: cs) = c :: cs := by
    rintro c cs (rfl | rfl) <;> exact Mode.skip_of_counts (by decide) (by decide) cs
  have hopen : Round r (groupsText flags []) r.openCapture
      ['(', '?', 's', 'u', ':', '.', ')', ')', ')'] := by
    rw [← hsign (.inl rfl)]
    refine Reading.round_openCapture (r := r) ?_
    change (m.skip _).head? ≠ _
    rw [hsign (.inl rfl)]
    decide
  have hany := reads_anyChar (r := r.openCapture) [')', ')'] (hsign (.inr rfl))
  have hclose := round_closeGroup (r := r.openCapture.push ⟨.anyChar, 1, true⟩) [')'] rfl
    (hsign (.inr rfl))
  have hcloseAll := round_closeGroup (r := ⟨({ mode := m, branches } : OpenGroup).push
    ⟨.capture (captures + 1) .anyChar, 2, true⟩, [({ mode := m }, none)], captures + 1, names⟩) []
    rfl (Mode.skip_nil _)
  exact .step hopen (hany.trans (.step hclose (.step hcloseAll (.refl _ _))))

end Signs

/-! ## The choice among the groups -/

section Choice

variable {items : List Item}

/-- Captures are no sequences, single characters or sets, so a choice among them stays as it is. -/
theorem alternation_of_captures {nodes : List Node} (h : ∀ n ∈ nodes, ∃ number body,
    n = .capture number body) : Node.alternation nodes = .ofBranches nodes := by
  have hbranches : nodes.flatMap Node.branches = nodes := by
    refine (List.flatMap_congr fun n hn => ?_).trans (List.flatMap_singleton' nodes)
    obtain ⟨number, body, rfl⟩ := h n hn
    rfl
  unfold Node.alternation
  simp only [hbranches]
  rcases nodes with _ | ⟨n, _ | ⟨n', nodes⟩⟩
  · rfl
  · rfl
  · obtain ⟨number, body, rfl⟩ := h n List.mem_cons_self
    rfl

theorem le_foldl_max : ∀ (ds : List Nat) (n : Nat),
    n ≤ ds.foldl max n ∧ ∀ d ∈ ds, d ≤ ds.foldl max n
  | [], n => ⟨le_rfl, by simp⟩
  | d :: ds, n => by
    obtain ⟨hle, hmem⟩ := le_foldl_max ds (max n d)
    rw [List.foldl_cons]
    exact ⟨(le_max_left n d).trans hle,
      List.forall_mem_cons.2 ⟨(le_max_right n d).trans hle, hmem⟩⟩

/-- The choice among captures, and how deep it is nested. -/
theorem whole_of_captures {m : Mode} {i : Item} (hi : ∃ number body, i.node = .capture number body)
    (hitems : ∀ i ∈ items, ∃ number body, i.node = .capture number body) :
    (({ mode := m, branches := items.reverse } : OpenGroup).push i).whole.node
        = .ofBranches ((items ++ [i]).map (·.node)) ∧
      ∀ j ∈ items, j.depth ≤ (({ mode := m, branches := items.reverse } : OpenGroup).push
        i).whole.depth := by
  rcases hreverse : items.reverse with _ | ⟨b, branches⟩
  · obtain rfl : items = [] := List.reverse_eq_nil_iff.1 hreverse
    exact ⟨rfl, by simp⟩
  · have hall : ∀ n ∈ (items ++ [i]).map (·.node), ∃ number body, n = .capture number body :=
      List.forall_mem_map.2 (List.forall_mem_append.2 ⟨hitems, List.forall_mem_singleton.2 hi⟩)
    have hbranches : (i :: b :: branches).reverse = items ++ [i] := by
      rw [← hreverse, List.reverse_cons, List.reverse_reverse]
    constructor
    · rw [← alternation_of_captures hall, ← hbranches]
      rfl
    · intro j hj
      have hmem : j.depth ∈ (i :: b :: branches).map (·.depth) := by
        rw [← hreverse]
        exact List.mem_map_of_mem (List.mem_cons_of_mem _ (List.mem_reverse.2 hj))
      exact ((le_foldl_max _ 0).2 _ hmem).trans (Nat.le_succ _)

end Choice

end ModalLex
