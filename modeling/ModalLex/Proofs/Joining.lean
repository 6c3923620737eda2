import ModalLex.Proofs.Enclosing

/-!
# Groups side by side

A pattern that stays in its group may take captures and names there, though it has none in its node.
The captures of the patterns after it are raised by as many, and a name that one of them takes again
is repeated. So a composite is read group after group as long as the names are all different
(`reads_groups_enclosed`), and otherwise up to a name that is repeated (`stops_groups`). What it
stands for then is the choice among the groups (`reads_ending_enclosed`).
-/

namespace ModalLex

open Pattern Pattern.Reading

/-- What stands in the composite for a pattern that comes after some captures. -/
def groupItem (captures : Nat) (e : Reading) : Item :=
  ⟨.capture (captures + 1) (e.group.whole.node.raise (captures + 1)), e.group.whole.depth + 1, true⟩

/-- What stands in the composite for patterns one after the other. -/
def groupItems (captures : Nat) : List Reading → List Item
  | [] => []
  | e :: es => groupItem captures e :: groupItems (captures + 1 + e.captures) es

/-- The captures after patterns in their groups. -/
def capturesAfter (captures : Nat) : List Reading → Nat
  | [] => captures
  | e :: es => capturesAfter (captures + 1 + e.captures) es

/-- The readings take names that differ from those given and from each other. -/
def Apart (names : List (List Char)) : List Reading → Prop
  | [] => True
  | e :: es => e.names.Disjoint names ∧ Apart (e.names ++ names) es

theorem apart_iff : ∀ {names : List (List Char)} {es : List Reading},
    Apart names es ↔ (∀ e ∈ es, e.names.Disjoint names) ∧ (es.map (·.names)).Pairwise List.Disjoint
  | _, [] => by simp [Apart]
  | names, e :: es => by
    simp only [Apart, apart_iff, List.disjoint_append_right, List.forall_mem_cons, List.map_cons,
      List.pairwise_cons, List.forall_mem_map, forall_and]
    have hcomm : (∀ e' ∈ es, e'.names.Disjoint e.names) ↔ ∀ e' ∈ es, e.names.Disjoint e'.names :=
      forall₂_congr fun _ _ => List.disjoint_comm
    rw [hcomm]
    tauto

theorem captures_of_groupItems : ∀ (captures : Nat) (es : List Reading),
    ∀ i ∈ groupItems captures es, ∃ number body, i.node = .capture number body
  | _, [] => by simp [groupItems]
  | _, _ :: _ => List.forall_mem_cons.2 ⟨⟨_, _, rfl⟩, captures_of_groupItems _ _⟩

section Groups

variable [Engine] {flags : Flags} {pattern : String} {e : Reading} {items : List Item}
  {captures : Nat} {names : List (List Char)}

theorem Encloses.round_openGroup (h : Encloses flags pattern e) (more : List Char)
    (items : List Item) (captures : Nat) (names : List (List Char)) :
    Round (beforeGroup flags.mode items captures names)
      ('(' :: (pattern.toList ++ closing flags ++ more))
      ((start flags.mode).inside (around flags.mode items captures) (captures + 1) names)
      (flags.mode.skip (pattern.toList ++ closing flags) ++ more) := by
  rw [← h.skip_append]
  exact ModalLex.round_openGroup (h.head?_ne_question more) items captures names

/-- A pattern that takes no name of those before it is read in its group, and the next group comes
after it. -/
theorem reads_enclosed (h : Encloses flags pattern e) (hnames : e.names.Disjoint names)
    {rest : List Char} (hrest : rest.head? = some '(') :
    Reads (beforeGroup flags.mode items captures names)
      ('(' :: (pattern.toList ++ closing flags ++ '|' :: rest))
      (beforeGroup flags.mode (items ++ [groupItem captures e]) (captures + 1 + e.captures)
        (e.names ++ names)) rest := by
  obtain ⟨tail, rfl⟩ := List.head?_eq_some_iff.1 hrest
  have hopen := h.round_openGroup ('|' :: '(' :: tail) items captures names
  obtain ⟨hreads, houter⟩ := h
  have hpattern := (hreads.inside hnames (around flags.mode items captures) (captures + 1)).append
    (by simp) ('|' :: '(' :: tail)
  have houter' : (e.inside (around flags.mode items captures) (captures + 1) names).outer
      = [({ mode := flags.mode, branches := items.reverse }, some (captures + 1)),
        ({ mode := flags.mode }, none)] := by
    simp [inside, houter, around]
  have hwhole : (e.inside (around flags.mode items captures) (captures + 1) names).group.whole
      = e.group.whole.raise (captures + 1) := OpenGroup.whole_raise _ _
  have hnext := reads_nextGroup tail houter'
  rw [hwhole] at hnext
  rw [beforeGroup_concat]
  exact .step hopen (hpattern.trans hnext)

/-- A pattern that takes a name of those before it is read up to there. -/
theorem stops_enclosed (h : Encloses flags pattern e) (hclash : ¬ e.names.Disjoint names)
    (rest : List Char) :
    (beforeGroup flags.mode items captures names).Stops
      ('(' :: (pattern.toList ++ closing flags ++ rest)) .groupNameRepeated :=
  .of_reads (.step (h.round_openGroup rest items captures names) (.refl _ _))
    ((h.1.append (List.cons_ne_nil _ _) rest).stops_inside (List.disjoint_nil_left _) hclash _ _)

/-- Patterns that stay in their groups and take different names are read one after the other. -/
theorem reads_groups_enclosed :
    ∀ {patterns : List String} {es : List Reading} (items : List Item) (captures : Nat)
      {names : List (List Char)}, List.Forall₂ (Encloses flags) patterns es → Apart names es →
      ∀ more, ∃ names', Reads (beforeGroup flags.mode items captures names)
        (groupsText flags (patterns ++ more))
        (beforeGroup flags.mode (items ++ groupItems captures es) (capturesAfter captures es)
          names') (groupsText flags more)
  | _, _, items, captures, names, .nil, _, more => by
    rw [groupItems, List.append_nil]
    exact ⟨names, .refl _ _⟩
  | p :: patterns, e :: es, items, captures, names, .cons he hes, hapart, more => by
    obtain ⟨names', hreads⟩ := reads_groups_enclosed
      (items ++ [groupItem captures e]) (captures + 1 + e.captures) hes hapart.2 more
    rw [List.append_assoc] at hreads
    exact ⟨names', (reads_enclosed he hapart.1 (head?_groupsText flags (patterns ++ more))).trans
      hreads⟩

/-- If a name is taken again, they are read up to there. -/
theorem stops_groups :
    ∀ {patterns : List String} {es : List Reading} (items : List Item) (captures : Nat)
      {names : List (List Char)}, List.Forall₂ (Encloses flags) patterns es → ¬ Apart names es →
      ∀ more, (beforeGroup flags.mode items captures names).Stops
        (groupsText flags (patterns ++ more)) .groupNameRepeated
  | _, _, _, _, _, .nil, hapart, _ => absurd trivial hapart
  | p :: patterns, e :: es, items, captures, names, .cons he hes, hapart, more => by
    by_cases hnames : e.names.Disjoint names
    · refine .of_reads (reads_enclosed he hnames (head?_groupsText flags (patterns ++ more))) ?_
      exact stops_groups _ _ hes (fun hrest => hapart ⟨hnames, hrest⟩) more
    · exact stops_enclosed he hnames _

/-- The last group closes the composite, which is then the choice among the groups. None of them is
nested deeper than the whole. -/
theorem reads_ending_enclosed (flags : Flags) (m : Mode) (captures : Nat) (names : List (List Char))
    (hitems : ∀ i ∈ items, ∃ number body, i.node = .capture number body) :
    ∃ r, Reads (beforeGroup m items captures names) (groupsText flags []) r [] ∧ r.outer = [] ∧
      r.group.whole.node
        = .ofBranches (items.map (·.node) ++ [.capture (captures + 1) .anyChar]) ∧
      ∀ i ∈ items, i.depth ≤ r.group.whole.depth := by
  obtain ⟨hnode, hdepth⟩ := whole_of_captures (m := m)
    (i := ⟨.capture (captures + 1) .anyChar, 2, true⟩) ⟨_, _, rfl⟩ hitems
  rw [List.map_append] at hnode
  exact ⟨_, reads_lastGroup flags m items.reverse captures names, rfl, hnode,
    fun i hi => (hdepth i hi).trans (Nat.le_succ _)⟩

/-! ## The composite -/

/-- The composite is read up to the group after patterns that stay in their groups and take
different names. -/
theorem reads_composite_front {patterns : List String} {es : List Reading}
    (hes : List.Forall₂ (Encloses flags) patterns es) (hapart : Apart [] es)
    (more : List String) :
    ∃ names, Reads (.start flags.mode)
      (flags.mode.skip (compositeText flags (patterns ++ more)).toList)
      (beforeGroup flags.mode (groupItems 0 es) (capturesAfter 0 es) names)
      (groupsText flags more) := by
  obtain ⟨names, hgroups⟩ := reads_groups_enclosed [] 0 hes hapart more
  rw [toList_compositeText]
  exact ⟨names, (reads_beginning _ (head?_groupsText flags _)).trans hgroups⟩

/-- If a name is taken again, the composite is read up to there. -/
theorem stops_composite {patterns : List String} {es : List Reading}
    (hes : List.Forall₂ (Encloses flags) patterns es) (hapart : ¬ Apart [] es)
    (more : List String) : (start flags.mode).Stops
      (flags.mode.skip (compositeText flags (patterns ++ more)).toList) .groupNameRepeated := by
  rw [toList_compositeText]
  exact .of_reads (reads_beginning _ (head?_groupsText flags _)) (stops_groups [] 0 hes hapart more)

theorem ofText_of_not_apart {patterns : List String} {es : List Reading}
    (hes : List.Forall₂ (Encloses flags) patterns es) (hapart : ¬ Apart [] es)
    (more : List String) : Node.ofText flags.mode (compositeText flags (patterns ++ more)).toList
      = .error .groupNameRepeated :=
  ofText_of_stops (stops_composite hes hapart more)

/-- Patterns that stay in their groups take different names if their composite is read. -/
theorem apart_of_ofText {patterns : List String} {es : List Reading}
    (hes : List.Forall₂ (Encloses flags) patterns es) {n : Node}
    (h : Node.ofText flags.mode (compositeText flags patterns).toList = .ok n) : Apart [] es := by
  by_contra hapart
  have herror := ofText_of_not_apart hes hapart []
  rw [List.append_nil, h] at herror
  cases herror

/-- The composite of patterns that stay in their groups and take different names is read to its
end, and is the choice among their groups. -/
theorem reads_composite_enclosed {patterns : List String} {es : List Reading}
    (hes : List.Forall₂ (Encloses flags) patterns es) (hapart : Apart [] es) :
    ∃ r, Reads (.start flags.mode) (flags.mode.skip (compositeText flags patterns).toList) r [] ∧
      r.outer = [] ∧ r.group.whole.node = .ofBranches
        ((groupItems 0 es).map (·.node) ++ [.capture (capturesAfter 0 es + 1) .anyChar]) ∧
      ∀ i ∈ groupItems 0 es, i.depth ≤ r.group.whole.depth := by
  obtain ⟨names, hgroups⟩ := reads_composite_front hes hapart []
  obtain ⟨r, hending, houter, hnode, hdepth⟩ :=
    reads_ending_enclosed flags flags.mode (capturesAfter 0 es) names (captures_of_groupItems 0 es)
  rw [List.append_nil] at hgroups
  exact ⟨r, hgroups.trans hending, houter, hnode, hdepth⟩

end Groups

end ModalLex
