import ModalLex.Proofs.Joining

/-!
# The numbers of the groups

The groups of a composite are numbered as its rules are exactly if every pattern stays in its group
and takes no capture (`numberedInOrder_iff`). That a pattern is well formed by itself and captures
nothing there does not promise it: a comment at its end may run over the closing parenthesis, and a
capture may be repeated no times, so that it is left out of the node but not out of the numbering.
-/

namespace ModalLex

open Pattern Pattern.Reading

namespace Context

/-- The rules are told by their groups, with the nodes as what the rules match. -/
structure DispatchedBy (c : Context) (nodes : List Node) : Prop where
  /-- The rule found is the first one whose node matches. -/
  ruleAt? : ∀ before text, c.ruleAt? before text = firstMatch? before text (c.rules.zip nodes)
  /-- At every character one group takes part in the search, which is that of the rule found. -/
  takesPart : ∀ before char rest, ∃ group,
    (∀ other, c.TakesPart before (char :: rest) other ↔ other = group) ∧
      1 ≤ group ∧ group ≤ c.rules.length + 1 ∧
      c.rules[group - 1]? = (c.ruleAt? before (char :: rest)).map (·.1)
  /-- The last group takes part where no rule is found, and only there. -/
  lastGroup : ∀ before char rest, c.TakesPart before (char :: rest) (c.rules.length + 1) ↔
    c.ruleAt? before (char :: rest) = none
  /-- What is matched stands at the offset, and the classifier of the rule that matches it tells
  what it is. -/
  matchAt : ∀ {input : List Char} {offset row column : Nat} {m : Match},
    c.matchAt input offset row column = .ok m →
      ∃ before after r, input = before ++ after ∧ Text.byteLength before = offset ∧
        m.text.toList <+: after ∧ c.ruleAt? before.getLast? after = some (r, m.text.toList) ∧
        m = ⟨(r.classify m.text).kind, (r.classify m.text).next, m.text, (r.classify m.text).keep⟩

variable {c : Context} {nodes : List Node}

theorem dispatchedBy_of_groupedBy (h : c.GroupedBy nodes) : c.DispatchedBy nodes where
  ruleAt? := ruleAt?_eq h
  takesPart := takesPart_iff h
  lastGroup := by
    intro before char rest
    obtain ⟨group, hgroup, hge, hle, hrule⟩ := takesPart_iff h before char rest
    rw [hgroup, ← Option.map_eq_none_iff, ← hrule, List.getElem?_eq_none_iff]
    omega
  matchAt := by
    intro input offset row column m hm
    obtain ⟨before, char, rest, rfl, rfl⟩ := exists_append_of_matchAt hm
    obtain ⟨-, after, hafter⟩ := text_append_of_matchAt ⟨nodes, h⟩ hm
    rw [matchAt_append, matchSpot] at hm
    simp only at hm
    split at hm
    · cases hm
    · cases hm
    · rename_i r part _ hrule
      cases hm
      exact ⟨before, char :: rest, r, rfl, rfl, ⟨after, hafter.symm⟩, by simpa using hrule, rfl⟩

end Context

section Numbers

variable [Engine]

/-- In its group the pattern is read as the node, up to the parenthesis that closes the group: there
no group is open and no capture is taken. -/
def ReadsAs (flags : Flags) (pattern : String) (n : Node) : Prop :=
  ∃ r, Reading.Reads (.start flags.mode) (flags.mode.skip (pattern.toList ++ closing flags)) r
      [')'] ∧ r.outer = [] ∧ r.captures = 0 ∧ r.group.whole.node = n

/-- The pattern stays in its group and takes no capture there. -/
def Contained (flags : Flags) (pattern : String) : Prop := ∃ n, ReadsAs flags pattern n

theorem ReadsAs.silent {flags : Flags} {pattern : String} {n : Node} (h : ReadsAs flags pattern n) :
    n.Silent := by
  obtain ⟨r, hreads, -, hcaptures, rfl⟩ := h
  exact OpenGroup.whole_captures (hreads.captures (Reading.start_captures _) fun k hk hk' =>
    Nat.not_lt_zero _ (hk.trans_le (hk'.trans hcaptures.le))).1

theorem ReadsAs.encloses {flags : Flags} {pattern : String} {n : Node}
    (h : ReadsAs flags pattern n) :
    ∃ e, Encloses flags pattern e ∧ e.captures = 0 ∧ e.group.whole.node = n := by
  obtain ⟨e, hreads, houter, hcaptures, hnode⟩ := h
  exact ⟨e, ⟨hreads, houter⟩, hcaptures, hnode⟩

section Groups

variable {flags : Flags} {pattern : String} {e own : Reading}

/-- A pattern that takes no capture takes no name. -/
theorem Encloses.names_eq_nil (h : Encloses flags pattern e) (hcaptures : e.captures = 0) :
    e.names = [] :=
  List.length_eq_zero_iff.1 (Nat.le_zero.1 (hcaptures ▸ h.1.names_length_le le_rfl))

/-- Where a pattern hides the parenthesis that closes its group, no reading comes to the group after
it. -/
theorem Hides.not_reads (h : Hides flags pattern own) {items : List Item} {captures : Nat}
    {rest : List Char} (hrest : rest.head? = some '(') {r' : Reading} :
    ¬ Reads (beforeGroup flags.mode items captures [])
      ('(' :: (pattern.toList ++ closing flags ++ '|' :: rest)) r' rest := by
  intro hreads
  obtain ⟨tail, rfl⟩ := List.head?_eq_some_iff.1 hrest
  have hclosing := h.1
  obtain ⟨r, text, r₁, text₁, hpattern, hround, hlength, -⟩ :=
    h.reads_past (show (closing flags ++ '|' :: '(' :: tail).head? = some ')' by simp [hclosing])
  have hskip : Mode.skipBlanks true (closing flags ++ '|' :: '(' :: tail)
      = Mode.skipBlanks true tail := by
    rw [hclosing]
    rfl
  rw [List.append_assoc] at hreads
  have hopen := round_openGroup (h.head?_ne_question (closing flags ++ '|' :: '(' :: tail)) items
    captures []
  have hlt : ('(' :: tail).length < (text ++ (closing flags ++ '|' :: '(' :: tail)).length := by
    simp only [List.length_append, List.length_cons]
    omega
  have hafter := (Reads.step hopen (hpattern.inside (List.disjoint_nil_right _) _ _)).of_length_le
    hreads hlt.le
  -- the next round comes past the parenthesis, as it reads on in the comment
  have hle := (hafter.of_round (hround.inside (List.disjoint_nil_right _)) hlt).length_le
  have hblanks := (Mode.skipBlanks_suffix true tail).length_le
  rw [hskip] at hlength
  rw [List.length_cons] at hle
  omega

/-- If each group of the composite comes after as many captures as groups, every pattern that is
well formed by itself stays in its group. -/
theorem contained_of_captures : ∀ {patterns : List String} {items : List Item} {captures : Nat},
    (∀ p ∈ patterns, ∃ n, Node.ofText flags.mode p.toList = .ok n) →
    (∀ k ≤ patterns.length, ∃ r, Reads (beforeGroup flags.mode items captures [])
      (groupsText flags patterns) r (groupsText flags (patterns.drop k)) ∧
      r.captures = captures + k) →
    ∀ p ∈ patterns, Contained flags p
  | [], _, _, _, _ => by simp
  | p :: patterns, items, captures, halone, hreads => by
    obtain ⟨⟨_, hp⟩, halone⟩ := List.forall_mem_cons.1 halone
    have hhead := head?_groupsText flags patterns
    obtain ⟨r₁, hr₁, hcaptures₁⟩ := hreads 1 (by simp)
    obtain ⟨own, hown, houter, -⟩ := reads_of_ofText hp
    rcases encloses_or_hides hown houter with ⟨e, he, -⟩ | hhides
    swap
    · exact absurd hr₁ (hhides.not_reads hhead)
    have hgroup : Reads (beforeGroup flags.mode items captures []) _ _ _ :=
      reads_enclosed he (List.disjoint_nil_right _) hhead
    have hcaptures : e.captures = 0 := by
      rw [hr₁.unique hgroup] at hcaptures₁
      exact Nat.add_left_cancel hcaptures₁
    rw [he.names_eq_nil hcaptures, hcaptures] at hgroup
    have hrest : ∀ k ≤ patterns.length, ∃ r, Reads
        (beforeGroup flags.mode (items ++ [groupItem captures e]) (captures + 1) [])
        (groupsText flags patterns) r (groupsText flags (patterns.drop k)) ∧
        r.captures = captures + 1 + k := fun k hk => by
      obtain ⟨r, hr, hcaptures'⟩ := hreads (k + 1) (Nat.succ_le_succ hk)
      refine ⟨r, hgroup.of_length_le hr (groupsText_drop_suffix flags patterns k).length_le, ?_⟩
      omega
    exact List.forall_mem_cons.2 ⟨⟨_, e, he.1, he.2, hcaptures, rfl⟩,
      contained_of_captures halone hrest⟩

/-- Patterns that take no captures come one capture after the other, as they are by themselves. -/
theorem groupItems_of_readsAs {patterns : List String} {nodes : List Node}
    (h : List.Forall₂ (ReadsAs flags) patterns nodes) :
    ∃ es, List.Forall₂ (Encloses flags) patterns es ∧ (∀ names, Apart names es) ∧
      ∀ captures, capturesAfter captures es = captures + patterns.length ∧
        (groupItems captures es).map (·.node)
          = (nodes.zipIdx (captures + 1)).map fun (n, number) => .capture number n := by
  induction h with
  | nil => exact ⟨[], .nil, fun _ => trivial, fun _ => ⟨rfl, rfl⟩⟩
  | cons hn _ ih =>
    obtain ⟨es, hes, hapart, hitems⟩ := ih
    obtain ⟨e, he, hcaptures, rfl⟩ := hn.encloses
    refine ⟨e :: es, .cons he hes, fun names => ⟨?_, hapart _⟩, fun captures => ?_⟩
    · rw [he.names_eq_nil hcaptures]
      exact List.disjoint_nil_left _
    · obtain ⟨hafter, hnodes⟩ := hitems (captures + 1)
      rw [capturesAfter, groupItems, hcaptures]
      refine ⟨by simp only [Nat.add_zero, hafter, List.length_cons]; omega, ?_⟩
      simp only [Nat.add_zero, List.map_cons, hnodes, List.zipIdx_cons, groupItem,
        Node.raise_of_silent _ hn.silent]

/-- Where each pattern is read in its group, the composite is the choice among their nodes, each in
the group with its number. -/
theorem node_of_readsAs {patterns : List String} {nodes : List Node}
    (h : List.Forall₂ (ReadsAs flags) patterns nodes)
    {n : Node} (hn : Node.ofText flags.mode (compositeText flags patterns).toList = .ok n) :
    n = .grouped (nodes ++ [.anyChar]) := by
  obtain ⟨r, hreads, -, rfl⟩ := reads_of_ofText hn
  obtain ⟨es, hes, hapart, hitems⟩ := groupItems_of_readsAs h
  obtain ⟨r', hreads', -, hnode, -⟩ := reads_composite_enclosed hes (hapart _)
  rw [hreads.unique hreads', hnode, (hitems 0).1, (hitems 0).2, h.length_eq]
  simp [Node.grouped, Node.groupedFrom, List.zipIdx_append, Nat.add_comm]

/-- A group begins with a parenthesis that opens a capture. -/
theorem exists_groupsText_eq {patterns : List String} (h : ∀ p ∈ patterns, Contained flags p) :
    ∃ text, groupsText flags patterns = '(' :: text ∧ (flags.mode.skip text).head? ≠ some '?' := by
  cases patterns with
  | nil => exact ⟨_, rfl, by rw [Mode.skip_of_counts (by decide) (by decide)]; decide⟩
  | cons p patterns =>
    obtain ⟨n, hn⟩ := h p List.mem_cons_self
    obtain ⟨e, he, -⟩ := hn.encloses
    exact ⟨_, rfl, he.head?_ne_question _⟩

end Groups

namespace Pattern

/-- The parenthesis at the beginning of the suffix opens the capture with the number when the text
is read. -/
def Opens (m : Mode) (text suffix : List Char) (number : Nat) : Prop :=
  ∃ r rest, Reads (.start m) (m.skip text) r suffix ∧ Round r suffix r.openCapture rest ∧
    r.captures + 1 = number

end Pattern

namespace Context

/-- The parenthesis in front of each rule's pattern opens the group with the number of the rule, and
the last group has the number after them. -/
def NumberedInOrder (c : Context) : Prop :=
  ∀ k ≤ c.rules.length, Opens c.flags.mode c.pattern.toList
    (groupsText c.flags ((c.rules.map (·.pattern)).drop k)) (k + 1)

section Built

variable {c : Context} {nodes : List Node} {rules : List Rule} {message : String} {flags : Flags}

theorem groupedBy_of_readsAs (h : ofRules rules message flags = .ok c)
    (hn : List.Forall₂ (ReadsAs c.flags) (c.rules.map (·.pattern)) nodes) : c.GroupedBy nodes := by
  obtain ⟨-, rfl, rfl, hnode, -⟩ := of_ofRules h
  refine ⟨by simpa using hn.length_eq.symm, fun n hmem => ?_, node_of_readsAs hn hnode⟩
  obtain ⟨i, hi, rfl⟩ := List.getElem_of_mem hmem
  exact (hn.get (hn.length_eq ▸ hi) hi).silent

theorem numberedInOrder_of_contained (h : ∀ r ∈ c.rules, Contained c.flags r.pattern) :
    c.NumberedInOrder := by
  have hpatterns : ∀ p ∈ c.rules.map (·.pattern), Contained c.flags p := List.forall_mem_map.2 h
  intro k hk
  rw [← List.length_map (·.pattern)] at hk
  rw [pattern]
  generalize c.rules.map (·.pattern) = patterns at hk hpatterns ⊢
  obtain ⟨nodes, hn⟩ := exists_forall₂ fun p hp => hpatterns p (List.mem_of_mem_take (i := k) hp)
  obtain ⟨es, hes, hapart, hitems⟩ := groupItems_of_readsAs hn
  obtain ⟨names, hreads⟩ := reads_composite_front hes (hapart []) (patterns.drop k)
  rw [List.take_append_drop] at hreads
  obtain ⟨text, htext, hhead⟩ :=
    exists_groupsText_eq fun p hp => hpatterns p (List.mem_of_mem_drop hp)
  refine ⟨_, _, hreads, htext ▸ Reading.round_openCapture hhead, ?_⟩
  change capturesAfter 0 es + 1 = k + 1
  rw [(hitems 0).1, List.length_take_of_le hk, Nat.zero_add]

theorem contained_of_numberedInOrder (h : ofRules rules message flags = .ok c)
    (hc : c.NumberedInOrder) : ∀ r ∈ c.rules, Contained c.flags r.pattern := by
  obtain ⟨-, rfl, rfl, -, halone⟩ := of_ofRules h
  have hgroups : ∀ k ≤ (c.rules.map (·.pattern)).length, ∃ r, Reads
      (beforeGroup c.flags.mode [] 0 []) (groupsText c.flags (c.rules.map (·.pattern))) r
      (groupsText c.flags ((c.rules.map (·.pattern)).drop k)) ∧ r.captures = 0 + k := fun k hk => by
    obtain ⟨r, rest, hreads, -, hcaptures⟩ := hc k (by simpa using hk)
    rw [pattern, toList_compositeText] at hreads
    refine ⟨r, (reads_beginning c.flags.mode (head?_groupsText c.flags _)).of_length_le hreads
      (groupsText_drop_suffix _ _ k).length_le, ?_⟩
    omega
  refine List.forall_mem_map.1
    (contained_of_captures (List.forall_mem_map.2 fun r hr => ?_) hgroups)
  obtain ⟨n, hn, -⟩ := halone r hr
  exact ⟨n, ofText_of_nodeOf hn⟩

/-- The groups of a context that has been built are numbered as its rules are exactly if each
pattern stays in its group and takes no capture there. Then there is no other group, and the rules
are told by their groups. -/
theorem numberedInOrder_iff (h : ofRules rules message flags = .ok c) :
    (c.groups = c.rules.length + 1 ∧ c.NumberedInOrder ↔
      ∀ r ∈ c.rules, Contained c.flags r.pattern) ∧
    (c.NumberedInOrder → ∃ nodes,
      List.Forall₂ (ReadsAs c.flags) (c.rules.map (·.pattern)) nodes ∧ c.DispatchedBy nodes) := by
  have hnodes : (∀ r ∈ c.rules, Contained c.flags r.pattern) → ∃ nodes,
      List.Forall₂ (ReadsAs c.flags) (c.rules.map (·.pattern)) nodes ∧ c.GroupedBy nodes :=
    fun hcontained => by
      obtain ⟨nodes, hn⟩ := exists_forall₂ (List.forall_mem_map.2 hcontained)
      exact ⟨nodes, hn, groupedBy_of_readsAs h hn⟩
  refine ⟨⟨fun hc => contained_of_numberedInOrder h hc.2, fun hcontained => ?_⟩, fun hc => ?_⟩
  · obtain ⟨nodes, -, hg⟩ := hnodes hcontained
    exact ⟨groups_of_groupedBy hg, numberedInOrder_of_contained hcontained⟩
  · obtain ⟨nodes, hn, hg⟩ := hnodes (contained_of_numberedInOrder h hc)
    exact ⟨nodes, hn, dispatchedBy_of_groupedBy hg⟩

end Built

end Context

end Numbers

namespace Context

open scoped Unicode

/-- Words and numbers, each with a comment. -/
def remarkRules : List Rule :=
  [.token "a # word" "word" (.name "main"), .token "0 # number" "number" (.name "main")]

def remarkContext : Context where
  message := "unexpected character"
  flags := { ignoreWhitespace := true }
  rules := remarkRules
  node := .grouped [.literal ['a'], .literal ['0'], .anyChar]

/-- Where white space does not count, comments at the end of patterns hide no parenthesis. -/
theorem numberedInOrder_remarkContext :
    ofRules remarkRules "unexpected character" { ignoreWhitespace := true } = .ok remarkContext ∧
    remarkContext.groups = 3 ∧ remarkContext.NumberedInOrder := by
  have h : ofRules remarkRules "unexpected character" { ignoreWhitespace := true }
      = .ok remarkContext := by rfl
  have hcontained : ∀ r ∈ remarkContext.rules, Contained remarkContext.flags r.pattern := by
    refine List.forall_mem_cons.2 ⟨?_, List.forall_mem_singleton.2 ?_⟩
    · exact ⟨_, _, .step (.mk (by rfl)) (.refl _ _), rfl, rfl, rfl⟩
    · exact ⟨_, _, .step (.mk (by rfl)) (.refl _ _), rfl, rfl, rfl⟩
  exact ⟨h, (numberedInOrder_iff h).1.2 hcontained⟩

-- a comment hides a parenthesis, and the last group has the number of the second rule
example : ((ofRules [.skip "(?x)a #" (.name "main"), .token "\nb" "b" (.name "main")] "" {}).map
    fun c => (c.rules.length, c.groups)).toOption = some (2, 2) := by rfl

end Context

end ModalLex
