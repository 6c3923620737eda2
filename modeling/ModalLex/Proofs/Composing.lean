import ModalLex.Proofs.Separating

/-!
# Patterns that are well formed together

The first rule whose pattern is not admitted decides the error of a context. If all are admitted,
the composite can still be at fault. A name is repeated if two patterns take it in groups that are
repeated no times, which capture nothing. And a comment at the end of a pattern, which white space
that does not count from some flag on makes one, hides the parenthesis that closes the group and
whatever comes up to the next newline, so a group is not closed unless there is one
(`outcome_ofRules`).
-/

namespace ModalLex

open Pattern Pattern.Reading

theorem forM_append_error {ε α : Type} {f : α → Except ε Unit} {e : ε} {x : α} {back : List α}
    (hx : f x = .error e) :
    ∀ {front : List α}, (∀ y ∈ front, f y = .ok ()) → (front ++ x :: back).forM f = .error e
  | [], _ => by
    change f x >>= _ = _
    rw [hx]
    rfl
  | y :: front, h => by
    obtain ⟨hy, hfront⟩ := List.forall_mem_cons.1 h
    change f y >>= _ = _
    rw [hy, ok_bind]
    exact forM_append_error hx hfront

theorem newline_not_mem_groupsText {flags : Flags} (h : closing flags = [')']) :
    ∀ {patterns : List String}, (∀ p ∈ patterns, '\n' ∉ p.toList) →
      '\n' ∉ groupsText flags patterns
  | [], _ => by simp [groupsText]
  | p :: patterns, hp => by
    obtain ⟨hfirst, hrest⟩ := List.forall_mem_cons.1 hp
    simp [groupsText, h, hfirst, newline_not_mem_groupsText h hrest]

section Together

variable [Engine]

/-- The pattern is well formed by itself and captures nothing. -/
def Admitted (flags : Flags) (pattern : String) : Prop :=
  ∃ n, Node.ofText flags.mode pattern.toList = .ok n ∧ n.lastCapture = 0

/-- The pattern stays in its group. -/
def Enclosed (flags : Flags) (pattern : String) : Prop := ∃ e, Encloses flags pattern e

/-- The names of groups that a pattern takes. -/
def groupNames (flags : Flags) (pattern : String) : List (List Char) :=
  (endOf? flags.mode pattern.toList).elim [] (·.names)

/-- The composite is at no fault for how deep or how large it is. -/
def WithinLimits (flags : Flags) (patterns : List String) : Prop :=
  ∀ fault, Node.ofText flags.mode (compositeText flags patterns).toList = .error fault →
    fault ≠ .nestedTooDeep ∧ fault ≠ .tooLarge

/-! ## One pattern -/

section Alone

variable {flags : Flags} {pattern : String} {e own : Reading}

theorem checkPattern_eq (flags : Flags) (pattern : String) : checkPattern flags pattern =
    match Node.ofText flags.mode pattern.toList with
    | .error fault =>
      .error ⟨.invalidPattern pattern (Engine.reason flags.mode pattern fault), none⟩
    | .ok n => if n.lastCapture = 0 then .ok () else .error ⟨.capturingGroup pattern, none⟩ := by
  rw [checkPattern, nodeOf, readNode]
  cases Node.ofText flags.mode pattern.toList <;> rfl

theorem checkPattern_eq_ok_iff : checkPattern flags pattern = .ok () ↔ Admitted flags pattern := by
  rw [checkPattern_eq, Admitted]
  rcases Node.ofText flags.mode pattern.toList with fault | n
  · simp
  · by_cases h : n.lastCapture = 0 <;> simp [h]

theorem enclosed_of_ignoreWhitespace (hx : flags.ignoreWhitespace = true)
    (h : Admitted flags pattern) : Enclosed flags pattern := by
  obtain ⟨n, hn, -⟩ := h
  obtain ⟨own, hreads, houter, -⟩ := reads_of_ofText hn
  exact ⟨_, (reads_separator hx hreads houter).1⟩

/-- A pattern takes the same names in its group as by itself. -/
theorem groupNames_of_encloses (hadmitted : Admitted flags pattern) (h : Encloses flags pattern e) :
    groupNames flags pattern = e.names := by
  obtain ⟨n, hn, -⟩ := hadmitted
  obtain ⟨own, hown, houter, -⟩ := reads_of_ofText hn
  rw [groupNames, endOf?_eq_some_iff.2 hown, Option.elim_some]
  rcases encloses_or_hides hown houter with ⟨e', he', hnames⟩ | hhides
  · rw [h.unique he', hnames]
  · exact absurd h hhides.not_encloses

end Alone

/-! ## The composite -/

section Composite

variable {flags : Flags} {patterns : List String}

/-- Where all patterns stay in their groups and take different names, only the limits can make the
composite be at fault. -/
theorem ofText_of_apart {es : List Reading} (hes : List.Forall₂ (Encloses flags) patterns es)
    (hapart : Apart [] es) (hlimits : WithinLimits flags patterns) :
    ∃ n, Node.ofText flags.mode (compositeText flags patterns).toList = .ok n := by
  obtain ⟨r, hreads, houter, -, -⟩ := reads_composite_enclosed hes hapart
  have htext := ofText_of_reads hreads
  rw [if_neg (not_not.2 houter)] at htext
  split at htext
  · exact absurd rfl (hlimits _ htext).1
  · split at htext
    · exact ⟨_, htext⟩
    · exact absurd rfl (hlimits _ htext).2

/-- Where a pattern does not stay in its group, and no newline comes after it, the composite is at
fault. -/
theorem exists_fault_of_not_enclosed {front back : List String} {pattern : String}
    (hfront : ∀ p ∈ front, Enclosed flags p) (hadmitted : Admitted flags pattern)
    (hpattern : ¬ Enclosed flags pattern) (hback : ∀ p ∈ back, '\n' ∉ p.toList) :
    ∃ fault, Node.ofText flags.mode (compositeText flags (front ++ pattern :: back)).toList
      = .error fault := by
  obtain ⟨es, hes⟩ := exists_forall₂ hfront
  by_cases hapart : Apart [] es
  swap
  · exact ⟨_, ofText_of_not_apart hes hapart _⟩
  obtain ⟨n, hn, -⟩ := hadmitted
  obtain ⟨own, hown, houter, -⟩ := reads_of_ofText hn
  rcases encloses_or_hides hown houter with ⟨e, he, -⟩ | hhides
  · exact absurd ⟨e, he⟩ hpattern
  obtain ⟨names, hbefore⟩ := reads_composite_front hes hapart (pattern :: back)
  have hclosing := hhides.1
  have hnewline : '\n' ∉ closing flags ++ '|' :: groupsText flags back := by
    simp [hclosing, newline_not_mem_groupsText hclosing hback]
  have hreads := hhides.reads hnewline (by simp [hclosing])
  have hopen := round_openGroup
    (hhides.head?_ne_question (closing flags ++ '|' :: groupsText flags back))
    (groupItems 0 es) (capturesAfter 0 es) names
  rw [← List.append_assoc] at hreads hopen
  have hgroup := hbefore.trans (.step hopen (.refl _ _))
  -- the comment hides what closes the group, unless a name is repeated before
  by_cases hnames : own.names.Disjoint names
  · refine ⟨.groupUnclosed, ?_⟩
    rw [ofText_of_reads (hgroup.trans (hreads.inside hnames _ _)), if_pos]
    simp [inside, around]
  · exact ⟨_, ofText_of_stops (.of_reads hgroup
      (hreads.stops_inside (List.disjoint_nil_left _) hnames _ _))⟩

end Composite

namespace Context

/-- The error of the composite of the rules, with what the engine says of the fault. -/
def compositeError (rules : List Rule) (flags : Flags) (fault : Fault) : Error :=
  let text := compositeText flags (rules.map (·.pattern))
  ⟨.invalidPattern text (Engine.compositeReason flags.mode text fault), none⟩

/-- What comes of a list of rules. -/
structure Outcome (rules : List Rule) (message : String) (flags : Flags) : Prop where
  /-- The first rule whose pattern is not well formed by itself decides the error. -/
  invalid : ∀ front r back fault, rules = front ++ r :: back →
    (∀ q ∈ front, Admitted flags q.pattern) →
    Node.ofText flags.mode r.pattern.toList = .error fault →
    ofRules rules message flags
      = .error ⟨.invalidPattern r.pattern (Engine.reason flags.mode r.pattern fault), none⟩
  /-- So does the first one whose pattern captures something. -/
  capturing : ∀ front r back n, rules = front ++ r :: back →
    (∀ q ∈ front, Admitted flags q.pattern) → Node.ofText flags.mode r.pattern.toList = .ok n →
    n.lastCapture ≠ 0 → ofRules rules message flags = .error ⟨.capturingGroup r.pattern, none⟩
  /-- A context is built of admitted patterns only. -/
  admitted : ∀ c, ofRules rules message flags = .ok c → ∀ r ∈ rules, Admitted flags r.pattern
  /-- Where white space does not count, all admitted patterns stay in their groups. -/
  enclosed : flags.ignoreWhitespace = true → (∀ r ∈ rules, Admitted flags r.pattern) →
    ∀ r ∈ rules, Enclosed flags r.pattern
  /-- If admitted patterns stay in their groups, a context is built exactly if the names of their
  groups are different. -/
  isOk_iff : (∀ r ∈ rules, Admitted flags r.pattern) → (∀ r ∈ rules, Enclosed flags r.pattern) →
    WithinLimits flags (rules.map (·.pattern)) → ((∃ c, ofRules rules message flags = .ok c) ↔
      (rules.map fun r => groupNames flags r.pattern).Pairwise List.Disjoint)
  /-- If two of them have a name in common, the composite is at fault for it. -/
  repeated : (∀ r ∈ rules, Admitted flags r.pattern) → (∀ r ∈ rules, Enclosed flags r.pattern) →
    ¬ (rules.map fun r => groupNames flags r.pattern).Pairwise List.Disjoint →
    ofRules rules message flags = .error (compositeError rules flags .groupNameRepeated)
  /-- If one of them does not stay in its group, the composite is at fault unless there is a newline
  in a pattern after it. -/
  hidden : ∀ front r back, rules = front ++ r :: back → (∀ q ∈ rules, Admitted flags q.pattern) →
    (∀ q ∈ front, Enclosed flags q.pattern) → ¬ Enclosed flags r.pattern →
    (∀ q ∈ back, '\n' ∉ q.pattern.toList) →
    ∃ fault, ofRules rules message flags = .error (compositeError rules flags fault)

section Outcomes

variable {rules : List Rule} {message : String} {flags : Flags}

/-- The error of the first pattern that is not admitted is that of the context. -/
theorem ofRules_of_checkPattern {front back : List Rule} {r : Rule} {e : Error}
    (hfront : ∀ q ∈ front, Admitted flags q.pattern)
    (he : checkPattern flags r.pattern = .error e) :
    ofRules (front ++ r :: back) message flags = .error e := by
  have hok : ∀ q ∈ front, checkPattern flags q.pattern = .ok () := fun q hq =>
    checkPattern_eq_ok_iff.2 (hfront q hq)
  rw [ofRules, forM_append_error (x := r) he hok]
  rfl

/-- What comes of admitted patterns is up to the composite. -/
theorem ofRules_of_admitted (h : ∀ r ∈ rules, Admitted flags r.pattern) :
    ofRules rules message flags =
      match Node.ofText flags.mode (compositeText flags (rules.map (·.pattern))).toList with
      | .ok node => .ok { message, flags, rules, node }
      | .error fault => .error (compositeError rules flags fault) := by
  rw [ofRules, forM_eq_ok_iff.2 fun r hr => checkPattern_eq_ok_iff.2 (h r hr), ok_bind,
    compositeNode, readNode]
  cases Node.ofText flags.mode (compositeText flags (rules.map (·.pattern))).toList <;> rfl

theorem admitted_of_ofRules {c : Context} (h : ofRules rules message flags = .ok c) :
    ∀ r ∈ rules, Admitted flags r.pattern := by
  obtain ⟨_, hcheck, -⟩ := bind_eq_ok h
  exact fun r hr => checkPattern_eq_ok_iff.1 (forM_eq_ok_iff.1 hcheck r hr)

/-- The names are different exactly if the readings of the patterns take different names. -/
theorem pairwise_groupNames_iff {es : List Reading}
    (hadmitted : ∀ r ∈ rules, Admitted flags r.pattern)
    (hes : List.Forall₂ (Encloses flags) (rules.map (·.pattern)) es) :
    (rules.map fun r => groupNames flags r.pattern).Pairwise List.Disjoint ↔ Apart [] es := by
  have hnames : (rules.map fun r => groupNames flags r.pattern) = es.map (·.names) := by
    induction rules generalizing es with
    | nil =>
      cases hes
      rfl
    | cons r rules ih =>
      obtain ⟨hr, hrules⟩ := List.forall_mem_cons.1 hadmitted
      obtain ⟨e, es, he, hrest, rfl⟩ := List.forall₂_cons_left_iff.1 hes
      rw [List.map_cons, List.map_cons, groupNames_of_encloses hr he, ih hrules hrest]
  rw [hnames, apart_iff, and_iff_right fun e _ => List.disjoint_nil_right _]

/-- What comes of rules is decided by the first pattern that is not admitted, or else by whether the
patterns stay in their groups and take different names. -/
theorem outcome_ofRules (rules : List Rule) (message : String) (flags : Flags) :
    Outcome rules message flags where
  invalid front r back fault hrules hfront hfault := by
    subst hrules
    exact ofRules_of_checkPattern hfront (by rw [checkPattern_eq, hfault])
  capturing front r back n hrules hfront hn hcapture := by
    subst hrules
    refine ofRules_of_checkPattern hfront ?_
    rw [checkPattern_eq, hn]
    exact if_neg hcapture
  admitted _ h := admitted_of_ofRules h
  enclosed hx hadmitted r hr := enclosed_of_ignoreWhitespace hx (hadmitted r hr)
  isOk_iff hadmitted henclosed hlimits := by
    obtain ⟨es, hes⟩ := exists_forall₂ (List.forall_mem_map.2 henclosed)
    rw [pairwise_groupNames_iff hadmitted hes]
    constructor
    · rintro ⟨c, hc⟩
      obtain ⟨-, -, -, hnode, -⟩ := of_ofRules hc
      exact apart_of_ofText hes hnode
    · intro hapart
      obtain ⟨n, hn⟩ := ofText_of_apart hes hapart hlimits
      rw [ofRules_of_admitted hadmitted, hn]
      exact ⟨_, rfl⟩
  repeated hadmitted henclosed hnames := by
    obtain ⟨es, hes⟩ := exists_forall₂ (List.forall_mem_map.2 henclosed)
    rw [pairwise_groupNames_iff hadmitted hes] at hnames
    have herror := ofText_of_not_apart hes hnames []
    rw [List.append_nil] at herror
    rw [ofRules_of_admitted hadmitted, herror]
  hidden front r back hrules hadmitted hfront hr hback := by
    subst hrules
    obtain ⟨fault, hfault⟩ := exists_fault_of_not_enclosed (List.forall_mem_map.2 hfront)
      (hadmitted r (by simp)) hr (List.forall_mem_map.2 hback)
    have hmap : (front ++ r :: back).map (·.pattern)
        = front.map (·.pattern) ++ r.pattern :: back.map (·.pattern) := by simp
    refine ⟨fault, ?_⟩
    rw [ofRules_of_admitted hadmitted, hmap, hfault]

end Outcomes

end Context

end Together

namespace Context

open scoped Unicode

/-- Two patterns with a name in common, in groups that are repeated no times. -/
def nameRules : List Rule :=
  [.token "(?<_>a)\x7b0\x7db" "b" (.name "main"), .token "(?<_>a)\x7b0\x7dc" "c" (.name "main")]

set_option maxRecDepth 4000 in
/-- Each of the two patterns is admitted, but not both together. -/
theorem outcome_nameRules :
    (∀ r ∈ nameRules, Admitted { ignoreWhitespace := true } r.pattern) ∧
    ∃ reason, ofRules nameRules "" { ignoreWhitespace := true } = .error ⟨.invalidPattern
      "(?:((?<_>a)\x7b0\x7db\n)|((?<_>a)\x7b0\x7dc\n)|((?su:.)))" reason, none⟩ := by
  have houtcome := outcome_ofRules nameRules "" { ignoreWhitespace := true }
  have hadmitted : ∀ r ∈ nameRules, Admitted { ignoreWhitespace := true } r.pattern :=
    List.forall_mem_cons.2 ⟨⟨.literal ['b'], by rfl, rfl⟩,
      List.forall_mem_singleton.2 ⟨.literal ['c'], by rfl, rfl⟩⟩
  have hnames : (nameRules.map fun r => groupNames { ignoreWhitespace := true } r.pattern)
      = [[['_']], [['_']]] := by rfl
  exact ⟨hadmitted, _, houtcome.repeated hadmitted (houtcome.enclosed rfl hadmitted) (by
    rw [hnames]
    simp)⟩

-- a comment hides the parenthesis that closes the group
example : (ofRules [.token "(?x)a #" "a" (.name "main")] "" {}).toOption.isNone := by rfl

end Context

end ModalLex
