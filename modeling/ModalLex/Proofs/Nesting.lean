import ModalLex.Proofs.Endings
import ModalLex.Proofs.Raising

/-!
# Readings within groups and after captures

A text is read within more groups, after more captures and with more names taken as it is by itself,
its captures raised, as long as it takes none of these names (`Reads.inside`). Where it takes one,
the reading stops at that name, as it is repeated (`Reads.stops_inside`), and a text whose reading
stops stands for no node (`ofText_of_stops`).
-/

namespace ModalLex.Pattern

namespace Reading

/-- The reading within more groups, after more captures and with more names taken. -/
def inside (r : Reading) (outer : List (OpenGroup × Option Nat)) (captures : Nat)
    (names : List (List Char)) : Reading where
  group := r.group.raise captures
  outer := (r.outer.map fun (g, number) => (g.raise captures, number.map (captures + ·))) ++ outer
  captures := captures + r.captures
  names := r.names ++ names

/-- The reading goes on up to where the text is at fault. -/
def Stops [Engine] (r : Reading) (text : List Char) (fault : Fault) : Prop :=
  ∃ r' c rest, Reads r text r' (c :: rest) ∧ r'.readNext c rest = .error fault

section Inside

variable {r r' : Reading} {text rest : List Char} {outer : List (OpenGroup × Option Nat)}
  {k : Nat} {names : List (List Char)}

theorem push_inside {i : Item} (hi : i.node.Silent) :
    (r.inside outer k names).push i = (r.push i).inside outer k names := by
  have hpush : (r.group.raise k).push i = (r.group.push i).raise k := OpenGroup.push_raise k _ hi
  simp only [push, inside, hpush]

theorem goOn_inside {mode : Mode} {any : Bool} (h : r.goOn mode any text = .ok (r', rest)) :
    (r.inside outer k names).goOn mode any text = .ok (r'.inside outer k names, rest) := by
  unfold goOn at h ⊢
  split at h
  · split at h
    · cases h
      exact if_pos ‹_›
    · cases h
  · cases h
    rfl

theorem readFlagged_inside (h : r.readFlagged text = .ok (r', rest)) :
    (r.inside outer k names).readFlagged text = .ok (r'.inside outer k names, rest) := by
  obtain ⟨⟨mode, any, after⟩, hflags, h⟩ := bind_eq_ok h
  have hflags' : readFlags true [] (r.inside outer k names).group.mode text
      = .ok (mode, any, after) := hflags
  simp only [readFlagged, hflags', ok_bind]
  exact goOn_inside h

theorem readRepetition_inside {min : Nat} {max : Option Nat}
    (h : r.readRepetition min max text = .ok (r', rest)) :
    (r.inside outer k names).readRepetition min max text = .ok (r'.inside outer k names, rest) := by
  have hrepeat : ∀ {lazily : Bool} {g : OpenGroup}, r.group.repeatLast min max lazily = .ok g →
      (r.inside outer k names).group.repeatLast min max lazily = .ok (g.raise k) := fun hg =>
    (OpenGroup.repeatLast_raise k _ _ _ _).trans (congrArg _ hg)
  unfold readRepetition at h ⊢
  split at h
  all_goals
    obtain ⟨g, hg, h⟩ := bind_eq_ok h
    cases h
    simp only [hrepeat hg]
    rfl

theorem closeGroup_inside (h : r.closeGroup = .ok r') :
    (r.inside outer k names).closeGroup = .ok (r'.inside outer k names) := by
  unfold closeGroup at h
  split at h
  · cases h
  · rename_i g number rest heq
    cases h
    have hwhole : (r.group.raise k).whole = r.group.whole.raise k := OpenGroup.whole_raise k _
    simp only [closeGroup, inside, heq, List.map_cons, List.cons_append, hwhole]
    cases number <;> rfl

theorem names_of_readFlagged (h : r.readFlagged text = .ok (r', rest)) : r'.names = r.names :=
  congrArg Prod.snd (taken_of_readFlagged h)

variable [Engine]

theorem mem_names_of_readNamed (h : r.readNamed text = .ok (r', rest)) :
    ∃ name, readName text = .ok (name, rest) ∧ name ∉ r.names ∧ r'.names = name :: r.names ∧
      r' = { r with names := name :: r.names }.openCapture := by
  obtain ⟨⟨name, after⟩, hname, h⟩ := bind_eq_ok h
  simp only at h
  split at h
  · cases h
  · rename_i hnew
    cases h
    exact ⟨name, hname, by simpa using hnew, rfl, rfl⟩

theorem readNamed_inside (h : r.readNamed text = .ok (r', rest))
    (hnames : r'.names.Disjoint names) :
    (r.inside outer k names).readNamed text = .ok (r'.inside outer k names, rest) := by
  obtain ⟨name, hname, hnew, hadded, rfl⟩ := mem_names_of_readNamed h
  rw [hadded, List.disjoint_cons_left] at hnames
  have hfree : (r.inside outer k names).names.contains name = false := by
    simp [inside, hnew, hnames.1]
  simp only [readNamed, hname, ok_bind, hfree]
  rfl

/-- A name that is taken outside is repeated. -/
theorem readNamed_inside_error (h : r.readNamed text = .ok (r', rest))
    (hr : r.names.Disjoint names) (hclash : ¬ r'.names.Disjoint names) :
    (r.inside outer k names).readNamed text = .error .groupNameRepeated := by
  obtain ⟨name, hname, -, hadded, -⟩ := mem_names_of_readNamed h
  rw [hadded, List.disjoint_cons_left, not_and_or, not_not] at hclash
  have htaken : (r.inside outer k names).names.contains name = true := by
    simp [inside, hclash.resolve_right (not_not.2 hr)]
  simp only [readNamed, hname, ok_bind, htaken]
  rfl

theorem names_of_readNext {c : Char} (hc : c ≠ '(') (h : r.readNext c text = .ok (r', rest)) :
    r'.names = r.names := congrArg Prod.snd (taken_of_readNext hc h)

theorem readGroup_inside (h : r.readGroup text = .ok (r', rest)) :
    (r'.names.Disjoint names →
      (r.inside outer k names).readGroup text = .ok (r'.inside outer k names, rest)) ∧
    (r.names.Disjoint names → ¬ r'.names.Disjoint names →
      (r.inside outer k names).readGroup text = .error .groupNameRepeated) := by
  rcases readGroup_eq_ok h with ⟨hhead, rfl, rfl⟩ | ⟨named, htext, hnamed⟩ | ⟨c, cs, htext, hflags⟩
  · exact ⟨fun _ => readGroup_capture hhead, fun hr hclash => absurd hr hclash⟩
  · have hgroup : (r.inside outer k names).readGroup text
        = (r.inside outer k names).readNamed named := readGroup_named htext
    rw [hgroup]
    exact ⟨readNamed_inside hnamed, readNamed_inside_error hnamed⟩
  · obtain ⟨heq, hbang, hangle, hP⟩ := readFlagged_eq_ok hflags
    have hgroup : (r.inside outer k names).readGroup text
        = (r.inside outer k names).readFlagged (c :: cs) :=
      readGroup_flagged htext heq hbang hangle hP
    rw [hgroup, names_of_readFlagged hflags]
    exact ⟨fun _ => readFlagged_inside hflags, fun hr hclash => absurd hr hclash⟩

/-- A round that takes no name, or one that is free, is the same within more groups. -/
theorem readNext_inside {c : Char} (h : r.readNext c text = .ok (r', rest))
    (hnames : r'.names.Disjoint names) :
    (r.inside outer k names).readNext c text = .ok (r'.inside outer k names, rest) := by
  have hmode : (r.inside outer k names).group.mode = r.group.mode := rfl
  unfold readNext at h ⊢
  simp only [hmode] at h ⊢
  split at h
  · exact (readGroup_inside h).1 hnames
  · obtain ⟨r₁, hclose, h⟩ := bind_eq_ok h
    cases h
    simp only [closeGroup_inside hclose]
    rfl
  · cases h
    have hbar : (r.group.raise k).bar = r.group.bar.raise k := OpenGroup.bar_raise k _
    simp only [inside, hbar]
  · obtain ⟨⟨p, rest'⟩, hclass, h⟩ := bind_eq_ok h
    cases h
    simp only [hclass, ok_bind, push_inside
      (i := ⟨.ofSet (!r.group.mode.unicode) p.chars, p.depth, true⟩) (Node.ofSet_captures _ _)]
    rfl
  · exact readRepetition_inside h
  · exact readRepetition_inside h
  · exact readRepetition_inside h
  · split at h
    · rename_i hitem
      obtain ⟨⟨⟨min, max⟩, rest'⟩, hcounts, h⟩ := bind_eq_ok h
      have hitem' : (r.inside outer k names).group.items.head?.any (·.repeatable) = true := by
        rw [← hitem]
        simp [inside, OpenGroup.raise, Option.any_map, Item.raise]
      simp only [if_pos hitem', hcounts, ok_bind]
      exact readRepetition_inside h
    · cases h
  · obtain ⟨⟨a, rest'⟩, hescape, h⟩ := bind_eq_ok h
    cases h
    simp only [hescape, ok_bind, push_inside (i := ⟨a.node r.group.mode, 0, true⟩)
      (Atom.node_silent _ a)]
    rfl
  · obtain ⟨node, hdot, h⟩ := bind_eq_ok h
    cases h
    simp only [hdot, ok_bind, push_inside (i := ⟨node, 0, true⟩) (Mode.dot_silent hdot)]
    rfl
  · cases h
    rw [push_inside (i := ⟨.look r.group.mode.caret, 0, true⟩) trivial]
  · cases h
    rw [push_inside (i := ⟨.look r.group.mode.dollar, 0, true⟩) trivial]
  · cases h
    rw [push_inside (Mode.literal_silent _ _)]

/-- A round that takes a name taken outside stops there. -/
theorem readNext_inside_error {c : Char} (h : r.readNext c text = .ok (r', rest))
    (hr : r.names.Disjoint names) (hclash : ¬ r'.names.Disjoint names) :
    (r.inside outer k names).readNext c text = .error .groupNameRepeated := by
  by_cases hc : c = '('
  · subst hc
    exact (readGroup_inside h).2 hr hclash
  · rw [names_of_readNext hc h] at hclash
    exact absurd hr hclash

theorem Round.inside (h : Round r text r' rest) (hnames : r'.names.Disjoint names) :
    Round (r.inside outer k names) text (r'.inside outer k names) rest := by
  cases h with
  | mk h => exact .mk (readNext_inside h hnames)

/-- Names that are taken stay taken. -/
theorem Round.names_subset (h : Round r text r' rest) : r.names ⊆ r'.names := by
  cases h with
  | @mk c text rest _ h =>
    by_cases hc : c = '('
    · subst hc
      rcases readGroup_eq_ok h with ⟨-, rfl, -⟩ | ⟨named, -, hnamed⟩ | ⟨c, cs, -, hflags⟩
      · exact List.Subset.refl _
      · obtain ⟨name, -, -, hadded, -⟩ := mem_names_of_readNamed hnamed
        rw [hadded]
        exact List.subset_cons_self _ _
      · rw [names_of_readFlagged hflags]
        exact List.Subset.refl _
    · rw [names_of_readNext hc h]
      exact List.Subset.refl _

theorem Reads.names_subset (h : Reads r text r' rest) : r.names ⊆ r'.names := by
  induction h with
  | refl => exact List.Subset.refl _
  | step h _ ih => exact List.Subset.trans h.names_subset ih

/-- Each name is that of a capture. -/
theorem Round.names_length_le (h : Round r text r' rest) (hr : r.names.length ≤ r.captures) :
    r'.names.length ≤ r'.captures := by
  have hkept : r'.taken = r.taken → r'.names.length ≤ r'.captures := fun htaken => by
    obtain ⟨hcaptures, hnames⟩ := Prod.mk.inj htaken
    rwa [hcaptures, hnames]
  cases h with
  | @mk c text rest _ h =>
    by_cases hc : c = '('
    · subst hc
      rcases readGroup_eq_ok h with ⟨-, rfl, -⟩ | ⟨named, -, hnamed⟩ | ⟨c, cs, -, hflags⟩
      · exact hr.trans (Nat.le_succ _)
      · obtain ⟨name, -, -, -, rfl⟩ := mem_names_of_readNamed hnamed
        exact Nat.succ_le_succ hr
      · exact hkept (taken_of_readFlagged hflags)
    · exact hkept (taken_of_readNext hc h)

theorem Reads.names_length_le (h : Reads r text r' rest) (hr : r.names.length ≤ r.captures) :
    r'.names.length ≤ r'.captures := by
  induction h with
  | refl => exact hr
  | step h _ ih => exact ih (h.names_length_le hr)

/-- A text that takes no name taken outside is read within more groups as it is by itself. -/
theorem Reads.inside (h : Reads r text r' rest) (hnames : r'.names.Disjoint names)
    (outer : List (OpenGroup × Option Nat)) (k : Nat) :
    Reads (r.inside outer k names) text (r'.inside outer k names) rest := by
  induction h with
  | refl => exact .refl _ _
  | step h hrest ih =>
    exact .step (h.inside (List.disjoint_of_subset_left hrest.names_subset hnames)) (ih hnames)

theorem Stops.of_reads {r₁ : Reading} {text₁ : List Char} {fault : Fault}
    (h : Reads r text r₁ text₁) (hstops : r₁.Stops text₁ fault) : r.Stops text fault := by
  obtain ⟨r', c, rest, hreads, hfault⟩ := hstops
  exact ⟨r', c, rest, h.trans hreads, hfault⟩

/-- A text that takes a name taken outside is read up to there. -/
theorem Reads.stops_inside (h : Reads r text r' rest) (hr : r.names.Disjoint names)
    (hclash : ¬ r'.names.Disjoint names) (outer : List (OpenGroup × Option Nat)) (k : Nat) :
    (r.inside outer k names).Stops text .groupNameRepeated := by
  induction h with
  | refl => exact absurd hr hclash
  | @step r r₁ r' text text₁ _ hround hrest ih =>
    by_cases hr₁ : r₁.names.Disjoint names
    · exact .of_reads (.step (hround.inside hr₁) (.refl _ _)) (ih hr₁ hclash)
    · obtain ⟨c, cs, rest, rfl, hnext, -⟩ := round_iff.1 hround
      exact ⟨_, c, cs, .refl _ _, readNext_inside_error hnext hr hr₁⟩

end Inside

/-! ## What comes of a text -/

section Text

variable [Engine] {r r' : Reading} {text : List Char} {m : Mode}

/-- The reading at the end of a text that is at no fault before. -/
def endOf? (m : Mode) (text : List Char) : Option Reading :=
  (readFrom (.start m) (text.length + 1) text).toOption

theorem endOf?_eq_some_iff : endOf? m text = some r ↔ Reads (.start m) (m.skip text) r [] := by
  have hread : readFrom (.start m) (text.length + 1) text = .ok r
      ↔ Reads (.start m) (m.skip text) r [] := readFrom_eq_ok_iff (Nat.lt_succ_self _)
  rw [← hread, endOf?]
  cases readFrom (.start m) (text.length + 1) text <;> simp [Except.toOption]

theorem readFrom_of_stops {fault : Fault} :
    ∀ {rounds : Nat} {r : Reading} {text : List Char}, text.length < rounds →
      r.Stops (r.group.mode.skip text) fault → r.readFrom rounds text = .error fault
  | 0, _, _, h, _ => by omega
  | rounds + 1, r, text, hlen, ⟨r', c, rest, hreads, hfault⟩ => by
    have hskip := (r.group.mode.skip_suffix text).length_le
    rw [readFrom]
    generalize r.group.mode.skip text = text' at hskip hreads
    cases hreads with
    | refl =>
      simp only [hfault]
      rfl
    | step h hreads =>
      cases h with
      | @mk d text' rest' r₁ hnext =>
        have hrest := (readNext_append hnext).1.length_le
        rw [List.length_cons] at hskip
        simp only [hnext, ok_bind]
        exact readFrom_of_stops (by omega) ⟨r', c, rest, hreads, hfault⟩

theorem ofText_of_stops {fault : Fault} (h : Stops (.start m) (m.skip text) fault) :
    Node.ofText m text = .error fault := by
  have hread : readFrom (.start m) (text.length + 1) text = .error fault :=
    readFrom_of_stops (Nat.lt_succ_self _) h
  change readFrom (.start m) _ _ >>= _ = _
  rw [hread]
  rfl

/-- What comes of a text that is read to its end. -/
theorem ofText_of_reads (h : Reads (.start m) (m.skip text) r []) : Node.ofText m text =
    if r.outer ≠ [] then .error .groupUnclosed
    else if depthLimit < r.group.whole.depth then .error .nestedTooDeep
    else if Engine.fits r.group.whole.node then .ok r.group.whole.node else .error .tooLarge := by
  have hread : readFrom (.start m) (text.length + 1) text = .ok r :=
    (readFrom_eq_ok_iff (Nat.lt_succ_self _)).2 h
  change readFrom (.start m) _ _ >>= _ = _
  rw [hread, ok_bind]
  split
  · rfl
  · simp only
    split <;> rfl

/-- A text that stands for a node is within the limits. -/
theorem limits_of_ofText {n : Node} (hreads : Reads (.start m) (m.skip text) r [])
    (h : Node.ofText m text = .ok n) :
    r.group.whole.depth ≤ depthLimit ∧ Engine.fits r.group.whole.node = true ∧
      r.group.whole.node = n := by
  rw [ofText_of_reads hreads] at h
  split at h
  · cases h
  · split at h
    · cases h
    · rename_i hdepth
      split at h
      · rename_i hfits
        exact ⟨Nat.not_lt.1 hdepth, hfits, Except.ok.inj h⟩
      · cases h

end Text

end Reading

end ModalLex.Pattern
