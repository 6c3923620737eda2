import ModalLex.Proofs.Rounds

/-!
# Where a text ends

A round that comes to the end of its text goes on in the text that is put after it. Before that it
skips what does not count: it leaves what counts of the text after, or, if the end stands in a
comment, what counts of it after the comment. Only an end in a comment right after a count of
repetitions can change what the round makes, as a question mark may follow (`Round.ending`).
-/

namespace ModalLex.Pattern

/-- Where the reader leaves nothing, it leaves what is put after, perhaps without what does not
count. -/
def Reader.Ends {α : Type} (m : Mode) (f : Reader α) : Prop :=
  ∀ ⦃text : List Char⦄ ⦃a : α⦄, f text = .ok (a, []) → ∃ hidden, m.skip hidden = [] ∧
    ∀ more : List Char, more.head? ≠ some '\x7b' → ∃ rest, f (text ++ more) = .ok (a, rest) ∧
      m.skip rest = m.skip (hidden ++ more)

section Escapes

variable {m : Mode}

theorem Reader.Ends.map {α β : Type} {f : Reader α} (hf : f.Ends m) (g : α → β) :
    Reader.Ends m fun text => do return (← f text).map g id := by
  intro text b h
  obtain ⟨⟨a, rest⟩, hfa, h⟩ := bind_eq_ok h
  cases h
  obtain ⟨hidden, hhidden, hmore⟩ := hf hfa
  refine ⟨hidden, hhidden, fun more hne => ?_⟩
  obtain ⟨rest', hrest, hskip⟩ := hmore more hne
  refine ⟨rest', ?_, hskip⟩
  simp only [hrest, ok_bind]
  rfl

variable (m)

theorem readHexDigits_ends : ∀ n value : Nat, (readHexDigits m n value).Ends m
  | 0, _, _, _, h => by
    cases h
    exact ⟨[], m.skip_nil, fun more _ => ⟨more, rfl, rfl⟩⟩
  | _ + 1, _, [], _, h => by cases h
  | n + 1, value, c :: cs, _, h => by
    simp only [readHexDigits] at h
    split at h
    · cases h
    · rename_i d hd
      by_cases hcs : m.skip cs = []
      · rw [hcs] at h
        cases n with
        | succ => cases h
        | zero =>
          cases h
          refine ⟨cs, hcs, fun more _ => ⟨m.skip (cs ++ more), ?_, m.skip_skip _⟩⟩
          simp only [List.cons_append, readHexDigits, hd]
      · obtain ⟨hidden, hhidden, hmore⟩ := readHexDigits_ends n _ h
        refine ⟨hidden, hhidden, fun more hne => ?_⟩
        obtain ⟨rest, hrest, hskip⟩ := hmore more hne
        refine ⟨rest, ?_, hskip⟩
        simp only [List.cons_append, readHexDigits, hd, Mode.skip_append hcs, hrest]

theorem readHex_ends (digits : Nat) : (readHex m digits).Ends m := by
  intro text a h
  rcases htext : m.skip text with _ | ⟨c, cs⟩
  · simp only [readHex, htext] at h
    cases h
  have happend : ∀ more, m.skip (text ++ more) = c :: (cs ++ more) :=
    fun _ => Mode.skip_append_of_cons htext
  by_cases hc : c = '\x7b'
  · subst hc
    rcases hg : m.gather (· ≠ '\x7d') (m.skip cs) with ⟨_ | ⟨w, word⟩, _ | ⟨last, tail⟩⟩
    case cons.cons =>
      simp only [readHex, htext, hg] at h
      obtain ⟨values, hvalues, h⟩ := bind_eq_ok h
      obtain ⟨char, hchar, h⟩ := bind_eq_ok h
      obtain ⟨rfl, htail⟩ := Prod.mk.inj (Except.ok.inj h)
      have hbody := (Mode.gather_suffix hg).ne_nil (by simp)
      refine ⟨tail, htail, fun more _ => ⟨m.skip (tail ++ more), ?_, m.skip_skip _⟩⟩
      simp only [readHex, happend, Mode.skip_append hbody, Mode.gather_append hg (by simp),
        List.cons_append, hvalues, ok_bind, hchar]
      rfl
    all_goals
      simp only [readHex, htext, hg] at h
      cases h
  · rw [readHex_of_ne m htext hc] at h
    obtain ⟨⟨value, rest'⟩, hdigits, h⟩ := bind_eq_ok h
    simp only at h
    split at h
    · cases h
    · rename_i hvalue
      obtain ⟨char, hchar, h⟩ := bind_eq_ok h
      cases h
      obtain ⟨hidden, hhidden, hmore⟩ := readHexDigits_ends m digits 0 hdigits
      refine ⟨hidden, hhidden, fun more hne => ?_⟩
      obtain ⟨rest, hrest, hskip⟩ := hmore more hne
      refine ⟨rest, ?_, hskip⟩
      rw [readHex_of_ne m (happend more) hc, ← List.cons_append, hrest, ok_bind]
      simp only [if_neg hvalue, hchar, ok_bind]
      rfl

theorem readPropertyWord_ends : (readPropertyWord m).Ends m := by
  intro text a h
  rcases htext : m.skip text with _ | ⟨c, cs⟩
  · simp only [readPropertyWord, htext] at h
    cases h
  have happend : ∀ more, m.skip (text ++ more) = c :: (cs ++ more) :=
    fun _ => Mode.skip_append_of_cons htext
  by_cases hslash : c = '\\'
  · subst hslash
    simp only [readPropertyWord, htext] at h
    cases h
  by_cases hc : c = '\x7b'
  · subst hc
    rcases hg : m.gather (· ≠ '\x7d') (m.skip cs) with ⟨word, _ | ⟨last, tail⟩⟩
    · simp only [readPropertyWord, htext, hg] at h
      cases h
    · simp only [readPropertyWord, htext, hg] at h
      cases h
      have hbody := (Mode.gather_suffix hg).ne_nil (by simp)
      refine ⟨[], m.skip_nil, fun more _ => ⟨more, ?_, rfl⟩⟩
      simp only [readPropertyWord, happend, Mode.skip_append hbody, Mode.gather_append hg (by simp),
        List.cons_append, List.nil_append]
  · have hread : ∀ {text cs : List Char}, m.skip text = c :: cs →
        readPropertyWord m text = .ok ([c], m.skip cs) := fun h => by
      simp only [readPropertyWord, h]
    rw [hread htext] at h
    obtain ⟨rfl, hcs⟩ := Prod.mk.inj (Except.ok.inj h)
    exact ⟨cs, hcs, fun more _ => ⟨m.skip (cs ++ more), hread (happend more), m.skip_skip _⟩⟩

variable [Engine]

theorem readProperty_ends (negated : Bool) : (readProperty m negated).Ends m := by
  intro text a h
  obtain ⟨⟨word, rest'⟩, hword, h⟩ := bind_eq_ok h
  simp only at h
  split at h
  · cases h
  · rename_i hu
    split at h
    · cases h
    · rename_i chars hchars
      obtain ⟨set, hset, h⟩ := bind_eq_ok h
      cases h
      obtain ⟨hidden, hhidden, hmore⟩ := readPropertyWord_ends m hword
      refine ⟨hidden, hhidden, fun more hne => ?_⟩
      obtain ⟨rest, hrest, hskip⟩ := hmore more hne
      refine ⟨rest, ?_, hskip⟩
      simp only [readProperty, hrest, ok_bind, if_neg hu, hchars, hset]
      rfl

theorem readBoundary_ends : (readBoundary m).Ends m := by
  intro text a h
  by_cases hbrace : text.head? = some '\x7b'
  · obtain ⟨cs, rfl⟩ : ∃ cs, text = '\x7b' :: cs := List.head?_eq_some_iff.1 hbrace
    rcases hg : m.gather (fun c => c.isAlpha || c = '-') (m.skip cs) with ⟨name, after⟩
    rcases readBoundary_brace m hg h with ⟨-, -, hnil, -⟩ | ⟨rfl, hread⟩
    · cases hnil
    · refine ⟨[], m.skip_nil, fun more _ => ⟨more, hread (cs ++ more) more ?_, rfl⟩⟩
      rw [Mode.skip_append ((Mode.gather_suffix hg).ne_nil (by simp)),
        Mode.gather_append hg (by simp)]
      rfl
  · rw [readBoundary_of_ne m hbrace] at h
    cases h
    exact ⟨[], m.skip_nil, fun more hne => ⟨more, readBoundary_of_ne m hne, rfl⟩⟩

variable {m} in
theorem EscapeReader.ends {f : Reader Atom} (h : EscapeReader m f) : f.Ends m := by
  cases h with
  | keep a =>
    intro text a h
    cases h
    exact ⟨[], m.skip_nil, fun more _ => ⟨more, rfl, rfl⟩⟩
  | hex digits => exact (readHex_ends m digits).map Atom.char
  | property negated => exact (readProperty_ends m negated).map Atom.set
  | boundary => exact readBoundary_ends m

theorem readEscape_ends : (readEscape m).Ends m := by
  intro text a h
  rcases text with _ | ⟨c, cs⟩
  · cases h
  obtain ⟨f, hf, heq⟩ := exists_escapeReader m h
  obtain ⟨hidden, hhidden, hmore⟩ := hf.ends (heq cs ▸ h)
  refine ⟨hidden, hhidden, fun more hne => ?_⟩
  rw [List.cons_append, heq]
  exact hmore more hne

end Escapes

namespace Reading

section Ending

variable {r r' : Reading} {c : Char} {text : List Char}

theorem mode_of_readRepetition {min : Nat} {max : Option Nat} {rest : List Char}
    (h : r.readRepetition min max text = .ok (r', rest)) : r'.group.mode = r.group.mode := by
  have hrepeat : ∀ {lazily : Bool} {g : OpenGroup}, r.group.repeatLast min max lazily = .ok g →
      g.mode = r.group.mode := fun {lazily g} hg => by
    unfold OpenGroup.repeatLast at hg
    split at hg
    · split at hg
      · cases hg
        rfl
      · cases hg
    · cases hg
  unfold readRepetition at h
  split at h
  all_goals
    obtain ⟨g, hg, h⟩ := bind_eq_ok h
    cases h
    exact hrepeat hg

theorem readRepetition_ends {min : Nat} {max : Option Nat} {more : List Char}
    (h : r.readRepetition min max text = .ok (r', [])) (hq : more.head? ≠ some '?') :
    r.readRepetition min max (text ++ more) = .ok (r', more) := by
  by_cases hhead : text.head? = some '?'
  · obtain ⟨tail, rfl⟩ := List.head?_eq_some_iff.1 hhead
    obtain ⟨g, hg, h⟩ := bind_eq_ok h
    cases h
    simp only [List.cons_append, readRepetition, hg, ok_bind]
    rfl
  · rw [readRepetition_of_ne hhead] at h
    obtain ⟨g, hg, h⟩ := bind_eq_ok h
    cases h
    rw [List.nil_append, readRepetition_of_ne hq, hg]
    rfl

/-- What can be repeated can be repeated lazily too. -/
theorem readRepetition_of_ends {min : Nat} {max : Option Nat}
    (h : r.readRepetition min max [] = .ok (r', [])) (text : List Char) :
    ∃ r₁ rest, r.readRepetition min max text = .ok (r₁, rest) ∧
      (text.head? ≠ some '?' → r₁ = r' ∧ rest = text) := by
  by_cases hhead : text.head? = some '?'
  · obtain ⟨tail, rfl⟩ := List.head?_eq_some_iff.1 hhead
    obtain ⟨g, hg, -⟩ := bind_eq_ok h
    have hlazily : ∃ g, r.group.repeatLast min max true = .ok g := by
      unfold OpenGroup.repeatLast at hg ⊢
      split at hg
      · split at hg
        · rename_i hitem
          rw [if_pos hitem]
          exact ⟨_, rfl⟩
        · cases hg
      · cases hg
    obtain ⟨g', hg'⟩ := hlazily
    refine ⟨{ r with group := g' }, tail, ?_, fun hne => absurd hhead hne⟩
    simp only [readRepetition, hg', ok_bind]
    rfl
  · exact ⟨r', text, readRepetition_ends h hhead, fun _ => ⟨rfl, rfl⟩⟩

variable [Engine]

/-- A round that comes to the end of its text reads on in what is put after: it makes the same, and
leaves what counts after a text that does not count; or it has read a count of repetitions, and a
question mark may follow. -/
theorem readNext_ending {rest : List Char} (h : r.readNext c text = .ok (r', rest))
    (hrest : r'.group.mode.skip rest = []) (houter : r'.outer.length ≤ r.outer.length) :
    (∃ hidden, r'.group.mode.skip hidden = [] ∧ ∀ more : List Char, more.head? ≠ some '?' →
      more.head? ≠ some '\x7b' → ∃ rest, r.readNext c (text ++ more) = .ok (r', rest) ∧
        r'.group.mode.skip rest = r'.group.mode.skip (hidden ++ more)) ∨
      ∃ min max counted, r.group.mode.skip counted = [] ∧
        r.readRepetition min max [] = .ok (r', []) ∧ ∀ more, r.readNext c (text ++ more)
          = r.readRepetition min max (r.group.mode.skip (counted ++ more)) := by
  have hexact : ∀ {rest : List Char}, r'.group.mode.skip rest = [] →
      (∀ more : List Char, more.head? ≠ some '?' →
        r.readNext c (text ++ more) = .ok (r', rest ++ more)) →
      ∃ hidden, r'.group.mode.skip hidden = [] ∧ ∀ more : List Char, more.head? ≠ some '?' →
        more.head? ≠ some '\x7b' → ∃ rest, r.readNext c (text ++ more) = .ok (r', rest) ∧
          r'.group.mode.skip rest = r'.group.mode.skip (hidden ++ more) :=
    fun {rest} hrest heq => ⟨rest, hrest, fun more hq _ => ⟨rest ++ more, heq more hq, rfl⟩⟩
  by_cases hne : rest = []
  case neg => exact .inl (hexact hrest fun more _ => (readNext_append h).2 hne more)
  subst hne
  unfold readNext at h
  simp only at h
  split at h
  · exact .inl (hexact hrest fun more _ => (readGroup_append h).2 (.inr houter) more)
  · obtain ⟨r₁, hclose, h⟩ := bind_eq_ok h
    cases h
    refine .inl (hexact hrest fun more _ => ?_)
    simp only [readNext, hclose]
    rfl
  · cases h
    exact .inl (hexact hrest fun _ _ => rfl)
  · obtain ⟨⟨p, rest'⟩, hclass, h⟩ := bind_eq_ok h
    cases h
    refine .inl (hexact hrest fun more _ => ?_)
    simp only [readNext, (readClass_append _ hclass).2 more]
    rfl
  iterate 3 exact .inl (hexact hrest fun _ hq => readRepetition_ends h hq)
  · split at h
    · rename_i hitem
      obtain ⟨⟨⟨min, max⟩, counted⟩, hcounts, h⟩ := bind_eq_ok h
      have hnext : ∀ more, r.readNext '\x7b' (text ++ more)
          = r.readRepetition min max (r.group.mode.skip (counted ++ more)) := fun more => by
        simp only [readNext, if_pos hitem, (readCounts_append _ hcounts).2 more, ok_bind]
      by_cases hcounted : r.group.mode.skip counted = []
      · simp only [hcounted] at h
        exact .inr ⟨min, max, counted, hcounted, h, hnext⟩
      · refine .inl (hexact hrest fun more hq => ?_)
        rw [hnext, Mode.skip_append hcounted]
        exact readRepetition_ends h hq
    · cases h
  · obtain ⟨⟨a, rest'⟩, hescape, h⟩ := bind_eq_ok h
    cases h
    obtain ⟨hidden, hhidden, hmore⟩ := readEscape_ends _ hescape
    refine .inl ⟨hidden, hhidden, fun more _ hb => ?_⟩
    obtain ⟨rest, hread, hskip⟩ := hmore more hb
    refine ⟨rest, ?_, hskip⟩
    simp only [readNext, hread]
    rfl
  · obtain ⟨node, hdot, h⟩ := bind_eq_ok h
    cases h
    refine .inl (hexact hrest fun more _ => ?_)
    simp only [readNext, hdot]
    rfl
  iterate 2
    cases h
    exact .inl (hexact hrest fun _ _ => rfl)
  · cases h
    refine .inl (hexact hrest fun more _ => ?_)
    simp only [readNext]

/-- A round that comes to the end of its text goes on in what is put after it. Unless a question
mark counts there next, it makes the same. Only where white space does not count does the text end
in a comment. -/
theorem Round.ending (h : Round r text r' []) (houter : r'.outer.length ≤ r.outer.length) :
    ∃ comment, (comment = true → r'.group.mode.ignoreWhitespace = true) ∧
      ∀ more : List Char, more.head? ≠ some '?' → more.head? ≠ some '\x7b' →
      ∃ r₁ text₁, Round r (text ++ more) r₁ text₁ ∧
        text₁.length ≤ (r'.group.mode.skipAfter comment more).length ∧
        ((r'.group.mode.skipAfter comment more).head? ≠ some '?' →
          r₁ = r' ∧ text₁ = r'.group.mode.skipAfter comment more) := by
  obtain ⟨c, cs, rest, rfl, hnext, hrest⟩ := round_iff.1 h
  rcases readNext_ending hnext hrest.symm houter with
    ⟨hidden, hhidden, hread⟩ | ⟨min, max, counted, hcounted, hrepeat, hread⟩
  · obtain ⟨comment, hcomment, hskip⟩ := Mode.skip_append_of_nil hhidden
    refine ⟨comment, hcomment, fun more hq hb => ?_⟩
    obtain ⟨rest', hread, hrest'⟩ := hread more hq hb
    have hround : Round r (c :: cs ++ more) r' (r'.group.mode.skip rest') := .mk hread
    rw [hrest', hskip] at hround
    exact ⟨r', _, hround, Nat.le_refl _, fun _ => ⟨rfl, rfl⟩⟩
  · have hmode := mode_of_readRepetition hrepeat
    rw [← hmode] at hcounted hread
    obtain ⟨comment, hcomment, hskip⟩ := Mode.skip_append_of_nil hcounted
    refine ⟨comment, hcomment, fun more _ _ => ?_⟩
    obtain ⟨r₁, rest₁, hread₁, hsame⟩ :=
      readRepetition_of_ends hrepeat (r'.group.mode.skip (counted ++ more))
    have hs := (readRepetition_extends min max hread₁).1.length_le
    have hs' := (Mode.skip_suffix r₁.group.mode rest₁).length_le
    rw [← hskip]
    refine ⟨r₁, _, .mk ((hread more).trans hread₁), hs'.trans hs, fun hhead => ?_⟩
    obtain ⟨rfl, rfl⟩ := hsame hhead
    exact ⟨rfl, Mode.skip_skip _ _⟩

/-- A text that is read to its end is so in a last round. -/
theorem Reads.last_round {e : Reading} (h : Reads r text e []) (hne : text ≠ []) :
    ∃ r₀ text₀, Reads r text r₀ text₀ ∧ Round r₀ text₀ e [] := by
  generalize hnil : [] = text' at h
  induction h with
  | refl => exact absurd hnil.symm hne
  | @step r r₁ e text text₁ _ hround hreads ih =>
    subst hnil
    by_cases hne₁ : text₁ = []
    · subst hne₁
      cases hreads with
      | refl => exact ⟨r, text, .refl _ _, hround⟩
      | step h => cases h
    · obtain ⟨r₀, text₀, hfirst, hlast⟩ := ih hne₁ rfl
      exact ⟨r₀, text₀, .step hround hfirst, hlast⟩

/-- The reading at the end of a text is the one before what counts of the text that is put after. -/
theorem Reads.ending {m : Mode} {e : Reading} (h : Reads (.start m) (m.skip text) e [])
    (houter : e.outer = []) :
    ∃ comment, (comment = true → e.group.mode.ignoreWhitespace = true) ∧
      ∀ more : List Char, more.head? ≠ some '?' → more.head? ≠ some '\x7b' →
        (e.group.mode.skipAfter comment more).head? ≠ some '?' →
        Reads (.start m) (m.skip (text ++ more)) e (e.group.mode.skipAfter comment more) := by
  by_cases hnil : m.skip text = []
  · rw [hnil] at h
    cases h with
    | refl =>
      obtain ⟨comment, hcomment, hskip⟩ := Mode.skip_append_of_nil hnil
      refine ⟨comment, hcomment, fun more _ _ _ => ?_⟩
      rw [hskip more]
      exact .refl _ _
    | step h => cases h
  · obtain ⟨r₀, text₀, hreads, hlast⟩ := h.last_round hnil
    obtain ⟨comment, hcomment, hending⟩ := hlast.ending (by simp [houter])
    refine ⟨comment, hcomment, fun more hq hb hhead => ?_⟩
    obtain ⟨r₁, text₁, hround, -, hsame⟩ := hending more hq hb
    obtain ⟨rfl, rfl⟩ := hsame hhead
    rw [Mode.skip_append hnil]
    exact (hreads.append hlast.ne_nil more).trans (.step hround (.refl _ _))

end Ending

end Reading

end ModalLex.Pattern
