import ModalLex.Proofs.Pasting

/-!
# Patterns in their groups

A pattern that is well formed by itself can end in a comment, and then the parenthesis that should
close its group is hidden (`Hides`). Otherwise the pattern stays in its group (`Encloses`), and it
takes the same names there (`encloses_or_hides`). Where white space does not count, a newline comes
before the parenthesis and ends the comment. It is blank itself, or an item of the group if flags
within the pattern make white space count (`reads_separator`).
-/

namespace ModalLex

open Pattern Pattern.Reading

namespace Pattern

theorem Mode.skipBlanks_of_newline_not_mem :
    ∀ {text : List Char}, '\n' ∉ text → Mode.skipBlanks true text = []
  | [], _ => rfl
  | c :: cs, h => by
    obtain ⟨hc, hcs⟩ := not_or.1 (List.mem_cons.not.1 h)
    simp only [Mode.skipBlanks, if_true, decide_eq_true (Ne.symm hc)]
    exact skipBlanks_of_newline_not_mem hcs

variable [Engine]

/-- The group after a newline, which is an item unless white space does not count. -/
def OpenGroup.afterNewline (g : OpenGroup) : OpenGroup :=
  if g.mode.ignoreWhitespace then g else g.push ⟨g.mode.literal '\n', 0, true⟩

def Reading.afterNewline (r : Reading) : Reading := { r with group := r.group.afterNewline }

theorem OpenGroup.afterNewline_of_ignoreWhitespace {g : OpenGroup}
    (h : g.mode.ignoreWhitespace = true) : g.afterNewline = g := if_pos h

/-- A newline captures nothing. -/
theorem OpenGroup.afterNewline_captures {P : Nat → Prop} {g : OpenGroup} (h : g.Captures P) :
    g.afterNewline.Captures P := by
  unfold afterNewline
  split
  · exact h
  · exact push_captures h ((Mode.literal_silent _ _).mono fun _ => False.elim)

end Pattern

/-- In its group the pattern is read up to the parenthesis that closes it. There no group is
open. -/
def Encloses [Engine] (flags : Flags) (pattern : String) (e : Reading) : Prop :=
  Reads (.start flags.mode) (flags.mode.skip (pattern.toList ++ closing flags)) e [')'] ∧
    e.outer = []

/-- The last round that the pattern is read in goes on, within a comment, in what comes after the
pattern: up to the next newline nothing of it counts. -/
def Hides [Engine] (flags : Flags) (pattern : String) (e : Reading) : Prop :=
  closing flags = [')'] ∧ ∃ r text,
    Reads (.start flags.mode) (flags.mode.skip pattern.toList) r text ∧ text ≠ [] ∧
    flags.mode.skip pattern.toList ≠ [] ∧
    ∀ more : List Char, more.head? = some ')' → ∃ r' text', Round r (text ++ more) r' text' ∧
      text'.length ≤ (Mode.skipBlanks true more).length ∧
      ((Mode.skipBlanks true more).head? ≠ some '?' → r' = e ∧ text' = Mode.skipBlanks true more)

section Alone

variable [Engine] {flags : Flags} {pattern : String} {e own : Reading}

theorem Encloses.skip_append (h : Encloses flags pattern e) (more : List Char) :
    flags.mode.skip (pattern.toList ++ closing flags ++ more)
      = flags.mode.skip (pattern.toList ++ closing flags) ++ more := by
  refine Mode.skip_append fun hnil => ?_
  have hreads := h.1
  rw [hnil] at hreads
  cases hreads with
  | step h => cases h

/-- A pattern that stays in its group does not begin with a question mark. -/
theorem Encloses.head?_ne_question (h : Encloses flags pattern e) (more : List Char) :
    (flags.mode.skip (pattern.toList ++ closing flags ++ more)).head? ≠ some '?' := by
  rw [h.skip_append]
  exact (h.1.append (List.cons_ne_nil _ _) more).head?_ne_question (by simp)

theorem Encloses.unique (h : Encloses flags pattern e) (h' : Encloses flags pattern own) :
    e = own := h.1.unique h'.1

/-- The last round of the pattern goes on past its end. -/
theorem Hides.reads_past (h : Hides flags pattern e) {more : List Char}
    (hhead : more.head? = some ')') :
    ∃ r text r' text', Reads (.start flags.mode) (flags.mode.skip (pattern.toList ++ more)) r
        (text ++ more) ∧ Round r (text ++ more) r' text' ∧
      text'.length ≤ (Mode.skipBlanks true more).length ∧
      ((Mode.skipBlanks true more).head? ≠ some '?' →
        r' = e ∧ text' = Mode.skipBlanks true more) := by
  obtain ⟨-, r, text, hreads, hne, hcounts, hlast⟩ := h
  obtain ⟨r', text', hlast⟩ := hlast more hhead
  rw [Mode.skip_append hcounts]
  exact ⟨r, text, r', text', hreads.append hne more, hlast⟩

/-- Nothing of a text without newline counts after the pattern. -/
theorem Hides.reads (h : Hides flags pattern e) {text : List Char} (hnewline : '\n' ∉ text)
    (hhead : text.head? = some ')') :
    Reads (.start flags.mode) (flags.mode.skip (pattern.toList ++ text)) e [] := by
  obtain ⟨r, _, r', text', hreads, hround, -, hsame⟩ := h.reads_past hhead
  rw [Mode.skipBlanks_of_newline_not_mem hnewline] at hsame
  obtain ⟨rfl, rfl⟩ := hsame (by simp)
  exact hreads.trans (.step hround (.refl _ _))

theorem Hides.head?_ne_question (h : Hides flags pattern e) (more : List Char) :
    (flags.mode.skip (pattern.toList ++ more)).head? ≠ some '?' := by
  have hhead := (h.reads (by decide) (show [')'].head? = some ')' from rfl)).head?_ne_question
    (by simp)
  obtain ⟨-, _, _, -, -, hcounts, -⟩ := h
  rw [Mode.skip_append hcounts, List.head?_append_of_ne_nil _ hcounts] at hhead ⊢
  exact hhead

/-- A parenthesis that is hidden does not close the group. -/
theorem Hides.not_encloses (h : Hides flags pattern own) : ¬ Encloses flags pattern e := by
  rintro ⟨hreads, houter⟩
  rw [h.1] at hreads
  cases hreads.of_length_le (h.reads (by decide) rfl) (Nat.zero_le _) with
  | step hround =>
    obtain ⟨c, cs, rest, heq, hnext, -⟩ := round_iff.1 hround
    cases heq
    obtain ⟨r, hclose, -⟩ := bind_eq_ok hnext
    rw [closeGroup, houter] at hclose
    cases hclose

/-- Where white space does not count, a pattern that is well formed by itself stays in its group.
The newline after it is read there as it is by itself. -/
theorem reads_separator (hx : flags.ignoreWhitespace = true)
    (h : Reads (.start flags.mode) (flags.mode.skip pattern.toList) own [])
    (houter : own.outer = []) :
    Encloses flags pattern own.afterNewline ∧ Reads (.start flags.mode)
      (flags.mode.skip (pattern.toList ++ ['\n'])) own.afterNewline [] := by
  obtain ⟨comment, hcomment, hending⟩ := h.ending houter
  have hgroup := hending ['\n', ')'] (by decide) (by decide)
  have halone := hending ['\n'] (by decide) (by decide)
  have hclosing : closing flags = ['\n', ')'] := if_pos hx
  rw [Encloses, hclosing]
  by_cases hblank : own.group.mode.ignoreWhitespace = true
  · have hsame : own.afterNewline = own := by
      rw [afterNewline, OpenGroup.afterNewline_of_ignoreWhitespace hblank]
    have hskip : own.group.mode.skipAfter comment ['\n', ')'] = [')'] ∧
        own.group.mode.skipAfter comment ['\n'] = [] := by
      cases comment with
      | true => exact ⟨rfl, rfl⟩
      | false =>
        simp only [Mode.skipAfter, Mode.skip, hblank]
        decide
    rw [hskip.1] at hgroup
    rw [hskip.2] at halone
    rw [hsame]
    exact ⟨⟨hgroup (by decide), houter⟩, halone (by decide)⟩
  · obtain rfl : comment = false := Bool.eq_false_iff.2 fun h => hblank (hcomment h)
    have hskip : ∀ text, own.group.mode.skipAfter false text = text := fun text => by
      simp [Mode.skipAfter, Mode.skip, hblank]
    rw [hskip] at hgroup halone
    have hpush : own.afterNewline = own.push ⟨own.group.mode.literal '\n', 0, true⟩ := by
      rw [afterNewline, OpenGroup.afterNewline, if_neg hblank]
      rfl
    have hnewline : ∀ text, Round own ('\n' :: text) own.afterNewline text := fun text => by
      rw [hpush]
      refine round_of_readNext rfl ?_
      exact hskip text
    exact ⟨⟨(hgroup (by decide)).trans (.step (hnewline [')']) (.refl _ _)), houter⟩,
      (halone (by decide)).trans (.step (hnewline []) (.refl _ _))⟩

/-- A pattern that is well formed by itself stays in its group, with the names that it takes, or
hides the parenthesis that closes it. -/
theorem encloses_or_hides
    (h : Reads (.start flags.mode) (flags.mode.skip pattern.toList) own [])
    (houter : own.outer = []) :
    (∃ e, Encloses flags pattern e ∧ e.names = own.names) ∨ Hides flags pattern own := by
  by_cases hx : flags.ignoreWhitespace = true
  · exact .inl ⟨_, (reads_separator hx h houter).1, rfl⟩
  have hclosing : closing flags = [')'] := if_neg hx
  have hstays : Reads (.start flags.mode) (flags.mode.skip (pattern.toList ++ [')'])) own [')'] →
      ∃ e, Encloses flags pattern e ∧ e.names = own.names := fun hreads =>
    ⟨own, ⟨hclosing ▸ hreads, houter⟩, rfl⟩
  by_cases hnil : flags.mode.skip pattern.toList = []
  · refine .inl (hstays ?_)
    have hempty : pattern.toList = [] := by
      rwa [Mode.skip, if_neg (show ¬ flags.mode.ignoreWhitespace = true from hx)] at hnil
    rw [hnil] at h
    rw [hempty, List.nil_append, Mode.skip_of_counts (by decide) (by decide)]
    cases h with
    | refl => exact .refl _ _
    | step h => cases h
  obtain ⟨r, text, hreads, hlast⟩ := h.last_round hnil
  obtain ⟨comment, -, hending⟩ := hlast.ending (by simp [houter])
  cases comment with
  | true =>
    refine .inr ⟨hclosing, r, text, hreads, hlast.ne_nil, hnil, fun more hhead => ?_⟩
    obtain ⟨r', text', hround, hlength, hsame⟩ := hending more (by simp [hhead]) (by simp [hhead])
    exact ⟨r', text', hround, hlength, hsame⟩
  | false =>
    have hskip : own.group.mode.skipAfter false [')'] = [')'] :=
      Mode.skip_of_counts (by decide) (by decide) []
    obtain ⟨r', text', hround, -, hsame⟩ := hending [')'] (by decide) (by decide)
    rw [hskip] at hsame
    obtain ⟨rfl, rfl⟩ := hsame (by decide)
    refine .inl (hstays ?_)
    rw [Mode.skip_append hnil]
    exact (hreads.append hlast.ne_nil [')']).trans (.step hround (.refl _ _))

end Alone

end ModalLex
