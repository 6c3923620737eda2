import ModalLex.Proofs.Blanks
import ModalLex.Proofs.Moves

/-!
# Escapes and the text after

A reader leaves an end of the text it is given, and if that is not empty, more text after it is left
too and changes nothing (`Reader.Extends`). So it is for what follows a backslash
(`readEscape_extends`).
-/

namespace ModalLex.Pattern

/-- The reader leaves an end of its text, and is not changed by more text after what it leaves. -/
def Reader.Extends {α : Type} (f : Reader α) : Prop :=
  ∀ ⦃text : List Char⦄ ⦃a : α⦄ ⦃rest : List Char⦄, f text = .ok (a, rest) →
    rest <:+ text ∧ (rest ≠ [] → ∀ more, f (text ++ more) = .ok (a, rest ++ more))

theorem Reader.Extends.map {α β : Type} {f : Reader α} (hf : f.Extends) (g : α → β) :
    Reader.Extends fun text => do return (← f text).map g id := by
  intro text b rest h
  obtain ⟨⟨a, rest'⟩, hfa, h⟩ := bind_eq_ok h
  cases h
  obtain ⟨hs, happ⟩ := hf hfa
  refine ⟨hs, fun hne more => ?_⟩
  simp only [happ hne more, ok_bind]
  rfl

theorem Reader.Extends.bind {α β : Type} {f : Reader α} {g : α → Reader β} (hf : f.Extends)
    (hg : ∀ a, (g a).Extends) :
    Reader.Extends fun text => f text >>= fun (a, rest) => g a rest := by
  intro text b rest h
  obtain ⟨⟨a, rest'⟩, hfa, h⟩ := bind_eq_ok h
  obtain ⟨hs, happ⟩ := hf hfa
  obtain ⟨hs', happ'⟩ := hg a h
  refine ⟨hs'.trans hs, fun hne more => ?_⟩
  simp only [happ (hs'.ne_nil hne) more, ok_bind]
  exact happ' hne more

section Escapes

variable (m : Mode)

theorem readHexDigits_extends : ∀ n value : Nat, (readHexDigits m n value).Extends
  | 0, _, _, _, _, h => by
    cases h
    exact ⟨List.suffix_refl _, fun _ _ => rfl⟩
  | _ + 1, _, [], _, _, h => by cases h
  | n + 1, value, c :: cs, _, _, h => by
    simp only [readHexDigits] at h
    split at h
    · cases h
    · rename_i d hd
      obtain ⟨hs, happ⟩ := readHexDigits_extends n _ h
      refine ⟨(hs.trans (m.skip_suffix cs)).trans (List.suffix_cons c cs), fun hne more => ?_⟩
      simp only [List.cons_append, readHexDigits, hd, Mode.skip_append (hs.ne_nil hne)]
      exact happ hne more

theorem readHex_of_ne {digits : Nat} {text : List Char} {c : Char} {cs : List Char}
    (h : m.skip text = c :: cs) (hc : c ≠ '\x7b') :
    readHex m digits text = (do
      let (value, rest) ← readHexDigits m digits 0 (c :: cs)
      if !m.unicode ∧ digits = 2 ∧ 0x7F < value then .error .partOfCharacter
      else return (← charOf value, rest)) := by
  simp only [readHex, h]
  simp [hc]

theorem readHex_extends (digits : Nat) : (readHex m digits).Extends := by
  intro text a rest h
  have hs := m.skip_suffix text
  rcases htext : m.skip text with _ | ⟨c, cs⟩
  · simp only [readHex, htext] at h
    cases h
  rw [htext] at hs
  have happend : ∀ more, m.skip (text ++ more) = c :: (cs ++ more) :=
    fun _ => Mode.skip_append_of_cons htext
  by_cases hc : c = '\x7b'
  · subst hc
    rcases hg : m.gather (· ≠ '\x7d') (m.skip cs) with ⟨_ | ⟨w, word⟩, _ | ⟨last, tail⟩⟩
    case cons.cons =>
      simp only [readHex, htext, hg] at h
      obtain ⟨values, hvalues, h⟩ := bind_eq_ok h
      obtain ⟨char, hchar, h⟩ := bind_eq_ok h
      cases h
      have hbody := Mode.gather_suffix hg
      have htail : last :: tail <:+ text :=
        ((hbody.trans (m.skip_suffix cs)).trans (List.suffix_cons _ cs)).trans hs
      refine ⟨(m.skip_suffix tail).trans ((List.suffix_cons _ tail).trans htail), ?_⟩
      intro hne more
      simp only [readHex, happend, Mode.skip_append (hbody.ne_nil (by simp)),
        Mode.gather_append hg (by simp), List.cons_append, hvalues, ok_bind, hchar,
        Mode.skip_append hne]
      rfl
    all_goals
      simp only [readHex, htext, hg] at h
      cases h
  · rw [readHex_of_ne m htext hc] at h
    obtain ⟨⟨value, rest'⟩, hdigits, h⟩ := bind_eq_ok h
    obtain ⟨hrest, happ⟩ := readHexDigits_extends m digits 0 hdigits
    simp only at h
    split at h
    · cases h
    · rename_i hvalue
      obtain ⟨char, hchar, h⟩ := bind_eq_ok h
      cases h
      refine ⟨hrest.trans hs, fun hne more => ?_⟩
      rw [readHex_of_ne m (happend more) hc, ← List.cons_append, happ hne more, ok_bind]
      simp only [if_neg hvalue, hchar, ok_bind]
      rfl

theorem readPropertyWord_extends : (readPropertyWord m).Extends := by
  intro text a rest h
  have hs := m.skip_suffix text
  rcases htext : m.skip text with _ | ⟨c, cs⟩
  · simp only [readPropertyWord, htext] at h
    cases h
  rw [htext] at hs
  have happend : ∀ more, m.skip (text ++ more) = c :: (cs ++ more) :=
    fun _ => Mode.skip_append_of_cons htext
  by_cases hslash : c = '\\'
  · subst hslash
    simp only [readPropertyWord, htext] at h
    cases h
  by_cases hc : c = '\x7b'
  · subst hc
    rcases hg : m.gather (· ≠ '\x7d') (m.skip cs) with ⟨word, _ | ⟨last, tail⟩⟩
    · simp only [readPropertyWord, htext, hg] at h
      cases h
    · simp only [readPropertyWord, htext, hg] at h
      cases h
      have hbody := Mode.gather_suffix hg
      have htail := ((hbody.trans (m.skip_suffix cs)).trans (List.suffix_cons _ cs)).trans hs
      refine ⟨(List.suffix_cons _ _).trans htail, fun _ more => ?_⟩
      simp only [readPropertyWord, happend, Mode.skip_append (hbody.ne_nil (by simp)),
        Mode.gather_append hg (by simp), List.cons_append]
  · have hread : ∀ {text cs : List Char}, m.skip text = c :: cs →
        readPropertyWord m text = .ok ([c], m.skip cs) := fun h => by
      simp only [readPropertyWord, h]
    rw [hread htext] at h
    cases h
    refine ⟨((m.skip_suffix cs).trans (List.suffix_cons c cs)).trans hs, fun hne more => ?_⟩
    rw [hread (happend more), Mode.skip_append hne]

variable [Engine]

theorem readProperty_extends (negated : Bool) : (readProperty m negated).Extends := by
  intro text a rest h
  obtain ⟨⟨word, rest'⟩, hword, h⟩ := bind_eq_ok h
  obtain ⟨hs, happ⟩ := readPropertyWord_extends m hword
  simp only at h
  split at h
  · cases h
  · rename_i hu
    split at h
    · cases h
    · rename_i chars hchars
      obtain ⟨set, hset, h⟩ := bind_eq_ok h
      cases h
      refine ⟨hs, fun hne more => ?_⟩
      simp only [readProperty, happ hne more, ok_bind, if_neg hu, hchars, hset]
      rfl

theorem readBoundary_of_ne {text : List Char} (h : text.head? ≠ some '\x7b') :
    readBoundary m text = .ok (.look (m.edge .boundary), text) := by
  unfold readBoundary
  split
  · simp at h
  · rfl

/-- Braces after a word boundary either hold the name of one, or are left. -/
theorem readBoundary_brace {cs : List Char} {name after rest : List Char} {a : Atom}
    (hg : m.gather (fun c => c.isAlpha || c = '-') (m.skip cs) = (name, after))
    (h : readBoundary m ('\x7b' :: cs) = .ok (a, rest)) :
    (name = [] ∧ after ≠ [] ∧ rest = '\x7b' :: cs ∧ ∀ cs' after',
        m.gather (fun c => c.isAlpha || c = '-') (m.skip cs') = ([], after') → after' ≠ [] →
        readBoundary m ('\x7b' :: cs') = .ok (a, '\x7b' :: cs')) ∨
      (after = '\x7d' :: rest ∧ ∀ cs' rest',
        m.gather (fun c => c.isAlpha || c = '-') (m.skip cs') = (name, '\x7d' :: rest') →
        readBoundary m ('\x7b' :: cs') = .ok (a, rest')) := by
  simp only [readBoundary, hg] at h
  rcases name with _ | ⟨n, name⟩
  · rcases after with _ | ⟨c, after⟩
    · cases h
    · cases h
      refine .inl ⟨rfl, by simp, rfl, fun cs' after' hg' hne => ?_⟩
      obtain ⟨d, ds, rfl⟩ := List.exists_cons_of_ne_nil hne
      simp only [readBoundary, hg']
  · refine .inr ?_
    split at h
    case h_1 heq => cases heq
    case h_2 heq => cases heq
    case h_4 => cases h
    rename_i heq
    cases heq
    rcases hedge : WordEdge.ofName? (.ofList (n :: name)) with _ | edge
    · rw [hedge] at h
      cases h
    · rw [hedge] at h
      cases h
      exact ⟨rfl, fun cs' rest' hg' => by simp only [readBoundary, hg', hedge]⟩

theorem readBoundary_extends : (readBoundary m).Extends := by
  intro text a rest h
  by_cases hbrace : text.head? = some '\x7b'
  · obtain ⟨cs, rfl⟩ : ∃ cs, text = '\x7b' :: cs := List.head?_eq_some_iff.1 hbrace
    rcases hg : m.gather (fun c => c.isAlpha || c = '-') (m.skip cs) with ⟨name, after⟩
    have happ : after ≠ [] → ∀ more,
        m.gather (fun c => c.isAlpha || c = '-') (m.skip (cs ++ more)) = (name, after ++ more) :=
      fun hne more => by
        rw [Mode.skip_append ((Mode.gather_suffix hg).ne_nil hne), Mode.gather_append hg hne]
    rcases readBoundary_brace m hg h with ⟨rfl, hne, rfl, hread⟩ | ⟨rfl, hread⟩
    · exact ⟨List.suffix_refl _, fun _ more => hread _ _ (happ hne more) (by simp [hne])⟩
    · refine ⟨?_, fun _ more => hread _ _ (happ (by simp) more)⟩
      exact (List.suffix_cons _ rest).trans
        (((Mode.gather_suffix hg).trans (m.skip_suffix cs)).trans (List.suffix_cons _ cs))
  · rw [readBoundary_of_ne m hbrace] at h
    cases h
    refine ⟨List.suffix_refl _, fun hne more => readBoundary_of_ne m ?_⟩
    obtain ⟨c, cs, rfl⟩ := List.exists_cons_of_ne_nil hne
    exact hbrace

/-- The readers of what follows a backslash and the character after it. -/
inductive EscapeReader : Reader Atom → Prop where
  | keep (a : Atom) : EscapeReader fun text => .ok (a, text)
  | hex (digits : Nat) :
      EscapeReader fun text => do return (← readHex m digits text).map Atom.char id
  | property (negated : Bool) :
      EscapeReader fun text => do return (← readProperty m negated text).map Atom.set id
  | boundary : EscapeReader (readBoundary m)

/-- The character after a backslash tells how to read on. -/
theorem exists_escapeReader {c : Char} {cs rest : List Char} {a : Atom}
    (h : readEscape m (c :: cs) = .ok (a, rest)) :
    ∃ f, EscapeReader m f ∧ ∀ cs, readEscape m (c :: cs) = f cs := by
  simp only [readEscape] at h
  split at h
  iterate 3 exact ⟨_, .hex _, fun _ => rfl⟩
  iterate 2 exact ⟨_, .property _, fun _ => rfl⟩
  iterate 3 exact ⟨_, .keep _, fun _ => rfl⟩
  iterate 3
    obtain ⟨chars, hchars, -⟩ := bind_eq_ok h
    exact ⟨_, .keep (.set chars), fun _ => by simp only [readEscape, hchars]; rfl⟩
  iterate 8 exact ⟨_, .keep _, fun _ => rfl⟩
  · exact ⟨_, .boundary, fun _ => rfl⟩
  iterate 3 exact ⟨_, .keep _, fun _ => rfl⟩
  · split at h
    · cases h
    · rename_i hdigit
      split at h
      · cases h
      · rename_i halpha
        exact ⟨_, .keep _, fun _ => by simp only [readEscape, hdigit, halpha]; rfl⟩

variable {m} in
theorem EscapeReader.extends {f : Reader Atom} (h : EscapeReader m f) : f.Extends := by
  cases h with
  | keep a =>
    intro text a rest h
    cases h
    exact ⟨List.suffix_refl _, fun _ _ => rfl⟩
  | hex digits => exact (readHex_extends m digits).map Atom.char
  | property negated => exact (readProperty_extends m negated).map Atom.set
  | boundary => exact readBoundary_extends m

theorem readEscape_extends : (readEscape m).Extends := by
  intro text a rest h
  rcases text with _ | ⟨c, cs⟩
  · cases h
  obtain ⟨f, hf, heq⟩ := exists_escapeReader m h
  obtain ⟨hs, happ⟩ := hf.extends (heq cs ▸ h)
  refine ⟨hs.trans (List.suffix_cons c cs), fun hne more => ?_⟩
  rw [List.cons_append, heq, happ hne]

end Escapes

end ModalLex.Pattern
