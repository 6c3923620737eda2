import ModalLex.Proofs.Classes

/-!
# A round of reading and the text after

Counts of repetitions, flags and names end with a sign of their own, so what comes after them
changes nothing. So a round of reading changes nothing in what it makes of its text if there is more
text after what it leaves (`readNext_append`).
-/

namespace ModalLex.Pattern

/-! ## Counts -/

section Counts

variable (m : Mode)

theorem readCount_extends : Reader.Extends (readCount m) := by
  intro text a rest h
  rcases hd : m.gather Char.isDigit (text.dropWhile Unicode.whiteSpace.contains)
    with ⟨digits, after⟩
  rcases hw : m.gather Unicode.whiteSpace.contains after with ⟨blanks, rest'⟩
  have hread : ∀ {text after rest'},
      m.gather Char.isDigit (text.dropWhile Unicode.whiteSpace.contains) = (digits, after) →
      m.gather Unicode.whiteSpace.contains after = (blanks, rest') →
      readCount m text =
        if digits = [] then .ok (none, rest')
        else if digits.foldl (fun n d => 10 * n + (d.toNat - '0'.toNat)) 0 ≤ 0xFFFFFFFF then
          .ok (some (digits.foldl (fun n d => 10 * n + (d.toNat - '0'.toNat)) 0), rest')
        else .error .countTooLarge := fun hd hw => by
    simp only [readCount, hd, hw]
  rw [hread hd hw] at h
  have hsd := Mode.gather_suffix hd
  have hsw := Mode.gather_suffix hw
  have hs : rest' <:+ text := (hsw.trans hsd).trans (List.dropWhile_suffix _)
  have happ : rest' ≠ [] → ∀ more, readCount m (text ++ more) =
        if digits = [] then .ok (none, rest' ++ more)
        else if digits.foldl (fun n d => 10 * n + (d.toNat - '0'.toNat)) 0 ≤ 0xFFFFFFFF then
          .ok (some (digits.foldl (fun n d => 10 * n + (d.toNat - '0'.toNat)) 0), rest' ++ more)
        else .error .countTooLarge := fun hne more => by
    have hafter := hsw.ne_nil hne
    have hdrop := hsd.ne_nil hafter
    refine hread ?_ (Mode.gather_append hw hne)
    rw [List.dropWhile_append, if_neg (by simpa using hdrop), Mode.gather_append hd hafter]
  split_ifs at h with hdigits hvalue
  · cases h
    refine ⟨hs, fun hne more => ?_⟩
    rw [happ hne, if_pos hdigits]
  · cases h
    refine ⟨hs, fun hne more => ?_⟩
    rw [happ hne, if_neg hdigits, if_pos hvalue]

theorem readCounts_eq {text : List Char} (h : m.skip text ≠ []) :
    readCounts m text = readCount m (m.skip text) >>= fun (low, rest) =>
      low.elim (.error .countMissing) .ok >>= fun low =>
        readHigh m low rest >>= fun (counts, rest) => closeCounts counts rest := by
  unfold readCounts
  split
  · contradiction
  · rfl

theorem closeCounts_append {counts counts' : Nat × Option Nat} {text rest : List Char}
    (h : closeCounts counts text = .ok (counts', rest)) :
    rest <:+ text ∧ text ≠ [] ∧
      ∀ more, closeCounts counts (text ++ more) = .ok (counts', rest ++ more) := by
  unfold closeCounts at h
  split at h
  · split at h
    · cases h
    · rename_i hle
      cases h
      exact ⟨List.suffix_cons _ _, by simp, fun more => if_neg hle⟩
  · cases h

theorem readHigh_extends (low : Nat) : (readHigh m low).Extends := by
  intro text a rest h
  rcases text with _ | ⟨c, cs⟩
  · cases h
    exact ⟨List.suffix_refl _, fun hne => absurd rfl hne⟩
  by_cases hc : c = ','
  · subst hc
    have hs := (m.skip_suffix cs).trans (List.suffix_cons ',' cs)
    by_cases hbrace : (m.skip cs).head? = some '\x7d'
    · obtain ⟨tail, htail⟩ := List.head?_eq_some_iff.1 hbrace
      simp only [readHigh, htail] at h
      cases h
      rw [htail] at hs
      refine ⟨hs, fun _ more => ?_⟩
      simp only [List.cons_append, readHigh, Mode.skip_append_of_cons htail]
    · have hread : ∀ {cs : List Char}, (m.skip cs).head? ≠ some '\x7d' →
          readHigh m low (',' :: cs) = readCount m (m.skip cs) >>= fun (high, rest) =>
            high.elim (.error .countMissing) .ok >>= fun high => .ok ((low, some high), rest) :=
        fun hne => by
          simp only [readHigh]
          split
          · rename_i heq
            rw [heq] at hne
            exact absurd rfl hne
          · rfl
      rw [hread hbrace] at h
      obtain ⟨⟨high, rest'⟩, hhigh, h⟩ := bind_eq_ok h
      obtain ⟨value, hvalue, h⟩ := bind_eq_ok h
      cases h
      obtain ⟨hsr, happ⟩ := readCount_extends m hhigh
      refine ⟨hsr.trans hs, fun hne more => ?_⟩
      have hskip := hsr.ne_nil hne
      rw [List.cons_append, hread, Mode.skip_append hskip, happ hne more, ok_bind]
      · simp only [hvalue, ok_bind]
      · rwa [Mode.skip_append hskip, List.head?_append_of_ne_nil _ hskip]
  · have hread : ∀ cs, readHigh m low (c :: cs) = .ok ((low, some low), c :: cs) := fun cs => by
      simp [readHigh, hc]
    rw [hread] at h
    cases h
    exact ⟨List.suffix_refl _, fun _ more => hread _⟩

/-- Counts end with their brace; the text after it is left. -/
theorem readCounts_append {text rest : List Char} {counts : Nat × Option Nat}
    (h : readCounts m text = .ok (counts, rest)) :
    rest <:+ text ∧ ∀ more, readCounts m (text ++ more) = .ok (counts, rest ++ more) := by
  by_cases hskip : m.skip text = []
  · simp only [readCounts, hskip] at h
    cases h
  rw [readCounts_eq m hskip] at h
  obtain ⟨⟨low, after⟩, hlow, h⟩ := bind_eq_ok h
  obtain ⟨value, hvalue, h⟩ := bind_eq_ok h
  obtain ⟨⟨counts', after'⟩, hhigh, h⟩ := bind_eq_ok h
  obtain ⟨hsl, happl⟩ := readCount_extends m hlow
  obtain ⟨hsh, happh⟩ := readHigh_extends m value hhigh
  obtain ⟨hsc, hne, happc⟩ := closeCounts_append h
  refine ⟨((hsc.trans hsh).trans hsl).trans (m.skip_suffix text), fun more => ?_⟩
  have hskip' : m.skip (text ++ more) = m.skip text ++ more := Mode.skip_append hskip
  rw [readCounts_eq m (by simp [hskip', hskip]), hskip', happl (hsh.ne_nil hne) more]
  simp only [ok_bind, hvalue, happh hne more]
  exact happc more

end Counts

/-! ## Flags and names -/

theorem readFlags_append :
    ∀ {text : List Char} {on any : Bool} {seen rest : List Char} {m m' : Mode},
      readFlags on seen m text = .ok (m', any, rest) →
      rest <:+ text ∧ (rest.head? = some ':' ∨ rest.head? = some ')') ∧
        ∀ more, readFlags on seen m (text ++ more) = .ok (m', any, rest ++ more)
  | [], _, _, _, _, _, _, h => by cases h
  | c :: cs, on, any, seen, rest, m, m', h => by
    simp only [readFlags, List.cons_append] at h ⊢
    split at h
    · rename_i hend
      split at h
      · cases h
      · rename_i hseen
        cases h
        refine ⟨List.suffix_refl _, by simpa using hend, fun more => ?_⟩
        rw [if_pos hend, if_neg hseen, List.cons_append]
    · rename_i hend
      simp only [if_neg hend]
      split at h
      · cases h
      · rename_i hseen
        simp only [if_neg hseen]
        split at h
        · rename_i hminus
          obtain ⟨hs, hhead, happ⟩ := readFlags_append h
          simp only [if_pos hminus]
          exact ⟨hs.trans (List.suffix_cons c cs), hhead, happ⟩
        · rename_i hminus
          simp only [if_neg hminus]
          split at h
          · cases h
          · rename_i m₁ hset
            obtain ⟨hs, hhead, happ⟩ := readFlags_append h
            exact ⟨hs.trans (List.suffix_cons c cs), hhead, happ⟩

theorem drop_of_append_eq {a b c : List Char} (h : a ++ b = c) : c.drop a.length = b := by
  subst h
  exact List.drop_left

/-- A name is read up to the angle after it, whatever comes after that. -/
theorem readName_append [Engine] {text name rest : List Char}
    (h : readName text = .ok (name, rest)) :
    rest <:+ text ∧ ∀ more, readName (text ++ more) = .ok (name, rest ++ more) := by
  have htext := List.takeWhile_append_dropWhile (p := (· ≠ '>')) (l := text)
  unfold readName at h
  simp only [drop_of_append_eq htext] at h
  split at h
  · rename_i first letters angle after hname hafter
    split at h
    · rename_i hvalid
      cases h
      rw [hname, hafter] at htext
      have hlen : (text.takeWhile (· ≠ '>')).length ≠ text.length := by
        rw [hname, ← htext]
        simp
      refine ⟨htext ▸ (List.suffix_cons angle _).trans (List.suffix_append _ _), fun more => ?_⟩
      have htake : (text ++ more).takeWhile (· ≠ '>') = first :: letters := by
        rw [List.takeWhile_append, if_neg hlen, hname]
      have hdrop : (text ++ more).drop (first :: letters).length = angle :: (rest ++ more) :=
        drop_of_append_eq (by rw [← htext, List.append_assoc]; rfl)
      simp only [readName, htake, hdrop, if_pos hvalid, hname]
    · cases h
  · cases h

/-! ## Rounds -/

namespace Reading

section Rounds

variable {r r' : Reading} {text rest : List Char}

/-- The signs before the name of a group that captures. -/
inductive OpensName : List Char → List Char → Prop where
  | long (name : List Char) : OpensName ('?' :: 'P' :: '<' :: name) name
  | short {name : List Char} (heq : name.head? ≠ some '=') (hbang : name.head? ≠ some '!') :
      OpensName ('?' :: '<' :: name) name

theorem OpensName.suffix {name : List Char} (h : OpensName text name) : name <:+ text := by
  cases h with
  | long => exact List.suffix_append ['?', 'P', '<'] name
  | short => exact List.suffix_append ['?', '<'] name

theorem OpensName.append {name : List Char} (h : OpensName text name) (hne : name ≠ [])
    (more : List Char) : OpensName (text ++ more) (name ++ more) := by
  cases h with
  | long => exact .long _
  | short heq hbang =>
    rw [← List.head?_append_of_ne_nil name hne] at heq hbang
    exact .short heq hbang

theorem readFlagged_eq_ok {c : Char} {cs : List Char}
    (h : r.readFlagged (c :: cs) = .ok (r', rest)) :
    c ≠ '=' ∧ c ≠ '!' ∧ c ≠ '<' ∧ c ≠ 'P' := by
  obtain ⟨⟨mode, any, after⟩, hflags, -⟩ := bind_eq_ok h
  refine ⟨?_, ?_, ?_, ?_⟩
  all_goals
    rintro rfl
    simp [readFlags, Mode.set] at hflags

theorem goOn_append {mode : Mode} {any : Bool} (h : r.goOn mode any text = .ok (r', rest))
    (hne : text ≠ []) :
    rest <:+ text ∧ ∀ more, r.goOn mode any (text ++ more) = .ok (r', rest ++ more) := by
  obtain ⟨c, cs, rfl⟩ := List.exists_cons_of_ne_nil hne
  by_cases hc : c = ')'
  · subst hc
    cases any
    · cases h
    · cases h
      exact ⟨List.suffix_cons _ _, fun _ => rfl⟩
  · have hopen : ∀ cs, r.goOn mode any (c :: cs) = .ok (r.openGroup none mode, cs) := fun cs => by
      simp [goOn, hc]
    rw [hopen] at h
    cases h
    exact ⟨List.suffix_cons _ _, fun _ => hopen _⟩

theorem readFlagged_append (h : r.readFlagged text = .ok (r', rest)) :
    rest <:+ text ∧ ∀ more, r.readFlagged (text ++ more) = .ok (r', rest ++ more) := by
  obtain ⟨⟨mode, any, after⟩, hflags, h⟩ := bind_eq_ok h
  obtain ⟨hs, hhead, happ⟩ := readFlags_append hflags
  have hne : after ≠ [] := by
    rintro rfl
    simp at hhead
  obtain ⟨hsg, happg⟩ := goOn_append h hne
  refine ⟨hsg.trans hs, fun more => ?_⟩
  simp only [readFlagged, happ more, ok_bind]
  exact happg more

theorem readRepetition_of_ne {min : Nat} {max : Option Nat} (h : text.head? ≠ some '?') :
    r.readRepetition min max text = (do
      return ({ r with group := ← r.group.repeatLast min max false }, text)) := by
  unfold readRepetition
  split
  · exact absurd rfl h
  · rfl

theorem readRepetition_extends (min : Nat) (max : Option Nat) :
    (r.readRepetition min max).Extends := by
  intro text r' rest h
  by_cases hhead : text.head? = some '?'
  · obtain ⟨tail, rfl⟩ := List.head?_eq_some_iff.1 hhead
    obtain ⟨g, hg, h⟩ := bind_eq_ok h
    cases h
    refine ⟨List.suffix_cons _ _, fun _ more => ?_⟩
    simp only [List.cons_append, readRepetition, hg, ok_bind]
    rfl
  · rw [readRepetition_of_ne hhead] at h
    obtain ⟨g, hg, h⟩ := bind_eq_ok h
    cases h
    refine ⟨List.suffix_refl _, fun hne more => ?_⟩
    rw [readRepetition_of_ne, hg]
    · rfl
    · rwa [List.head?_append_of_ne_nil _ hne]

variable [Engine]

theorem readGroup_capture (h : (r.group.mode.skip text).head? ≠ some '?') :
    r.readGroup text = .ok (r.openCapture, r.group.mode.skip text) := by
  unfold readGroup
  generalize r.group.mode.skip text = text' at h ⊢
  split <;> first | rfl | exact absurd rfl h

theorem readGroup_named (h : OpensName (r.group.mode.skip text) rest) :
    r.readGroup text = r.readNamed rest := by
  unfold readGroup
  generalize r.group.mode.skip text = text' at h ⊢
  cases h with
  | long => rfl
  | short heq hbang =>
    split
    case h_3 htext =>
      cases htext
      exact absurd rfl heq
    case h_4 htext =>
      cases htext
      exact absurd rfl hbang
    case h_6 htext =>
      cases htext
      rfl
    case h_8 hangle _ htext =>
      cases htext
      exact absurd rfl (hangle _)
    all_goals simp_all

theorem readGroup_flagged {c : Char} (h : r.group.mode.skip text = '?' :: c :: rest)
    (heq : c ≠ '=') (hbang : c ≠ '!') (hangle : c ≠ '<') (hP : c ≠ 'P') :
    r.readGroup text = r.readFlagged (c :: rest) := by
  unfold readGroup
  simp only [h]
  split
  case h_8 heq =>
    cases heq
    rfl
  all_goals simp_all

/-- What the beginning of a group is: a bare parenthesis, a name, or flags. -/
theorem readGroup_eq_ok (h : r.readGroup text = .ok (r', rest)) :
    ((r.group.mode.skip text).head? ≠ some '?' ∧ r' = r.openCapture ∧
        rest = r.group.mode.skip text) ∨
      (∃ named, OpensName (r.group.mode.skip text) named ∧
        r.readNamed named = .ok (r', rest)) ∨
      ∃ c cs, r.group.mode.skip text = '?' :: c :: cs ∧
        r.readFlagged (c :: cs) = .ok (r', rest) := by
  by_cases hhead : (r.group.mode.skip text).head? = some '?'
  · refine .inr ?_
    unfold readGroup at h
    split at h
    case h_1 => cases h
    case h_2 => cases h
    case h_3 => cases h
    case h_4 => cases h
    case h_5 named heq => exact .inl ⟨named, heq ▸ .long named, h⟩
    case h_6 named hnotEq hnotBang heq =>
      refine .inl ⟨named, heq ▸ .short ?_ ?_, h⟩
      · exact fun hhead => (List.head?_eq_some_iff.1 hhead).elim hnotEq
      · exact fun hhead => (List.head?_eq_some_iff.1 hhead).elim hnotBang
    case h_7 => cases h
    case h_8 flags _ _ _ _ hne heq =>
      obtain ⟨c, cs, rfl⟩ := List.exists_cons_of_ne_nil fun hnil => hne hnil
      exact .inr ⟨c, cs, heq, h⟩
    case h_9 hne =>
      obtain ⟨tail, htail⟩ := List.head?_eq_some_iff.1 hhead
      exact (hne tail htail).elim
  · rw [readGroup_capture hhead] at h
    cases h
    exact .inl ⟨hhead, rfl, rfl⟩

theorem readNamed_append (h : r.readNamed text = .ok (r', rest)) :
    rest <:+ text ∧ ∀ more, r.readNamed (text ++ more) = .ok (r', rest ++ more) := by
  obtain ⟨⟨name, after⟩, hname, h⟩ := bind_eq_ok h
  obtain ⟨hs, happ⟩ := readName_append hname
  simp only at h
  split at h
  · cases h
  · rename_i hnew
    cases h
    refine ⟨hs, fun more => ?_⟩
    simp only [readNamed, happ more, ok_bind, if_neg hnew]
    rfl

/-- Only a bare parenthesis needs something after it. -/
theorem readGroup_append (h : r.readGroup text = .ok (r', rest)) :
    rest <:+ text ∧ (rest ≠ [] ∨ r'.outer.length ≤ r.outer.length →
      ∀ more, r.readGroup (text ++ more) = .ok (r', rest ++ more)) := by
  have hs := r.group.mode.skip_suffix text
  rcases readGroup_eq_ok h with ⟨hhead, rfl, rfl⟩ | ⟨named, htext, hnamed⟩ | ⟨c, cs, htext, hflags⟩
  · refine ⟨hs, fun hopen more => ?_⟩
    have hskip : r.group.mode.skip text ≠ [] := hopen.resolve_right (by
      simp [openCapture, openGroup])
    have happ : r.group.mode.skip (text ++ more) = r.group.mode.skip text ++ more :=
      Mode.skip_append hskip
    rw [readGroup_capture, happ]
    rwa [happ, List.head?_append_of_ne_nil _ hskip]
  · obtain ⟨hsn, happ⟩ := readNamed_append hnamed
    have hne : named ≠ [] := by
      rintro rfl
      cases hnamed
    have hskip : r.group.mode.skip text ≠ [] := htext.suffix.ne_nil hne
    refine ⟨(hsn.trans htext.suffix).trans hs, fun _ more => ?_⟩
    rw [readGroup_named (Mode.skip_append hskip ▸ htext.append hne more), happ more]
  · obtain ⟨heq, hbang, hangle, hP⟩ := readFlagged_eq_ok hflags
    obtain ⟨hsf, happ⟩ := readFlagged_append hflags
    rw [htext] at hs
    refine ⟨hsf.trans ((List.suffix_cons '?' _).trans hs), fun _ more => ?_⟩
    rw [readGroup_flagged (Mode.skip_append_of_cons htext) heq hbang hangle hP]
    exact happ more

/-- A round changes nothing if there is more text after what it leaves. -/
theorem readNext_append {c : Char} (h : r.readNext c text = .ok (r', rest)) :
    rest <:+ text ∧
      (rest ≠ [] → ∀ more, r.readNext c (text ++ more) = .ok (r', rest ++ more)) := by
  unfold readNext at h
  simp only at h
  split at h
  · obtain ⟨hs, happ⟩ := readGroup_append h
    exact ⟨hs, fun hne => happ (.inl hne)⟩
  · obtain ⟨r₁, hclose, h⟩ := bind_eq_ok h
    cases h
    refine ⟨List.suffix_refl _, fun _ more => ?_⟩
    simp only [readNext, hclose]
    rfl
  · cases h
    exact ⟨List.suffix_refl _, fun _ _ => rfl⟩
  · obtain ⟨⟨p, rest'⟩, hclass, h⟩ := bind_eq_ok h
    cases h
    obtain ⟨hs, happ⟩ := readClass_append _ hclass
    refine ⟨hs, fun _ more => ?_⟩
    simp only [readNext, happ more]
    rfl
  · exact readRepetition_extends _ _ h
  · exact readRepetition_extends _ _ h
  · exact readRepetition_extends _ _ h
  · split at h
    · rename_i hitem
      obtain ⟨⟨⟨min, max⟩, rest'⟩, hcounts, h⟩ := bind_eq_ok h
      obtain ⟨hs, happ⟩ := readCounts_append _ hcounts
      obtain ⟨hsr, happr⟩ := readRepetition_extends _ _ h
      refine ⟨(hsr.trans (Mode.skip_suffix _ _)).trans hs, fun hne more => ?_⟩
      have hskip := hsr.ne_nil hne
      simp only [readNext, if_pos hitem, happ more, ok_bind]
      rw [Mode.skip_append hskip]
      exact happr hne more
    · cases h
  · obtain ⟨⟨a, rest'⟩, hescape, h⟩ := bind_eq_ok h
    cases h
    obtain ⟨hs, happ⟩ := readEscape_extends _ hescape
    refine ⟨hs, fun hne more => ?_⟩
    simp only [readNext, happ hne more]
    rfl
  · obtain ⟨node, hdot, h⟩ := bind_eq_ok h
    cases h
    refine ⟨List.suffix_refl _, fun _ more => ?_⟩
    simp only [readNext, hdot]
    rfl
  · cases h
    exact ⟨List.suffix_refl _, fun _ _ => rfl⟩
  · cases h
    exact ⟨List.suffix_refl _, fun _ _ => rfl⟩
  · cases h
    exact ⟨List.suffix_refl _, fun _ _ => by simp only [readNext]⟩

end Rounds

end Reading

end ModalLex.Pattern
