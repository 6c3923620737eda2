import ModalLex.Proofs.Escapes

/-!
# Classes and the text after

A class ends with its closing bracket, so what comes after it changes nothing and is left
(`readClass_append`), even if nothing else does.
-/

namespace ModalLex.Pattern

section Classes

theorem not_mem_of_asciiClass? {name : List Char} (h : asciiClass? (.ofList name) ≠ none) :
    ']' ∉ name := by
  have hname : ∀ s : String, String.ofList name = s → ']' ∉ s.toList → ']' ∉ name := by
    rintro _ rfl hs
    rwa [String.toList_ofList] at hs
  unfold asciiClass? at h
  simp only at h
  split at h
  case h_15 => exact absurd rfl h
  all_goals
    rename_i heq
    exact hname _ heq (by decide)

theorem asciiClassAt?_eq_some_iff {negated negated' : Bool} {text rest : List Char}
    {chars : CharSet} :
    asciiClassAt? negated text = some (chars, negated', rest) ↔
      negated' = negated ∧ ∃ name, text = name ++ ':' :: ']' :: rest ∧ ':' ∉ name ∧
        asciiClass? (.ofList name) = some chars := by
  have htext := List.takeWhile_append_dropWhile (p := (· ≠ ':')) (l := text)
  constructor
  · intro h
    unfold asciiClassAt? at h
    split at h
    · rename_i after hdrop
      obtain ⟨set, hset, heq⟩ := Option.map_eq_some_iff.1 h
      simp only [Prod.mk.injEq] at heq
      obtain ⟨rfl, rfl, rfl⟩ := heq
      refine ⟨rfl, _, by rw [← hdrop, htext], fun hmem => ?_, hset⟩
      simpa using List.all_eq_true.1 List.all_takeWhile _ hmem
    · cases h
  · rintro ⟨rfl, name, rfl, hname, hset⟩
    have hall : ∀ c ∈ name, decide (c ≠ ':') = true := by
      rintro c hc
      exact decide_eq_true fun heq => hname (heq ▸ hc)
    have htake : (name ++ ':' :: ']' :: rest).takeWhile (· ≠ ':') = name := by
      rw [List.takeWhile_append_of_pos hall]
      simp
    have hdrop : (name ++ ':' :: ']' :: rest).dropWhile (· ≠ ':') = ':' :: ']' :: rest := by
      rw [List.dropWhile_append_of_pos hall]
      simp
    rw [asciiClassAt?, htake, hdrop]
    simp only [hset, Option.map_some]

theorem asciiClassAt?_append_none {negated : Bool} {text : List Char}
    (h : asciiClassAt? negated text = none) (hb : ']' ∈ text) (more : List Char) :
    asciiClassAt? negated (text ++ more) = none := by
  rcases hsome : asciiClassAt? negated (text ++ more) with _ | ⟨chars, negated', rest⟩
  · rfl
  obtain ⟨rfl, name, heq, hname, hset⟩ := asciiClassAt?_eq_some_iff.1 hsome
  have hnot : ']' ∉ name := not_mem_of_asciiClass? (by simp [hset])
  rcases List.append_eq_append_iff.1 heq with ⟨more', rfl, -⟩ | ⟨text', rfl, htext⟩
  · exact absurd (List.mem_append_left _ hb) hnot
  · rcases text' with _ | ⟨c, _ | ⟨d, text'⟩⟩
    · exact absurd (by simpa using hb) hnot
    · obtain ⟨rfl, -⟩ := List.cons.inj htext
      exact absurd (by simpa using hb) hnot
    · simp only [List.cons_append, List.cons.injEq] at htext
      obtain ⟨rfl, rfl, -⟩ := htext
      rw [asciiClassAt?_eq_some_iff.2 ⟨rfl, name, rfl, hname, hset⟩] at h
      cases h

theorem readAsciiClass?_caret (text : List Char) :
    readAsciiClass? (':' :: '^' :: text) = asciiClassAt? true text := rfl

theorem readAsciiClass?_colon {text : List Char} (h : text.head? ≠ some '^') :
    readAsciiClass? (':' :: text) = asciiClassAt? false text := by
  unfold readAsciiClass?
  split
  · rename_i heq
    cases heq
    exact absurd rfl h
  · rename_i heq
    cases heq
    rfl
  · rename_i hne
    exact absurd rfl (hne text)

theorem readAsciiClass?_of_ne {text : List Char} (h : text.head? ≠ some ':') :
    readAsciiClass? text = none := by
  unfold readAsciiClass?
  split
  · exact absurd rfl h
  · exact absurd rfl h
  · rfl

theorem asciiClassAt?_append {text rest : List Char} {chars : CharSet} {negated negated' : Bool}
    (h : asciiClassAt? negated text = some (chars, negated', rest)) :
    rest <:+ text ∧
      ∀ more, asciiClassAt? negated (text ++ more) = some (chars, negated', rest ++ more) := by
  obtain ⟨rfl, name, rfl, hname, hset⟩ := asciiClassAt?_eq_some_iff.1 h
  refine ⟨(List.suffix_append [':', ']'] rest).trans (List.suffix_append name _), fun more => ?_⟩
  exact asciiClassAt?_eq_some_iff.2 ⟨rfl, name, by simp, hname, hset⟩

theorem readAsciiClass?_append {text rest : List Char} {chars : CharSet} {negated : Bool}
    (h : readAsciiClass? text = some (chars, negated, rest)) :
    rest <:+ text ∧
      ∀ more, readAsciiClass? (text ++ more) = some (chars, negated, rest ++ more) := by
  by_cases hcolon : text.head? = some ':'
  · obtain ⟨text, rfl⟩ := List.head?_eq_some_iff.1 hcolon
    by_cases hcaret : text.head? = some '^'
    · obtain ⟨text, rfl⟩ := List.head?_eq_some_iff.1 hcaret
      rw [readAsciiClass?_caret] at h
      obtain ⟨hs, happ⟩ := asciiClassAt?_append h
      exact ⟨hs.trans (List.suffix_append [':', '^'] text), happ⟩
    · rw [readAsciiClass?_colon hcaret] at h
      obtain ⟨hs, happ⟩ := asciiClassAt?_append h
      refine ⟨hs.trans (List.suffix_cons ':' text), fun more => ?_⟩
      have hne : text ≠ [] := by
        rintro rfl
        cases h
      rw [List.cons_append, readAsciiClass?_colon, happ]
      rwa [List.head?_append_of_ne_nil _ hne]
  · rw [readAsciiClass?_of_ne hcolon] at h
    cases h

theorem readAsciiClass?_append_none {text : List Char} (h : readAsciiClass? text = none)
    (hb : ']' ∈ text) (more : List Char) : readAsciiClass? (text ++ more) = none := by
  by_cases hcolon : text.head? = some ':'
  · obtain ⟨text, rfl⟩ := List.head?_eq_some_iff.1 hcolon
    have hb : ']' ∈ text := by simpa using hb
    by_cases hcaret : text.head? = some '^'
    · obtain ⟨text, rfl⟩ := List.head?_eq_some_iff.1 hcaret
      exact asciiClassAt?_append_none h (by simpa using hb) more
    · rw [readAsciiClass?_colon hcaret] at h
      rw [List.cons_append, readAsciiClass?_colon, asciiClassAt?_append_none h hb more]
      rwa [List.head?_append_of_ne_nil _ (List.ne_nil_of_mem hb)]
  · refine readAsciiClass?_of_ne ?_
    rwa [List.head?_append_of_ne_nil _ (List.ne_nil_of_mem hb)]

variable (m : Mode)

/-- Whether the beginning of a class negates it, and the text after. -/
def readNegation (text : List Char) : Bool × List Char :=
  match m.skip text with
  | '^' :: rest => (true, m.skip rest)
  | text => (false, text)

theorem readNegation_append {text rest : List Char} {negated : Bool}
    (h : readNegation m text = (negated, rest)) :
    rest <:+ text ∧
      (rest ≠ [] → ∀ more, readNegation m (text ++ more) = (negated, rest ++ more)) := by
  have hs := m.skip_suffix text
  rcases htext : m.skip text with _ | ⟨c, cs⟩
  · simp only [readNegation, htext, Prod.mk.injEq] at h
    obtain ⟨-, rfl⟩ := h
    exact ⟨List.nil_suffix, fun hne => absurd rfl hne⟩
  have happend : ∀ more, m.skip (text ++ more) = c :: (cs ++ more) :=
    fun _ => Mode.skip_append_of_cons htext
  rw [htext] at hs
  by_cases hc : c = '^'
  · subst hc
    simp only [readNegation, htext, Prod.mk.injEq] at h
    obtain ⟨rfl, rfl⟩ := h
    refine ⟨((m.skip_suffix cs).trans (List.suffix_cons _ cs)).trans hs, fun hne more => ?_⟩
    simp only [readNegation, happend, Mode.skip_append hne]
  · have hread : ∀ {text cs : List Char}, m.skip text = c :: cs →
        readNegation m text = (false, c :: cs) := fun h => by
      simp [readNegation, h, hc]
    rw [hread htext] at h
    cases h
    exact ⟨hs, fun _ more => hread (happend more)⟩

/-- The hyphens at the beginning of a class stand for themselves; so does a bracket if there are
none. -/
def startClass (negated : Bool) (hyphens text : List Char) : OpenClass × List Char :=
  let c := hyphens.foldl (fun (c : OpenClass) h => c.add ⟨.singleton h, 0⟩) ⟨negated, {}, none⟩
  match hyphens, text with
  | [], ']' :: rest => (c.add ⟨.singleton ']', 0⟩, m.skip rest)
  | _, text => (c, text)

theorem openClass_eq {text text' rest hyphens : List Char} {negated : Bool}
    (h : readNegation m text = (negated, text')) (hg : m.gather (· = '-') text' = (hyphens, rest)) :
    openClass m text = startClass m negated hyphens rest := by
  have hopen : openClass m text = startClass m (readNegation m text).1
      (m.gather (· = '-') (readNegation m text).2).1
      (m.gather (· = '-') (readNegation m text).2).2 := rfl
  rw [hopen, h, hg]

theorem startClass_append {negated : Bool} {hyphens text rest : List Char} {c : OpenClass}
    (h : startClass m negated hyphens text = (c, rest)) :
    rest <:+ text ∧
      (rest ≠ [] → ∀ more, startClass m negated hyphens (text ++ more) = (c, rest ++ more)) := by
  by_cases hbracket : hyphens = [] ∧ text.head? = some ']'
  · obtain ⟨rfl, hhead⟩ := hbracket
    obtain ⟨tail, rfl⟩ := List.head?_eq_some_iff.1 hhead
    cases h
    refine ⟨(m.skip_suffix tail).trans (List.suffix_cons _ tail), fun hne more => ?_⟩
    rw [← Mode.skip_append hne]
    rfl
  · have hstart : ∀ {text : List Char}, ¬ (hyphens = [] ∧ text.head? = some ']') →
        startClass m negated hyphens text = (hyphens.foldl (fun (c : OpenClass) h =>
          c.add ⟨.singleton h, 0⟩) ⟨negated, {}, none⟩, text) := fun hnot => by
      unfold startClass
      simp only
      split
      · simp at hnot
      · rfl
    rw [hstart hbracket] at h
    cases h
    refine ⟨List.suffix_refl _, fun hne more => hstart ?_⟩
    rwa [List.head?_append_of_ne_nil _ hne]

theorem openClass_append {text rest : List Char} {c : OpenClass}
    (h : openClass m text = (c, rest)) :
    rest <:+ text ∧ (rest ≠ [] → ∀ more, openClass m (text ++ more) = (c, rest ++ more)) := by
  rcases hn : readNegation m text with ⟨negated, text'⟩
  rcases hg : m.gather (· = '-') text' with ⟨hyphens, after⟩
  rw [openClass_eq m hn hg] at h
  obtain ⟨hs, happ⟩ := startClass_append m h
  obtain ⟨hsn, happn⟩ := readNegation_append m hn
  have hsg := Mode.gather_suffix hg
  refine ⟨(hs.trans hsg).trans hsn, fun hne more => ?_⟩
  have hafter := hs.ne_nil hne
  rw [openClass_eq m (happn (hsg.ne_nil hafter) more) (Mode.gather_append hg hafter), happ hne]

/-- What stands next in a class is no bracket and no operator. -/
def IsClassItem (text : List Char) : Prop :=
  text ≠ [] ∧ (∀ rest, text ≠ '[' :: rest) ∧ (∀ rest, text ≠ ']' :: rest) ∧
    (∀ rest, text ≠ '&' :: '&' :: rest) ∧ (∀ rest, text ≠ '-' :: '-' :: rest) ∧
    ∀ rest, text ≠ '~' :: '~' :: rest

theorem IsClassItem.append {c d : Char} {cs : List Char} (h : IsClassItem (c :: d :: cs))
    (more : List Char) : IsClassItem (c :: d :: (cs ++ more)) := by
  obtain ⟨-, hopen, hclose, hinter, hdiff, hsymm⟩ := h
  refine ⟨by simp, ?_, ?_, ?_, ?_, ?_⟩
  · rintro _ ⟨⟩
    exact hopen _ rfl
  · rintro _ ⟨⟩
    exact hclose _ rfl
  · rintro _ ⟨⟩
    exact hinter _ rfl
  · rintro _ ⟨⟩
    exact hdiff _ rfl
  · rintro _ ⟨⟩
    exact hsymm _ rfl

variable [Engine]

theorem readClassAtom_extends : (readClassAtom m).Extends := by
  intro text a rest h
  rcases text with _ | ⟨c, cs⟩
  · cases h
  by_cases hc : c = '\\'
  · subst hc
    obtain ⟨hs, happ⟩ := readEscape_extends m h
    exact ⟨hs.trans (List.suffix_cons _ cs), happ⟩
  · have hread : ∀ cs, readClassAtom m (c :: cs) = .ok (.char c, cs) := fun cs => by
      simp [readClassAtom]
    rw [hread] at h
    cases h
    exact ⟨List.suffix_cons c _, fun _ more => hread _⟩

/-- A range or a single character of a class, from after the first character on. -/
def readRangeFrom (first : Atom) : Reader CharSet := fun rest =>
  let single : Except Fault (CharSet × List Char) := do return (← first.classSet m, m.skip rest)
  match m.skip rest with
  | [] => .error .classUnclosed
  | '-' :: rest =>
    if m.peek rest = some ']' ∨ m.peek rest = some '-' then single
    else
      match m.skip rest with
      | [] => .error .classUnclosed
      | text => do
        let (last, rest) ← readClassAtom m text
        let lo ← first.rangeEnd m
        let hi ← last.rangeEnd m
        if hi < lo then .error .rangeBackwards else return (.ofRange lo hi, rest)
  | _ => single

theorem readRange_eq (text : List Char) :
    readRange m text = readClassAtom m text >>= fun (first, rest) => readRangeFrom m first rest :=
  rfl

/-- Where a single character of a class is read, the text is left from what counts on. -/
theorem readRangeFrom_single {first : Atom} {text rest : List Char} {chars : CharSet}
    (h : first.classSet m = .ok chars) (hrest : m.skip text = rest) (hne : rest ≠ [])
    (hsingle : ∀ tail, rest = '-' :: tail → m.peek tail = some ']' ∨ m.peek tail = some '-') :
    readRangeFrom m first text = .ok (chars, rest) := by
  unfold readRangeFrom
  simp only [hrest]
  split
  · exact absurd rfl hne
  · rw [if_pos (hsingle _ rfl), h]
    rfl
  · rw [h]
    rfl

theorem readRangeFrom_extends (first : Atom) : (readRangeFrom m first).Extends := by
  intro text a rest h
  have hs := m.skip_suffix text
  rcases htext : m.skip text with _ | ⟨c, cs⟩
  · simp only [readRangeFrom, htext] at h
    cases h
  have happend : ∀ more, m.skip (text ++ more) = c :: (cs ++ more) :=
    fun _ => Mode.skip_append_of_cons htext
  rw [htext] at hs
  by_cases hrange : c = '-' ∧ ¬ (m.peek cs = some ']' ∨ m.peek cs = some '-')
  · obtain ⟨rfl, hpeek⟩ := hrange
    simp only [readRangeFrom, htext, if_neg hpeek] at h
    rcases hcs : m.skip cs with _ | ⟨d, ds⟩
    · rw [hcs] at h
      cases h
    rw [hcs] at h
    obtain ⟨⟨last, rest'⟩, hlast, h⟩ := bind_eq_ok h
    obtain ⟨lo, hlo, h⟩ := bind_eq_ok h
    obtain ⟨hi, hhi, h⟩ := bind_eq_ok h
    obtain ⟨hsl, happ⟩ := readClassAtom_extends m hlast
    have hds : d :: ds <:+ text := ((hcs ▸ m.skip_suffix cs).trans (List.suffix_cons _ cs)).trans hs
    split at h
    · cases h
    · rename_i hle
      cases h
      refine ⟨hsl.trans hds, fun hne more => ?_⟩
      have hskip : m.skip cs ≠ [] := by simp [hcs]
      simp only [readRangeFrom, happend, Mode.peek_append (.inl hskip), if_neg hpeek,
        Mode.skip_append hskip, hcs]
      have happ := happ hne more
      rw [List.cons_append] at happ ⊢
      simp only [happ, ok_bind, hlo, hhi, if_neg hle]
      rfl
  · have hsingle : ∀ tail, c :: cs = '-' :: tail →
        m.peek tail = some ']' ∨ m.peek tail = some '-' := by
      rintro _ ⟨⟩
      by_contra hpeek
      exact hrange ⟨rfl, hpeek⟩
    obtain ⟨chars, hchars, h⟩ : ∃ chars, first.classSet m = .ok chars ∧
        Except.ok (chars, c :: cs) = (.ok (a, rest) : Except Fault _) := by
      simp only [readRangeFrom, htext] at h
      split at h
      · cases h
      · rename_i heq
        rw [if_pos (hsingle _ heq)] at h
        exact bind_eq_ok h
      · exact bind_eq_ok h
    cases h
    refine ⟨hs, fun _ more => readRangeFrom_single m hchars (happend more) (by simp) ?_⟩
    intro tail heq
    simp only [List.cons_append, List.cons.injEq] at heq
    obtain ⟨rfl, rfl⟩ := heq
    have hpeek := hsingle cs rfl
    rwa [Mode.peek_append (.inr hpeek)]

theorem readRange_extends : (readRange m).Extends :=
  (readClassAtom_extends m).bind (readRangeFrom_extends m)

theorem readClassFrom_item {n : Nat} {c : OpenClass} {outer : List OpenClass}
    {text text' : List Char} (h : m.skip text = text') (hitem : IsClassItem text') :
    readClassFrom m (n + 1) c outer text = (do
      let (chars, rest) ← readRange m text'
      readClassFrom m n (c.add ⟨chars, 0⟩) outer rest) := by
  obtain ⟨hne, hopen, hclose, hinter, hdiff, hsymm⟩ := hitem
  simp only [readClassFrom, h]

/-- What stands next in a class, if it is no bracket, is an item or an operator. -/
theorem isClassItem_or_operator {x : Char} {xs : List Char} (hopen : x ≠ '[') (hclose : x ≠ ']') :
    IsClassItem (x :: xs) ∨ ∃ ys op, xs = x :: ys ∧
      ∀ {n : Nat} {c : OpenClass} {outer : List OpenClass} {text zs : List Char},
        m.skip text = x :: x :: zs →
        readClassFrom m (n + 1) c outer text = readClassFrom m n (c.operator m op) outer zs := by
  rcases xs with _ | ⟨y, ys⟩
  · refine .inl ⟨by simp, ?_, ?_, by simp, by simp, by simp⟩
    · exact fun _ heq => hopen (List.cons.inj heq).1
    · exact fun _ heq => hclose (List.cons.inj heq).1
  by_cases hop : x = y ∧ (x = '&' ∨ x = '-' ∨ x = '~')
  · obtain ⟨rfl, rfl | rfl | rfl⟩ := hop
    · exact .inr ⟨ys, .inter, rfl, fun h => by simp only [readClassFrom, h]⟩
    · exact .inr ⟨ys, .diff, rfl, fun h => by simp only [readClassFrom, h]⟩
    · exact .inr ⟨ys, .symmDiff, rfl, fun h => by simp only [readClassFrom, h]⟩
  · refine .inl ⟨by simp, ?_, ?_, ?_, ?_, ?_⟩
    · exact fun _ heq => hopen (List.cons.inj heq).1
    · exact fun _ heq => hclose (List.cons.inj heq).1
    all_goals
      rintro _ ⟨⟩
      exact hop ⟨rfl, by simp⟩

theorem readRange_singleton (x : Char) (p : CharSet × List Char) : readRange m [x] ≠ .ok p := by
  intro h
  obtain ⟨⟨first, rest⟩, hfirst, h⟩ := bind_eq_ok (readRange_eq m [x] ▸ h)
  by_cases hx : x = '\\'
  · subst hx
    cases hfirst
  · have hread : readClassAtom m [x] = .ok (.char x, []) := by simp [readClassAtom]
    rw [hread] at hfirst
    cases hfirst
    simp only [readRangeFrom, Mode.skip_nil] at h
    cases h

/-- A class is read up to a closing bracket, whatever comes after it. -/
theorem readClassFrom_append :
    ∀ {n k : Nat} {c : OpenClass} {outer : List OpenClass} {text rest : List Char} {p : Part},
      readClassFrom m n c outer text = .ok (p, rest) → n ≤ k →
      rest <:+ text ∧ ']' ∈ text ∧
        ∀ more, readClassFrom m k c outer (text ++ more) = .ok (p, rest ++ more)
  | 0, _, _, _, _, _, _, h, _ => by cases h
  | _ + 1, 0, _, _, _, _, _, _, hk => by omega
  | n + 1, k + 1, c, outer, text, rest, p, h, hk => by
    -- the rounds after this one read an end of the text, up to their own bracket
    have hround : ∀ {c' : OpenClass} {outer' : List OpenClass} {text' : List Char},
        readClassFrom m n c' outer' text' = .ok (p, rest) → text' <:+ text →
        (']' ∈ text' → ∀ more, readClassFrom m (k + 1) c outer (text ++ more)
          = readClassFrom m k c' outer' (text' ++ more)) →
        rest <:+ text ∧ ']' ∈ text ∧
          ∀ more, readClassFrom m (k + 1) c outer (text ++ more) = .ok (p, rest ++ more) :=
      fun h hs heq => by
        obtain ⟨hs', hb, happ⟩ := readClassFrom_append h (Nat.le_of_succ_le_succ hk)
        exact ⟨hs'.trans hs, hs.subset hb, fun more => (heq hb more).trans (happ more)⟩
    have hs := m.skip_suffix text
    rcases htext : m.skip text with _ | ⟨x, xs⟩
    · simp only [readClassFrom, htext] at h
      cases h
    have happend : ∀ more, m.skip (text ++ more) = x :: (xs ++ more) :=
      fun _ => Mode.skip_append_of_cons htext
    rw [htext] at hs
    have hxs := (List.suffix_cons x xs).trans hs
    by_cases hopen : x = '['
    · subst hopen
      rcases hascii : readAsciiClass? xs with _ | ⟨chars, negated, rest'⟩
      · rcases hinner : openClass m xs with ⟨inner, rest'⟩
        simp only [readClassFrom, htext, hascii, hinner] at h
        obtain ⟨hsi, happi⟩ := openClass_append m hinner
        refine hround h (hsi.trans hxs) fun hb more => ?_
        simp only [readClassFrom, happend, readAsciiClass?_append_none hascii (hsi.subset hb) more,
          happi (List.ne_nil_of_mem hb) more]
      · simp only [readClassFrom, htext, hascii] at h
        obtain ⟨set, hset, h⟩ := bind_eq_ok h
        obtain ⟨hsa, happa⟩ := readAsciiClass?_append hascii
        refine hround h (hsa.trans hxs) fun hb more => ?_
        simp only [readClassFrom, happend, happa more, hset, ok_bind]
    by_cases hclose : x = ']'
    · subst hclose
      simp only [readClassFrom, htext] at h
      obtain ⟨inner, hinner, h⟩ := bind_eq_ok h
      rcases outer with _ | ⟨next, outer⟩
      · cases h
        refine ⟨hxs, hs.subset List.mem_cons_self, fun more => ?_⟩
        simp only [readClassFrom, happend, hinner, ok_bind]
        rfl
      · refine hround h hxs fun hb more => ?_
        simp only [readClassFrom, happend, hinner, ok_bind]
    rcases @isClassItem_or_operator m _ x xs hopen hclose with hitem | ⟨ys, op, rfl, hop⟩
    · rw [readClassFrom_item m htext hitem] at h
      obtain ⟨⟨chars, rest'⟩, hrange, hrest⟩ := bind_eq_ok h
      obtain ⟨hsr, happr⟩ := readRange_extends m hrange
      rcases xs with _ | ⟨y, ys⟩
      · exact absurd hrange (readRange_singleton m x _)
      refine hround hrest (hsr.trans hs) fun hb more => ?_
      have happr := happr (List.ne_nil_of_mem hb) more
      rw [readClassFrom_item m (happend more) (hitem.append more)]
      exact happr ▸ rfl
    · rw [hop htext] at h
      exact hround h ((List.suffix_cons x ys).trans hxs) fun _ more => hop (happend more)

/-- A class ends with its bracket; the text after it is left. -/
theorem readClass_append {text rest : List Char} {p : Part} (h : readClass m text = .ok (p, rest)) :
    rest <:+ text ∧ ∀ more, readClass m (text ++ more) = .ok (p, rest ++ more) := by
  rcases hopen : openClass m text with ⟨c, text'⟩
  simp only [readClass, hopen] at h
  obtain ⟨hsi, happi⟩ := openClass_append m hopen
  obtain ⟨hs, hb, -⟩ := readClassFrom_append m h (Nat.le_refl _)
  refine ⟨hs.trans hsi, fun more => ?_⟩
  simp only [readClass, happi (List.ne_nil_of_mem hb) more]
  exact (readClassFrom_append m h (by simp)).2.2 more

end Classes

end ModalLex.Pattern
