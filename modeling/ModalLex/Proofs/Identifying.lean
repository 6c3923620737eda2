import Mathlib
import ModalLex.Proofs.Reaching
import ModalLex.Proofs.Registering

/-!
# Errors that identify a context

A quoted text is read back character by character: after a backslash stands a letter, the character
itself, or a code point in braces, and the mark at the end stands for no character. So two texts
that are quoted alike are the same, and an id is known from its written form. Hence what an error
tells of a context that is unknown or registered twice tells which context it is
(`identifies_context`).
-/

namespace ModalLex

namespace Text

/-- The number that hexadecimal digits stand for. -/
def codePoint (digits : List Char) : Nat :=
  digits.foldl (fun n d => 16 * n + (Pattern.hexValue? d).getD 0) 0

/-- The character that a letter stands for after a backslash. -/
def unescaped : Char → Char
  | '0' => '\x00'
  | 't' => '\t'
  | 'n' => '\n'
  | 'r' => '\r'
  | c => c

/-- Reads what stands after a backslash. -/
def readEscape? : List Char → Option (Char × List Char)
  | [] => none
  | c :: rest =>
    if c = 'u' then
      let digits := (rest.drop 1).takeWhile (· ≠ '\x7d')
      some (.ofNat (codePoint digits), rest.drop (digits.length + 2))
    else some (unescaped c, rest)

/-- Reads the first character of a text in which characters are escaped. -/
def readEscaped? : List Char → Option (Char × List Char)
  | [] => none
  | c :: rest => if c = '\\' then readEscape? rest else some (c, rest)

/-! ## Code points -/

theorem codePoint_concat (digits : List Char) (d : Char) :
    codePoint (digits ++ [d]) = 16 * codePoint digits + (Pattern.hexValue? d).getD 0 := by
  simp [codePoint]

theorem hexValue?_digitChar : ∀ d < 16, Pattern.hexValue? d.digitChar = some d := by decide

theorem codePoint_toDigits (n : Nat) : codePoint (Nat.toDigits 16 n) = n := by
  induction n using Nat.strongRecOn with
  | ind n ih =>
    rw [Nat.toDigits_eq_if (by decide)]
    split
    · rename_i hlt
      simp [codePoint, hexValue?_digitChar n hlt]
    · have hmod : n % 16 < 16 := Nat.mod_lt n (by decide)
      rw [codePoint_concat, ih (n / 16) (by omega), hexValue?_digitChar _ hmod, Option.getD_some]
      omega

theorem ne_brace_of_mem_toDigits {n : Nat} {c : Char} (h : c ∈ Nat.toDigits 16 n) :
    c ≠ '\x7d' := by
  induction n using Nat.strongRecOn with
  | ind n ih =>
    rw [Nat.toDigits_eq_if (by decide)] at h
    split at h
    · rw [List.mem_singleton.1 h]
      exact Nat.digitChar_ne _ rfl
    · rcases List.mem_append.1 h with h | h
      · exact ih (n / 16) (by omega) h
      · rw [List.mem_singleton.1 h]
        exact Nat.digitChar_ne _ rfl

/-! ## Quoted text -/

/-- A code point in braces is read back as its character. -/
theorem readEscape?_codePoint (c : Char) (rest : List Char) :
    readEscape? ('u' :: '\x7b' :: (Nat.toDigits 16 c.toNat ++ '\x7d' :: rest))
      = some (c, rest) := by
  have hdigits : (Nat.toDigits 16 c.toNat ++ '\x7d' :: rest).takeWhile (· ≠ '\x7d')
      = Nat.toDigits 16 c.toNat := by
    rw [List.takeWhile_append_of_pos (by simpa using fun d => ne_brace_of_mem_toDigits)]
    simp
  simp only [readEscape?, if_true, List.drop_succ_cons, List.drop_zero, hdigits,
    codePoint_toDigits, Char.ofNat_toNat]
  simp

/-- A character is read back from the way it is escaped, whatever stands after it. -/
theorem readEscaped?_escape (c : Char) (rest : List Char) :
    readEscaped? (escape '"' c ++ rest) = some (c, rest) := by
  unfold escape
  split_ifs with h0 ht hn hr hself hpoint
  · subst h0; rfl
  · subst ht; rfl
  · subst hn; rfl
  · subst hr; rfl
  · rcases hself with rfl | rfl <;> rfl
  · simpa [readEscaped?] using readEscape?_codePoint c rest
  · obtain ⟨hne, -⟩ := not_or.1 hself
    simp [readEscaped?, hne]

/-- The mark at the end stands for no character. -/
theorem escape_append_ne (c : Char) (rest more : List Char) :
    escape '"' c ++ rest ≠ '"' :: more := by
  unfold escape
  split_ifs with _ _ _ _ hself <;> simp_all

/-- Where two escaped texts go on with the mark, they are the same up to it. -/
theorem escape_injective :
    ∀ {cs ds xs ys : List Char},
      cs.flatMap (escape '"') ++ '"' :: xs = ds.flatMap (escape '"') ++ '"' :: ys →
        cs = ds ∧ xs = ys
  | [], [], _, _, h => ⟨rfl, (List.cons.inj h).2⟩
  | [], d :: ds, _, _, h => by
    rw [List.flatMap_cons, List.append_assoc] at h
    exact absurd h.symm (escape_append_ne d _ _)
  | c :: cs, [], _, _, h => by
    rw [List.flatMap_cons, List.append_assoc] at h
    exact absurd h (escape_append_ne c _ _)
  | c :: cs, d :: ds, xs, ys, h => by
    rw [List.flatMap_cons, List.flatMap_cons, List.append_assoc, List.append_assoc] at h
    have hread := congrArg readEscaped? h
    rw [readEscaped?_escape, readEscaped?_escape] at hread
    obtain ⟨rfl, hrest⟩ := Prod.mk.inj (Option.some.inj hread)
    obtain ⟨rfl, rfl⟩ := escape_injective hrest
    exact ⟨rfl, rfl⟩

theorem quoted_inj {s t : String} : quoted s = quoted t ↔ s = t := by
  refine ⟨fun h => ?_, congrArg quoted⟩
  have hchars : quotedWith '"' s.toList = quotedWith '"' t.toList := String.ofList_injective h
  exact String.toList_inj.1 (escape_injective (List.cons.inj hchars).2).1

theorem wrapped_inj {name value value' : String} :
    wrapped name value = wrapped name value' ↔ value = value' := by
  simp [wrapped, ← String.toList_inj]

end Text

namespace ContextId

/-- A name and a number are never written alike, whatever the name says. -/
theorem written_name_ne (text : String) (number : Int) :
    (name text).written ≠ (index number).written := by
  simp [written, Text.wrapped, ← String.toList_inj]

theorem written_inj {a b : ContextId} : a.written = b.written ↔ a = b := by
  cases a with
  | name s =>
    cases b with
    | name t => simp only [written, Text.wrapped_inj, Text.quoted_inj, name.injEq]
    | index n => simp [written_name_ne]
  | index n =>
    cases b with
    | name t => simp [(written_name_ne t n).symm]
    | index m =>
      simp only [written, Text.wrapped_inj, Int.toString_eq_repr, Int.repr_inj, index.injEq]

end ContextId

/-- The written form of the context that a cause tells of, if it tells of one. -/
def Cause.context? : Cause → Option String
  | duplicateContext text | unknownContext text => some text
  | _ => none

namespace Lexer

variable {l : Lexer} {input : List Char} {s : ScanState} {e : Error} {text : String}

/-- What a context says is wrong is never that one is unknown. -/
theorem cause_of_matchAt {c : Context} {offset row column : Nat}
    (h : c.matchAt input offset row column = .error e) : e.cause ≠ .unknownContext text := by
  unfold Context.matchAt Context.matchSpot at h
  split at h
  · cases h; simp
  · cases h; simp
  · simp only at h
    split at h <;> cases h <;> simp

/-- A context that a step tells to be unknown is not in the table. -/
theorem unknownContext_of_step (h : l.step input s = .failed e)
    (hcause : e.cause = .unknownContext text) :
    ∃ id, l.context? id = none ∧ id.written = text := by
  have hlt : s.offset < Text.byteLength input := Nat.lt_of_not_le fun hle => by
    rw [step_eq_ended_iff.2 hle] at h
    cases h
  rcases hc : l.context? s.context with _ | c
  · rw [step_of_context?_eq_none hlt hc] at h
    cases h
    cases hcause
    exact ⟨s.context, hc, rfl⟩
  · rw [step_eq_of_lt hlt hc] at h
    rcases hm : c.matchAt input s.offset s.row s.column with e' | m
    · rw [hm] at h
      cases h
      exact absurd hcause (cause_of_matchAt hm)
    · rw [hm] at h
      obtain ⟨-, ⟨-, hnone, hunknown⟩ | ⟨-, -, hmissing⟩⟩ := stepOfMatch_eq_failed_iff.1 h
      · rw [hunknown] at hcause
        exact ⟨m.next, hnone, Cause.unknownContext.inj hcause⟩
      · rw [hmissing] at hcause
        cases hcause

/-- What errors tell of contexts is alike exactly if the contexts are the same. So the text of an
unknown context stands for one id only, which is not in the table, and the text of a repeated one
for the first id that repeats an earlier one. -/
theorem identifies_context :
    (∀ (a b : ContextId) (p q : Position),
      ((unknownContext a p).cause.context? = (unknownContext b q).cause.context? ↔ a = b) ∧
      ((duplicateContext a).cause.context? = (duplicateContext b).cause.context? ↔ a = b) ∧
      ((unknownContext a p).cause.context? = (duplicateContext b).cause.context? ↔ a = b)) ∧
    (∀ (l : Lexer) input s e text, l.scan input s = .error e → e.cause = .unknownContext text →
      ∃ id, l.context? id = none ∧ ∀ other : ContextId, other.written = text ↔ other = id) ∧
    ∀ contexts e text, ofContexts contexts = .error e → e.cause = .duplicateContext text →
      ∃ place id, FirstRepeat (contexts.map (·.1)) place id ∧
        ∀ other : ContextId, other.written = text ↔ other = id := by
  refine ⟨fun a b p q => ?_, fun l input s e text hscan hcause => ?_,
    fun contexts e text h hcause => ?_⟩
  · simp only [unknownContext, duplicateContext, Cause.context?, Option.some.injEq,
      ContextId.written_inj, and_self]
  · obtain ⟨q, -, hfailed⟩ := exists_passes_of_scan hscan
    obtain ⟨id, hnone, rfl⟩ := unknownContext_of_step hfailed hcause
    exact ⟨id, hnone, fun other => ContextId.written_inj⟩
  · rcases ofContexts_eq_error_iff.1 h with ⟨-, rfl⟩ | ⟨place, id, hrepeat, rfl⟩
    · cases hcause
    · cases hcause
      exact ⟨place, id, hrepeat, fun other => ContextId.written_inj⟩

open scoped Unicode in
/-- The name that is written inside its quotes like a number is not the number. -/
theorem identifies_context_strayLexer :
    let e : Error := ⟨.unknownContext "Name(\"gone\")", some (.point 0 0 1 1)⟩
    strayLexer.Built ∧ strayLexer.scan ['b'] strayLexer.initialState = .error e ∧
      (∃ id, strayLexer.context? id = none ∧
        ∀ other : ContextId, other.written = "Name(\"gone\")" ↔ other = id) ∧
      (unknownContext (.name "Index(1)") (.point 0 0 1 1)).cause.context?
        ≠ (duplicateContext (.index 1)).cause.context? := by
  intro e
  have hscan : strayLexer.scan ['b'] strayLexer.initialState = .error e := by
    simp only [e, ← written_gone]
    exact scan_eq_of_step_failed rfl
  obtain ⟨halike, hunknown, -⟩ := identifies_context
  refine ⟨by decide +kernel, hscan, hunknown strayLexer _ _ _ _ hscan rfl, fun h => ?_⟩
  have := (halike (.name "Index(1)") (.index 1) (.point 0 0 1 1) (.point 0 0 1 1)).2.2.1 h
  cases this

end Lexer

end ModalLex
