import ModalLex.Pattern.Mode
import Mathlib.Data.List.Basic

/-!
# Text that does not count

Where the text that does not count ends within a text, more text after it changes nothing
(`skip_append`, `gather_append`). Where it goes on to the end, the text after it is skipped too, as
blanks or as the rest of a comment (`skip_append_of_nil`).
-/

namespace ModalLex.Pattern.Mode

section Blanks

variable {more : List Char}

theorem skipBlanks_suffix : ∀ (comment : Bool) (text : List Char), skipBlanks comment text <:+ text
  | _, [] => List.suffix_refl _
  | comment, c :: cs => by
    simp only [skipBlanks]
    split
    · exact (skipBlanks_suffix _ cs).trans (List.suffix_cons c cs)
    · split
      · exact (skipBlanks_suffix _ cs).trans (List.suffix_cons c cs)
      · split
        · exact (skipBlanks_suffix _ cs).trans (List.suffix_cons c cs)
        · exact List.suffix_refl _

theorem skipBlanks_skipBlanks :
    ∀ (comment : Bool) (text : List Char),
      skipBlanks false (skipBlanks comment text) = skipBlanks comment text
  | _, [] => rfl
  | comment, c :: cs => by
    simp only [skipBlanks]
    split
    · exact skipBlanks_skipBlanks _ cs
    · split
      · exact skipBlanks_skipBlanks _ cs
      · split
        · exact skipBlanks_skipBlanks _ cs
        · rename_i hw hc
          simp [skipBlanks, hw, hc]

theorem skipBlanks_append :
    ∀ {comment : Bool} {text : List Char}, skipBlanks comment text ≠ [] →
      skipBlanks comment (text ++ more) = skipBlanks comment text ++ more
  | _, [], h => absurd rfl h
  | comment, c :: cs, h => by
    simp only [skipBlanks, List.cons_append] at h ⊢
    split at h
    · rename_i hcomment
      rw [if_pos hcomment, if_pos hcomment]
      exact skipBlanks_append h
    · rename_i hcomment
      rw [if_neg hcomment, if_neg hcomment]
      split at h
      · rename_i hw
        rw [if_pos hw, if_pos hw]
        exact skipBlanks_append h
      · rename_i hw
        rw [if_neg hw, if_neg hw]
        split at h
        · rename_i hc
          rw [if_pos hc, if_pos hc]
          exact skipBlanks_append h
        · rename_i hc
          rw [if_neg hc, if_neg hc]
          rfl

theorem skipBlanks_append_of_nil :
    ∀ {comment : Bool} {text : List Char}, skipBlanks comment text = [] →
      ∃ within, ∀ more, skipBlanks comment (text ++ more) = skipBlanks within more
  | comment, [], _ => ⟨comment, fun _ => rfl⟩
  | comment, c :: cs, h => by
    simp only [skipBlanks, List.cons_append] at h ⊢
    split at h
    · rename_i hcomment
      simp only [if_pos hcomment]
      exact skipBlanks_append_of_nil h
    · rename_i hcomment
      simp only [if_neg hcomment]
      split at h
      · rename_i hw
        simp only [if_pos hw]
        exact skipBlanks_append_of_nil h
      · rename_i hw
        simp only [if_neg hw]
        split at h
        · rename_i hc
          simp only [if_pos hc]
          exact skipBlanks_append_of_nil h
        · cases h

end Blanks

variable {m : Mode} {text more : List Char}

theorem skip_suffix (m : Mode) (text : List Char) : m.skip text <:+ text := by
  unfold skip
  split
  · exact skipBlanks_suffix false text
  · exact List.suffix_refl text

@[simp] theorem skip_nil (m : Mode) : m.skip [] = [] := by
  unfold skip
  split <;> rfl

@[simp] theorem skip_skip (m : Mode) (text : List Char) : m.skip (m.skip text) = m.skip text := by
  unfold skip
  split
  · exact skipBlanks_skipBlanks false text
  · rfl

theorem skip_of_counts {c : Char} (hw : Unicode.whiteSpace.contains c = false) (hc : c ≠ '#')
    (cs : List Char) : m.skip (c :: cs) = c :: cs := by
  unfold skip
  split
  · simp [skipBlanks, hw, hc]
  · rfl

theorem skip_append (h : m.skip text ≠ []) : m.skip (text ++ more) = m.skip text ++ more := by
  unfold skip at h ⊢
  split
  · rename_i hx
    rw [if_pos hx] at h
    exact skipBlanks_append h
  · rfl

theorem skip_append_of_cons {c : Char} {cs : List Char} (h : m.skip text = c :: cs) :
    m.skip (text ++ more) = c :: (cs ++ more) := by
  rw [skip_append (by simp [h]), h, List.cons_append]

/-- The text from what counts on, where a comment may stand open before it. -/
def skipAfter (m : Mode) (comment : Bool) (text : List Char) : List Char :=
  if comment then skipBlanks true text else m.skip text

/-- After a text that does not count, the text is skipped as after nothing or as in a comment. -/
theorem skip_append_of_nil (h : m.skip text = []) :
    ∃ comment, (comment = true → m.ignoreWhitespace = true) ∧
      ∀ more, m.skip (text ++ more) = m.skipAfter comment more := by
  unfold skip at h
  by_cases hx : m.ignoreWhitespace = true
  · rw [if_pos hx] at h
    obtain ⟨within, hmore⟩ := skipBlanks_append_of_nil h
    refine ⟨within, fun _ => hx, fun more => ?_⟩
    rw [skip, if_pos hx, hmore, skipAfter, skip, if_pos hx]
    cases within <;> rfl
  · rw [if_neg hx] at h
    refine ⟨false, by simp, fun more => ?_⟩
    rw [h]
    rfl

/-! ## Looking ahead -/

theorem look_append {c : Char} :
    ∀ {comment : Bool} {text : List Char}, peek.look comment text = some c →
      peek.look comment (text ++ more) = some c
  | _, [], h => by simp [peek.look] at h
  | comment, d :: ds, h => by
    simp only [peek.look, List.cons_append] at h ⊢
    split at h
    · rename_i hw
      rw [if_pos hw]
      exact look_append h
    · rename_i hw
      rw [if_neg hw]
      split at h
      · rename_i hd
        rw [if_pos hd]
        exact look_append h
      · rename_i hd
        rwa [if_neg hd]

/-- Where a look ahead finds nothing, nothing counts. -/
theorem skipBlanks_eq_nil_of_look :
    ∀ {comment hides : Bool} {text : List Char}, (comment → hides) →
      peek.look hides text = none → skipBlanks comment text = []
  | _, _, [], _, _ => rfl
  | comment, hides, c :: cs, hle, h => by
    simp only [peek.look] at h
    simp only [skipBlanks]
    split at h
    · split
      · rename_i hcomment
        exact skipBlanks_eq_nil_of_look (fun _ => hle hcomment) h
      · exact skipBlanks_eq_nil_of_look (by simp) h
    · rename_i hw
      split at h
      · rename_i hc
        have hcomment : comment = false := by
          cases comment <;> simp_all
        rw [hcomment, if_neg (by simp), if_neg hw, if_pos hc.1]
        exact skipBlanks_eq_nil_of_look (by simp) h
      · cases h

theorem look_ne_none (hx : m.ignoreWhitespace = true)
    (h : m.skip text ≠ [] ∨ m.peek text = some ']' ∨ m.peek text = some '-') :
    ∃ c, peek.look false text = some c := by
  by_contra hnone
  have hnone : peek.look false text = none := by
    rcases hlook : peek.look false text with _ | c
    · rfl
    · exact absurd ⟨c, hlook⟩ hnone
  have hskip : m.skip text = [] := by
    rw [skip, if_pos hx]
    exact skipBlanks_eq_nil_of_look (by simp) hnone
  have hpeek : m.peek text = text.head? := by
    rw [peek, if_pos hx, hnone, Option.none_or]
  rw [hpeek] at h
  cases text with
  | nil => simp at h
  | cons c cs =>
    simp only [hskip, ne_eq, not_true_eq_false, List.head?_cons, Option.some.injEq,
      false_or] at h
    have hbracket : Unicode.whiteSpace.contains ']' = false := by decide
    have hhyphen : Unicode.whiteSpace.contains '-' = false := by decide
    rcases h with rfl | rfl
    · simp [peek.look, hbracket] at hnone
    · simp [peek.look, hhyphen] at hnone

/-- What is seen ahead does not change with more text after it. -/
theorem peek_append
    (h : m.skip text ≠ [] ∨ m.peek text = some ']' ∨ m.peek text = some '-') :
    m.peek (text ++ more) = m.peek text := by
  by_cases hx : m.ignoreWhitespace = true
  · obtain ⟨c, hc⟩ := look_ne_none hx h
    rw [peek, peek, if_pos hx, if_pos hx, hc, look_append hc]
    rfl
  · cases text with
    | nil => simp [hx, skip, peek] at h
    | cons c cs => rw [peek, peek, if_neg hx, if_neg hx]; rfl

/-! ## Gathering -/

theorem gather_go_suffix (m : Mode) (p : Char → Bool) :
    ∀ (n : Nat) (text : List Char), (gather.go m p n text).2 <:+ text
  | 0, text => List.suffix_refl text
  | _ + 1, [] => List.suffix_refl []
  | n + 1, c :: cs => by
    simp only [gather.go]
    split
    · exact ((gather_go_suffix m p n (m.skip cs)).trans (m.skip_suffix cs)).trans
        (List.suffix_cons c cs)
    · exact List.suffix_refl _

theorem gather_suffix {p : Char → Bool} {word rest : List Char}
    (h : m.gather p text = (word, rest)) : rest <:+ text := by
  have hs := gather_go_suffix m p text.length text
  rwa [show gather.go m p text.length text = (word, rest) from h] at hs

theorem gather_go_append {p : Char → Bool} :
    ∀ {n k : Nat} {text : List Char}, text.length ≤ n → n ≤ k → (gather.go m p n text).2 ≠ [] →
      gather.go m p k (text ++ more)
        = ((gather.go m p n text).1, (gather.go m p n text).2 ++ more)
  | 0, _, [], _, _, h => absurd rfl h
  | 0, _, _ :: _, hn, _, _ => by simp at hn
  | _ + 1, _, [], _, _, h => absurd rfl h
  | _ + 1, 0, _ :: _, _, hk, _ => by omega
  | n + 1, k + 1, c :: cs, hn, hk, h => by
    simp only [gather.go, List.cons_append] at h ⊢
    split at h
    · rename_i hp
      have hskip : m.skip cs ≠ [] := fun hnil => by
        simp only [hnil] at h
        cases n <;> exact h rfl
      have hlen : (m.skip cs).length ≤ n := by
        have := (m.skip_suffix cs).length_le
        simp only [List.length_cons] at hn
        omega
      rw [if_pos hp, skip_append hskip, gather_go_append hlen (Nat.le_of_succ_le_succ hk) h]
      simp [hp]
    · rename_i hp
      simp [hp]

theorem gather_append {p : Char → Bool} {word rest : List Char}
    (h : m.gather p text = (word, rest)) (hne : rest ≠ []) :
    m.gather p (text ++ more) = (word, rest ++ more) := by
  have hgo : gather.go m p text.length text = (word, rest) := h
  have happ := @gather_go_append m more p text.length (text ++ more).length text (Nat.le_refl _)
    (by simp) (by simpa only [hgo] using hne)
  rwa [hgo] at happ

end ModalLex.Pattern.Mode
