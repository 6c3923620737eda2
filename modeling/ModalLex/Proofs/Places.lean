import ModalLex.ScanState

/-!
# Places in a text

A place is told by the text before it. Its offset is the byte length of that text, and what is
found there is what comes after it (`seek_append`). Index, row and column count in it too:
characters, newlines, and characters since the last newline; a state that is moved past a text
keeps these counts (`advance_after`).
-/

namespace ModalLex

namespace Text

theorem byteLength_toList (s : String) : byteLength s.toList = s.utf8ByteSize := by
  have h : ∀ cs : List Char, (String.ofList cs).utf8ByteSize = byteLength cs := by
    intro cs
    induction cs with
    | nil => rfl
    | cons c cs ih =>
      rw [← List.singleton_append, String.ofList_append, String.utf8ByteSize_append, ih,
        byteLength_append, ← String.singleton_eq_ofList, String.utf8ByteSize_singleton]
      rfl
  rw [← h, String.ofList_toList]

/-- A text has one place at an offset. -/
theorem eq_of_byteLength_eq :
    ∀ {a b c d : List Char}, a ++ b = c ++ d → byteLength a = byteLength c → a = c ∧ b = d
  | [], _, [], _, h, _ => ⟨rfl, h⟩
  | [], _, x :: c, _, _, hl => by
    have := x.utf8Size_pos
    simp only [byteLength_nil, byteLength_cons] at hl
    omega
  | x :: a, _, [], _, _, hl => by
    have := x.utf8Size_pos
    simp only [byteLength_nil, byteLength_cons] at hl
    omega
  | x :: a, b, y :: c, d, h, hl => by
    simp only [List.cons_append, List.cons.injEq] at h
    obtain ⟨rfl, h⟩ := h
    simp only [byteLength_cons] at hl
    obtain ⟨rfl, rfl⟩ := eq_of_byteLength_eq h (by omega)
    exact ⟨rfl, rfl⟩

/-! ## What is found at an offset -/

theorem seekFrom_append (c : Char) (rest : List Char) :
    ∀ (before : List Char) (index : Nat) (last : List Char),
      seekFrom index last (byteLength before) (before ++ c :: rest)
        = .at (index + before.length) (before.getLast?.or last.head?) c rest
  | [], index, last => by simp [seekFrom]
  | d :: before, index, last => by
    have := d.utf8Size_pos
    simp only [List.cons_append, byteLength_cons, seekFrom,
      show d.utf8Size + byteLength before ≠ 0 by omega, if_false,
      show d.utf8Size ≤ d.utf8Size + byteLength before by omega, if_true,
      show d.utf8Size + byteLength before - d.utf8Size = byteLength before by omega]
    rw [seekFrom_append c rest before, List.getLast?_cons, List.length_cons]
    cases before.getLast? <;> simp [Nat.add_comm, Nat.add_left_comm]

/-- Where a character comes after a text, it is found at the offset of the text's end. -/
theorem seek_append (before : List Char) (c : Char) (rest : List Char) :
    seek (byteLength before) (before ++ c :: rest)
      = .at before.length before.getLast? c rest := by
  rw [seek, seekFrom_append]
  simp

theorem exists_of_seekFrom_eq_at {i : Nat} {b : Option Char} {c : Char} {rest : List Char} :
    ∀ {text : List Char} {index : Nat} {last : List Char} {offset : Nat},
      seekFrom index last offset text = .at i b c rest →
      ∃ before, text = before ++ c :: rest ∧ byteLength before = offset
  | [], _, _, _, h => by simp [seekFrom] at h
  | d :: text, index, last, offset, h => by
    simp only [seekFrom] at h
    split at h
    · rename_i h0
      simp only [Spot.at.injEq] at h
      obtain ⟨-, -, rfl, rfl⟩ := h
      exact ⟨[], rfl, h0.symm⟩
    · split at h
      · obtain ⟨before, rfl, hb⟩ := exists_of_seekFrom_eq_at h
        exact ⟨d :: before, rfl, by simp only [byteLength_cons]; omega⟩
      · cases h

/-- A character that is found at an offset comes after a text of so many bytes. -/
theorem exists_of_seek_eq_at {text rest : List Char} {offset i : Nat} {b : Option Char} {c : Char}
    (h : seek offset text = .at i b c rest) :
    ∃ before, text = before ++ c :: rest ∧ byteLength before = offset ∧ i = before.length
      ∧ b = before.getLast? := by
  obtain ⟨before, rfl, rfl⟩ := exists_of_seekFrom_eq_at h
  rw [seek_append] at h
  simp only [Spot.at.injEq, and_true] at h
  exact ⟨before, rfl, rfl, h.1.symm, h.2.symm⟩

theorem byteLength_le_of_seekFrom {i : Option Nat} :
    ∀ {text : List Char} {index : Nat} {last : List Char} {offset : Nat},
      seekFrom index last offset text = .past i → byteLength text ≤ offset
  | [], _, _, _, _ => Nat.zero_le _
  | c :: text, index, last, offset, h => by
    simp only [seekFrom] at h
    split at h
    · cases h
    · split at h
      · have := byteLength_le_of_seekFrom h
        simp only [byteLength_cons]
        omega
      · cases h

/-- Nothing is found exactly from the end of the text on. -/
theorem seek_eq_past_iff {text : List Char} {offset : Nat} :
    (∃ i, seek offset text = .past i) ↔ byteLength text ≤ offset :=
  ⟨fun ⟨_, h⟩ => byteLength_le_of_seekFrom h, fun h => exists_seekFrom_eq_past h 0 []⟩

/-- The offset lies between two characters of the text, or at one of its ends. -/
def IsBoundary (offset : Nat) (text : List Char) : Prop :=
  ∃ before after, text = before ++ after ∧ byteLength before = offset

theorem lt_and_isBoundary_iff {offset : Nat} {text : List Char} :
    offset < byteLength text ∧ IsBoundary offset text ↔
      ∃ before c rest, text = before ++ c :: rest ∧ byteLength before = offset := by
  constructor
  · rintro ⟨hlt, before, after, rfl, rfl⟩
    cases after with
    | nil => simp at hlt
    | cons c rest => exact ⟨before, c, rest, rfl, rfl⟩
  · rintro ⟨before, c, rest, rfl, rfl⟩
    have := c.utf8Size_pos
    refine ⟨?_, before, c :: rest, rfl, rfl⟩
    simp only [byteLength_append, byteLength_cons]
    omega

/-! ## Rows and columns -/

/-- The row in which a text ends. -/
def rowAfter (text : List Char) : Nat := 1 + text.count '\n'

/-- The column in which a text ends: one more than the characters after its last newline. -/
def columnAfter (text : List Char) : Nat := 1 + (text.reverse.takeWhile (· ≠ '\n')).length

/-- The characters after the last newline of a text, or all of them if it has none. -/
def lastRow (text : List Char) : List Char := (text.reverse.takeWhile (· ≠ '\n')).reverse

theorem length_lastRow (p : List Char) : columnAfter p = 1 + (lastRow p).length := by
  rw [lastRow, List.length_reverse, columnAfter]

end Text

namespace ScanState

theorem advance_context (s : ScanState) (text : List Char) :
    (s.advance text).context = s.context := by
  induction text generalizing s with
  | nil => rfl
  | cons c text ih =>
    refine (ih (s.advanceChar c)).trans ?_
    unfold advanceChar
    split <;> rfl

/-- The state in a context at the end of a text. -/
def after (context : ContextId) (text : List Char) : ScanState :=
  ⟨context, text.length, Text.byteLength text, Text.rowAfter text, Text.columnAfter text⟩

theorem advanceChar_after (context : ContextId) (text : List Char) (c : Char) :
    (after context text).advanceChar c = after context (text ++ [c]) := by
  by_cases h : c = '\n'
  · subst h
    simp [advanceChar, after, Text.rowAfter, Text.columnAfter, Nat.add_assoc]
  · simp [advanceChar, after, Text.rowAfter, Text.columnAfter, h, Nat.add_comm]

/-- A state at the end of a text, moved past more text, is at the end of both. -/
theorem advance_after (context : ContextId) (before : List Char) :
    ∀ text : List Char, (after context before).advance text = after context (before ++ text)
  | [] => by simp [advance]
  | c :: text => by
    have h := advance_after context (before ++ [c]) text
    rw [← advanceChar_after, List.append_assoc, List.singleton_append] at h
    exact h

end ScanState

end ModalLex
