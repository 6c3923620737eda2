/-!
# Places in a text by byte offset

An offset counts the bytes of the encoded characters before a place. It may lie past the text, or
within a character.
-/

namespace ModalLex.Text

/-- The bytes that a text takes. -/
def byteLength : List Char → Nat
  | [] => 0
  | c :: rest => c.utf8Size + byteLength rest

/-- What is found at an offset. -/
inductive Spot where
  /-- The end of the text, after so many characters; or a place beyond the end. -/
  | past (index : Option Nat)
  | within
  /-- A character, with the number of characters before it, the last one of them, and the text
  after it. -/
  | at (index : Nat) (before : Option Char) (c : Char) (rest : List Char)
deriving DecidableEq, Repr

/-- Goes on by `offset` bytes from a place that `index` characters come before; `last` is the text
from the last of them on. -/
def seekFrom (index : Nat) (last : List Char) (offset : Nat) : List Char → Spot
  | [] => .past (if offset = 0 then some index else none)
  | c :: rest =>
    if offset = 0 then .at index last.head? c rest
    else if c.utf8Size ≤ offset then
      seekFrom (index + 1) (c :: rest) (offset - c.utf8Size) rest
    else .within

/-- What is found at an offset of a text. -/
def seek (offset : Nat) (text : List Char) : Spot := seekFrom 0 [] offset text

@[simp] theorem byteLength_nil : byteLength [] = 0 := rfl

@[simp] theorem byteLength_cons (c : Char) (text : List Char) :
    byteLength (c :: text) = c.utf8Size + byteLength text := rfl

@[simp] theorem byteLength_append (a b : List Char) :
    byteLength (a ++ b) = byteLength a + byteLength b := by
  induction a with
  | nil => simp
  | cons c a ih => simp only [List.cons_append, byteLength_cons, ih]; omega

theorem byteLength_take_drop_le (text : List Char) (first length : Nat) :
    byteLength ((text.drop first).take length) ≤ byteLength text := by
  have hdrop := congrArg byteLength (List.take_append_drop first text)
  have htake := congrArg byteLength (List.take_append_drop length (text.drop first))
  rw [byteLength_append] at hdrop htake
  omega

/-- A text takes a byte at least for each of its characters. -/
theorem length_le_byteLength (text : List Char) : text.length ≤ byteLength text := by
  induction text with
  | nil => exact Nat.le_refl 0
  | cons c text ih =>
    have := c.utf8Size_pos
    simp only [List.length_cons, byteLength_cons]
    omega

theorem byteLength_pos {text : List Char} (h : text ≠ []) : 0 < byteLength text := by
  cases text with
  | nil => contradiction
  | cons c text => have := c.utf8Size_pos; simp only [byteLength_cons]; omega

/-- Nothing is found from the end of the text on. -/
theorem exists_seekFrom_eq_past {offset : Nat} {text : List Char}
    (h : byteLength text ≤ offset) (index : Nat) (last : List Char) :
    ∃ i, seekFrom index last offset text = .past i := by
  induction text generalizing offset index last with
  | nil => exact ⟨_, rfl⟩
  | cons c text ih =>
    have := c.utf8Size_pos
    simp only [byteLength_cons] at h
    simp only [seekFrom, show offset ≠ 0 by omega, if_false, show c.utf8Size ≤ offset by omega,
      if_true]
    exact ih (by omega) _ _

/-- From the character found at an offset on, the text goes on to its end. -/
theorem byteLength_of_seekFrom {i : Nat} {b : Option Char} {c : Char} {rest : List Char} :
    ∀ {text : List Char} {index : Nat} {last : List Char} {offset : Nat},
      seekFrom index last offset text = .at i b c rest →
      offset + byteLength (c :: rest) = byteLength text
  | [], _, _, _, h => by simp [seekFrom] at h
  | d :: text, index, last, offset, h => by
    simp only [seekFrom] at h
    split at h
    · rename_i h0
      simp only [Spot.at.injEq] at h
      obtain ⟨-, -, rfl, rfl⟩ := h
      omega
    · split at h
      · have := byteLength_of_seekFrom h
        rw [byteLength_cons d]
        omega
      · cases h

end ModalLex.Text
