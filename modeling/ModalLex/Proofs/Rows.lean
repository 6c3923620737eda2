import Mathlib.Data.List.DropRight
import ModalLex.Diagnostic
import ModalLex.Proofs.Places

/-!
# Rows of a text

A text is cut into rows at its newlines, so the row with a number comes after as many newlines
(`row?_of_isRow`). The row and the column of a place count up to it: the row is the one that the
place lies in, and the characters of that row before the place are as many as the column says
(`exists_isRow`).
-/

namespace ModalLex

namespace Text

/-- The text is made of whole rows above a row, the row, and what is below it. -/
structure IsRow (source : List Char) (number : Nat) (above row below : List Char) : Prop where
  source_eq : source = above ++ row ++ below
  number_eq : number = above.count '\n' + 1
  newline_above : ∀ c ∈ above.getLast?, c = '\n'
  newline_not_mem : '\n' ∉ row
  newline_below : ∀ c ∈ below.head?, c = '\n'

/-- The row begins with the spaces of its indent and ends with white space; what is left between
them, with the white space, does not begin with a space, and does not end with white space. -/
structure IsTrimmed (row indent text blank : List Char) : Prop where
  row_eq : row = indent ++ text ++ blank
  spaces : ∀ c ∈ indent, c = ' '
  white : ∀ c ∈ blank, Unicode.whiteSpace.contains c = true
  head : ∀ c ∈ (text ++ blank).head?, c ≠ ' '
  last : ∀ c ∈ text.getLast?, Unicode.whiteSpace.contains c = false

/-! ## Rows by number -/

theorem exists_rows_eq_cons : ∀ cs : List Char, ∃ row rest, rows cs = row :: rest
  | [] => ⟨[], [], rfl⟩
  | c :: cs => by
    obtain ⟨row, rest, h⟩ := exists_rows_eq_cons cs
    simp only [rows, h]
    split
    · exact ⟨_, _, rfl⟩
    · exact ⟨_, _, rfl⟩
    · exact ⟨_, _, rfl⟩

theorem rows_cons_of_ne {c : Char} (hc : c ≠ '\n') {cs row : List Char} {rest : List (List Char)}
    (h : rows cs = row :: rest) : rows (c :: cs) = (c :: row) :: rest := by
  simp only [rows, h]

/-- After as many rows as a text of whole rows has newlines, the rows are those of what follows. -/
theorem drop_rows_append (cs : List Char) :
    ∀ above : List Char, (∀ c ∈ above.getLast?, c = '\n') →
      (rows (above ++ cs)).drop (above.count '\n') = rows cs
  | [], _ => rfl
  | [c], h => by
    obtain rfl : c = '\n' := h c rfl
    rfl
  | c :: d :: above, h => by
    have ih := drop_rows_append cs (d :: above) (by simpa using h)
    by_cases hc : c = '\n'
    · subst hc
      rw [List.count_cons_self]
      exact ih
    · -- the first row goes on below, where the newline at the end counts
      have hlast : (d :: above).getLast (by simp) = '\n' :=
        h _ (by simp [List.getLast?_eq_some_getLast])
      have hcount : 0 < (d :: above).count '\n' :=
        List.count_pos_iff.2 (hlast ▸ List.getLast_mem _)
      obtain ⟨n, hn⟩ := Nat.exists_eq_add_of_lt hcount
      obtain ⟨row, rest, hrows⟩ := exists_rows_eq_cons (d :: above ++ cs)
      rw [List.count_cons_of_ne hc, List.cons_append, rows_cons_of_ne hc hrows]
      rw [hrows] at ih
      rw [← ih, hn]
      rfl

theorem head?_rows_append {below : List Char} (h : ∀ c ∈ below.head?, c = '\n') :
    ∀ {row : List Char}, '\n' ∉ row → (rows (row ++ below)).head? = some row
  | [], _ => by
    cases below with
    | nil => rfl
    | cons c below =>
      obtain rfl : c = '\n' := h c rfl
      rfl
  | c :: row, hrow => by
    rw [List.mem_cons, not_or] at hrow
    obtain ⟨hc, hrow⟩ := hrow
    obtain ⟨row', rest, hrows⟩ := exists_rows_eq_cons (row ++ below)
    have ih := head?_rows_append h hrow
    rw [hrows] at ih
    rw [List.cons_append, rows_cons_of_ne (Ne.symm hc) hrows]
    exact congrArg (Option.map (c :: ·)) ih

theorem row?_of_isRow {source above row below : List Char} {number : Nat}
    (h : IsRow source number above row below) : row? source number = some row := by
  obtain ⟨rfl, rfl, habove, hrow, hbelow⟩ := h
  rw [row?, ← List.head?_drop, List.append_assoc, drop_rows_append _ _ habove,
    head?_rows_append hbelow hrow]

/-! ## The row of a place -/

theorem head?_dropWhile {p : Char → Bool} {cs : List Char} :
    ∀ c ∈ (cs.dropWhile p).head?, p c = false := by
  intro c hc
  have h := List.head?_dropWhile_not p cs
  rw [Option.mem_def.1 hc] at h
  exact h

theorem getLast?_rdropWhile {p : Char → Bool} {cs : List Char} :
    ∀ c ∈ (cs.rdropWhile p).getLast?, p c = false := by
  intro c hc
  rw [List.rdropWhile, List.getLast?_reverse] at hc
  exact head?_dropWhile c hc

/-- A place lies in the row with its number, after as many characters of that row as its column
says, or at the newline that ends the row. -/
theorem exists_isRow (before after : List Char) :
    ∃ above part rest below, before = above ++ part ∧ after = rest ++ below ∧
      IsRow (before ++ after) (rowAfter before) above (part ++ rest) below ∧
      columnAfter before = part.length + 1 := by
  have hbefore := List.rdropWhile_append_rtakeWhile (p := (· ≠ '\n')) (l := before)
  have hafter := List.takeWhile_append_dropWhile (p := (· ≠ '\n')) (l := after)
  have hpart : '\n' ∉ before.rtakeWhile (· ≠ '\n') := fun h => by
    simpa using List.mem_rtakeWhile_imp h
  have hrest : '\n' ∉ after.takeWhile (· ≠ '\n') := fun h => by
    simpa using List.mem_takeWhile_imp h
  refine ⟨_, _, _, _, hbefore.symm, hafter.symm, ⟨?_, ?_, ?_, ?_, ?_⟩, ?_⟩
  · rw [List.append_assoc, List.append_assoc, hafter, ← List.append_assoc, hbefore]
  · have hcount := congrArg (List.count '\n') hbefore
    rw [List.count_append, List.count_eq_zero.2 hpart] at hcount
    rw [rowAfter]
    omega
  · intro c hc
    simpa using getLast?_rdropWhile c hc
  · rw [List.mem_append]
    exact not_or.2 ⟨hpart, hrest⟩
  · intro c hc
    simpa using head?_dropWhile c hc
  · rw [columnAfter, List.rtakeWhile, List.length_reverse]
    omega

/-- What an error shows of a row is the row trimmed. -/
theorem exists_isTrimmed (row : List Char) :
    ∃ blank, IsTrimmed row (row.takeWhile (· = ' '))
      (trimEnd (row.drop (row.takeWhile (· = ' ')).length)) blank := by
  have hrow := List.takeWhile_append_dropWhile (p := (· = ' ')) (l := row)
  have hdrop : row.drop (row.takeWhile (· = ' ')).length = row.dropWhile (· = ' ') := by
    have h := congrArg (List.drop (row.takeWhile (· = ' ')).length) hrow
    rw [List.drop_left] at h
    exact h.symm
  rw [hdrop]
  refine ⟨(row.dropWhile (· = ' ')).rtakeWhile Unicode.whiteSpace.contains, ?_, ?_, ?_, ?_, ?_⟩
  · rw [List.append_assoc, trimEnd, ← List.rdropWhile, List.rdropWhile_append_rtakeWhile, hrow]
  · intro c hc
    simpa using List.mem_takeWhile_imp hc
  · intro c hc
    exact List.mem_rtakeWhile_imp hc
  · rw [trimEnd, ← List.rdropWhile, List.rdropWhile_append_rtakeWhile]
    intro c hc
    simpa using head?_dropWhile c hc
  · intro c hc
    exact getLast?_rdropWhile c hc

end Text

end ModalLex
