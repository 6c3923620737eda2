import ModalLex.Proofs.Rows

/-!
# Addresses

A row and a column are an address: the rows above, each with its newline, and the characters of the
row before the column are the text before the place, so its offset is their length in bytes, and no
other place of the source has the same row and column. The rows of a source are one more than its
newlines, and with newlines between them they are the source (`isAddress_advance`).
-/

namespace ModalLex

namespace Text

/-- The rows of a source that are numbered from one to `n`. -/
def rowsTo (source : List Char) (n : Nat) : List (List Char) :=
  (List.range' 1 n).filterMap (row? source)

/-- Rows one after the other, each with a newline at its end. -/
def unlines (rows : List (List Char)) : List Char := rows.flatMap (· ++ ['\n'])

end Text

/-- The row and the column of the state are the address of the place after the text `p` of the
source: `p` is the rows above and as many characters of the row as come before the column, those
that follow the last newline of `p`. The offset counts the bytes of both. -/
structure ScanState.IsAddress (source p : List Char) (s : ScanState) : Prop where
  row : ∃ row, Text.row? source s.row = some row ∧ row.take (s.column - 1) = Text.lastRow p
  column : s.column - 1 = (Text.lastRow p).length
  offset : s.offset = Text.byteLength (Text.unlines (Text.rowsTo source (s.row - 1)))
    + Text.byteLength (Text.lastRow p)
  text : p = Text.unlines (Text.rowsTo source (s.row - 1)) ++ Text.lastRow p

namespace Text

/-! ## All rows -/

theorem rows_eq_splitOn : ∀ cs : List Char, rows cs = cs.splitOn '\n'
  | [] => rfl
  | c :: cs => by
    obtain ⟨row, rest, h⟩ := exists_rows_eq_cons cs
    have ih := rows_eq_splitOn cs
    rw [List.splitOn, List.splitOnP_cons_eq_if_modifyHead, ← List.splitOn, ← ih]
    by_cases hc : c = '\n'
    · subst hc
      rfl
    · rw [rows_cons_of_ne hc h, h]
      simp [hc]

theorem length_rows : ∀ cs : List Char, (rows cs).length = 1 + cs.count '\n'
  | [] => rfl
  | c :: cs => by
    obtain ⟨row, rest, h⟩ := exists_rows_eq_cons cs
    have ih := length_rows cs
    by_cases hc : c = '\n'
    · subst hc
      rw [List.count_cons_self, ← Nat.add_assoc, ← ih]
      rfl
    · rw [List.count_cons_of_ne hc, ← ih, rows_cons_of_ne hc h, h]
      rfl

theorem rowsTo_eq_take (source : List Char) (n : Nat) : rowsTo source n = (rows source).take n := by
  induction n with
  | zero => rfl
  | succ n ih =>
    have hlast : [1 + 1 * n].filterMap (row? source) = (rows source)[n]?.toList := by
      rw [Nat.one_mul, Nat.add_comm, List.filterMap_cons, row?]
      cases (rows source)[n]? <;> rfl
    rw [rowsTo] at ih ⊢
    rw [List.range'_concat, List.filterMap_append, ih, hlast, List.take_add_one]

theorem row?_eq_none_iff {source : List Char} {number : Nat} :
    row? source number = none ↔ number = 0 ∨ 1 + source.count '\n' < number := by
  cases number with
  | zero => simp [row?]
  | succ n =>
    rw [row?, List.getElem?_eq_none_iff, length_rows]
    omega

/-- The rows with newlines between them are the source. -/
theorem intercalate_rowsTo (source : List Char) :
    ['\n'].intercalate (rowsTo source (1 + source.count '\n')) = source := by
  rw [rowsTo_eq_take, ← length_rows, List.take_length, rows_eq_splitOn, List.intercalate_splitOn]

theorem intercalate_append {below : List (List Char)} (h : below ≠ []) :
    ∀ above : List (List Char),
      ['\n'].intercalate (above ++ below) = unlines above ++ ['\n'].intercalate below
  | [] => rfl
  | row :: above => by
    rw [List.cons_append, List.intercalate_cons_of_ne_nil (by simp [h]), intercalate_append h above]
    simp [unlines]

/-- The rows that a text of whole rows holds are the text. -/
theorem unlines_take_rows {above : List Char} (h : ∀ c ∈ above.getLast?, c = '\n')
    (cs : List Char) : unlines ((rows (above ++ cs)).take (above.count '\n')) = above := by
  have hjoin : ∀ cs, ['\n'].intercalate (rows cs) = cs := fun cs => by
    rw [rows_eq_splitOn, List.intercalate_splitOn]
  have hne : rows cs ≠ [] := by
    obtain ⟨row, rest, hrows⟩ := exists_rows_eq_cons cs
    simp [hrows]
  suffices hsource : unlines ((rows (above ++ cs)).take (above.count '\n')) ++ cs = above ++ cs from
    List.append_cancel_right hsource
  calc
    unlines ((rows (above ++ cs)).take (above.count '\n')) ++ cs
      = ['\n'].intercalate ((rows (above ++ cs)).take (above.count '\n') ++ rows cs) := by
        rw [intercalate_append hne, hjoin]
    _ = ['\n'].intercalate (rows (above ++ cs)) := by
        rw [← drop_rows_append cs above h, List.take_append_drop]
    _ = above ++ cs := hjoin _

/-! ## The row of a place -/

/-- What follows whole rows and has no newline is the last row. -/
theorem lastRow_append {above part : List Char} (habove : ∀ c ∈ above.getLast?, c = '\n')
    (hpart : '\n' ∉ part) : lastRow (above ++ part) = part := by
  have hnone : above.reverse.takeWhile (· ≠ '\n') = [] := by
    rw [← List.head?_reverse] at habove
    cases habove' : above.reverse with
    | nil => rfl
    | cons c cs =>
      obtain rfl : c = '\n' := habove c (by simp [habove'])
      rfl
  have hall : ∀ c ∈ part.reverse, (decide (c ≠ '\n')) = true := fun c hc => by
    have hmem := List.mem_reverse.1 hc
    exact decide_eq_true fun h => hpart (h ▸ hmem)
  rw [lastRow, List.reverse_append, List.takeWhile_append_of_pos hall, hnone, List.append_nil,
    List.reverse_reverse]

/-- A state at the end of a text of the source has that place as its address. -/
theorem isAddress_after (id : ContextId) {source p : List Char} (h : p <+: source) :
    (ScanState.after id p).IsAddress source p := by
  obtain ⟨rest, rfl⟩ := h
  obtain ⟨above, part, rest', below, hp, hrest, hrow, hcolumn⟩ := exists_isRow p rest
  have hpart : '\n' ∉ part := fun hmem => hrow.newline_not_mem (List.mem_append_left _ hmem)
  have hlast : lastRow p = part := hp ▸ lastRow_append hrow.newline_above hpart
  have hcount : rowAfter p - 1 = above.count '\n' := by
    rw [hrow.number_eq, Nat.add_sub_cancel]
  have habove : unlines (rowsTo (p ++ rest) (rowAfter p - 1)) = above := by
    rw [rowsTo_eq_take, hcount, hrow.source_eq, List.append_assoc]
    exact unlines_take_rows hrow.newline_above _
  constructor
  case row => exact ⟨part ++ rest', row?_of_isRow hrow, by simp [ScanState.after, hcolumn, hlast]⟩
  case column => simp [ScanState.after, hcolumn, hlast]
  case offset =>
    simp only [ScanState.after]
    rw [habove, hlast, ← byteLength_append, ← hp]
  case text =>
    simp only [ScanState.after]
    rw [habove, hlast, ← hp]

end Text

namespace ScanState

/-- One address leads to one place of the source. -/
theorem IsAddress.unique {source p q : List Char} {s s' : ScanState} (hp : s.IsAddress source p)
    (hq : s'.IsAddress source q) (hrow : s.row = s'.row) (hcolumn : s.column = s'.column) :
    p = q := by
  obtain ⟨row, hs, hpart⟩ := hp.row
  obtain ⟨row', hs', hpart'⟩ := hq.row
  rw [hrow, hs'] at hs
  obtain rfl := Option.some.inj hs
  rw [hp.text, hq.text, hrow, ← hpart, ← hpart', hcolumn]

/-- Moved from the start of a source past a text that it begins with, a state has the place there as
its address, in the rows of the source and by its offset; no two places have one address. There is
a row for each number from one up to the newlines and one more, and the rows with newlines between
them are the source. -/
theorem isAddress_advance (id : ContextId) (source : List Char) :
    (∀ p, p <+: source → ((start id).advance p).IsAddress source p) ∧
    (∀ p q, p <+: source → q <+: source →
      ((start id).advance p).row = ((start id).advance q).row →
      ((start id).advance p).column = ((start id).advance q).column → p = q) ∧
    (∀ number, Text.row? source number = none ↔
      number = 0 ∨ 1 + source.count '\n' < number) ∧
    ['\n'].intercalate (Text.rowsTo source (1 + source.count '\n')) = source := by
  have haddress : ∀ p, p <+: source → ((start id).advance p).IsAddress source p := fun p hp => by
    have hafter : (start id).advance p = after id p := advance_after id [] p
    rw [hafter]
    exact Text.isAddress_after id hp
  exact ⟨haddress, fun p q hp hq => (haddress p hp).unique (haddress q hq),
    fun _ => Text.row?_eq_none_iff, Text.intercalate_rowsTo source⟩

/-- The place after the second row lies at the start of the empty third one. -/
theorem isAddress_advance_empty_row :
    let source := ['é', '\n', 'b', '\n', '\n', 'c']
    let p := ['é', '\n', 'b', '\n']
    p <+: source ∧ (start (.name "text")).advance p = ⟨.name "text", 4, 5, 3, 1⟩ ∧
      ((start (.name "text")).advance p).IsAddress source p ∧
      ∀ q, q <+: source → ((start (.name "text")).advance q).row = 3 →
        ((start (.name "text")).advance q).column = 1 → q = p := by
  intro source p
  have hp : p <+: source := ⟨['\n', 'c'], rfl⟩
  obtain ⟨haddress, hunique, -⟩ := isAddress_advance (.name "text") source
  exact ⟨hp, rfl, haddress p hp, fun q hq hrow hcolumn => hunique q p hq hp hrow hcolumn⟩

end ScanState

end ModalLex
