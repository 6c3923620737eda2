import ModalLex.Proofs.Failing
import ModalLex.Proofs.Rows

/-!
# Drawn errors

An error of tokenizing is drawn as its header and three lines: a bar, the row of the error between
its indent and the white space at its end, and a caret. The bars stand in one column, and the caret
stands under the character at which the error is (`render_of_tokenize`).
-/

namespace ModalLex

namespace Error

/-- A bar right of a margin that a row number fits into. -/
def barLine (number : Nat) : List Char :=
  .replicate ((toString number).toList.length + 1) ' ' ++ ['|']

/-- A row with its number. -/
def rowLine (number : Nat) (text : List Char) : List Char :=
  (toString number).toList ++ [' ', '|', ' '] ++ text

/-- A caret under the text of a row, after so many characters of it. -/
def caretLine (number column : Nat) : List Char :=
  barLine number ++ [' '] ++ .replicate column '-' ++ ['^']

theorem drawn_eq (p : Position) (row : List Char) :
    let indent := row.takeWhile (· = ' ')
    drawn p row =
      barLine p.rowBegin ++ ['\n']
        ++ rowLine p.rowBegin (Text.trimEnd (row.drop indent.length)) ++ ['\n']
        ++ caretLine p.rowBegin (p.columnBegin - indent.length - 1) ++ ['\n'] := by
  simp [drawn, barLine, rowLine, caretLine, Text.padLeft]

/-! ## Columns -/

theorem not_mem_toString {c : Char} (hc : c.isDigit = false) (n : Nat) :
    c ∉ (toString n).toList := by
  intro h
  have hdigit := Nat.isDigit_of_mem_toDigits (b := 10) (by decide) (by decide) (by simpa using h)
  rw [hc] at hdigit
  cases hdigit

theorem idxOf_bar_barLine (number : Nat) :
    (barLine number).idxOf '|' = (toString number).toList.length + 1 := by
  rw [barLine, List.idxOf_append_of_notMem (by simp [List.mem_replicate])]
  simp

theorem idxOf_bar_rowLine (number : Nat) (text : List Char) :
    (rowLine number text).idxOf '|' = (toString number).toList.length + 1 := by
  rw [rowLine, List.append_assoc, List.idxOf_append_of_notMem (not_mem_toString rfl number)]
  rfl

theorem idxOf_bar_caretLine (number column : Nat) :
    (caretLine number column).idxOf '|' = (toString number).toList.length + 1 := by
  rw [caretLine, List.append_assoc, List.append_assoc,
    List.idxOf_append_of_mem (by simp [barLine]), idxOf_bar_barLine]

/-- The caret stands under the text of the row, after as many characters as it says. -/
theorem idxOf_caret (number column : Nat) :
    (caretLine number column).idxOf '^' = (rowLine number []).length + column := by
  rw [caretLine, List.idxOf_append_of_notMem (by simp [barLine, List.mem_replicate])]
  simp [barLine, rowLine]
  omega

theorem newline_not_mem {number column : Nat} {text : List Char} (h : '\n' ∉ text) :
    '\n' ∉ barLine number ∧ '\n' ∉ rowLine number text ∧ '\n' ∉ caretLine number column := by
  have hnumber : '\n' ∉ (toString number).toList := not_mem_toString rfl number
  refine ⟨?_, ?_, ?_⟩
  · simp [barLine, List.mem_replicate]
  · rw [rowLine, List.mem_append, List.mem_append, not_or, not_or]
    exact ⟨⟨hnumber, by decide⟩, h⟩
  · simp [caretLine, barLine, List.mem_replicate]

theorem getElem?_rowLine (number column : Nat) (text : List Char) :
    (rowLine number text)[(rowLine number []).length + column]? = text[column]? := by
  rw [rowLine, rowLine, List.append_nil, List.getElem?_append_right (Nat.le_add_right ..),
    Nat.add_sub_cancel_left]

/-! ## The header -/

theorem newline_not_mem_name (c : Cause) : '\n' ∉ c.name.toList := by
  cases c <;> simp [Cause.name]

/-- The header ends a line. It is that line alone unless the message or the tip has a newline. -/
theorem exists_header_eq (e : Error) :
    ∃ title, e.header = title ++ ['\n'] ∧
      ('\n' ∈ title ↔ '\n' ∈ e.message.toList ∨ ∃ tip ∈ e.cause.tip?, '\n' ∈ tip.toList) := by
  have hname := newline_not_mem_name e.cause
  rcases htip : e.cause.tip? with _ | tip
  · refine ⟨("error: " ++ e.cause.name ++ " (" ++ e.message ++ ")").toList, ?_, ?_⟩
    · simp [header, htip]
    · simp [hname]
  · refine ⟨("error: " ++ e.cause.name ++ " (" ++ e.message ++ ", " ++ tip ++ ")").toList, ?_, ?_⟩
    · simp [header, htip]
    · simp [hname]

/-! ## The caret -/

/-- An error at the place `p` of the character `char`, after the text `before` of the source, is
drawn as its header, a bar, the row of the character without its indent and the white space at its
end, and a caret. -/
structure DrawnAt (e : Error) (source : List Char) (p : Position) (before : List Char) (char : Char)
    (above row below indent text blank : List Char) (column : Nat) : Prop where
  position : e.position = some p
  offset : p.offset = Text.byteLength before
  char_at : before ++ [char] <+: source
  header_line : ∃ title, e.header = title ++ ['\n'] ∧
    ('\n' ∈ title ↔ '\n' ∈ e.message.toList ∨ ∃ tip ∈ e.cause.tip?, '\n' ∈ tip.toList)
  render_eq : e.render source =
    e.header ++ barLine p.rowBegin ++ ['\n'] ++ rowLine p.rowBegin text ++ ['\n']
      ++ caretLine p.rowBegin column ++ ['\n']
  lines : '\n' ∉ barLine p.rowBegin ∧ '\n' ∉ rowLine p.rowBegin text ∧
    '\n' ∉ caretLine p.rowBegin column
  isRow : Text.IsRow source p.rowBegin above row below
  isTrimmed : Text.IsTrimmed row indent text blank
  /-- The character is in the row, or the newline that ends it. -/
  within : above.length ≤ before.length ∧ before.length ≤ (above ++ row).length
  bars : (rowLine p.rowBegin text).idxOf '|' = (barLine p.rowBegin).idxOf '|' ∧
    (caretLine p.rowBegin column).idxOf '|' = (barLine p.rowBegin).idxOf '|'
  /-- Under a character of the text stands the caret. -/
  shown : (above ++ indent).length ≤ before.length →
    before.length < (above ++ indent ++ text).length →
      (rowLine p.rowBegin text)[(caretLine p.rowBegin column).idxOf '^']? = some char
  /-- For a character of the indent the caret stands under the start of the text. -/
  indented : before.length < (above ++ indent).length →
    (caretLine p.rowBegin column).idxOf '^' = (rowLine p.rowBegin []).length
  /-- For a character after the text the caret stands right of it. -/
  trimmed : (above ++ indent ++ text).length ≤ before.length →
    (rowLine p.rowBegin text).length ≤ (caretLine p.rowBegin column).idxOf '^'

theorem render_eq_of_isRow {e : Error} {p : Position} {source above row below : List Char}
    (he : e.position = some p) (h : Text.IsRow source p.rowBegin above row below) :
    e.render source = e.header ++ drawn p row := by
  rw [render, he]
  simp only [Text.row?_of_isRow h]

/-- A character of a text that lies in a part of it is the one of the part. -/
theorem getElem?_of_append_eq {before rest left part right : List Char} {char : Char}
    (h : before ++ char :: rest = left ++ part ++ right) (hleft : left.length ≤ before.length)
    (hright : before.length < (left ++ part).length) :
    part[before.length - left.length]? = some char := by
  have hchar : (before ++ char :: rest)[before.length]? = some char := by simp
  rw [h, List.getElem?_append_left hright, List.getElem?_append_right hleft] at hchar
  exact hchar

theorem exists_drawnAt {e : Error} {before rest : List Char} {char : Char}
    (he : e.position = some (.after before)) :
    ∃ above row below indent text blank column, e.DrawnAt (before ++ char :: rest) (.after before)
      before char above row below indent text blank column := by
  obtain ⟨above, part, rest', below, hbefore, -, hrow, hcolumn⟩ :=
    Text.exists_isRow before (char :: rest)
  obtain ⟨blank, htrimmed⟩ := Text.exists_isTrimmed (part ++ rest')
  have hrender := render_eq_of_isRow he hrow
  rw [drawn_eq, show (Position.after before).columnBegin = part.length + 1 from hcolumn] at hrender
  generalize (part ++ rest').takeWhile (· = ' ') = indent at htrimmed hrender
  generalize Text.trimEnd ((part ++ rest').drop indent.length) = text at htrimmed hrender
  have hlength : before.length = above.length + part.length := by
    rw [hbefore, List.length_append]
  have htext : '\n' ∉ text := fun h => hrow.newline_not_mem (by simp [htrimmed.row_eq, h])
  have hcut : before ++ char :: rest = above ++ indent ++ text ++ (blank ++ below) := by
    rw [hrow.source_eq, htrimmed.row_eq]
    simp only [List.append_assoc]
  exact ⟨above, part ++ rest', below, indent, text, blank, part.length - indent.length,
    { position := he
      offset := rfl
      char_at := ⟨rest, by simp⟩
      header_line := exists_header_eq e
      render_eq := by
        rw [hrender, Nat.sub_sub, Nat.add_sub_add_right]
        simp only [List.append_assoc]
      lines := newline_not_mem htext
      isRow := hrow
      isTrimmed := htrimmed
      within := by
        simp only [List.length_append]
        omega
      bars := by
        rw [idxOf_bar_rowLine, idxOf_bar_caretLine, idxOf_bar_barLine]
        exact ⟨rfl, rfl⟩
      shown := fun hleft hright => by
        rw [idxOf_caret, getElem?_rowLine, ← getElem?_of_append_eq hcut hleft hright,
          List.length_append, hlength, Nat.add_sub_add_left]
      indented := fun hlt => by
        rw [List.length_append] at hlt
        rw [idxOf_caret]
        omega
      trimmed := fun hle => by
        simp only [List.length_append] at hle
        rw [idxOf_caret]
        simp only [rowLine, List.length_append]
        omega }⟩

end Error

namespace Lexer

variable {l : Lexer} {source : List Char} {e : Error}

/-- An error of tokenizing is drawn at the character that it stands at. -/
theorem render_of_tokenize (hl : l.WellGrouped) (h : l.tokenize source = .error e) :
    ∃ p before char above row below indent text blank column,
      e.DrawnAt source p before char above row below indent text blank column := by
  obtain ⟨before, char, rest, rfl, hposition⟩ := position_of_tokenize hl h
  exact ⟨_, _, _, Error.exists_drawnAt hposition⟩

open scoped Unicode in
/-- The whole drawing of an error, on the row below a skipped piece. -/
theorem render_noteLexer :
    let e : Error := ⟨.noRuleMatches '#' "no note", some (.point 4 5 2 2)⟩
    noteLexer.Built ∧ noteLexer.WellGrouped ∧
      noteLexer.tokenize ['é', '<', '\n', 'b', '#'] = .error e ∧
      (∃ p before char above row below indent text blank column,
        e.DrawnAt ['é', '<', '\n', 'b', '#'] p before char above row below indent text blank
          column) ∧
      e.render ['é', '<', '\n', 'b', '#']
        = "error: NoRuleMatches (no note: '#')\n  |\n2 | b#\n  | -^\n".toList := by
  intro e
  have hleads : noteLexer.Leads ['é', '<', '\n', 'b', '#'] noteLexer.initial []
      [⟨some "word", .name "text", "é", true⟩, ⟨some "", .name "note", "<\n", false⟩,
        ⟨some "note", .name "note", "b", true⟩] (.name "note") ['é', '<', '\n', 'b'] :=
    .step ⟨⟨_, rfl, fun _ _ => rfl⟩, by simp, by simp [noteLexer, context?]⟩ <|
      .step ⟨⟨_, rfl, fun _ _ => rfl⟩, by simp, by simp [noteLexer, context?]⟩ <|
        .step ⟨⟨_, rfl, fun _ _ => rfl⟩, by simp, by simp [noteLexer, context?]⟩ .refl
  have h : noteLexer.tokenize ['é', '<', '\n', 'b', '#'] = .error e := collect_of_leads hleads rfl
  exact ⟨built_noteLexer, wellGrouped_noteLexer, h, render_of_tokenize wellGrouped_noteLexer h,
    by decide +kernel⟩

end Lexer

end ModalLex
