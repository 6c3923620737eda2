import ModalLex.Error

/-!
# Flags of a context

The modes in which the patterns of a context are read. That a dot matches a newline, and that a
match starts at the scan offset, is always so and is no flag.
-/

namespace ModalLex

structure Flags where
  caseInsensitive : Bool := false
  multiLine : Bool := false
  unicode : Bool := true
  ignoreWhitespace : Bool := false
  swapGreed : Bool := false
  crlf : Bool := false
deriving DecidableEq, Repr, Inhabited

namespace Flags

/-- Turns on the flag of a letter. `s` and `y` name modes that are always on; `g` would contradict
that a match starts at the scan offset. -/
def set (flags : Flags) : Char → Except Error Flags
  | 'g' => .error ⟨.globalFlag, none⟩
  | 'i' => .ok { flags with caseInsensitive := true }
  | 'm' => .ok { flags with multiLine := true }
  | 'u' => .ok { flags with unicode := true }
  | 'x' => .ok { flags with ignoreWhitespace := true }
  | 'U' => .ok { flags with swapGreed := true }
  | 'R' => .ok { flags with crlf := true }
  | 's' | 'y' => .ok flags
  | letter => .error ⟨.invalidFlag letter, none⟩

/-- The flags of a text of letters; the first letter that is none decides the error. -/
def ofLetters (letters : String) : Except Error Flags := letters.toList.foldlM set {}

def written (flags : Flags) : String :=
  Text.record "RegexFlags" [("case_insensitive", Text.boolean flags.caseInsensitive),
    ("multi_line", Text.boolean flags.multiLine), ("unicode", Text.boolean flags.unicode),
    ("ignore_whitespace", Text.boolean flags.ignoreWhitespace),
    ("swap_greed", Text.boolean flags.swapGreed), ("crlf", Text.boolean flags.crlf)]

end Flags

end ModalLex
