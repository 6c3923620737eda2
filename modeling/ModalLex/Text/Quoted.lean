import ModalLex.Unicode.Derived

/-!
# Quoted text

A quoted text stands between two marks on one line and shows every character: the mark, the
backslash and the common controls have short escapes, and a character that would not be seen, or
would be drawn onto the one before it, is written by its code point as `\u`, braces and lower-case
hexadecimal digits.
-/

namespace ModalLex.Text

/-- Whether a character is written by its code point: nothing is drawn for it, or it is drawn onto
the character before it. -/
def needsCodePoint (c : Char) : Bool :=
  Unicode.graphemeExtend.contains c || Unicode.unprintable.contains c

/-- A character as it is written inside a text quoted with `mark`. -/
def escape (mark c : Char) : List Char :=
  if c = '\x00' then ['\\', '0']
  else if c = '\t' then ['\\', 't']
  else if c = '\n' then ['\\', 'n']
  else if c = '\r' then ['\\', 'r']
  else if c = '\\' ∨ c = mark then ['\\', c]
  else if needsCodePoint c then '\\' :: 'u' :: '\x7b' :: (Nat.toDigits 16 c.toNat ++ ['\x7d'])
  else [c]

/-- The characters `cs` between two marks. -/
def quotedWith (mark : Char) (cs : List Char) : List Char :=
  mark :: (cs.flatMap (escape mark) ++ [mark])

/-- A text in double quotes. -/
def quoted (s : String) : String := .ofList (quotedWith '"' s.toList)

/-- A character in single quotes. -/
def quotedChar (c : Char) : String := .ofList (quotedWith '\x27' [c])

end ModalLex.Text
