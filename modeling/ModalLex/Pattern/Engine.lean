import ModalLex.Pattern.Fault
import ModalLex.Pattern.Mode
import ModalLex.Pattern.Node

/-!
# Engines

What an engine for patterns brings of its own to the language of patterns: what it knows of
characters, how large a pattern it takes, and what it says of a text that it does not take.
-/

namespace ModalLex.Pattern

class Engine where
  /-- The characters that have the property of a name, or of a name and a value. -/
  property? : List Char → Option CharSet
  /-- Digits, in all scripts. -/
  digit : CharSet
  /-- Blanks. -/
  space : CharSet
  /-- Characters that words are made of, in all scripts. -/
  word : CharSet
  /-- A set with the case equivalents of its characters. -/
  foldCase : CharSet → CharSet
  /-- The characters that the name of a group can begin with, the underscore apart. -/
  nameStart : CharSet
  /-- The characters that the name of a group can go on with, a few signs apart. -/
  namePart : CharSet
  /-- Whether a node is small enough. -/
  fits : Node → Bool
  /-- What is small enough among branches is so by itself. -/
  fits_of_branch {nodes : List Node} {number : Nat} {body : Node} :
    .capture number body ∈ nodes → fits (.ofBranches nodes) = true → fits body = true
  /-- What is said of a text that is not taken for a fault. -/
  reason : Mode → String → Fault → String
  /-- What is said of a composite that is not taken for a fault. -/
  compositeReason : Mode → String → Fault → String

end ModalLex.Pattern
