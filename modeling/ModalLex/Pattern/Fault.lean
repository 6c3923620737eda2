/-!
# What is wrong with a pattern

The reasons for which a text is not read as a pattern.
-/

namespace ModalLex.Pattern

inductive Fault where
  | escapeUnfinished
  | escapeUnknown
  | backreference
  | hexDigitExpected
  | notACharacter
  | propertyUnknown
  | propertyNeedsUnicode
  | classUnclosed
  | classOfAssertion
  | rangeOfClass
  | rangeBackwards
  | repetitionOfNothing
  | countUnclosed
  | countMissing
  | countTooLarge
  | countsBackwards
  | groupUnclosed
  | groupUnopened
  | groupNameInvalid
  | groupNameRepeated
  | lookAround
  | flagUnknown
  | flagRepeated
  | flagsUnfinished
  | wordEdgeUnclosed
  | wordEdgeUnknown
  /-- Without Unicode, a set reaches beyond ASCII and so could match part of a character. -/
  | partOfCharacter
  | nestedTooDeep
  | tooLarge
deriving DecidableEq, Repr, Inhabited

end ModalLex.Pattern
