import ModalLex.Pattern.Engine
import ModalLex.Pattern.Footprint
import ModalLex.Unicode.CaseFolding
import ModalLex.Unicode.Property

/-!
# The engine of the tables

An engine that knows of characters what the tables of Unicode 16.0 say, and that takes a pattern
for as large as the estimate says.
-/

namespace ModalLex.Unicode

open Pattern

scoped instance engine : Engine where
  property? := property?
  digit := decimalNumber
  space := whiteSpace
  word := wordCharacter
  foldCase := CharSet.foldCase
  nameStart := alphabetic
  namePart := .unions [alphabetic, decimalNumber, letterNumber, otherNumber]
  fits := Node.withinFootprint
  fits_of_branch := Node.withinFootprint_of_ofBranches
  reason _ _ _ := "not a pattern"
  compositeReason _ _ _ := "not a pattern"

end ModalLex.Unicode
