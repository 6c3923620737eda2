import ModalLex.Unicode.Binary
import ModalLex.Unicode.Derived
import ModalLex.Unicode.Scripts

/-!
# Properties by name

Categories, scripts and further properties of characters, looked up by name. A name is compared
loosely: case, blanks, hyphens, underscores and a leading `is` do not matter. Ages, script
extensions, the classes of breaks and what changes under case mapping are not in the tables.
-/

namespace ModalLex.Unicode

/-- The letters of a name that decide which names are alike. -/
def looseLetters (name : List Char) : List Char :=
  name.filterMap fun c =>
    if c = ' ' ∨ c = '_' ∨ c = '-' ∨ 0x7F < c.toNat then none else some c.toLower

/-- The form of a name that decides which names are alike. An `is` before a single `c` stays. -/
def looseName : List Char → String
  | i :: s :: rest =>
    if i.toLower = 'i' ∧ s.toLower = 's' then
      let letters := looseLetters rest
      if letters = ['c'] then "isc" else .ofList letters
    else .ofList (looseLetters (i :: s :: rest))
  | name => .ofList (looseLetters name)

/-- The set that a table gives under a name. -/
def lookUp? (table : List (List String × CharSet)) (name : String) : Option CharSet :=
  (table.find? (·.1.contains name)).map (·.2)

/-- The categories, their groups, and the classes of all, all ASCII and all assigned code points. -/
def categories : List (List String × CharSet) := [
    (["lu", "uppercaseletter"], uppercaseLetter), (["ll", "lowercaseletter"], lowercaseLetter),
    (["lt", "titlecaseletter"], titlecaseLetter), (["lm", "modifierletter"], modifierLetter),
    (["lo", "otherletter"], otherLetter),
    (["lc", "casedletter"], .unions [uppercaseLetter, lowercaseLetter, titlecaseLetter]),
    (["l", "letter"], .unions [uppercaseLetter, lowercaseLetter, titlecaseLetter,
      modifierLetter, otherLetter]),
    (["mn", "nonspacingmark"], nonspacingMark), (["mc", "spacingmark"], spacingMark),
    (["me", "enclosingmark"], enclosingMark),
    (["m", "mark", "combiningmark"], .unions [nonspacingMark, spacingMark, enclosingMark]),
    (["nd", "decimalnumber", "digit"], decimalNumber), (["nl", "letternumber"], letterNumber),
    (["no", "othernumber"], otherNumber),
    (["n", "number"], .unions [decimalNumber, letterNumber, otherNumber]),
    (["pc", "connectorpunctuation"], connectorPunctuation),
    (["pd", "dashpunctuation"], dashPunctuation), (["ps", "openpunctuation"], openPunctuation),
    (["pe", "closepunctuation"], closePunctuation),
    (["pi", "initialpunctuation"], initialPunctuation),
    (["pf", "finalpunctuation"], finalPunctuation),
    (["po", "otherpunctuation"], otherPunctuation),
    (["p", "punctuation", "punct"], .unions [connectorPunctuation, dashPunctuation,
      openPunctuation, closePunctuation, initialPunctuation, finalPunctuation,
      otherPunctuation]),
    (["sm", "mathsymbol"], mathSymbol), (["sc", "currencysymbol"], currencySymbol),
    (["sk", "modifiersymbol"], modifierSymbol), (["so", "othersymbol"], otherSymbol),
    (["s", "symbol"], .unions [mathSymbol, currencySymbol, modifierSymbol, otherSymbol]),
    (["zs", "spaceseparator"], spaceSeparator), (["zl", "lineseparator"], lineSeparator),
    (["zp", "paragraphseparator"], paragraphSeparator),
    (["z", "separator"], .unions [spaceSeparator, lineSeparator, paragraphSeparator]),
    (["cc", "control", "cntrl"], control), (["cf", "format"], format),
    (["co", "privateuse"], privateUse),
    (["cn", "unassigned"], unassigned),
    (["c", "other"], .unions [control, format, privateUse, unassigned]),
    (["any"], .all), (["ascii"], .ofRange '\x00' '\x7f'), (["assigned"], assigned)]

/-- Properties that a character has or has not and that follow from categories. -/
def properties : List (List String × CharSet) := [
    (["alpha", "alphabetic"], alphabetic), (["lower", "lowercase"], lowercase),
    (["upper", "uppercase"], uppercase), (["wspace", "whitespace", "space"], whiteSpace),
    (["joinc", "joincontrol"], joinControl), (["cased"], cased),
    (["ci", "caseignorable"], caseIgnorable), (["grbase", "graphemebase"], graphemeBase),
    (["grext", "graphemeextend"], graphemeExtend), (["ids", "idstart"], identifierStart),
    (["idc", "idcontinue"], identifierContinue),
    (["xids", "xidstart"], identifierStart \ (identifierUnstable ∪ identifierUnstableStart)),
    (["xidc", "xidcontinue"], identifierContinue \ identifierUnstable),
    (["ahex", "asciihexdigit"], .unions [.ofRange '0' '9', .ofRange 'A' 'F', .ofRange 'a' 'f'])]

/-- The characters that a single name stands for: a property, a category or a script. -/
def named? (name : List Char) : Option CharSet :=
  let name := looseName name
  [properties, Binary.named, categories, Script.named].findSome? (lookUp? · name)

/-- The characters whose property of the first name has the value of the second one. -/
def valued? (property value : List Char) : Option CharSet :=
  match looseName property with
  | "gc" | "generalcategory" => lookUp? categories (looseName value)
  | "sc" | "script" => lookUp? Script.named (looseName value)
  | _ => none

/-- Cuts a text at the first place where a word stands, and leaves out the word. -/
def cutAt? (word : List Char) : List Char → Option (List Char × List Char)
  | [] => if word = [] then some ([], []) else none
  | c :: cs =>
    if word.isPrefixOf (c :: cs) then some ([], (c :: cs).drop word.length)
    else (cutAt? word cs).map fun (before, after) => (c :: before, after)

/-- The characters with a property: a name, or a name and a value. An unequal sign between the two
counts like the other signs. -/
def property? (word : List Char) : Option CharSet :=
  match (cutAt? ['!', '='] word).or ((cutAt? [':'] word).or (cutAt? ['='] word)) with
  | some (property, value) => valued? property value
  | none => named? word

end ModalLex.Unicode
