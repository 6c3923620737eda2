import ModalLex.Flags
import ModalLex.Pattern.Reading
import ModalLex.Pattern.Search
import ModalLex.Rule
import ModalLex.Text.Spot

/-!
# Contexts

A context is a list of rules that are tried together. Their patterns stand side by side in one
composite pattern, each in a group of its own, in the order of the rules; a last group takes any
one character, so that a character that no rule matches is found where it stands. The number of
the group that holds a part of the text tells which rule has matched.

The composite is put together as text. So a pattern that is well formed on its own can still run
over the parenthesis after it, and then the groups are not those of the rules.
-/

namespace ModalLex

/-- The mode in which the patterns are read. A dot always matches a newline too. -/
def Flags.mode (flags : Flags) : Pattern.Mode where
  caseInsensitive := flags.caseInsensitive
  multiLine := flags.multiLine
  dotMatchesNewline := true
  swapGreed := flags.swapGreed
  unicode := flags.unicode
  crlf := flags.crlf
  ignoreWhitespace := flags.ignoreWhitespace

/-- The group of a rule's pattern. Where white space does not count, a newline ends a comment at
the end of the pattern. -/
def groupText (flags : Flags) (pattern : String) : String :=
  "(" ++ pattern ++ (if flags.ignoreWhitespace then "\n" else "") ++ ")|"

/-- The composite of the patterns. -/
def compositeText (flags : Flags) (patterns : List String) : String :=
  "(?:" ++ String.join (patterns.map (groupText flags)) ++ "((?su:.)))"

section Reading

variable [Pattern.Engine]

/-- The node of a text, or the error with what is said of its fault. -/
def readNode (reason : Pattern.Fault → String) (flags : Flags) (text : String) :
    Except Error Pattern.Node :=
  match Pattern.Node.ofText flags.mode text.toList with
  | .ok node => .ok node
  | .error fault => .error ⟨.invalidPattern text (reason fault), none⟩

/-- The node of a pattern by itself. -/
def nodeOf (flags : Flags) (pattern : String) : Except Error Pattern.Node :=
  readNode (Pattern.Engine.reason flags.mode pattern) flags pattern

/-- The node of the composite of the patterns. -/
def compositeNode (flags : Flags) (patterns : List String) : Except Error Pattern.Node :=
  let text := compositeText flags patterns
  readNode (Pattern.Engine.compositeReason flags.mode text) flags text

/-- Admits a pattern that is well formed and captures nothing by itself. -/
def checkPattern (flags : Flags) (pattern : String) : Except Error Unit := do
  let node ← nodeOf flags pattern
  if node.lastCapture = 0 then return () else .error ⟨.capturingGroup pattern, none⟩

end Reading

/-- A list of rules ready to be matched. -/
structure Context where
  /-- What is said of a character that no rule matches. -/
  message : String
  flags : Flags
  rules : List Rule
  node : Pattern.Node
  code : Pattern.Code := node.code
  code_eq : code = node.code := by rfl

/-- The text of a match and what the classifier of its rule says about it. -/
structure Match where
  kind : Option String
  next : ContextId
  text : String
  keep : Bool
deriving DecidableEq, Repr, Inhabited

namespace Context

/-- The text of the composite. -/
def pattern (c : Context) : String := compositeText c.flags (c.rules.map (·.pattern))

/-- The groups of the composite that capture. -/
def groups (c : Context) : Nat := c.node.lastCapture

section Building

variable [Pattern.Engine]

/-- The context of a list of rules. The first pattern that is not admitted decides the error; a
composite that is not well formed is an error of its own. -/
def ofRules (rules : List Rule) (message : String) (flags : Flags) : Except Error Context := do
  rules.forM fun r => checkPattern flags r.pattern
  let node ← compositeNode flags (rules.map (·.pattern))
  return { message, flags, rules, node }

/-- The context of a list of rules, with flags as letters. -/
def ofLetters (rules : List Rule) (message : String) (letters : Option String) :
    Except Error Context := do
  ofRules rules message (← letters.elim (.ok {}) Flags.ofLetters)

/-- The context is one that is built from its rules. -/
def Built (c : Context) : Prop := ofRules c.rules c.message c.flags = .ok c

end Building

/-- The rule that matches at a place and the part of the text it matches, as the first group that
holds one tells; nothing if no group does, or none of a rule's. -/
def ruleAt? (c : Context) (before : Option Char) (text : List Char) :
    Option (Rule × List Char) := do
  let marks ← c.code.search before text
  let (number, part) ← marks.firstCaptured? c.groups text
  let rule ← c.rules[number - 1]?
  return (rule, part)

/-- The match at a spot of an input. The offset, the row and the column only tell where an error
is. -/
def matchSpot (c : Context) (spot : Text.Spot) (offset row column : Nat) : Except Error Match :=
  let invalid index : Except Error Match :=
    .error ⟨.invalidOffset offset, some (.point index offset row column)⟩
  match spot with
  | .past index => invalid (index.getD offset)
  | .within => invalid offset
  | .at index before char rest =>
    let position := some (.point index offset row column)
    match c.ruleAt? before (char :: rest) with
    | none => .error ⟨.noRuleMatches char c.message, position⟩
    | some (rule, []) => .error ⟨.emptyMatch rule.pattern, position⟩
    | some (rule, part) =>
      let text := String.ofList part
      let verdict := rule.classify text
      .ok ⟨verdict.kind, verdict.next, text, verdict.keep⟩

/-- The match exactly at a byte offset of an input. What comes before the offset can be seen by
assertions. -/
def matchAt (c : Context) (input : List Char) (offset row column : Nat) : Except Error Match :=
  c.matchSpot (Text.seek offset input) offset row column

/-- The text of a match is not empty. -/
theorem text_ne_nil_of_matchSpot {c : Context} {spot : Text.Spot} {offset row column : Nat}
    {m : Match} (h : c.matchSpot spot offset row column = .ok m) : m.text.toList ≠ [] := by
  unfold matchSpot at h
  split at h
  · cases h
  · cases h
  · split at h
    · cases h
    · cases h
    · rename_i hne _
      injection h with h
      subst h
      simpa using hne

/-- The text of a match is within what comes at the spot. -/
theorem byteLength_le_of_matchSpot {c : Context} {index : Nat} {before : Option Char} {char : Char}
    {rest : List Char} {offset row column : Nat} {m : Match}
    (h : c.matchSpot (.at index before char rest) offset row column = .ok m) :
    Text.byteLength m.text.toList ≤ Text.byteLength (char :: rest) := by
  simp only [matchSpot] at h
  split at h
  · cases h
  · cases h
  · rename_i r part _ hrule
    cases h
    obtain ⟨marks, -, hrule⟩ := Option.bind_eq_some_iff.1 hrule
    obtain ⟨⟨number, part'⟩, hpart, hrule⟩ := Option.bind_eq_some_iff.1 hrule
    obtain ⟨r', -, hrule⟩ := Option.bind_eq_some_iff.1 hrule
    cases hrule
    obtain ⟨n, -, hn⟩ := List.exists_of_findSome?_eq_some hpart
    obtain ⟨part', hcaptured, heq⟩ := Option.map_eq_some_iff.1 hn
    cases heq
    rw [String.toList_ofList]
    exact Pattern.Marks.byteLength_le_of_captured? hcaptured

def written (c : Context) : String :=
  Text.record "LexerContext" [("error_message", Text.quoted c.message),
    ("pattern", Text.quoted c.pattern), ("flags", c.flags.written),
    ("generators", "[" ++ ", ".intercalate (c.rules.map Rule.written) ++ "]")]

end Context

end ModalLex
