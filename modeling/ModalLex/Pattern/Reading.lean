import ModalLex.Pattern.Class

/-!
# Reading patterns

The text of a pattern is read from left to right. The groups that are open form a stack; each keeps
the branches read so far, the parts of the branch being read, and the mode, which flags change up
to the end of the group. Captures are numbered by their opening parentheses.
-/

namespace ModalLex.Pattern

variable [Engine]

/-- A part of a branch: its node, how deep its text is nested, and whether it can be repeated, as
flags cannot. -/
structure Item where
  node : Node
  depth : Nat := 0
  repeatable : Bool := true

/-- A group that is not closed yet. The items and the branches are in reverse. -/
structure OpenGroup where
  mode : Mode
  items : List Item := []
  branches : List Item := []

/-- A prefix of a pattern that has been read. `outer` holds the groups around the innermost one,
each with the number under which the group within it captures. -/
structure Reading where
  group : OpenGroup
  outer : List (OpenGroup × Option Nat) := []
  captures : Nat := 0
  names : List (List Char) := []

namespace OpenGroup

def push (g : OpenGroup) (i : Item) : OpenGroup := { g with items := i :: g.items }

/-- The branch being read. -/
def branch (g : OpenGroup) : Item :=
  match g.items with
  | [] => ⟨.empty, 0, true⟩
  | [i] => i
  | items => ⟨.concat (items.reverse.map (·.node)), (items.map (·.depth)).foldl max 0 + 1, true⟩

/-- All that was read in the group. -/
def whole (g : OpenGroup) : Item :=
  match g.branches with
  | [] => g.branch
  | branches =>
    let branches := g.branch :: branches
    ⟨.alternation (branches.reverse.map (·.node)), (branches.map (·.depth)).foldl max 0 + 1,
      true⟩

/-- Ends a branch. -/
def bar (g : OpenGroup) : OpenGroup := { g with items := [], branches := g.branch :: g.branches }

/-- Repeats the last item. -/
def repeatLast (g : OpenGroup) (min : Nat) (max : Option Nat) (lazily : Bool) :
    Except Fault OpenGroup :=
  match g.items with
  | i :: items =>
    if i.repeatable then
      .ok { g with items :=
        ⟨.repetition min max (lazily == g.mode.swapGreed) i.node, i.depth + 1, true⟩ :: items }
    else .error .repetitionOfNothing
  | [] => .error .repetitionOfNothing

end OpenGroup

/-- The node of a character, which may have case equivalents. -/
def Mode.literal (m : Mode) (c : Char) : Node :=
  if m.caseInsensitive then .ofSet (!m.unicode) (m.fold (.singleton c)) else .literal [c]

/-- The node of the dot. -/
def Mode.dot (m : Mode) : Except Fault Node :=
  if !m.unicode then .error .partOfCharacter
  else if m.dotMatchesNewline then .ok (.set false .all)
  else if m.crlf then .ok (.set false (.compl (.ofList ['\n', '\r'])))
  else .ok (.set false (.compl (.singleton '\n')))

/-- The assertions at the start and at the end of a text, or of a line. -/
def Mode.caret (m : Mode) : Look :=
  if !m.multiLine then .textStart else if m.crlf then .crlfLineStart else .lineStart

def Mode.dollar (m : Mode) : Look :=
  if !m.multiLine then .textEnd else if m.crlf then .crlfLineEnd else .lineEnd

def Atom.node (m : Mode) : Atom → Node
  | char c => m.literal c
  | set chars => .ofSet (!m.unicode) chars
  | look assertion => .look assertion

/-! ## Counts -/

/-- A number of repetitions of at most 32 bits, with the blanks around it; nothing if there is no
digit. -/
def readCount (m : Mode) (text : List Char) : Except Fault (Option Nat × List Char) :=
  let (digits, rest) := m.gather Char.isDigit (text.dropWhile Unicode.whiteSpace.contains)
  let (_, rest) := m.gather Unicode.whiteSpace.contains rest
  let value := digits.foldl (fun n d => 10 * n + (d.toNat - '0'.toNat)) 0
  if digits = [] then .ok (none, rest)
  else if value ≤ 0xFFFFFFFF then .ok (some value, rest)
  else .error .countTooLarge

/-- The greatest number of repetitions, from after the least one on. -/
def readHigh (m : Mode) (low : Nat) : Reader (Nat × Option Nat)
  | ',' :: rest =>
    match m.skip rest with
    | '\x7d' :: rest => .ok ((low, none), '\x7d' :: rest)
    | rest => do
      let (high, rest) ← readCount m rest
      let high ← high.elim (.error .countMissing) .ok
      return ((low, some high), rest)
  | rest => .ok ((low, some low), rest)

/-- The brace that closes the counts. -/
def closeCounts (counts : Nat × Option Nat) : Reader (Nat × Option Nat)
  | '\x7d' :: rest =>
    if counts.2.any (· < counts.1) then .error .countsBackwards else return (counts, rest)
  | _ => .error .countUnclosed

/-- Counts in braces, from after the opening one on: the least and the greatest number of
repetitions. -/
def readCounts (m : Mode) : Reader (Nat × Option Nat) := fun text =>
  match m.skip text with
  | [] => .error .countUnclosed
  | text => do
    let (low, rest) ← readCount m text
    let low ← low.elim (.error .countMissing) .ok
    let (counts, rest) ← readHigh m low rest
    closeCounts counts rest

/-! ## Groups -/

/-- The flags of a group or of the rest of a group, up to the character that ends them: the mode
they make, whether there are any, and the text from that character on. A hyphen turns off the
flags after it. -/
def readFlags (on : Bool) (seen : List Char) (m : Mode) :
    List Char → Except Fault (Mode × Bool × List Char)
  | [] => .error .flagsUnfinished
  | c :: cs =>
    if c = ':' ∨ c = ')' then
      if seen.head? = some '-' then .error .flagsUnfinished else .ok (m, !seen.isEmpty, c :: cs)
    else if seen.contains c then .error .flagRepeated
    else if c = '-' then readFlags false (c :: seen) m cs
    else match m.set c on with
      | none => .error .flagUnknown
      | some m => readFlags on (c :: seen) m cs

/-- Whether a character can stand in the name of a group, at its beginning or later. -/
def isNameChar (first : Bool) (c : Char) : Bool :=
  c = '_' ||
    if first then Engine.nameStart.contains c
    else c = '.' || c = '[' || c = ']' || Engine.namePart.contains c

/-- The name of a group up to the angle that closes it. -/
def readName : Reader (List Char) := fun text =>
  let name := text.takeWhile (· ≠ '>')
  match name, text.drop name.length with
  | first :: more, _ :: rest =>
    if isNameChar true first && more.all (isNameChar false) then .ok (name, rest)
    else .error .groupNameInvalid
  | _, _ => .error .groupNameInvalid

namespace Reading

/-- Opens a group, which captures under the number if there is one. -/
def openGroup (r : Reading) (number : Option Nat) (mode : Mode) : Reading :=
  { r with group := { mode }, outer := (r.group, number) :: r.outer }

/-- Opens a group that captures under the next number. -/
def openCapture (r : Reading) : Reading :=
  let n := r.captures + 1
  { r with captures := n }.openGroup (some n) r.group.mode

/-- Closes the innermost group. The mode is again that of the group around it. -/
def closeGroup (r : Reading) : Except Fault Reading :=
  match r.outer with
  | [] => .error .groupUnopened
  | (g, number) :: outer =>
    let i := r.group.whole
    let node := number.elim i.node (Node.capture · i.node)
    .ok { r with group := g.push ⟨node, i.depth + 1, true⟩, outer }

/-- Reads the name of a group that captures, and opens it. -/
def readNamed (r : Reading) : Reader Reading := fun text => do
  let (name, rest) ← readName text
  if r.names.contains name then .error .groupNameRepeated
  else return ({ r with names := name :: r.names }.openCapture, rest)

/-- Goes on in a mode that flags made: in the rest of the group if it is a parenthesis that ends
them, else in a group that they open. -/
def goOn (r : Reading) (mode : Mode) (any : Bool) : Reader Reading
  | ')' :: rest =>
    if any then .ok ({ r with group := { r.group with mode }.push ⟨.empty, 0, false⟩ }, rest)
    else .error .repetitionOfNothing
  | rest => .ok (r.openGroup none mode, rest.drop 1)

/-- Reads flags for the rest of the group, or for a group that they open. -/
def readFlagged (r : Reading) : Reader Reading := fun text => do
  let (mode, any, rest) ← readFlags true [] r.group.mode text
  r.goOn mode any rest

/-- Reads the beginning of a group, from after its parenthesis on; or flags for the rest of the
group around it. -/
def readGroup (r : Reading) : Reader Reading := fun text =>
  match r.group.mode.skip text with
  | '?' :: '=' :: _ | '?' :: '!' :: _ | '?' :: '<' :: '=' :: _ | '?' :: '<' :: '!' :: _ =>
    .error .lookAround
  | '?' :: 'P' :: '<' :: rest | '?' :: '<' :: rest => r.readNamed rest
  | '?' :: [] => .error .groupUnclosed
  | '?' :: rest => r.readFlagged rest
  | rest => .ok (r.openCapture, rest)

def push (r : Reading) (i : Item) : Reading := { r with group := r.group.push i }

/-- Repeats the last item; a question mark right after makes it prefer few repetitions. -/
def readRepetition (r : Reading) (min : Nat) (max : Option Nat) : Reader Reading
  | '?' :: rest => do return ({ r with group := ← r.group.repeatLast min max true }, rest)
  | rest => do return ({ r with group := ← r.group.repeatLast min max false }, rest)

/-- Reads what stands next: one atom, class, operator or parenthesis, `c` being its first
character. -/
def readNext (r : Reading) (c : Char) (rest : List Char) : Except Fault (Reading × List Char) :=
  let m := r.group.mode
  match c with
  | '(' => r.readGroup rest
  | ')' => do return (← r.closeGroup, rest)
  | '|' => .ok ({ r with group := r.group.bar }, rest)
  | '[' => do
    let (p, rest) ← readClass m rest
    return (r.push ⟨.ofSet (!m.unicode) p.chars, p.depth, true⟩, rest)
  | '?' => r.readRepetition 0 (some 1) rest
  | '*' => r.readRepetition 0 none rest
  | '+' => r.readRepetition 1 none rest
  | '\x7b' =>
    if r.group.items.head?.any (·.repeatable) then do
      let ((min, max), rest) ← readCounts m rest
      r.readRepetition min max (m.skip rest)
    else .error .repetitionOfNothing
  | '\\' => do
    let (a, rest) ← readEscape m rest
    return (r.push ⟨a.node m, 0, true⟩, rest)
  | '.' => do return (r.push ⟨← m.dot, 0, true⟩, rest)
  | '^' => .ok (r.push ⟨.look m.caret, 0, true⟩, rest)
  | '$' => .ok (r.push ⟨.look m.dollar, 0, true⟩, rest)
  | c => .ok (r.push ⟨m.literal c, 0, true⟩, rest)

/-- Reads to the end of the text. Every round reads at least one character, so as many rounds as
there are characters are enough. -/
def readFrom (r : Reading) : (rounds : Nat) → List Char → Except Fault Reading
  | 0, _ => .ok r
  | rounds + 1, text =>
    match r.group.mode.skip text with
    | [] => .ok r
    | c :: rest => do
      let (r, rest) ← r.readNext c rest
      r.readFrom rounds rest

end Reading

/-- How deep a pattern may be nested. -/
def depthLimit : Nat := 250

/-- The node that a text stands for when it is read in a mode. -/
def Node.ofText (m : Mode) (text : List Char) : Except Fault Node := do
  let r ← Reading.readFrom ⟨{ mode := m }, [], 0, []⟩ (text.length + 1) text
  if r.outer ≠ [] then .error .groupUnclosed
  let i := r.group.whole
  if depthLimit < i.depth then .error .nestedTooDeep
  if Engine.fits i.node then return i.node else .error .tooLarge

end ModalLex.Pattern
