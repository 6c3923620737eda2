import ModalLex.Pattern.Escape

/-!
# Classes

A class in brackets: characters, ranges, properties and nested classes side by side, joined by the
operators `&&`, `--` and `~~`, which bind less tightly than standing side by side and group to the
left. Without regard to case a class is folded where it closes and where it is an operand. Every
part carries how deep it is nested.
-/

namespace ModalLex.Pattern

variable [Engine]

/-- A set with the depth of the text it was read from. -/
structure Part where
  chars : CharSet
  depth : Nat

/-- The parts that stand side by side so far. -/
structure Gathered where
  count : Nat := 0
  chars : CharSet := .empty
  depth : Nat := 0

namespace Gathered

def add (g : Gathered) (p : Part) : Gathered :=
  ⟨g.count + 1, g.chars ∪ p.chars, max g.depth p.depth⟩

/-- The parts as one; several parts side by side are nested one deeper. -/
def part (g : Gathered) : Part := ⟨g.chars, if g.count ≤ 1 then g.depth else g.depth + 1⟩

end Gathered

/-- The operators between the parts of a class. -/
inductive ClassOp where
  | inter
  | diff
  | symmDiff
deriving DecidableEq, Repr

def ClassOp.apply : ClassOp → CharSet → CharSet → CharSet
  | inter, s, t => s ∩ t
  | diff, s, t => s \ t
  | symmDiff, s, t => s.symmDiff t

/-- A class that is not closed yet: what stands after the last operator, and that operator with its
left operand. -/
structure OpenClass where
  negated : Bool
  gathered : Gathered := {}
  pending : Option (ClassOp × Part) := none

namespace OpenClass

def add (c : OpenClass) (p : Part) : OpenClass := { c with gathered := c.gathered.add p }

/-- What has been read, with the last operator applied. -/
def part (m : Mode) (c : OpenClass) : Part :=
  let right := c.gathered.part
  match c.pending with
  | none => right
  | some (op, left) =>
    ⟨op.apply (m.fold left.chars) (m.fold right.chars), max left.depth right.depth + 1⟩

/-- Goes on after an operator. -/
def operator (m : Mode) (op : ClassOp) (c : OpenClass) : OpenClass :=
  { c with gathered := {}, pending := some (op, c.part m) }

/-- The class with its closing bracket. -/
def close (m : Mode) (c : OpenClass) : Except Fault Part := do
  let p := c.part m
  return ⟨← m.foldAndNegate c.negated p.chars, p.depth + 1⟩

end OpenClass

/-- The classes that have a name between colons. -/
def asciiClass? (name : String) : Option CharSet :=
  let digit : CharSet := .ofRange '0' '9'
  let upper : CharSet := .ofRange 'A' 'Z'
  let lower : CharSet := .ofRange 'a' 'z'
  match name with
  | "alnum" => some (.unions [digit, upper, lower])
  | "alpha" => some (upper ∪ lower)
  | "ascii" => some (.ofRange '\x00' '\x7f')
  | "blank" => some (.ofList ['\t', ' '])
  | "cntrl" => some (.ofRange '\x00' '\x1f' ∪ .singleton '\x7f')
  | "digit" => some digit
  | "graph" => some (.ofRange '!' '~')
  | "lower" => some lower
  | "print" => some (.ofRange ' ' '~')
  | "punct" => some (.unions [.ofRange '!' '/', .ofRange ':' '@', .ofRange '[' (.ofNat 0x60),
      .ofRange '\x7b' '~'])
  | "space" => some (.ofList ['\t', '\n', '\x0b', '\x0c', '\r', ' '])
  | "upper" => some upper
  | "word" => some (.unions [digit, upper, lower, .singleton '_'])
  | "xdigit" => some (.unions [digit, .ofRange 'A' 'F', .ofRange 'a' 'f'])
  | _ => none

/-- A class by name up to its closing colon and bracket: its set, and whether it is negated. -/
def asciiClassAt? (negated : Bool) (text : List Char) : Option (CharSet × Bool × List Char) :=
  match text.dropWhile (· ≠ ':') with
  | ':' :: ']' :: after =>
    (asciiClass? (.ofList (text.takeWhile (· ≠ ':')))).map (·, negated, after)
  | _ => none

/-- A class by name, from after its bracket on. Anything else is no class by name, and is read as
a nested class. -/
def readAsciiClass? : List Char → Option (CharSet × Bool × List Char)
  | ':' :: '^' :: rest => asciiClassAt? true rest
  | ':' :: rest => asciiClassAt? false rest
  | _ => none

/-- The beginning of a class, from after its bracket on: whether it is negated, and the hyphens and
the bracket that stand for themselves there. -/
def openClass (m : Mode) (text : List Char) : OpenClass × List Char :=
  let text := m.skip text
  let (negated, text) := match text with
    | '^' :: rest => (true, m.skip rest)
    | text => (false, text)
  let (hyphens, text) := m.gather (· = '-') text
  let c := hyphens.foldl (fun (c : OpenClass) h => c.add ⟨.singleton h, 0⟩) ⟨negated, {}, none⟩
  match hyphens, text with
  | [], ']' :: rest => (c.add ⟨.singleton ']', 0⟩, m.skip rest)
  | _, text => (c, text)

/-- One character or one escape of a class. -/
def readClassAtom (m : Mode) : Reader Atom
  | [] => .error .classUnclosed
  | '\\' :: rest => readEscape m rest
  | c :: rest => .ok (.char c, rest)

/-- An end of a range. Without Unicode, only ASCII characters can stand in a class. -/
def Atom.rangeEnd (m : Mode) : Atom → Except Fault Char
  | char c => if m.unicode ∨ c.toNat ≤ 0x7F then .ok c else .error .partOfCharacter
  | _ => .error .rangeOfClass

def Atom.classSet (m : Mode) : Atom → Except Fault CharSet
  | char c => .singleton <$> rangeEnd m (.char c)
  | set chars => .ok chars
  | look _ => .error .classOfAssertion

/-- A character, an escape or a range of a class. A hyphen before another hyphen or before the
closing bracket makes no range. -/
def readRange (m : Mode) : Reader CharSet := fun text => do
  let (first, rest) ← readClassAtom m text
  let single : Except Fault (CharSet × List Char) := do return (← first.classSet m, m.skip rest)
  match m.skip rest with
  | [] => .error .classUnclosed
  | '-' :: rest =>
    if m.peek rest = some ']' ∨ m.peek rest = some '-' then single
    else
      match m.skip rest with
      | [] => .error .classUnclosed
      | text => do
        let (last, rest) ← readClassAtom m text
        let lo ← first.rangeEnd m
        let hi ← last.rangeEnd m
        if hi < lo then .error .rangeBackwards else return (.ofRange lo hi, rest)
  | _ => single

/-- Reads on in the class `c`, which stands within the classes `outer`. Every round reads at least
one character, so as many rounds as there are characters are enough. -/
def readClassFrom (m : Mode) : (rounds : Nat) → (c : OpenClass) → (outer : List OpenClass) →
    Reader Part
  | 0, _, _, _ => .error .classUnclosed
  | rounds + 1, c, outer, text =>
    match m.skip text with
    | [] => .error .classUnclosed
    | '[' :: rest =>
      match readAsciiClass? rest with
      | some (chars, negated, rest) => do
        readClassFrom m rounds (c.add ⟨← m.foldAndNegate negated chars, 0⟩) outer rest
      | none =>
        let (inner, rest) := openClass m rest
        readClassFrom m rounds inner (c :: outer) rest
    | ']' :: rest => do
      let p ← c.close m
      match outer with
      | [] => return (p, rest)
      | next :: outer => readClassFrom m rounds (next.add p) outer rest
    | '&' :: '&' :: rest => readClassFrom m rounds (c.operator m .inter) outer rest
    | '-' :: '-' :: rest => readClassFrom m rounds (c.operator m .diff) outer rest
    | '~' :: '~' :: rest => readClassFrom m rounds (c.operator m .symmDiff) outer rest
    | text => do
      let (chars, rest) ← readRange m text
      readClassFrom m rounds (c.add ⟨chars, 0⟩) outer rest

/-- A class, from after its opening bracket on. -/
def readClass (m : Mode) : Reader Part := fun text =>
  let (c, rest) := openClass m text
  readClassFrom m (text.length + 1) c [] rest

end ModalLex.Pattern
