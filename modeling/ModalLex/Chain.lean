import ModalLex.Scan

/-!
# Chains of tokens

A token can be asked for the one after it, again and again, in any order. The first time it is
scanned for; from then on the answer is remembered. So the tokens obtained form one chain, and only
its last token can have a successor that has not been scanned for.
-/

namespace ModalLex

structure Chain where
  /-- The tokens obtained so far; each is the successor of the one before it. -/
  tokens : Array Token
  /-- What the last token has answered, if it was asked and has no successor. -/
  ending : Option (Except Error (Option Token))

namespace Chain

def ofToken (t : Token) : Chain := ⟨#[t], none⟩

/-- Keeps the answer of the last token. -/
def remember (c : Chain) : Except Error (Option Token) → Chain
  | .ok (some t) => { c with tokens := c.tokens.push t }
  | answer => { c with ending := some answer }

/-- The answer of the token at a place of the chain, the chain after it, and what is told. -/
def next (l : Lexer) (input : List Char) (c : Chain) (place : Nat) :
    Except Error (Option Token) × Chain × List Event :=
  match c.tokens[place + 1]? with
  | some t => (.ok (some t), c, [])
  | none =>
    match c.ending, c.tokens[place]? with
    | some answer, _ => (answer, c, [])
    | none, none => (.ok none, c, [])
    | none, some t =>
      let answer := l.scan input t.resume
      (answer, c.remember answer, l.scanLog input t.resume)

end Chain

end ModalLex
