import Worldsmith.Sentence.Phrase

/-!
# Reader

A position in a list of tokens, with the coinages made on the way there. Going back to a mark
drops the coinages made since.
-/

namespace Worldsmith

structure Reader where
  tokens : List Token
  position : Nat
  coinages : List Coinage

/-- A place to go back to. -/
structure Mark where
  position : Nat
  coined : Nat
  deriving DecidableEq, Repr

namespace Reader

/-- A reader in front of some tokens. -/
def ofTokens (tokens : List Token) : Reader := ⟨tokens, 0, []⟩

/-- Go to a position, at most to the end. -/
def advanceTo (reader : Reader) (position : Nat) : Reader :=
  { reader with position := min position reader.tokens.length }

/-- The next token. -/
def peek? (reader : Reader) : Option Token :=
  reader.tokens[reader.position]?

def atEnd (reader : Reader) : Bool :=
  reader.tokens.length ≤ reader.position

def mark (reader : Reader) : Mark :=
  ⟨reader.position, reader.coinages.length⟩

/-- Go back to a mark. -/
def backTo (reader : Reader) (mark : Mark) : Reader :=
  { reader with position := mark.position, coinages := reader.coinages.take mark.coined }

/-- The coinage that claims a name. -/
def pending? (reader : Reader) (name : Name) : Option Nat :=
  reader.coinages.findIdx? (·.isNamed name)

/-- Record a coinage, unless the same is there already. -/
def coin (reader : Reader) (coinage : Coinage) : Nat × Reader :=
  match reader.coinages.findIdx? (·.same coinage) with
  | some index => (index, reader)
  | none =>
    (reader.coinages.length, { reader with coinages := reader.coinages ++ [coinage] })

/-- The tokens from position `start` up to `stop`. -/
def span (tokens : List Token) (start stop : Nat) : List Token :=
  (tokens.take stop).drop start

end Reader

end Worldsmith
