/-!
# Propositions and literals

A proposition is something true or false in a problem, known by its number. A literal states or
denies one.
-/

namespace Worldsmith

/-- Something true or false, numbered in the order of creation within a problem. -/
structure Proposition where
  index : Nat
  deriving DecidableEq, Repr, Hashable

/-- A proposition stated or denied. -/
structure Literal where
  proposition : Proposition
  positive : Bool
  deriving DecidableEq, Repr

namespace Proposition

def positive (p : Proposition) : Literal := ⟨p, true⟩

def negative (p : Proposition) : Literal := ⟨p, false⟩

def render (p : Proposition) : String :=
  "p" ++ p.index.repr

end Proposition

namespace Literal

def negate (l : Literal) : Literal := ⟨l.proposition, !l.positive⟩

/-- The truth of a literal when its proposition has a value, or has none yet. -/
def evaluate (l : Literal) (value : Option Bool) : Option Bool :=
  value.map (· == l.positive)

def render (l : Literal) : String :=
  if l.positive then l.proposition.render else "!" ++ l.proposition.render

end Literal

end Worldsmith
