import Worldsmith.Sentence.Phrase

/-!
# Splitting a series

A series is parted by commas and by "and" or "or", never both. A separator may follow a comma, but
no other separator, and a series neither begins nor ends with one.
-/

namespace Worldsmith

/-- What parts the items of a series. -/
inductive Separator where
  | comma
  | conjunction (conjunction : Conjunction)
  deriving DecidableEq, Repr

/-- The separator that a token is. -/
def separator? (token : Token) : Option Separator :=
  if token.reads "and" then some (.conjunction .and)
  else if token.reads "or" then some (.conjunction .or)
  else if token.reads "," then some .comma
  else none

/-- The conjunction of a series after one more separator, unless the two conflict. -/
def joinedBy? (known : Option Conjunction) : Separator → Option (Option Conjunction)
  | .comma => some known
  | .conjunction c =>
    match known with
    | none => some (some c)
    | some k => if k = c then some (some c) else none

/-- The spans between separators. The current item began at `start`, `position` is the place of
the next token, and `afterComma` tells whether a comma is right before it. -/
def splitFrom (start position : Nat) (known : Option Conjunction) (afterComma : Bool) :
    List Token → Option (List (Nat × Nat) × Option Conjunction)
  | [] => if start < position then some ([(start, position)], known) else none
  | token :: rest =>
    match separator? token with
    | none => splitFrom start (position + 1) known false rest
    | some separator =>
      match joinedBy? known separator with
      | none => none
      | some known =>
        let further := splitFrom (position + 1) (position + 1) known (separator == .comma) rest
        if start < position then
          further.map fun (spans, known) => ((start, position) :: spans, known)
        else if afterComma then further
        else none

/-- The spans of the items of a series whose first token is at `start`. Items parted by commas
alone count as joined by "and". -/
def splitSeries (start : Nat) (tokens : List Token) : Option (Series (Nat × Nat)) :=
  (splitFrom start start none false tokens).map fun (spans, known) =>
    ⟨spans, if known.isNone && 1 < spans.length then some .and else known⟩

end Worldsmith
