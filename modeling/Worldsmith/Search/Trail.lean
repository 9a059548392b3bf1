import Worldsmith.Logic.Constraint

/-!
# Trail

The truth values found so far, with the propositions in the order in which they got them. Going
back to an earlier height takes the later values away.
-/

namespace Worldsmith

structure Trail where
  values : Array (Option Bool)
  order : Array Proposition

namespace Trail

/-- No values for `count` propositions. -/
def blank (count : Nat) : Trail := ⟨Array.replicate count none, #[]⟩

/-- The value of a proposition, if it has one. -/
def at? (trail : Trail) (p : Proposition) : Option Bool :=
  trail.values.getD p.index none

/-- The truth of a literal, if it is known. -/
def value (trail : Trail) (l : Literal) : Option Bool :=
  l.evaluate (trail.at? l.proposition)

/-- The number of propositions with values. -/
def height (trail : Trail) : Nat := trail.order.size

/-- Make a literal true. -/
def assign : Trail → Literal → Trail
  | ⟨values, order⟩, l =>
    ⟨values.setIfInBounds l.proposition.index (some l.positive), order.push l.proposition⟩

/-- Take the values above a height away. -/
def undo (height : Nat) : Trail → Trail
  | ⟨values, order⟩ =>
    if h : height < order.size then
      let p := order.back (Nat.zero_lt_of_lt h)
      undo height ⟨values.setIfInBounds p.index none, order.pop⟩
    else ⟨values, order⟩
termination_by trail => trail.order.size
decreasing_by simp only [Array.size_pop]; omega

/-- Make literals true that have no value yet, and put their propositions on top of a queue. Fails
at the first literal that is false already. -/
def force : List Literal → Trail → List Proposition → Bool × Trail × List Proposition
  | [], trail, queue => (true, trail, queue)
  | l :: rest, trail, queue =>
    match trail.value l with
    | some true => force rest trail queue
    | some false => (false, trail, queue)
    | none => force rest (trail.assign l) (l.proposition :: queue)

end Trail

end Worldsmith
