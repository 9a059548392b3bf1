import Worldsmith.Statement.Basic

/-!
# Statements about adjectives
-/

namespace Worldsmith

namespace Statement

/-- An adjective goes without saying. -/
def silence (s : Statement) : Edit Unit := do
  match ← s.trait (← s.reading.adjective 0) with
  | ⟨.adjective id, true⟩ =>
    modify (·.modifyAdjective id fun adjective => { adjective with silent := true })
  | _ => s.objection (α := Unit) .notSilenceable

/-- Between two bounds lies the number of alternatives that hold of a member of a kind. -/
def alternatives (s : Statement) (low high : Nat) : Edit Unit := do
  s.checkBounds low high
  let kind ← s.kindAt 0
  let alternatives ← s.traits (← s.reading.adjectives 0)
  modify fun world =>
    (world.makeTraitsRelevant kind alternatives).modifyKind kind fun k =>
      { k with alternativeSets := k.alternativeSets ++ [⟨alternatives, low, high⟩] }

def choiceBetween (s : Statement) : Edit Unit := do
  s.alternatives (← s.reading.count 0) (← s.reading.count 1)

def choiceUpTo (s : Statement) : Edit Unit := do
  s.alternatives 0 (← s.reading.count 0)

/-- Members of a kind may have adjectives. Of those joined by "or" they have one at most. -/
def possibility (s : Statement) : Edit Unit := do
  let series ← s.reading.adjectives 0
  if series.conjunction = some .or then
    s.alternatives 0 1
  else
    let kind ← s.kindAt 0
    let traits ← s.traits series
    modify (·.makeTraitsRelevant kind traits)

/-- Members of a kind have adjectives. Of those joined by "or" they have exactly one. -/
def generality (s : Statement) : Edit Unit := do
  let phrase ← s.reading.noun 0
  let series ← s.reading.adjectives 0
  let conditions ← s.modifiers phrase
  if series.conjunction = some .or then
    if !conditions.isEmpty then
      s.objection (α := Unit) .conditionalAlternatives
    s.alternatives 1 1
  else
    let kind ← s.kind phrase
    let consequents ← s.traits series
    modify fun world =>
      ((world.makeTraitsRelevant kind conditions).makeTraitsRelevant kind consequents).modifyKind
        kind fun k =>
          { k with
            implications := consequents.foldl
              (fun known consequent => World.adjoin ⟨conditions, consequent⟩ known)
              k.implications }

end Statement

end Worldsmith
