import Worldsmith.Statement.Basic

/-!
# Statements about verbs

A sentence that uses a verb also declares what it relates. With one noun phrase only, subject and
object are of the same kind.
-/

namespace Worldsmith

namespace Statement

/-! ## Verbs by themselves -/

def wayOf (s : Statement) : Edit Unit := do
  let specific ← s.verbAt 0
  let general ← s.verbAt 1
  if specific = general then
    s.objection (α := Unit) .ownSpecies
  modify (·.addWayOf specific general)

def frequency (s : Statement) : Edit Unit := do
  let verb ← s.verbAt 0
  let phrase ← s.reading.choice 0
  match Verb.densityWords.lookup phrase with
  | some density => modify (·.modifyVerb verb fun v => { v with density := density })
  | none => s.objection (α := Unit) (.unknownFrequency phrase)

def implication (s : Statement) : Edit Unit := do
  let specific ← s.verbAt 0
  let general ← s.verbAt 1
  modify (·.addGeneralization specific general)

def exclusion (s : Statement) : Edit Unit := do
  let a ← s.verbAt 0
  let b ← s.verbAt 1
  if a = b then
    s.objection (α := Unit) .ownExclusion
  modify (·.addExclusion a b)

/-! ## Relations -/

/-- Declare what the verb relates. -/
def signature (s : Statement) : Edit (Id .verb) := do
  let verb ← s.verbAt 0
  let subject ← s.reading.noun 0
  let object ← if 1 < s.reading.nounCount then s.reading.noun 1 else pure subject
  let subjectKind ← s.kind subject
  let objectKind ← s.kind object
  let subjectModifiers ← s.modifiers subject
  let objectModifiers ← s.modifiers object
  Edit.declareSignature verb subjectKind objectKind
  modify fun world =>
    ((world.makeTraitsRelevant subjectKind subjectModifiers).makeTraitsRelevant
      objectKind objectModifiers).modifyVerb verb fun v =>
        { v with
          subjectModifiers := World.adjoinAll subjectModifiers v.subjectModifiers
          objectModifiers := World.adjoinAll objectModifiers v.objectModifiers }
  return verb

/-- Declare a law that a relation obeys, unless the relation obeys a law against it. -/
def law (s : Statement) (against : Verb → Bool) (contradiction : String → Contradiction)
    (set : Verb → Verb) : Edit Unit := do
  let verb ← s.signature
  let world ← get
  if against (world.verb verb) then
    Edit.contradict (α := Unit) (contradiction (world.verbName verb))
  modify (·.modifyVerb verb set)

def symmetry (s : Statement) : Edit Unit := do
  let verb ← s.signature
  modify (·.modifyVerb verb fun v => { v with symmetric := true })

def antisymmetry (s : Statement) : Edit Unit :=
  s.law Verb.symmetric .alreadySymmetric fun v => { v with antiSymmetric := true }

def irreflexivity (s : Statement) : Edit Unit :=
  s.law Verb.reflexive .alreadyReflexive fun v => { v with antiReflexive := true }

def reflexivity (s : Statement) : Edit Unit :=
  s.law Verb.antiReflexive .alreadyAntiReflexive fun v => { v with reflexive := true }

/-- Bound the number of objects of a subject. A bound that is not given stays as it is. -/
def bound (s : Statement) (verb : Id .verb) (low high : Option Nat) : Edit Unit := do
  match low, high with
  | some low, some high => s.checkBounds low high
  | _, _ => pure ()
  modify (·.modifyVerb verb fun v =>
    { v with lowerBound := low <|> v.lowerBound, upperBound := high <|> v.upperBound })

/-- The lower bound that "must" or "can" sets by itself. -/
def modalBound (s : Statement) : Except Error (Option Nat) := do
  return if (← s.reading.choice 0) = "must" then some 1 else none

def relateExactlyOne (s : Statement) : Edit Unit := do
  let verb ← s.signature
  s.bound verb (← s.modalBound) (some 1)

def relateUpTo (s : Statement) : Edit Unit := do
  let verb ← s.signature
  s.bound verb (← s.modalBound) (some (← s.reading.count 0))

def relateAtLeast (s : Statement) : Edit Unit := do
  let verb ← s.signature
  s.bound verb (some (← s.reading.count 0)) none

def relateBetween (s : Statement) : Edit Unit := do
  let verb ← s.signature
  s.bound verb (some (← s.reading.count 0)) (some (← s.reading.count 1))

/-- A relation with no number of objects given. One that has to hold at least once may go on having
a greater lower bound. -/
def relate (s : Statement) : Edit Unit := do
  let verb ← s.signature
  let low ← s.modalBound
  if !((← get).verb verb).isTotal then
    s.bound verb low none

end Statement

end Worldsmith
