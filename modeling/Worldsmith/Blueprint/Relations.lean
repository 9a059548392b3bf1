import Worldsmith.Blueprint.Growth

/-!
# Relations between beings

For each verb every pair of beings that its signature admits gets a proposition, which implies what
the signature demands. Then come the verb's own laws, the bounds on the number of objects, and the
laws that tie verbs to each other.
-/

namespace Worldsmith

namespace Blueprint

/-- The beings that could be of a kind. -/
def candidates (b : Blueprint) (kind : Id .kind) : List Nat :=
  (List.range b.beings.size).filter (b.couldBe · kind)

/-- If a proposition holds, a being has some traits. -/
def demandTraits (premise : Literal) (i : Nat) (traits : List Trait) (b : Blueprint) : Blueprint :=
  traits.foldl (fun b trait =>
    let (l, b) := b.literal i trait
    b.modifyProblem (·.implies premise l)) b

/-- The literals that two beings are of the subject and object kind of a verb. -/
def bothAre (subject object : Nat) (subjectKind objectKind : Id .kind) (b : Blueprint) :
    Literal × Literal × Blueprint :=
  let (s, b) := b.isOf subject subjectKind
  let (o, b) := b.isOf object objectKind
  (s.positive, o.positive, b)

/-- If a proposition holds, two beings are of the subject and object kind of a verb. -/
def demandKinds (premise : Literal) (subject object : Nat) (subjectKind objectKind : Id .kind)
    (b : Blueprint) : Blueprint :=
  let (s, o, b) := bothAre subject object subjectKind objectKind b
  b.modifyProblem fun problem => (problem.implies premise s).implies premise o

/-- Make the proposition that a verb relates two beings, and say what follows from it. In a
symmetric relation both beings are of both kinds. -/
def addPair (id : Id .verb) (verb : Verb) (subjectKind objectKind : Id .kind) (subject object : Nat)
    (b : Blueprint) : Blueprint :=
  let (p, problem) := b.problem.binary (untokenize verb.base) (b.being subject).name
    (b.being object).name verb.symmetric
  let b := { b with
    problem := problem.setPrior p verb.density
    relations := b.relations.push ⟨id, subject, object, p⟩
    relationIndex := b.relationIndex.insert (id, subject, object) p }
  let holds := p.positive
  let b := demandKinds holds subject object subjectKind objectKind b
  let b := if verb.symmetric then demandKinds holds object subject subjectKind objectKind b else b
  let b := demandTraits holds subject verb.subjectModifiers b
  demandTraits holds object verb.objectModifiers b

/-- Say how a verb relates a being to itself. -/
def addLoop (id : Id .verb) (verb : Verb) (subjectKind objectKind : Id .kind) (b : Blueprint)
    (i : Nat) : Blueprint :=
  match b.relation? id i i with
  | none => b
  | some p =>
    if verb.antiReflexive then b.modifyProblem (·.assert p.negative)
    else if verb.reflexive then
      let (s, o, b) := bothAre i i subjectKind objectKind b
      b.modifyProblem (·.clause [s.negate, o.negate, p.positive])
    else b

/-- A relation that is not mutual does not hold both ways. -/
def addOneWay (id : Id .verb) (b : Blueprint) (pair : Nat × Nat) : Blueprint :=
  match b.relation? id pair.1 pair.2, b.relation? id pair.2 pair.1 with
  | some forward, some backward =>
    b.modifyProblem (·.atMost 1 [forward.positive, backward.positive])
  | _, _ => b

/-- All pairs of a list's members, in order. -/
def pairs (xs ys : List Nat) : List (Nat × Nat) :=
  xs.flatMap fun x => ys.map fun y => (x, y)

/-- Bound the number of objects of a subject. -/
def addBounds (id : Id .verb) (verb : Verb) (subjectKind : Id .kind) (objects : List Nat)
    (b : Blueprint) (subject : Nat) : Blueprint :=
  let low := verb.lowerBound.getD 0
  let high := verb.upperBound.getD objects.length
  if low = 0 && objects.length ≤ high then b
  else
    let related := objects.filterMap fun object => b.relation? id subject object
    let (p, b) := b.isOf subject subjectKind
    b.modifyProblem (·.quantifyIf p.positive low high (related.map Proposition.positive))

/-- Add all that a verb by itself demands. -/
def addVerb (b : Blueprint) (id : Id .verb) : Blueprint :=
  let verb := b.world.verb id
  match verb.subjectKind, verb.objectKind with
  | some subjectKind, some objectKind =>
    let subjects := b.candidates subjectKind
    let objects := b.candidates objectKind
    let b := (pairs subjects objects).foldl (fun b (subject, object) =>
      addPair id verb subjectKind objectKind subject object b) b
    let b := (subjects.filter objects.contains).foldl
      (addLoop id verb subjectKind objectKind) b
    let b := if verb.antiSymmetric then
        ((pairs subjects subjects).filter fun (x, y) => x < y).foldl (addOneWay id) b
      else b
    subjects.foldl (addBounds id verb subjectKind objects) b
  | _, _ => b

/-- A relation implies the more general ones. Where a more general one cannot hold, neither can
it. -/
def addGeneral (relation : Relation) (b : Blueprint) (general : Id .verb) : Blueprint :=
  match b.relation? general relation.subject relation.object with
  | some implied =>
    b.modifyProblem (·.implies relation.proposition.positive implied.positive)
  | none => b.modifyProblem (·.assert relation.proposition.negative)

/-- A relation excludes others. Each pair of verbs is handled once. -/
def addExcluded (relation : Relation) (b : Blueprint) (other : Id .verb) : Blueprint :=
  if other.index ≤ relation.verb.index then b
  else
    match b.relation? other relation.subject relation.object with
    | some excluded =>
      b.modifyProblem (·.atMost 1 [relation.proposition.positive, excluded.positive])
    | none => b

/-- At most one way of a relation holds. -/
def addWays (relation : Relation) (ways : List (Id .verb)) (b : Blueprint) : Blueprint :=
  let possible := ways.filterMap fun way => b.relation? way relation.subject relation.object
  if 1 < possible.length then b.modifyProblem (·.atMost 1 (possible.map Proposition.positive))
  else b

/-- Tie a relation to those of other verbs between the same beings. -/
def tieRelation (verb : Verb) (b : Blueprint) (relation : Relation) : Blueprint :=
  let b := (verb.generalizations ++ verb.superspecies).foldl (addGeneral relation) b
  let b := verb.exclusions.foldl (addExcluded relation) b
  addWays relation verb.subspecies b

/-- Tie a verb's relations to those of other verbs. -/
def tieVerb (b : Blueprint) (id : Id .verb) : Blueprint :=
  (b.relations.toList.filter (·.verb == id)).foldl (tieRelation (b.world.verb id)) b

/-- Relate all beings. -/
def addRelations (b : Blueprint) : Blueprint :=
  let verbs := b.world.verbIds
  let b := verbs.foldl addVerb b
  verbs.foldl tieVerb b

/-- Make a request into a problem. -/
def ofRequest (world : World) (request : Request) : Blueprint :=
  let b := world.individualIds.foldl (addPermanent (work (enoughFuel world))) (ofWorld world)
  (addRequested request request.count b).addRelations

end Blueprint

end Worldsmith
