import Worldsmith.Blueprint.Basic

/-!
# Beings and what is true of them

Declaring a being asserts its kinds and all kinds above them. For each kind that it could be the
consequences are written down, all of them guarded by membership: one of the kinds just below
holds, all kinds just above hold, and so do the kind's implications and alternatives; properties
become variables and parts become beings of their own.
-/

namespace Worldsmith

namespace Blueprint

/-- What remains to be done about a being. -/
inductive Task where
  /-- Assert that it is of a kind. -/
  | declare (being : Nat) (kind : Id .kind)
  /-- Write down what being of a kind entails. -/
  | expand (being : Nat) (kind : Id .kind)
  /-- Make one of its parts. -/
  | part (being : Nat) (part : Id .part)

/-- A name with a number that no other being of that name has. -/
def freshName (b : Blueprint) (kind : Id .kind) : String × Blueprint :=
  let base := (b.world.kindName kind).map fun c => if c = ' ' then '_' else c
  let number := b.counters.getD base 0 + 1
  (base ++ number.repr, { b with counters := b.counters.insert base number })

/-- Assert that a being has a trait. -/
def assertTrait (i : Nat) (b : Blueprint) (trait : Trait) : Blueprint :=
  let (l, b) := b.literal i trait
  b.modifyProblem (·.assert l)

/-- Assert the kinds and the other traits of a being. -/
def declare (work : Task → Blueprint → Blueprint) (i : Nat) (kinds : List (Id .kind))
    (modifiers : List Trait) (b : Blueprint) : Blueprint :=
  let b := kinds.foldl (fun b kind => work (.declare i kind) b) b
  modifiers.foldl (assertTrait i) b

/-- The kinds that a being is declared to be of when kinds are also among its modifiers. -/
def declaredKinds (world : World) (kinds : List (Id .kind)) (modifiers : List Trait) :
    List (Id .kind) :=
  world.mostSpecific <| modifiers.foldl (fun declared trait =>
    match trait.quality, trait.positive with
    | .kind kind, true => if declared.contains kind then declared else declared ++ [kind]
    | _, _ => declared) kinds

/-- Add a being that is no individual of the world. -/
def addBeing (work : Task → Blueprint → Blueprint) (kinds : List (Id .kind))
    (modifiers : List Trait) (container : Option (Nat × Id .part)) (depth : Nat) (b : Blueprint) :
    Nat × Blueprint :=
  let declared := declaredKinds b.world kinds modifiers
  let i := b.beings.size
  let (name, b) := match declared with
    | kind :: _ => b.freshName kind
    | [] => ("thing" ++ (i + 1).repr, b)
  let b := { b with
    beings := b.beings.push ⟨name, declared, modifiers, none, container, [], [], depth⟩ }
  (i, declare work i declared modifiers b)

/-- Add an individual of the world. -/
def addPermanent (work : Task → Blueprint → Blueprint) (b : Blueprint) (id : Id .individual) :
    Blueprint :=
  let individual := b.world.individual id
  let i := b.beings.size
  let b := { b with
    beings := b.beings.push ⟨untokenize individual.name, individual.kinds, individual.modifiers,
      some id, none, [], [], 0⟩ }
  declare work i individual.kinds individual.modifiers b

/-! ## What membership entails -/

/-- A member is of exactly one of the kinds just below. -/
def chooseSubkind (i : Nat) (member : Literal) (subkinds : List (Id .kind)) (b : Blueprint) :
    Blueprint :=
  if subkinds.isEmpty then b
  else
    let (choices, b) := b.memberships i subkinds
    b.modifyProblem (·.unique (member.negate :: choices))

/-- A member is of a kind just above. -/
def implySuperkind (i : Nat) (member : Literal) (parent : Id .kind) (b : Blueprint) : Blueprint :=
  let (p, b) := b.isOf i parent
  b.modifyProblem (·.implies member p.positive)

/-- A member for which the conditions hold has the consequent. -/
def addImplication (i : Nat) (member : Literal) (b : Blueprint) (implication : Implication) :
    Blueprint :=
  let (conditions, b) := b.literals i implication.conditions
  let (consequent, b) := b.literal i implication.consequent
  b.modifyProblem (·.clause (member.negate :: conditions.map Literal.negate ++ [consequent]))

/-- Of a member the right number of alternatives holds. -/
def addAlternatives (i : Nat) (member : Literal) (b : Blueprint) (set : AlternativeSet) :
    Blueprint :=
  let (alternatives, b) := b.literals i set.alternatives
  b.modifyProblem (·.quantifyIf member set.low set.high alternatives)

/-- The value of a property that the world has fixed for a being. -/
def fixedValue? (b : Blueprint) (i : Nat) (id : Id .property) : Option String :=
  (b.being i).permanent.bind fun permanent =>
    ((b.world.individual permanent).properties.find? (·.1 == id)).map Prod.snd

/-- What restricts the value of a menu. -/
def addRestriction (i variableIndex : Nat) (b : Blueprint) (restriction : MenuRestriction) :
    Blueprint :=
  let (conditions, b) := b.literals i restriction.conditions
  b.modifyProblem (·.restrictMenu variableIndex conditions restriction.values)

/-- The variable for a property of members, unless there is one already or none is needed. -/
def addProperty (i : Nat) (member : Literal) (b : Blueprint) (id : Id .property) : Blueprint :=
  if (b.being i).properties.any (·.1 == id) then b
  else
    let property := b.world.property id
    let fixed := b.fixedValue? i id
    let name := untokenize property.name ++ "(" ++ (b.being i).name ++ ")"
    let record (variableIndex : Nat) (b : Blueprint) : Blueprint :=
      b.modifyBeing i fun being =>
        { being with properties := being.properties ++ [(id, variableIndex)] }
    match property.domain with
    | .text => b
    | .range low high =>
      if fixed.isSome then b
      else
        let (v, problem) := b.problem.rangeVariable name low high member
        record v { b with problem := problem }
    | .menu _ values restrictions =>
      let (v, problem) := b.problem.menuVariable name values member
      let b := restrictions.foldl (addRestriction i v) { b with problem := problem }
      let b := match fixed.bind (b.problem.menuChoice? v) with
        | some choice => b.modifyProblem (·.assert choice.positive)
        | none => b
      record v b

/-- Assert a membership and those above it, and write down what it entails. -/
def assertMembership (work : Task → Blueprint → Blueprint) (i : Nat) (kind : Id .kind)
    (b : Blueprint) : Blueprint :=
  let (p, b) := b.isOf i kind
  let b := b.modifyProblem (·.assert p.positive)
  let b := (b.world.kind kind).superkinds.foldl
    (fun b parent => work (.declare i parent) b) b
  work (.expand i kind) b

/-- Write down what a membership entails. -/
def expandMembership (work : Task → Blueprint → Blueprint) (i : Nat) (kind : Id .kind)
    (b : Blueprint) : Blueprint :=
  let definition := b.world.kind kind
  let (p, b) := b.isOf i kind
  let member := p.positive
  let b := chooseSubkind i member definition.subkinds b
  let b := definition.subkinds.foldl
    (fun b sub => if b.couldBe i sub then work (.expand i sub) b else b) b
  let b := definition.superkinds.foldl
    (fun b parent => work (.expand i parent) (implySuperkind i member parent b)) b
  let b := definition.adjectives.foldl (fun b adjective => (b.has i adjective).2) b
  let b := definition.implications.foldl (addImplication i member) b
  let b := definition.alternativeSets.foldl (addAlternatives i member) b
  let b := definition.properties.foldl (addProperty i member) b
  if (b.being i).depth < maxPartDepth then
    definition.parts.foldl (fun b part => work (.part i part) b) b
  else b

/-- Do one task and whatever follows from it. No more than `fuel` tasks are nested. -/
def work : (fuel : Nat) → Task → Blueprint → Blueprint
  | 0, _, b => b
  | fuel + 1, .declare i kind, b =>
    if b.asserted.contains (i, kind) then b
    else assertMembership (work fuel) i kind
      { b with asserted := b.asserted.insert (i, kind) }
  | fuel + 1, .expand i kind, b =>
    if b.expanded.contains (i, kind) then b
    else expandMembership (work fuel) i kind
      { b with expanded := b.expanded.insert (i, kind) }
  | fuel + 1, .part i id, b =>
    if (b.being i).parts.any (·.1 == id) then b
    else
      let part := b.world.part id
      let depth := (b.being i).depth + 1
      let (child, b) := addBeing (work fuel) [part.kind] part.modifiers (some (i, id)) depth b
      b.modifyBeing i fun being => { being with parts := being.parts ++ [(id, child)] }

/-- More than the tasks that can be nested. Within a being no kind is asserted or expanded twice,
and each part is one being further in. -/
def enoughFuel (world : World) : Nat :=
  (maxPartDepth + 1) * (2 * world.kinds.size + 4)

/-- Add so many requested beings. -/
def addRequested (request : Request) : Nat → Blueprint → Blueprint
  | 0, b => b
  | count + 1, b =>
    let (i, b) := addBeing (work (enoughFuel b.world)) [request.kind] request.modifiers none 0 b
    addRequested request count { b with requested := b.requested ++ [i] }

end Blueprint

end Worldsmith
