import Worldsmith.World.Basic

/-!
# The hierarchy of kinds

Kinds form a directed graph without cycles, and may have several kinds just above. `isA` says
whether one kind is at or below another; `ancestors` and `descendants` list what is at or above
and at or below a kind, nearest first.
-/

namespace Worldsmith

namespace World

/-- Whether at most `steps` edges lead up from a kind to another. -/
def isAWithin (world : World) : (steps : Nat) → Id .kind → Id .kind → Bool
  | 0, kind, ancestor => kind == ancestor
  | steps + 1, kind, ancestor =>
    kind == ancestor || (world.kind kind).superkinds.any (isAWithin world steps · ancestor)

/-- Whether a kind is another or below it. No way up is longer than the number of kinds. -/
def isA (world : World) (kind ancestor : Id .kind) : Bool :=
  world.isAWithin world.kinds.size kind ancestor

/-- Go on from the kinds in `pending`, nearest first, to all kinds that edges lead to. Each kind
that is found takes one round. -/
def spread (edges : Id .kind → List (Id .kind)) :
    (rounds : Nat) → (pending found : List (Id .kind)) → List (Id .kind)
  | 0, _, found => found
  | _, [], found => found
  | rounds + 1, kind :: pending, found =>
    let fresh := (edges kind).eraseDups.filter fun next => !found.contains next
    spread edges rounds (pending ++ fresh) (found ++ fresh)

/-- A kind and all kinds above it, nearest first. -/
def ancestors (world : World) (kind : Id .kind) : List (Id .kind) :=
  spread (fun k => (world.kind k).superkinds) (world.kinds.size + 1) [kind] [kind]

/-- A kind and all kinds below it, nearest first. -/
def descendants (world : World) (kind : Id .kind) : List (Id .kind) :=
  spread (fun k => (world.kind k).subkinds) (world.kinds.size + 1) [kind] [kind]

/-- Whether something declared to be of some kinds could be of another: some kind at or below a
declared one is at or below the other. -/
def couldBe (world : World) (declared : List (Id .kind)) (kind : Id .kind) : Bool :=
  declared.any fun d => (world.descendants d).any (world.isA · kind)

/-- Whether a kind is strictly above another. -/
def isAbove (world : World) (kind other : Id .kind) : Bool :=
  other != kind && world.isA other kind

/-- The kinds in a list that no other kind in it is below, each once. -/
def mostSpecific (world : World) (kinds : List (Id .kind)) : List (Id .kind) :=
  (kinds.filter fun kind => !kinds.any (world.isAbove kind)).eraseDups

/-- The kind at or above both of two kinds that is below all others of that sort, if there is
just one. -/
def leastUpperBound? (world : World) (a b : Id .kind) : Option (Id .kind) :=
  if world.isA a b then some b
  else if world.isA b a then some a
  else
    let aboveB := world.ancestors b
    let common := (world.ancestors a).filter aboveB.contains
    match common.filter fun kind => !common.any (world.isAbove kind) with
    | [least] => some least
    | _ => none

/-- Whether an adjective has been made relevant to a kind or to a kind above it. -/
def isRelevant (world : World) (adjective : Id .adjective) (kind : Id .kind) : Bool :=
  (world.ancestors kind).any (world.adjective adjective).relevantTo.contains

/-- A property of a kind or of a kind above it, by its name. -/
def findProperty? (world : World) (kind : Id .kind) (name : Name) : Option (Id .property) :=
  (world.ancestors kind).findSome? fun k =>
    (world.kind k).properties.find? fun p => (world.property p).name.same name

/-- A part of members of a kind or of a kind above it, by its name. -/
def findPart? (world : World) (kind : Id .kind) (name : Name) : Option (Id .part) :=
  (world.ancestors kind).findSome? fun k =>
    (world.kind k).parts.find? fun p => (world.part p).name.same name

end World

end Worldsmith
