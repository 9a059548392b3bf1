import Worldsmith.Proofs.Statement.Declarations

/-!
# Reachable worlds

A world is reached from the empty one by declarations that were understood and carried out, one
after another. All worlds that are reached that way are sound.

## Main definitions

* `World.Reachable` — a world that declarations lead to.

## Main statements

* `World.Reachable.evolves` — such a world comes of the empty one by changes.
* `World.Reachable.isSound` — in such a world names stand for concepts of the world, kinds form a
  hierarchy, and verbs agree on how they stand to each other.
-/

namespace Worldsmith

namespace World

variable {world later : World} {line : String} {reading : Reading}
  {menu : String → Except ResourceError (List String)} {declaration : Declaration}
  {kinds : List (Id .kind)}

/-- Whether a world is what declarations lead to, beginning with the empty world. -/
inductive Reachable : World → Prop
  | empty : Reachable empty
  | declare (world later : World) (line : String) (reading : Reading)
      (menu : String → Except ResourceError (List String)) (declaration : Declaration)
      (kinds : List (Id .kind)) (before : Reachable world)
      (understood : world.understand line = .ok reading)
      (declares : reading.pattern.action = .declare declaration)
      (performed : (reading.perform line menu declaration).perform world = (.ok kinds, later)) :
      Reachable later

/-- The world after a line, if that is a declaration that can be carried out. -/
def tell? (menu : String → Except ResourceError (List String)) (world : World) (line : String) :
    Option World :=
  match world.understand line with
  | .error _ => none
  | .ok reading =>
    match reading.pattern.action with
    | .command _ => none
    | .declare declaration =>
      match (reading.perform line menu declaration).perform world with
      | (.ok _, later) => some later
      | (.error _, _) => none

theorem Reachable.tell (before : world.Reachable) (told : world.tell? menu line = some later) :
    later.Reachable := by
  unfold tell? at told
  split at told
  · cases told
  · rename_i reading understood
    split at told
    · cases told
    · rename_i declaration declares
      split at told
      · rename_i kinds after performed
        cases told
        exact .declare world later line reading menu declaration kinds before understood declares
          performed
      · cases told

/-- What is declared of a world makes changes of it. -/
theorem Evolves.perform {base : World} (h : base.Evolves world)
    (understood : world.understand line = .ok reading)
    (performed : (reading.perform line menu declaration).perform world = (.ok kinds, later)) :
    world.Evolves later :=
  Reading.evolves_perform (isIn_of_understand h.sound.lexicon understood) line menu declaration
    world h.refl kinds later performed

theorem Reachable.evolves (reachable : world.Reachable) : World.empty.Evolves world := by
  induction reachable with
  | empty => exact evolves_empty
  | declare _ _ _ _ _ _ _ _ understood _ performed before =>
    exact before.trans (before.perform understood performed)

theorem Reachable.isSound (reachable : world.Reachable) : world.IsSound :=
  reachable.evolves.sound

end World

end Worldsmith
