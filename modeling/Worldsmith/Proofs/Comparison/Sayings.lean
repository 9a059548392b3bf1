import Worldsmith.Proofs.Model.Relationships

/-!
# What propositions say

Propositions are asked for to say that a being has a quality, that a verb relates two beings, or
that a property of a being takes a value, and each of these is spelled in a way of its own. Where
names are words of letters, the spelling tells what is said.

## Main definitions

* `Saying` — what a proposition is made to say.
* `World.Equates` — two sayings come to the same.
* `World.IsReadable` — names are such that it can be read from them what propositions say.
* `Blueprint.Says` — a proposition is made to say something, and so it is spelled.

## Main statements

* `Blueprint.Legible.spell_eq_iff` — sayings are spelled alike just if they come to the same.
-/

namespace Worldsmith

/-- What a proposition is made to say. -/
inductive Saying where
  /-- A being has a quality. -/
  | quality (i : Nat) (quality : Quality)
  /-- A verb relates two beings. -/
  | relation (verb : Id .verb) (subject object : Nat)
  /-- A property of a being takes a value. -/
  | choice (i : Nat) (property : Id .property) (value : String)

/-! ## Names of propositions -/

namespace Problem

variable {predicate predicate' x x' y value value' : String} {symmetric : Bool}

/-- The name that says that a property takes a value. -/
def choiceName (predicate x value : String) : String := unaryName predicate x ++ "=" ++ value

theorem unaryName_ne_binaryName (outer : IsArgument predicate) (inner : IsArgument x) :
    unaryName predicate x ≠ binaryName predicate' x' y symmetric := fun same =>
  (ne_of_mem_unaryName outer inner ',' (same ▸ comma_mem_binaryName _ _ _ _)).1 rfl

theorem unaryName_ne_choiceName (outer : IsArgument predicate) (inner : IsArgument x) :
    unaryName predicate x ≠ choiceName predicate' x' value := fun same =>
  (ne_of_mem_unaryName outer inner '=' (same ▸ by simp [choiceName])).2 rfl

/-- What comes first within the brackets is told by the sign after it. -/
theorem argument_inj {rest rest' : List Char} {sign sign' : Char}
    (isSign : sign = ',' ∨ sign = '=') (isSign' : sign' = ',' ∨ sign' = '=')
    (inner : IsArgument x) (inner' : IsArgument x')
    (same : x.toList ++ sign :: rest = x'.toList ++ sign' :: rest') :
    x = x' ∧ sign = sign' ∧ rest = rest' := by
  have plain {x : String} (inner : IsArgument x) :
      ∀ c ∈ x.toList, (c == ',' || c == '=') = false := fun c hc => by simp [inner c hc]
  obtain ⟨arguments, rests⟩ := append_inj_of_head (p := fun c => c == ',' || c == '=') same
    (plain inner) (plain inner') (by simpa using isSign) (by simpa using isSign')
  exact ⟨String.toList_inj.mp arguments, List.cons.inj rests⟩

theorem isArgument_append_bracket (inner : IsArgument x) : IsArgument (x ++ ")") := by
  intro c mem
  rw [String.toList_append, List.mem_append] at mem
  rcases mem with mem | mem
  · exact inner c mem
  · obtain rfl : c = ')' := by simpa using mem
    decide

/-- A value comes after the sign that is first after what is within the brackets. -/
theorem choiceName_eq (predicate x value : String) :
    choiceName predicate x value = predicate ++ ("(" ++ (x ++ ")" ++ ("=" ++ value))) := by
  simp only [choiceName, unaryName, String.append_assoc]

theorem choiceName_inj (outer : IsPredicate predicate) (outer' : IsPredicate predicate')
    (inner : IsArgument x) (inner' : IsArgument x')
    (same : choiceName predicate x value = choiceName predicate' x' value') :
    predicate = predicate' ∧ x = x' ∧ value = value' := by
  rw [choiceName_eq, choiceName_eq] at same
  obtain ⟨predicates, rests⟩ := bracket_inj outer outer' same
  have lists : (x ++ ")").toList ++ '=' :: value.toList =
      (x' ++ ")").toList ++ '=' :: value'.toList := by
    simpa using congrArg String.toList rests
  obtain ⟨arguments, -, values⟩ := argument_inj (.inr rfl) (.inr rfl)
    (isArgument_append_bracket inner) (isArgument_append_bracket inner') lists
  exact ⟨predicates, String.append_left_inj ")" |>.mp arguments, String.toList_inj.mp values⟩

theorem binaryName_ne_choiceName (outer : IsPredicate predicate) (outer' : IsPredicate predicate')
    (inner : IsArgument x) (inner' : IsArgument y) (inner'' : IsArgument x') :
    binaryName predicate x y symmetric ≠ choiceName predicate' x' value := by
  intro same
  obtain ⟨first, second, name, order⟩ := binaryName_eq predicate x y symmetric
  have argument : IsArgument first := by
    rcases order with ⟨rfl, -⟩ | ⟨-, rfl, -⟩ <;> assumption
  rw [name, choiceName_eq] at same
  have whole : predicate ++ ("(" ++ (first ++ ("," ++ (" " ++ second ++ ")")))) =
      predicate' ++ ("(" ++ (x' ++ ")" ++ ("=" ++ value))) := by
    rw [← same, show ", " = "," ++ " " from rfl]
    simp only [String.append_assoc]
  obtain ⟨-, rests⟩ := bracket_inj outer outer' whole
  have lists : first.toList ++ ',' :: (" " ++ second ++ ")").toList =
      (x' ++ ")").toList ++ '=' :: value.toList := by
    simpa using congrArg String.toList rests
  obtain ⟨-, signs, -⟩ := argument_inj (.inl rfl) (.inr rfl) argument
    (isArgument_append_bracket inner'') lists
  exact absurd signs (by decide)

end Problem

/-! ## Sayings -/

namespace World

variable {world : World}

/-- Whether two sayings come to the same, because they are of qualities or properties of one name,
or of one relation. -/
inductive Equates (world : World) : Saying → Saying → Prop where
  | quality (i : Nat) {q q' : Quality} (same : world.qualityName q = world.qualityName q') :
      Equates world (.quality i q) (.quality i q')
  | relation {verb verb' : Id .verb} {s o s' o' : Nat}
      (same : world.Coincide (verb, s, o) (verb', s', o')) :
      Equates world (.relation verb s o) (.relation verb' s' o')
  | choice (i : Nat) {id id' : Id .property} (value : String)
      (same : untokenize (world.property id).name = untokenize (world.property id').name) :
      Equates world (.choice i id value) (.choice i id' value)

/-- Whether names of concepts are words of letters, no two of them alike, and those of properties
can stand in front of brackets. -/
structure IsReadable (world : World) : Prop where
  named : world.IsLettered
  property : ∀ id : Id .property, world.Owns id →
    IsPredicate (untokenize (world.property id).name)

end World

namespace Blueprint

variable {b b' : Blueprint} {s t : Saying} {p q : Proposition}

/-- The name of the proposition that says something. -/
def spell (b : Blueprint) : Saying → String
  | .quality i quality => b.qualityName i quality
  | .relation verb subject object => b.relationName verb subject object
  | .choice i id value =>
    Problem.choiceName (untokenize (b.world.property id).name) (b.being i).name value

/-- Whether a saying is about beings that there are, and about a verb or a property of the world
unless it is about a quality. -/
def Treats (b : Blueprint) : Saying → Prop
  | .quality i _ => i < b.beings.size
  | .relation verb subject object =>
    verb.index < b.world.verbs.size ∧ subject < b.beings.size ∧ object < b.beings.size
  | .choice i id _ => id.index < b.world.properties.size ∧ i < b.beings.size

/-- Whether a proposition is made to say something. -/
structure Says (b : Blueprint) (p : Proposition) (s : Saying) : Prop where
  treats : b.Treats s
  name? : b.problem.name? p = some (b.spell s)

theorem Extends.treats (grows : b.Extends b') (treats : b.Treats s) : b'.Treats s := by
  cases s with
  | quality i q => exact grows.lt_size treats
  | relation verb s o =>
    obtain ⟨known, hs, ho⟩ := treats
    exact ⟨grows.world ▸ known, grows.lt_size hs, grows.lt_size ho⟩
  | choice i id value =>
    obtain ⟨known, hi⟩ := treats
    exact ⟨grows.world ▸ known, grows.lt_size hi⟩

theorem Extends.spell_eq (grows : b.Extends b') (treats : b.Treats s) : b'.spell s = b.spell s := by
  cases s with
  | quality i q => exact grows.qualityName_eq treats q
  | relation verb s o => exact relationName_eq grows treats.2
  | choice i id value => rw [spell, spell, grows.world, grows.name_eq treats.2]

theorem Says.later (said : b.Says p s) (grows : b.Extends b') : b'.Says p s where
  treats := grows.treats said.treats
  name? := by
    rw [grows.spell_eq said.treats]
    exact grows.problem.name?_eq_some said.name?

/-- Whether names are such that it can be read from them what propositions say. -/
structure Legible (b : Blueprint) : Prop where
  readable : b.world.IsReadable
  distinct : Distinct b.world b

namespace Legible

variable (legible : b.Legible)
include legible

theorem isNameChar_qualityName (q : Quality) :
    ∀ c ∈ (b.world.qualityName q).toList, isNameChar c = true := by
  rw [World.qualityName_eq]
  exact legible.readable.named.isNameChar q.concept

theorem isPredicate_verbName (verb : Id .verb) : IsPredicate (b.world.verbName verb) :=
  isPredicate_of_isNameChar (legible.readable.named.isNameChar (.verb verb))

/-- What is spelled alike comes to the same. -/
theorem equates_of_spell_eq (treats : b.Treats s) (treats' : b.Treats t)
    (same : b.spell s = b.spell t) : b.world.Equates s t := by
  have argument := legible.distinct.argument
  have eq_of_name {i j : Nat} (hi : i < b.beings.size) (hj : j < b.beings.size) :=
    legible.distinct.eq_of_name i hi j hj
  have predicate (q : Quality) := isPredicate_of_isNameChar (legible.isNameChar_qualityName q)
  have outer (q : Quality) := isArgument_of_isNameChar (legible.isNameChar_qualityName q)
  cases s with
  | quality i q =>
    cases t with
    | quality j q' =>
      obtain ⟨qualities, names⟩ := Problem.unaryName_inj (predicate q) (predicate q') same
      obtain rfl := eq_of_name treats treats' names
      exact .quality i qualities
    | relation verb s o =>
      exact absurd same (Problem.unaryName_ne_binaryName (outer q) (argument i treats))
    | choice j id value =>
      exact absurd same (Problem.unaryName_ne_choiceName (outer q) (argument i treats))
  | relation verb s o =>
    obtain ⟨known, hs, ho⟩ := treats
    cases t with
    | quality j q =>
      exact absurd same.symm (Problem.unaryName_ne_binaryName (outer q) (argument j treats'))
    | relation verb' s' o' =>
      obtain ⟨known', hs', ho'⟩ := treats'
      obtain ⟨verbs, beings⟩ := Problem.binaryName_inj (legible.isPredicate_verbName verb)
        (legible.isPredicate_verbName verb') (argument s hs) (argument s' hs') (argument o ho)
        (argument o' ho') same
      obtain rfl := Concept.verb.inj (legible.readable.named.eq_of_name _ _ known known' verbs)
      refine .relation ⟨rfl, beings.imp ?_ ?_⟩
      · exact fun ⟨x, y⟩ => congrArg₂ Prod.mk (eq_of_name hs hs' x) (eq_of_name ho ho' y)
      · rintro ⟨symmetric, x, y⟩
        refine ⟨by simpa using symmetric, ?_⟩
        exact congrArg₂ Prod.mk (eq_of_name hs ho' x) (eq_of_name ho hs' y)
    | choice j id value =>
      exact absurd same (Problem.binaryName_ne_choiceName (legible.isPredicate_verbName verb)
        (legible.readable.property id treats'.1) (argument s hs) (argument o ho)
        (argument j treats'.2))
  | choice i id value =>
    cases t with
    | quality j q =>
      exact absurd same.symm (Problem.unaryName_ne_choiceName (outer q) (argument j treats'))
    | relation verb s o =>
      obtain ⟨known, hs, ho⟩ := treats'
      exact absurd same.symm (Problem.binaryName_ne_choiceName (legible.isPredicate_verbName verb)
        (legible.readable.property id treats.1) (argument s hs) (argument o ho)
        (argument i treats.2))
    | choice j id' value' =>
      obtain ⟨properties, names, rfl⟩ := Problem.choiceName_inj
        (legible.readable.property id treats.1) (legible.readable.property id' treats'.1)
        (argument i treats.2) (argument j treats'.2) same
      obtain rfl := eq_of_name treats.2 treats'.2 names
      exact .choice i value properties

omit legible in
theorem spell_eq_of_equates (equates : b.world.Equates s t) : b.spell s = b.spell t := by
  cases equates with
  | quality i same => rw [spell, spell, qualityName, qualityName, same]
  | @relation verb verb' s o s' o' same =>
    obtain ⟨verbs, beings⟩ := same
    obtain rfl : verb = verb' := verbs
    rcases beings with same | ⟨symmetric, swapped⟩
    · obtain ⟨rfl, rfl⟩ := Prod.mk.inj same
      rfl
    · obtain ⟨rfl, rfl⟩ := Prod.mk.inj swapped
      have symmetric : (b.world.verb verb).symmetric = true := symmetric
      rw [spell, spell, relationName, relationName, symmetric, Problem.binaryName_comm]
  | choice i value same => rw [spell, spell, same]

/-- Sayings are spelled alike just if they come to the same. -/
theorem spell_eq_iff (treats : b.Treats s) (treats' : b.Treats t) :
    b.spell s = b.spell t ↔ b.world.Equates s t :=
  ⟨legible.equates_of_spell_eq treats treats', spell_eq_of_equates⟩

/-- A proposition is made to say one thing, and one thing is said by one proposition. -/
theorem eq_iff_equates (said : b.Says p s) (said' : b.Says q t) :
    p = q ↔ b.world.Equates s t := by
  rw [← legible.spell_eq_iff said.treats said'.treats]
  constructor
  · rintro rfl
    exact Option.some.inj (said.name?.symm.trans said'.name?)
  · exact fun same => Problem.eq_of_name? said.name? (same ▸ said'.name?)

end Legible

end Blueprint

end Worldsmith
