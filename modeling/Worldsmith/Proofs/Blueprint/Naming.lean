import Worldsmith.Proofs.Blueprint.Beings
import Worldsmith.Proofs.Blueprint.Quiet
import Worldsmith.Proofs.Text.Classes
import Worldsmith.Proofs.World.Closure
import Worldsmith.Proofs.World.Names

/-!
# Names of beings

Individuals of the world go by their own names, all other beings by a number after the name of a
kind. Where names are words of letters no two beings share a name, and so the proposition that one
being stands in a relation to another is about these two only.

## Main definitions

* `Blueprint.Distinct` — beings can be told apart by their names.
* `Blueprint.Labelled` — besides, so can they when further ones are added.

## Main statements

* `Blueprint.labelled_beingsOf` — the beings of a request can be told apart.
* `Problem.binaryName_inj` — a relation's name tells the relation and whom it relates.
-/

namespace Worldsmith

/-! ## Names with numbers -/

/-- A name and the number after it are told by both together. -/
theorem append_repr_inj {base base' : String} {number number' : Nat}
    (plain : ∀ c ∈ base.toList, c.isDigit = false) (plain' : ∀ c ∈ base'.toList, c.isDigit = false)
    (same : base ++ number.repr = base' ++ number'.repr) : base = base' ∧ number = number' := by
  have digits (number : Nat) : ∀ c ∈ number.repr.toList.head?, c.isDigit = true :=
    fun c hc => isDigit_of_mem_repr (List.mem_of_mem_head? hc)
  have lists := congrArg String.toList same
  rw [String.toList_append, String.toList_append] at lists
  obtain ⟨bases, numbers⟩ :=
    append_inj_of_head lists plain plain' (digits number) (digits number')
  exact ⟨String.toList_inj.mp bases, eq_of_toList_repr_eq numbers⟩

/-- Whoever has no digit in his name has no number after it. -/
theorem ne_append_repr {name base : String} {number : Nat}
    (plain : ∀ c ∈ name.toList, c.isDigit = false) : name ≠ base ++ number.repr := by
  rintro rfl
  obtain ⟨c, hc⟩ := List.exists_mem_of_ne_nil _ (Nat.toDigits_ne_nil (n := number) (b := 10))
  rw [← Nat.toList_repr] at hc
  have plain := plain c (by rw [String.toList_append]; exact List.mem_append_right _ hc)
  exact Bool.false_ne_true (plain.symm.trans (isDigit_of_mem_repr hc))

/-- Letters come after all digits and brackets. -/
theorem isNameChar_eq_false {c : Char} (lt : c.toNat < 0x41) (other : c ≠ ' ') :
    isNameChar c = false := by
  have notLetter : Text.isAlphabetic c = false := if_pos lt
  simp [isNameChar, notLetter, other]

theorem isDigit_eq_false_of_isNameChar {c : Char} (h : isNameChar c = true) :
    c.isDigit = false := by
  refine Bool.eq_false_iff.mpr fun digit =>
    Bool.false_ne_true ((isNameChar_eq_false ?_ ?_).symm.trans h)
  · simp only [Char.isDigit, Bool.and_eq_true, decide_eq_true_eq] at digit
    exact Nat.lt_of_le_of_lt digit.2 (by decide)
  · rintro rfl
    simp at digit

theorem ne_of_isNameChar {c sign : Char} (h : isNameChar c = true) (lt : sign.toNat < 0x41)
    (other : sign ≠ ' ') : c ≠ sign := by
  rintro rfl
  exact Bool.false_ne_true ((isNameChar_eq_false lt other).symm.trans h)

/-! ## Names of relations -/

/-- Whether a name can stand between the brackets of a proposition's name: it has neither the sign
that divides the names of two beings nor the one that stands before a value. -/
def IsArgument (name : String) : Prop := ∀ c ∈ name.toList, c ≠ ',' ∧ c ≠ '='

/-- Whether a name can stand in front of the brackets. -/
def IsPredicate (name : String) : Prop := '(' ∉ name.toList

theorem isPredicate_of_isNameChar {name : String}
    (plain : ∀ c ∈ name.toList, isNameChar c = true) : IsPredicate name :=
  fun mem => ne_of_isNameChar (plain _ mem) (by decide) (by decide) rfl

theorem isArgument_of_isNameChar {name : String}
    (plain : ∀ c ∈ name.toList, isNameChar c = true) : IsArgument name := fun c mem =>
  ⟨ne_of_isNameChar (plain c mem) (by decide) (by decide),
    ne_of_isNameChar (plain c mem) (by decide) (by decide)⟩

theorem isArgument_append_repr {base : String} (plain : IsArgument base) (number : Nat) :
    IsArgument (base ++ number.repr) := by
  intro c mem
  rw [String.toList_append, List.mem_append] at mem
  rcases mem with mem | mem
  · exact plain c mem
  · have digit := isDigit_of_mem_repr mem
    constructor <;> rintro rfl <;> exact absurd digit (by decide)

namespace Problem

/-- The name of a relation that is not symmetric tells the relation and whom it relates. -/
theorem directed_inj {predicate predicate' x x' y y' : String} (outer : IsPredicate predicate)
    (outer' : IsPredicate predicate') (inner : IsArgument x) (inner' : IsArgument x')
    (same : predicate ++ "(" ++ x ++ ", " ++ y ++ ")" =
      predicate' ++ "(" ++ x' ++ ", " ++ y' ++ ")") :
    predicate = predicate' ∧ x = x' ∧ y = y' := by
  have lists := congrArg String.toList same
  simp only [String.toList_append, List.append_assoc] at lists
  obtain ⟨predicates, rest⟩ := append_inj_of_head (p := (· == '(')) lists
    (fun c hc => beq_eq_false_iff_ne.mpr fun is => outer (is ▸ hc))
    (fun c hc => beq_eq_false_iff_ne.mpr fun is => outer' (is ▸ hc)) (by simp) (by simp)
  obtain ⟨firsts, rest⟩ := append_inj_of_head (p := (· == ',')) (List.append_cancel_left rest)
    (fun c hc => beq_eq_false_iff_ne.mpr (inner c hc).1)
    (fun c hc => beq_eq_false_iff_ne.mpr (inner' c hc).1) (by simp) (by simp)
  exact ⟨String.toList_inj.mp predicates, String.toList_inj.mp firsts,
    String.toList_inj.mp (List.append_cancel_right (List.append_cancel_left rest))⟩

/-- In a symmetric relation the order does not matter. -/
theorem binaryName_comm (predicate x y : String) :
    binaryName predicate x y true = binaryName predicate y x true := by
  unfold binaryName
  by_cases less : y < x
  · simp [less, String.lt_asymm less]
  · by_cases more : x < y
    · simp [less, more]
    · obtain rfl : x = y := String.le_antisymm less more
      rfl

/-- A relation is named in the order in which it is given, or in the other order if it is
symmetric. -/
theorem binaryName_eq (predicate x y : String) (symmetric : Bool) : ∃ first second,
    binaryName predicate x y symmetric =
      predicate ++ "(" ++ first ++ ", " ++ second ++ ")" ∧
    ((first = x ∧ second = y) ∨ (symmetric = true ∧ first = y ∧ second = x)) := by
  unfold binaryName
  split_ifs with swap
  · rw [Bool.and_eq_true] at swap
    exact ⟨y, x, rfl, .inr ⟨swap.1, rfl, rfl⟩⟩
  · exact ⟨x, y, rfl, .inl ⟨rfl, rfl⟩⟩

/-- The name of a relation tells the relation and whom it relates, but for the order if it is
symmetric. -/
theorem binaryName_inj {predicate predicate' x x' y y' : String} {symmetric symmetric' : Bool}
    (outer : IsPredicate predicate) (outer' : IsPredicate predicate') (hx : IsArgument x)
    (hx' : IsArgument x') (hy : IsArgument y) (hy' : IsArgument y')
    (same : binaryName predicate x y symmetric = binaryName predicate' x' y' symmetric') :
    predicate = predicate' ∧
      ((x = x' ∧ y = y') ∨ ((symmetric || symmetric') = true ∧ x = y' ∧ y = x')) := by
  obtain ⟨first, second, name, order⟩ := binaryName_eq predicate x y symmetric
  obtain ⟨first', second', name', order'⟩ := binaryName_eq predicate' x' y' symmetric'
  have argument : IsArgument first := by
    rcases order with ⟨rfl, -⟩ | ⟨-, rfl, -⟩ <;> assumption
  have argument' : IsArgument first' := by
    rcases order' with ⟨rfl, -⟩ | ⟨-, rfl, -⟩ <;> assumption
  rw [name, name'] at same
  obtain ⟨predicates, rfl, rfl⟩ := directed_inj outer outer' argument argument' same
  refine ⟨predicates, ?_⟩
  rcases order with ⟨rfl, rfl⟩ | ⟨rfl, rfl, rfl⟩ <;>
    rcases order' with ⟨rfl, rfl⟩ | ⟨rfl, rfl, rfl⟩ <;> simp

end Problem

/-! ## Declared kinds -/

namespace Blueprint

variable {world : World} {b b' : Blueprint} {done : List (Id .individual)} {kind : Id .kind}
  {modifiers : List Trait} {name : String}

/-- Something is declared to be of a kind at or below the one that it was asked to be of. -/
theorem exists_mem_declaredKinds (h : world.IsHierarchy) (kind : Id .kind)
    (modifiers : List Trait) :
    ∃ declared ∈ declaredKinds world [kind] modifiers, world.Below declared kind := by
  unfold declaredKinds
  refine World.exists_mem_mostSpecific h (?_ : kind ∈ _)
  have start : kind ∈ [kind] := List.mem_singleton_self kind
  generalize [kind] = kinds at start ⊢
  induction modifiers generalizing kinds with
  | nil => exact start
  | cons trait rest ih =>
    refine ih _ ?_
    dsimp only
    split
    · split_ifs
      · exact start
      · exact List.mem_append_left _ start
    · exact start

theorem declaredKinds_ne_nil (h : world.IsHierarchy) :
    declaredKinds world [kind] modifiers ≠ [] := by
  obtain ⟨declared, mem, -⟩ := exists_mem_declaredKinds h kind modifiers
  exact List.ne_nil_of_mem mem

/-! ## Names of beings -/

/-- Whether beings can be told apart by their names. -/
structure Distinct (world : World) (b : Blueprint) : Prop where
  world_eq : b.world = world
  argument : ∀ i < b.beings.size, IsArgument (b.being i).name
  eq_of_name : ∀ i < b.beings.size, ∀ j < b.beings.size, (b.being i).name = (b.being j).name → i = j

/-- Whether a number after a being's name has been counted, and beings without a number are
individuals of the world among some. -/
structure Labelled (world : World) (done : List (Id .individual)) (b : Blueprint) : Prop
    extends Distinct world b where
  counted : ∀ i < b.beings.size, ∀ (base : String) (number : Nat),
    (∀ c ∈ base.toList, c.isDigit = false) → (b.being i).name = base ++ number.repr →
      number ≤ b.counters.getD base 0
  permanent : ∀ i < b.beings.size, (∀ c ∈ (b.being i).name.toList, c.isDigit = false) →
    ∃ id ∈ done, (b.being i).name = untokenize (world.individual id).name

namespace Labelled

theorem keeps (h : b.Labelled world done) (keeps : b.Keeps b') : b'.Labelled world done := by
  refine ⟨⟨keeps.world.trans h.world_eq, ?_, ?_⟩, ?_, ?_⟩
  all_goals simp only [keeps.size, keeps.name_eq, keeps.counters]
  · exact h.argument
  · exact h.eq_of_name
  · exact h.counted
  · exact h.permanent

/-- A being with a new name. -/
theorem push (h : b.Labelled world done) (being : Being) (counters : Std.HashMap String Nat)
    {done' : List (Id .individual)} (argument : IsArgument being.name)
    (new : ∀ i < b.beings.size, (b.being i).name ≠ being.name)
    (counts : ∀ base, b.counters.getD base 0 ≤ counters.getD base 0)
    (counted : ∀ (base : String) (number : Nat), (∀ c ∈ base.toList, c.isDigit = false) →
      being.name = base ++ number.repr → number ≤ counters.getD base 0)
    (sub : ∀ id ∈ done, id ∈ done')
    (permanent : (∀ c ∈ being.name.toList, c.isDigit = false) →
      ∃ id ∈ done', being.name = untokenize (world.individual id).name) :
    Labelled world done' { b with beings := b.beings.push being, counters := counters } := by
  refine ⟨⟨h.world_eq, ?_, ?_⟩, ?_, ?_⟩
  · exact forall_push (P := fun _ x => IsArgument x.name) h.argument argument
  · refine forall_push (P := fun i x => ∀ j < (b.beings.push being).size,
      x.name = (Blueprint.being
        { b with beings := b.beings.push being, counters := counters } j).name → i = j)
      (fun i lt => ?_) ?_
    · exact forall_push (P := fun j y => (b.being i).name = y.name → i = j) (h.eq_of_name i lt)
        fun same => absurd same (new i lt)
    · exact forall_push (P := fun j y => being.name = y.name → b.beings.size = j)
        (fun j lt same => absurd same.symm (new j lt)) fun _ => rfl
  · refine forall_push (P := fun _ x => ∀ (base : String) (number : Nat),
      (∀ c ∈ base.toList, c.isDigit = false) → x.name = base ++ number.repr →
        number ≤ counters.getD base 0) (fun i lt base number plain same => ?_) counted
    exact (h.counted i lt base number plain same).trans (counts base)
  · refine forall_push (P := fun _ x => (∀ c ∈ x.name.toList, c.isDigit = false) →
      ∃ id ∈ done', x.name = untokenize (world.individual id).name) (fun i lt plain => ?_) permanent
    obtain ⟨id, mem, name⟩ := h.permanent i lt plain
    exact ⟨id, sub id mem, name⟩

section World

variable (hierarchy : world.IsHierarchy) (named : world.IsLettered)
include named

/-- The words of a kind's name as they stand in names of beings. -/
theorem isDigit_eq_false_of_mem_map (h : b.world = world) (kind : Id .kind) :
    ∀ c ∈ ((b.world.kindName kind).map fun c => if c = ' ' then '_' else c).toList,
      c.isDigit = false ∧ c ≠ ',' ∧ c ≠ '=' := by
  intro c hc
  rw [String.toList_map] at hc
  obtain ⟨c, mem, rfl⟩ := List.mem_map.mp hc
  have plain : isNameChar c = true := named.isNameChar (.kind kind) c (h ▸ mem)
  split_ifs
  · decide
  · exact ⟨isDigit_eq_false_of_isNameChar plain, ne_of_isNameChar plain (by decide) (by decide),
      ne_of_isNameChar plain (by decide) (by decide)⟩

include hierarchy

theorem withBeing (h : b.Labelled world done) (kind : Id .kind) (modifiers : List Trait)
    (container : Option (Nat × Id .part)) (depth : Nat) : Labelled world done
      (b.withBeing (declaredKinds b.world [kind] modifiers) modifiers container depth) := by
  have plain := isDigit_eq_false_of_mem_map named h.world_eq
  have some_kind : declaredKinds world [kind] modifiers ≠ [] := declaredKinds_ne_nil hierarchy
  rw [h.world_eq]
  unfold Blueprint.withBeing
  cases declared : declaredKinds world [kind] modifiers with
  | nil => exact absurd declared some_kind
  | cons first rest =>
    have plain := plain first
    dsimp only [freshName]
    generalize (b.world.kindName first).map (fun c => if c = ' ' then '_' else c) = base at plain ⊢
    have noDigit : ∀ c ∈ base.toList, c.isDigit = false := fun c hc => (plain c hc).1
    refine h.push _ _ (isArgument_append_repr (fun c hc => (plain c hc).2) _) ?_ ?_ ?_
      (fun _ => id) ?_
    · intro i lt same
      have := h.counted i lt base _ noDigit same
      omega
    · intro other
      rw [Std.HashMap.getD_insert]
      split_ifs with same
      · obtain rfl := beq_iff_eq.mp same
        omega
      · exact Nat.le_refl _
    · intro other number plain' same
      obtain ⟨rfl, rfl⟩ := append_repr_inj noDigit plain' same
      rw [Std.HashMap.getD_insert_self]
    · exact fun plain => absurd rfl (ne_append_repr plain)

/-- No work on beings makes them hard to tell apart. -/
theorem isInvariant : IsInvariant (Labelled world done) where
  keeps kept h := h.keeps kept
  withBeing kind modifiers container depth h :=
    h.withBeing hierarchy named kind modifiers container depth

theorem addPermanent (h : b.Labelled world done) {id : Id .individual}
    (inside : id.index < world.individuals.size)
    (inside' : ∀ id ∈ done, id.index < world.individuals.size) (new : id ∉ done) (fuel : Nat) :
    Labelled world (done ++ [id]) (addPermanent (work fuel) b id) := by
  have plain := named.isNameChar (.individual id)
  have inv : IsInvariant (Labelled world (done ++ [id])) := isInvariant hierarchy named
  have same : b.world.individual id = world.individual id := by rw [h.world_eq]
  unfold Blueprint.addPermanent
  dsimp only
  rw [same]
  refine inv.declare (fun task _ => inv.work fuel task) _ _ _ ?_
  refine h.push _ b.counters (isArgument_of_isNameChar plain) ?_ (fun _ => Nat.le_refl _) ?_
    (fun _ => List.mem_append_left _) ?_
  · intro i lt same
    obtain ⟨other, mem, name⟩ := h.permanent i lt fun c hc => by
      rw [same] at hc
      exact isDigit_eq_false_of_isNameChar (plain c hc)
    have concepts := named.eq_of_name (.individual id) (.individual other) inside
      (inside' other mem) (same.symm.trans name)
    exact new (Concept.individual.inj concepts ▸ mem)
  · intro base number _ same
    exact absurd same (ne_append_repr fun c hc => isDigit_eq_false_of_isNameChar (plain c hc))
  · exact fun _ => ⟨id, by simp, rfl⟩

theorem addPermanents (h : b.Labelled world done) (ids : List (Id .individual))
    (inside : ∀ id ∈ done ++ ids, id.index < world.individuals.size) (nodup : (done ++ ids).Nodup)
    (fuel : Nat) :
    Labelled world (done ++ ids) (ids.foldl (Blueprint.addPermanent (work fuel)) b) := by
  induction ids generalizing b done with
  | nil => simpa using h
  | cons id rest ih =>
    have split : done ++ id :: rest = (done ++ [id]) ++ rest := by simp
    have new : id ∉ done := fun mem =>
      (List.nodup_append.mp nodup).2.2 id mem id List.mem_cons_self rfl
    have first := h.addPermanent hierarchy named (inside id (by simp))
      (fun other mem => inside other (List.mem_append_left _ mem)) new fuel
    rw [split] at inside nodup ⊢
    exact ih first inside nodup

end World

theorem ofWorld (world : World) : Labelled world [] (ofWorld world) := by
  have none {i : Nat} : ¬ i < (Blueprint.ofWorld world).beings.size := Nat.not_lt_zero i
  exact ⟨⟨rfl, fun _ lt => absurd lt none, fun _ lt => absurd lt none⟩,
    fun _ lt => absurd lt none, fun _ lt => absurd lt none⟩

end Labelled

theorem nodup_individualIds (world : World) : world.individualIds.Nodup := by
  refine List.Nodup.map ?_ List.nodup_range
  rintro i j same
  exact congrArg Id.index same

/-- The beings of a request can be told apart. -/
theorem labelled_beingsOf (hierarchy : world.IsHierarchy) (named : world.IsLettered)
    (request : Request) : Labelled world world.individualIds (beingsOf world request) := by
  have inv : IsInvariant (Labelled world world.individualIds) :=
    Labelled.isInvariant hierarchy named
  refine inv.addRequested (fun _ h => ⟨⟨h.world_eq, h.argument, h.eq_of_name⟩, h.counted,
    h.permanent⟩) request request.count ?_
  refine (Labelled.ofWorld world).addPermanents hierarchy named world.individualIds ?_ ?_ _
  · intro id mem
    obtain ⟨i, lt, rfl⟩ := List.mem_map.mp mem
    exact List.mem_range.mp lt
  · exact nodup_individualIds world

end Blueprint

end Worldsmith
