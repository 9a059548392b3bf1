import Worldsmith.Proofs.Model.Taxonomy
import Worldsmith.Proofs.World.Consistency

/-!
# All kinds that a being is of are found

`Model.kinds` looks for the kinds that a being is of at and below its declared kinds, and then above
what it has found. A being may be of a kind that is neither above nor below a declared one. But from
each kind that it is of a way leads down, over kinds that it is of, to one without kinds below, and
that one is at or below a declared kind. So it is found there, and all that is above it is found
from there.

## Main statements

* `Model.climb_eq` — the search above goes along edges that lead from a kind to those above it that
  a being is of.
* `Model.mem_kinds_iff` — just the kinds that a being is of are found.
* `Model.mem_specificKinds_iff` — the most specific of them are those without kinds below.
* `Model.kinds_of_solve` — so it is in whatever is found for a request.
-/

namespace Worldsmith

namespace World

variable {world : World} {kind leaf : Id .kind} {declared : List (Id .kind)}

/-- Only a kind itself is below it if there is none just below. -/
theorem Below.eq_of_subkinds_eq_nil (h : world.IsHierarchy) (below : world.Below kind leaf)
    (last : (world.kind leaf).subkinds = []) : kind = leaf := by
  rcases Relation.ReflTransGen.cases_tail below with same | ⟨sub, -, edge⟩
  · exact same.symm
  · have mem := (h.mirrored sub leaf).mpr edge
    rw [last] at mem
    cases mem

/-- What something could be is a declared kind or one of the world's. -/
theorem mem_or_lt_size_of_couldBe (h : world.IsHierarchy)
    (could : world.couldBe declared kind = true) :
    kind ∈ declared ∨ kind.index < world.kinds.size := by
  obtain ⟨d, hd, m, below, above⟩ := (couldBe_iff_below h).mp could
  rcases Relation.ReflTransGen.cases_tail above with rfl | ⟨_, -, edge⟩
  · rcases Relation.ReflTransGen.cases_head below with rfl | ⟨_, edge, -⟩
    · exact .inl hd
    · exact .inr (lt_size_of_justBelow edge)
  · exact .inr (h.lt_size edge)

/-- Where something could be of a kind without kinds below, that is at or below a declared one. -/
theorem exists_mem_descendants_of_couldBe (h : world.IsHierarchy)
    (could : world.couldBe declared leaf = true) (last : (world.kind leaf).subkinds = []) :
    ∃ d ∈ declared, leaf ∈ world.descendants d := by
  obtain ⟨d, hd, m, below, above⟩ := (couldBe_iff_below h).mp could
  obtain rfl := above.eq_of_subkinds_eq_nil h last
  exact ⟨d, hd, (mem_descendants_iff h).mpr below⟩

end World

namespace Model

variable {m : Model} {i : Nat} {kind : Id .kind} {found : List (Id .kind)}

/-! ## What the search does -/

/-- The kinds that are added are those not found before that a being is of, each once. -/
theorem addTrue_eq (m : Model) (i : Nat) (found kinds : List (Id .kind)) :
    m.addTrue i found kinds =
      found ++ ((kinds.filter (m.isOf i)).eraseDups.filter fun kind => !found.contains kind) := by
  induction kinds generalizing found with
  | nil => simp [addTrue]
  | cons kind kinds ih =>
    have step : m.addTrue i found (kind :: kinds) = m.addTrue i
        (if !found.contains kind && m.isOf i kind then found ++ [kind] else found) kinds := rfl
    rw [step, ih]
    cases isMember : m.isOf i kind with
    | false => simp [isMember]
    | true =>
      rw [List.filter_cons_of_pos isMember]
      generalize kinds.filter (m.isOf i) = members
      rw [List.eraseDups_cons, eraseDups_filter]
      by_cases old : kind ∈ found
      · -- What has been found is left out anyhow.
        rw [List.filter_cons_of_neg (by simp [old]), List.filter_filter]
        simp only [old, List.contains_iff_mem.mpr, Bool.not_true, Bool.and_true, Bool.false_eq_true,
          if_false]
        congr 1
        apply List.filter_congr
        intro other _
        by_cases same : other = kind <;> simp [same, old]
      · rw [List.filter_cons_of_pos (by simp [old]), List.filter_filter]
        simp [old, beq_eq_decide]

theorem mem_addTrue {kinds : List (Id .kind)} :
    kind ∈ m.addTrue i found kinds ↔ kind ∈ found ∨ kind ∈ kinds ∧ m.isOf i kind = true := by
  rw [addTrue_eq]
  by_cases old : kind ∈ found <;> simp [old]

theorem nodup_addTrue (nodup : found.Nodup) (kinds : List (Id .kind)) :
    (m.addTrue i found kinds).Nodup := by
  rw [addTrue_eq]
  refine nodup.append ((nodup_eraseDups _).filter _) ?_
  intro kind old new
  simpa [old] using (List.mem_filter.mp new).2

/-- The search above spreads along edges that lead from each kind to those above it that a being is
of. -/
theorem climb_eq (m : Model) (i : Nat) (rounds : Nat) (pending found : List (Id .kind)) :
    m.climb i rounds pending found =
      World.spread (fun kind => (m.world.ancestors kind).filter (m.isOf i)) rounds pending
        found := by
  fun_induction m.climb i rounds pending found with
  | case1 => simp [World.spread]
  | case2 => simp [World.spread]
  | case3 rounds kind pending found found' ih =>
    have split : found' = found ++ _ := m.addTrue_eq i found (m.world.ancestors kind)
    rw [ih, World.spread, split, List.drop_left]

/-- The kinds at or below declared ones that a being is of, in the order in which they are found. -/
def trueBelow (m : Model) (i : Nat) : List (Id .kind) :=
  (m.being i).kinds.foldl
    (fun found declared => m.addTrue i found (m.world.descendants declared)) []

theorem mem_trueBelow : kind ∈ m.trueBelow i ↔
    (∃ d ∈ (m.being i).kinds, kind ∈ m.world.descendants d) ∧ m.isOf i kind = true := by
  have step (declared found : List (Id .kind)) :
      kind ∈ declared.foldl (fun found d => m.addTrue i found (m.world.descendants d)) found ↔
        kind ∈ found ∨ (∃ d ∈ declared, kind ∈ m.world.descendants d) ∧ m.isOf i kind = true := by
    induction declared generalizing found with
    | nil => simp
    | cons d declared ih =>
      rw [List.foldl_cons, ih, mem_addTrue]
      simp only [List.mem_cons, exists_eq_or_imp]
      tauto
  rw [trueBelow, step]
  simp

theorem nodup_trueBelow (m : Model) (i : Nat) : (m.trueBelow i).Nodup := by
  have step (declared found : List (Id .kind)) (nodup : found.Nodup) :
      (declared.foldl (fun found d => m.addTrue i found (m.world.descendants d)) found).Nodup := by
    induction declared generalizing found with
    | nil => exact nodup
    | cons d declared ih => exact ih _ (nodup_addTrue nodup _)
  exact step _ _ List.nodup_nil

theorem kinds_eq_spread (m : Model) (i : Nat) : m.kinds i =
    World.spread (fun kind => (m.world.ancestors kind).filter (m.isOf i))
      (m.world.kinds.size + (m.trueBelow i).length) (m.trueBelow i) (m.trueBelow i) :=
  m.climb_eq i _ _ _

/-! ## What it finds -/

theorem nodup_kinds (m : Model) (i : Nat) : (m.kinds i).Nodup := by
  rw [kinds_eq_spread]
  exact World.nodup_spread _ (m.nodup_trueBelow i)

theorem isOf_of_mem_kinds (mem : kind ∈ m.kinds i) : m.isOf i kind = true := by
  rw [kinds_eq_spread] at mem
  have start : ∀ kind ∈ m.trueBelow i, m.isOf i kind = true := fun kind hk =>
    (mem_trueBelow.mp hk).2
  refine World.forall_mem_spread (m.isOf i · = true) ?_ _ start start kind mem
  intro kind _ next edge
  exact (List.mem_filter.mp edge).2

variable (complete : m.blueprint.Complete) (solved : m.IsSolved) (hierarchy : m.world.IsHierarchy)

include hierarchy in
/-- What is above a kind that has been found is found as well if the being is of it. -/
theorem mem_kinds_of_below {above : Id .kind} (mem : kind ∈ m.kinds i)
    (below : m.world.Below kind above) (isAbove : m.isOf i above = true) : above ∈ m.kinds i := by
  have closed : ∀ kind ∈ m.kinds i, ∀ next ∈ (m.world.ancestors kind).filter (m.isOf i),
      next ∈ m.kinds i := by
    have front : World.Frontier (m.trueBelow i ++ m.world.kindIds) [] (m.trueBelow i) :=
      ⟨m.nodup_trueBelow i, fun kind hk => List.mem_append_left _ hk⟩
    rw [kinds_eq_spread]
    refine front.closed_spread ?_ ?_ (by simp)
    · intro kind next edge
      have isNext := (List.mem_filter.mp edge).2
      have could : m.world.couldBe (m.being i).kinds next = true :=
        (Bool.and_eq_true_iff.mp isNext).1
      rcases World.mem_or_lt_size_of_couldBe hierarchy could with mem | inside
      · exact List.mem_append_left _
          (mem_trueBelow.mpr ⟨⟨next, mem, m.world.mem_descendants_self next⟩, isNext⟩)
      · exact List.mem_append_right _ (World.mem_kindIds_iff.mpr inside)
    · simp [World.kindIds, Id.upTo, Nat.add_comm]
  refine closed kind mem above (List.mem_filter.mpr ⟨?_, isAbove⟩)
  exact (World.mem_ancestors_iff hierarchy).mpr below

include complete solved hierarchy

theorem exists_isOf_subkind (hi : i < m.size) (isMember : m.isOf i kind = true)
    (some_subkind : (m.world.kind kind).subkinds ≠ []) :
    ∃ sub ∈ (m.world.kind kind).subkinds, m.isOf i sub = true := by
  have could : m.blueprint.couldBe i kind = true := (Bool.and_eq_true_iff.mp isMember).1
  obtain ⟨member, entails⟩ := complete.expanded_of_couldBe hi hierarchy could
  exact solved.exists_of_divides entails.denotes isMember entails.divides some_subkind

/-- At or below each kind that a being is of there is one without kinds below that it is of, and
that is found below a declared one. -/
theorem exists_leaf_mem_kinds (hi : i < m.size) (isMember : m.isOf i kind = true) :
    ∃ leaf, m.world.Below leaf kind ∧ (m.world.kind leaf).subkinds = [] ∧ leaf ∈ m.kinds i := by
  obtain ⟨leaf, below, last, isLeaf⟩ := hierarchy.exists_leaf isMember fun kind isMember =>
    exists_isOf_subkind complete solved hierarchy hi isMember
  have could : m.world.couldBe (m.being i).kinds leaf = true := (Bool.and_eq_true_iff.mp isLeaf).1
  have found : leaf ∈ m.trueBelow i :=
    mem_trueBelow.mpr ⟨World.exists_mem_descendants_of_couldBe hierarchy could last, isLeaf⟩
  refine ⟨leaf, below, last, ?_⟩
  rw [kinds_eq_spread]
  exact World.mem_spread_of_mem _ found

/-- Just the kinds that a being is of are found. -/
theorem mem_kinds_iff (hi : i < m.size) : kind ∈ m.kinds i ↔ m.isOf i kind = true := by
  refine ⟨isOf_of_mem_kinds, fun isMember => ?_⟩
  obtain ⟨leaf, below, -, mem⟩ := exists_leaf_mem_kinds complete solved hierarchy hi isMember
  exact mem_kinds_of_below hierarchy mem below isMember

/-- The most specific kinds that a being is of are those without kinds below. -/
theorem mem_specificKinds_iff (hi : i < m.size) : kind ∈ m.specificKinds i ↔
    m.isOf i kind = true ∧ (m.world.kind kind).subkinds = [] := by
  rw [specificKinds, World.mem_mostSpecific_iff hierarchy,
    mem_kinds_iff complete solved hierarchy hi]
  refine and_congr_right fun isMember => ⟨fun lowest => ?_, fun last other _ below => ?_⟩
  · obtain ⟨leaf, below, last, mem⟩ := exists_leaf_mem_kinds complete solved hierarchy hi isMember
    rwa [← lowest leaf mem below]
  · exact below.eq_of_subkinds_eq_nil hierarchy last

theorem specificKinds_ne_nil (hi : i < m.size) (some_kind : (m.being i).kinds ≠ []) :
    m.specificKinds i ≠ [] := by
  obtain ⟨declared, mem⟩ := List.exists_mem_of_ne_nil _ some_kind
  have isDeclared := isOf_of_below complete solved hi mem .refl
  exact World.mostSpecific_ne_nil hierarchy
    ((mem_kinds_iff complete solved hierarchy hi).mpr isDeclared)

end Model

section Solve

variable {σ : Type} {chooser : Chooser σ} {budget : Nat} {source source' : σ} {solution : Solution}
  {world : World} {request : Request}

/-- In whatever is found for a request just those kinds are listed for a being that it is of, each
once. The most specific ones are those of them without any kinds below, and there are some where a
kind was declared. -/
theorem Model.kinds_of_solve (hierarchy : world.IsHierarchy)
    (solved : (Blueprint.ofRequest world request).problem.solve chooser budget source =
      (.ok solution, source')) :
    let m : Model := ⟨.ofRequest world request, solution⟩
    ∀ i < m.size,
      ((m.kinds i).Nodup ∧ ∀ kind, kind ∈ m.kinds i ↔ m.isOf i kind = true) ∧
      ((m.specificKinds i).Nodup ∧ ∀ kind, kind ∈ m.specificKinds i ↔
        m.isOf i kind = true ∧ (world.kind kind).subkinds = []) ∧
      ((m.being i).kinds ≠ [] → m.specificKinds i ≠ []) := by
  obtain ⟨complete, same, -⟩ := Blueprint.complete_ofRequest world request
  generalize Blueprint.ofRequest world request = b at complete same solved ⊢
  subst same
  have met := (complete.valid.built.scoped.satisfiedBy_of_solve solved).1
  intro m i hi
  refine ⟨⟨m.nodup_kinds i, ?_⟩, ⟨m.world.nodup_mostSpecific _, ?_⟩, ?_⟩
  · exact fun _ => mem_kinds_iff complete met hierarchy hi
  · exact fun _ => mem_specificKinds_iff complete met hierarchy hi
  · exact specificKinds_ne_nil complete met hierarchy hi

end Solve

/-- The kinds of the animal that is asked for are found, and there are some without kinds below. -/
theorem Model.kinds_zoo : Zoo.world.IsHierarchy ∧
    (Blueprint.ofRequest Zoo.world Zoo.request).problem.solve .steady 20 () =
      (.ok ⟨#[true, true], #[], 8⟩, ()) ∧
    let m : Model := ⟨.ofRequest Zoo.world Zoo.request, ⟨#[true, true], #[], 8⟩⟩
    ∃ i < m.size, (m.being i).kinds = [Zoo.animal] ∧
      ((m.kinds i).Nodup ∧ ∀ kind, kind ∈ m.kinds i ↔ m.isOf i kind = true) ∧
      ((m.specificKinds i).Nodup ∧ ∀ kind, kind ∈ m.specificKinds i ↔
        m.isOf i kind = true ∧ (Zoo.world.kind kind).subkinds = []) ∧
      m.specificKinds i ≠ [] := by
  have solved : (Blueprint.ofRequest Zoo.world Zoo.request).problem.solve .steady 20 () =
      (.ok ⟨#[true, true], #[], 8⟩, ()) := by
    rw [Zoo.problem_ofRequest]
    exact Zoo.solve_problem
  obtain ⟨-, -, length, -, each⟩ := Blueprint.complete_ofRequest Zoo.world Zoo.request
  obtain ⟨i, only⟩ := List.length_eq_one_iff.mp length
  obtain ⟨hi, declared, -⟩ := each i (only ▸ List.mem_singleton_self i)
  have animal : Blueprint.declaredKinds Zoo.world [Zoo.animal] [] = [Zoo.animal] := by decide
  have kinds := declared.trans animal
  obtain ⟨found, specific, some_specific⟩ := kinds_of_solve Zoo.isHierarchy_world solved i hi
  refine ⟨Zoo.isHierarchy_world, solved, i, hi, kinds, found, specific, some_specific ?_⟩
  rw [Model.being, kinds]
  exact List.cons_ne_nil _ _

end Worldsmith
