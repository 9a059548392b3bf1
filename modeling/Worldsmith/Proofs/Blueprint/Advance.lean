import Worldsmith.Blueprint.Growth
import Worldsmith.Proofs.Lists
import Worldsmith.Proofs.Blueprint.Extension

/-!
# Steps in making a blueprint

Each step writes something down, and leaves nothing that it begins unfinished. The steps that only
make propositions and add constraints are treated here.

## Main definitions

* `Blueprint.Valid` — the problem is built of its own propositions, and memberships are of beings
  that there are.
* `Blueprint.Advances` — a blueprint comes from another by steps that finish what they begin.
-/

namespace Worldsmith

namespace Blueprint

variable {b b' last : Blueprint} {i : Nat} {kind : Id .kind} {trait : Trait} {l member : Literal}

/-- The problem is built of its own propositions, memberships are of beings that there are, and
what has been excluded is denied. -/
structure Valid (b : Blueprint) : Prop where
  built : b.problem.Built
  asserted_lt : ∀ i kind, (i, kind) ∈ b.asserted → i < b.beings.size
  expanded_lt : ∀ i kind, (i, kind) ∈ b.expanded → i < b.beings.size
  excluded : ∀ i kind, (i, kind) ∈ b.excluded → i < b.beings.size ∧ b.Denies i kind
  relations : ∀ r ∈ b.relations.toList, b.problem.Has r.proposition
  relationIndex : ∀ (key : Id .verb × Nat × Nat) p, b.relationIndex[key]? = some p → b.problem.Has p

/-- A blueprint comes from another, and whatever it holds beyond that is written down in full. Each
proposition that is new was made to say something. -/
structure Advances (b b' : Blueprint) : Prop where
  grows : b.Extends b'
  valid : b'.Valid
  requested : b'.requested = b.requested
  asserted : ∀ i kind, (i, kind) ∈ b'.asserted → (i, kind) ∈ b.asserted ∨ b'.Asserted i kind
  expanded : ∀ i kind, (i, kind) ∈ b'.expanded → (i, kind) ∈ b.expanded ∨ b'.Expanded i kind
  declared : ∀ i < b'.beings.size, i < b.beings.size ∨ b'.Declared i
  served : ∀ i id v, (id, v) ∈ (b'.being i).properties →
    (id, v) ∈ (b.being i).properties ∨ b'.Serves i id v
  means : ∀ p, b'.problem.Has p → b.problem.Has p ∨ b'.Means p

/-- Only beings that there are have properties. -/
theorem lt_size_of_mem_properties {entry : Id .property × Nat}
    (mem : entry ∈ (b.being i).properties) : i < b.beings.size := by
  by_contra outside
  rw [being_of_size_le (Nat.le_of_not_lt outside)] at mem
  cases mem

namespace Advances

theorem refl (valid : b.Valid) : b.Advances b :=
  ⟨.refl b, valid, rfl, fun _ _ => .inl, fun _ _ => .inl, fun _ => .inl, fun _ _ _ => .inl,
    fun _ => .inl⟩

theorem trans (h : b.Advances b') (g : b'.Advances last) : b.Advances last where
  grows := h.grows.trans g.grows
  valid := g.valid
  requested := g.requested.trans h.requested
  asserted i kind mem := by
    rcases g.asserted i kind mem with mem | asserted
    · exact (h.asserted i kind mem).imp_right (g.grows.isAsserted (h.valid.asserted_lt i kind mem))
    · exact .inr asserted
  expanded i kind mem := by
    rcases g.expanded i kind mem with mem | expanded
    · exact (h.expanded i kind mem).imp_right (g.grows.isExpanded (h.valid.expanded_lt i kind mem))
    · exact .inr expanded
  declared i hi := by
    rcases g.declared i hi with lt | declared
    · exact (h.declared i lt).imp_right (g.grows.isDeclared lt)
    · exact .inr declared
  served i id v mem := by
    rcases g.served i id v mem with mem | serves
    · exact (h.served i id v mem).imp_right (g.grows.serves (lt_size_of_mem_properties mem))
    · exact .inr serves
  means p own := by
    rcases g.means p own with own | means
    · exact (h.means p own).imp_right g.grows.means
    · exact .inr means

/-- Steps for one thing after another. What each achieves lasts. -/
theorem foldl_done {α : Type} {f : Blueprint → α → Blueprint} (xs : List α)
    (done : Blueprint → α → Prop) (valid : b.Valid)
    (lasts : ∀ {b₁ b₂ : Blueprint} {x : α}, b.Extends b₁ → b₁.Extends b₂ → done b₁ x → done b₂ x)
    (step : ∀ b₁, b.Advances b₁ → ∀ x ∈ xs, b₁.Advances (f b₁ x) ∧ done (f b₁ x) x) :
    b.Advances (xs.foldl f b) ∧ ∀ x ∈ xs, done (xs.foldl f b) x :=
  Worldsmith.foldl_done xs done trans (refl valid) (fun h => refl h.valid)
    (fun h g => lasts h.grows g.grows) step

/-- Steps for one thing after another, after others. -/
theorem foldl {α : Type} {f : Blueprint → α → Blueprint} (xs : List α) (h : b.Advances b')
    (step : ∀ b₁, b.Advances b₁ → ∀ x ∈ xs, b₁.Advances (f b₁ x)) :
    b.Advances (xs.foldl f b') :=
  h.trans (foldl_done xs (fun _ _ => True) h.valid (fun _ _ => id)
    fun b₁ g x mem => ⟨step b₁ (h.trans g) x mem, trivial⟩).1

end Advances

theorem being_modifyBeing {j : Nat} {f : Being → Being} (hj : j < b.beings.size) :
    (b.modifyBeing i f).being j = if i = j then f (b.being j) else b.being j := by
  simp only [being, modifyBeing, Array.getD_eq_getD_getElem?, Array.getElem?_modify]
  split <;> simp [hj]

namespace Valid

variable (valid : b.Valid)
include valid

/-- A step that leaves all beings and memberships alone. -/
theorem advances_of_same (world : b'.world = b.world) (requested : b'.requested = b.requested)
    (size : b'.beings.size = b.beings.size)
    (essence : ∀ i < b.beings.size, (b'.being i).essence = (b.being i).essence)
    (problem : b.problem.Extends b'.problem) (built : b'.problem.Built)
    (asserted : b'.asserted = b.asserted) (expanded : b'.expanded = b.expanded)
    (excluded : ∀ i kind, (i, kind) ∈ b'.excluded →
      (i, kind) ∈ b.excluded ∨ i < b.beings.size ∧ b'.Denies i kind)
    (relations : ∀ r ∈ b'.relations.toList,
      r ∈ b.relations.toList ∨ b'.problem.Has r.proposition)
    (relationIndex : ∀ (key : Id .verb × Nat × Nat) p, b'.relationIndex[key]? = some p →
      b.relationIndex[key]? = some p ∨ b'.problem.Has p)
    (served : ∀ i id v, (id, v) ∈ (b'.being i).properties →
      (id, v) ∈ (b.being i).properties ∨ b'.Serves i id v)
    (means : ∀ p, b'.problem.Has p → b.problem.Has p ∨ b'.Means p) : b.Advances b' := by
  have grows : b.Extends b' := ⟨world, problem, Nat.le_of_eq size.symm, essence,
    fun _ mem => asserted ▸ mem, fun _ mem => expanded ▸ mem⟩
  refine ⟨grows, ⟨built, ?_, ?_, ?_, ?_, ?_⟩, requested, ?_, ?_, ?_, served, means⟩
  · rw [asserted, size]
    exact valid.asserted_lt
  · rw [expanded, size]
    exact valid.expanded_lt
  · intro i kind mem
    rw [size]
    rcases excluded i kind mem with mem | new
    · obtain ⟨hi, denies⟩ := valid.excluded i kind mem
      exact ⟨hi, grows.denies hi denies⟩
    · exact new
  · exact fun r mem => (relations r mem).elim (fun mem => problem.has (valid.relations r mem)) id
  · exact fun key p known => (relationIndex key p known).elim
      (fun known => problem.has (valid.relationIndex key p known)) id
  · rw [asserted]
    exact fun _ _ => .inl
  · rw [expanded]
    exact fun _ _ => .inl
  · rw [size]
    exact fun _ => .inl

/-- A step that only changes the problem. -/
theorem advances_problem {problem : Problem} (grows : b.problem.Extends problem)
    (built : problem.Built)
    (means : ∀ p, problem.Has p → b.problem.Has p ∨ Means { b with problem := problem } p) :
    b.Advances { b with problem := problem } :=
  valid.advances_of_same rfl rfl rfl (fun _ _ => rfl) grows built rfl rfl (fun _ _ => .inl)
    (fun _ => .inl) (fun _ _ => .inl) (fun _ _ _ => .inl) means

/-- A constraint is added, and no proposition. -/
theorem advances_constraint {constraint : Constraint}
    (built : (b.problem.add constraint).Built) :
    b.Advances { b with problem := b.problem.add constraint } :=
  valid.advances_problem (Problem.extends_add _ _) built fun _ => .inl

theorem advances_add {constraint : Constraint}
    (own : ∀ p ∈ constraint.propositions, b.problem.Has p) :
    b.Advances (b.modifyProblem (·.add constraint)) ∧
      (b.modifyProblem (·.add constraint)).Demands constraint :=
  ⟨valid.advances_constraint (valid.built.add constraint own),
    Problem.mem_constraints_add.mpr (.inr rfl)⟩

theorem advances_clause {literals : List Literal}
    (own : ∀ l ∈ literals, b.problem.Has l.proposition) :
    b.Advances (b.modifyProblem (·.clause literals)) ∧
      (b.modifyProblem (·.clause literals)).Demands (.clause literals.eraseDups) := by
  refine valid.advances_add ?_
  intro p hp
  obtain ⟨l, hl, rfl⟩ := Problem.mem_propositions_clause.mp hp
  exact own l hl

/-- A step that only changes the parts or the properties of a being. -/
theorem advances_modifyBeing (i : Nat) {f : Being → Being}
    (keeps : ∀ being, (f being).essence = being.essence)
    (served : ∀ id v, (id, v) ∈ (f (b.being i)).properties →
      (id, v) ∈ (b.being i).properties ∨ b.Serves i id v) : b.Advances (b.modifyBeing i f) := by
  have essence : ∀ j < b.beings.size, ((b.modifyBeing i f).being j).essence =
      (b.being j).essence := by
    intro j hj
    rw [being_modifyBeing hj]
    split_ifs
    · exact keeps _
    · rfl
  have grows : b.Extends (b.modifyBeing i f) := ⟨rfl, .refl _, Nat.le_of_eq Array.size_modify.symm,
    essence, fun _ => id, fun _ => id⟩
  refine valid.advances_of_same rfl rfl Array.size_modify essence (.refl _) valid.built rfl rfl
    (fun _ _ => .inl) (fun _ => .inl) (fun _ _ => .inl) ?_ fun _ => .inl
  intro j id v mem
  have hj : j < b.beings.size := Array.size_modify ▸ lt_size_of_mem_properties mem
  rw [being_modifyBeing hj] at mem
  split_ifs at mem with same
  · subst same
    exact (served id v mem).imp_right (grows.serves hj)
  · exact .inl mem

end Valid

/-! ## Propositions and literals -/

theorem isOf_eq (b : Blueprint) (i : Nat) (kind : Id .kind) : b.isOf i kind =
    let (p, problem) := b.problem.proposition (b.qualityName i (.kind kind))
    if b.couldBe i kind || b.excluded.contains (i, kind) then (p, { b with problem := problem })
    else (p, { b with
      problem := problem.assert p.negative
      excluded := b.excluded.insert (i, kind) }) :=
  rfl

/-- Of what a being could be nothing is denied. -/
theorem isOf_of_couldBe {p : Proposition} {problem : Problem} (could : b.couldBe i kind = true)
    (made : b.problem.proposition (b.qualityName i (.kind kind)) = (p, problem)) :
    b.isOf i kind = (p, { b with problem := problem }) := by
  rw [isOf_eq, made, could]
  rfl

namespace Valid

variable (valid : b.Valid) (hi : i < b.beings.size)
include valid hi

theorem isOf (kind : Id .kind) :
    b.Advances (b.isOf i kind).2 ∧ (b.isOf i kind).2.Names (b.isOf i kind).1 i (.kind kind) := by
  have grows := Problem.extends_proposition b.problem (b.qualityName i (.kind kind))
  have built := valid.built.proposition (b.qualityName i (.kind kind))
  have name := b.problem.name?_proposition (b.qualityName i (.kind kind))
  have old (q : Proposition) := @Problem.has_proposition b.problem q (b.qualityName i (.kind kind))
  rw [isOf_eq]
  generalize b.problem.proposition (b.qualityName i (.kind kind)) = made at grows built name old
  obtain ⟨p, problem⟩ := made
  dsimp only at grows built name old ⊢
  have extends' : b.Extends { b with problem := problem } :=
    ⟨rfl, grows, Nat.le_refl _, fun _ _ => rfl, fun _ => id, fun _ => id⟩
  split_ifs with known
  · have names : Names { b with problem := problem } p i (.kind kind) := by
      refine ⟨name, fun other same could => ?_⟩
      obtain rfl := Quality.kind.inj same
      rw [Bool.or_eq_true, ← Std.HashSet.mem_iff_contains] at known
      rcases known with possible | mem
      · exact absurd (possible.symm.trans could) (by simp)
      · obtain ⟨q, name', denied⟩ := extends'.denies hi (valid.excluded i kind mem).2
        obtain rfl : q = p := Problem.eq_of_name? name' name
        exact denied
    refine ⟨valid.advances_problem grows built fun q own => (old q own).imp_right ?_, names⟩
    rintro rfl
    exact .quality hi names
  · have own : ∀ l ∈ [p.negative], problem.Has l.proposition := by
      simpa [Proposition.negative] using Problem.has_of_name? name
    have denied : Constraint.clause [p.negative] ∈
        (problem.assert p.negative).constraints.toList :=
      Problem.mem_constraints_add.mpr (.inr rfl)
    have names : Names { b with
        problem := problem.assert p.negative
        excluded := b.excluded.insert (i, kind) } p i (.kind kind) :=
      ⟨name, fun _ _ _ => denied⟩
    refine ⟨?_, names⟩
    refine valid.advances_of_same rfl rfl rfl (fun _ _ => rfl)
      (grows.trans (Problem.extends_add _ _)) (built.clause own) rfl rfl ?_ (fun _ => .inl)
      (fun _ _ => .inl) (fun _ _ _ => .inl) fun q own => (old q own).imp_right ?_
    · intro j other mem
      rcases Std.HashSet.mem_insert.mp mem with same | mem
      · obtain ⟨rfl, rfl⟩ := Prod.mk.inj (beq_iff_eq.mp same)
        exact .inr ⟨hi, p, name, denied⟩
      · exact .inl mem
    · rintro rfl
      exact .quality hi names

theorem has (adjective : Id .adjective) : b.Advances (b.has i adjective).2 ∧
    (b.has i adjective).2.Names (b.has i adjective).1 i (.adjective adjective) := by
  have names : (b.has i adjective).2.Names (b.has i adjective).1 i (.adjective adjective) :=
    ⟨b.problem.name?_proposition _, fun _ other => by cases other⟩
  refine ⟨valid.advances_problem (Problem.extends_proposition _ _) (valid.built.proposition _)
    fun q own => (Problem.has_proposition own).imp_right ?_, names⟩
  rintro rfl
  exact .quality hi names

theorem literal (trait : Trait) :
    b.Advances (b.literal i trait).2 ∧
      (b.literal i trait).2.Denotes (b.literal i trait).1 i trait := by
  obtain ⟨quality, positive⟩ := trait
  cases quality with
  | kind kind =>
    obtain ⟨advances, names⟩ := valid.isOf hi kind
    exact ⟨advances, names, rfl⟩
  | adjective adjective =>
    obtain ⟨advances, names⟩ := valid.has hi adjective
    exact ⟨advances, names, rfl⟩

theorem literals (traits : List Trait) :
    b.Advances (b.literals i traits).2 ∧
      (b.literals i traits).2.Spells (b.literals i traits).1 i traits := by
  induction traits generalizing b with
  | nil => exact ⟨.refl valid, .nil⟩
  | cons trait rest ih =>
    obtain ⟨first, denotes⟩ := valid.literal hi trait
    have hi' := first.grows.lt_size hi
    obtain ⟨others, spells⟩ := ih first.valid hi'
    exact ⟨first.trans others, .cons (others.grows.denotes hi' denotes) spells⟩

theorem memberships (kinds : List (Id .kind)) :
    b.Advances (b.memberships i kinds).2 ∧ (b.memberships i kinds).2.Spells
      (b.memberships i kinds).1 i (kinds.map fun kind => ⟨.kind kind, true⟩) := by
  induction kinds generalizing b with
  | nil => exact ⟨.refl valid, .nil⟩
  | cons kind rest ih =>
    obtain ⟨first, names⟩ := valid.isOf hi kind
    have hi' := first.grows.lt_size hi
    obtain ⟨others, spells⟩ := ih first.valid hi'
    exact ⟨first.trans others, .cons (others.grows.denotes hi' names.positive) spells⟩

end Valid

end Blueprint

end Worldsmith
