import Worldsmith.Proofs.Blueprint.Forest
import Worldsmith.Proofs.Model.Relationships

/-!
# What beings could be

A being is expanded from each of its kinds to all kinds above, and to those kinds below that it
could be of. In the end the kinds that are expanded for it are just those that it could be of,
whatever had been visited when the walk came by. That it is of any other kind is not spoken of, or
denied as soon as it is. But propositions go by their names, and one that was made to say something
else may have the same name. Where concepts are named by words of letters, none has.

## Main definitions

* `Blueprint.MeansOther` — a proposition says something else than that a being has a quality.

## Main statements

* `Blueprint.Arranged.mem_expanded_iff` — what is expanded is what could be.
* `Blueprint.Complete.denied_or_meansOther` — what cannot be is denied, unless its proposition says
  something else.
* `Blueprint.possibilities_ofRequest` — what is expanded and what is denied in the blueprint of a
  request.
-/

namespace Worldsmith

namespace Blueprint

variable {world : World} {b : Blueprint} {i : ℕ} {kind : Id .kind} {quality : Quality}
  {p : Proposition}

/-! ## Kinds that are expanded -/

/-- Only beings that there are could be of a kind. -/
theorem lt_size_of_couldBe (could : b.couldBe i kind = true) : i < b.beings.size := by
  by_contra outside
  have none : (b.being i).kinds = [] := by
    rw [being_of_size_le (Nat.le_of_not_lt outside)]
    rfl
  simp [couldBe, World.couldBe, none] at could

/-- The kinds that are expanded for a being are those that it could be of. -/
theorem Arranged.mem_expanded_iff (arranged : b.Arranged) (complete : b.Complete)
    (hierarchy : b.world.IsHierarchy) : (i, kind) ∈ b.expanded ↔ b.couldBe i kind = true where
  mp mem := (arranged.fitted i kind mem).could
  mpr could := complete.mem_expanded_of_couldBe (lt_size_of_couldBe could) hierarchy could

/-! ## Kinds that are denied -/

/-- Whether a proposition says something else than that a being has a quality: that another being
has one, or that the same has another, or what a sign in its name tells. -/
inductive MeansOther (b : Blueprint) (p : Proposition) (i : ℕ) (quality : Quality) : Prop where
  | quality {j : ℕ} {other : Quality} (hj : j < b.beings.size)
    (apart : ¬(j = i ∧ other = quality)) (names : b.Names p j other)
  | other {name : String} (name? : b.problem.name? p = some name)
    (sign : ',' ∈ name.toList ∨ '=' ∈ name.toList)

/-- That a being is of a kind that it cannot be of is denied, unless the proposition says something
else. -/
theorem Complete.denied_or_meansOther (complete : b.Complete) (could : b.couldBe i kind = false)
    (known : b.kindProposition? i kind = some p) :
    b.Demands (.clause [p.negative]) ∨ b.MeansOther p i (.kind kind) := by
  have name := Problem.find?_eq_some_iff.mp known
  cases complete.means p (Problem.has_of_name? name) with
  | @quality j other hj names =>
    by_cases this : j = i ∧ other = .kind kind
    · obtain ⟨rfl, rfl⟩ := this
      exact .inl (names.denied kind rfl could)
    · exact .inr (.quality hj this names)
  | other name? sign => exact .inr (.other name? sign)

section Lettered

variable (related : Related world b) (named : world.IsLettered)
include related named

/-- Where concepts are named by words of letters no sign is in the name of a quality of a being. -/
theorem Related.ne_of_mem_qualityName (hi : i < b.beings.size) (quality : Quality) :
    ∀ c ∈ (b.qualityName i quality).toList, c ≠ ',' ∧ c ≠ '=' := by
  have predicate : IsArgument (b.world.qualityName quality) := by
    rw [related.distinct.world_eq, World.qualityName_eq]
    exact isArgument_of_isNameChar (named.isNameChar quality.concept)
  exact Problem.ne_of_mem_unaryName predicate (related.distinct.argument i hi)

/-- Where concepts are named by words of letters, the proposition that a being has a quality of some
name says nothing else. -/
theorem Related.not_meansOther (hi : i < b.beings.size) (some_name : world.qualityName quality ≠ "")
    (known : b.membership? i quality = some p) : ¬b.MeansOther p i quality := by
  have name := name?_of_membership? known
  rintro (⟨hj, apart, names⟩ | ⟨name?, sign⟩)
  · obtain ⟨qualities, beings⟩ := Problem.unaryName_inj (related.isPredicate_qualityName named _)
      (related.isPredicate_qualityName named _) (Option.some.inj (names.name?.symm.trans name))
    rw [related.distinct.world_eq, World.qualityName_eq, World.qualityName_eq] at qualities
    rw [World.qualityName_eq] at some_name
    refine apart ⟨related.distinct.eq_of_name _ hj _ hi beings, Quality.concept_inj ?_⟩
    exact (named.eq_of_name_ne some_name qualities.symm).symm
  · obtain rfl := Option.some.inj (name?.symm.trans name)
    have plain := related.ne_of_mem_qualityName named hi quality
    exact sign.elim (fun mem => (plain _ mem).1 rfl) fun mem => (plain _ mem).2 rfl

end Lettered

/-- In the blueprint of a request the kinds that are expanded for a being are those that it could be
of. That it is of any other kind is denied wherever it is spoken of, unless the proposition was made
to say something else, as none is where concepts are named by words of letters. -/
theorem possibilities_ofRequest (hierarchy : world.IsHierarchy) (request : Request) (i : ℕ)
    (kind : Id .kind) :
    ((i, kind) ∈ (ofRequest world request).expanded ↔
      (ofRequest world request).couldBe i kind = true) ∧
    ∀ p, (ofRequest world request).couldBe i kind = false →
      (ofRequest world request).kindProposition? i kind = some p →
      ((ofRequest world request).Demands (.clause [p.negative]) ∨
        (ofRequest world request).MeansOther p i (.kind kind)) ∧
      (world.IsLettered → i < (ofRequest world request).beings.size → world.kindName kind ≠ "" →
        (ofRequest world request).Demands (.clause [p.negative])) := by
  obtain ⟨complete, same, -⟩ := complete_ofRequest world request
  have arranged := (arranged_ofRequest (agree_work _ fun _ => id) hierarchy request).2
  refine ⟨arranged.mem_expanded_iff complete (same.symm ▸ hierarchy), fun p could known => ?_⟩
  have denied := complete.denied_or_meansOther could known
  refine ⟨denied, fun named hi some_name => denied.resolve_right ?_⟩
  exact (related_ofRequest hierarchy named request).not_meansOther named hi some_name known

end Blueprint

end Worldsmith
