import Mathlib.Tactic.Common
import Worldsmith.Proofs.Search.Trail
import Worldsmith.Search.Propagation

/-!
# Propagation is sound and thorough

Propagation only assigns what every valuation on the way to a solution agrees with, and when it
comes to rest nothing more follows from any single constraint.

## Main definitions

* `Lasts` — a property of trails that constraints respect.

## Main statements

* `grows_propagate` — the trail only grows.
* `Lasts.propagate` — what lasts is never lost.
* `completes_propagate` — a valuation that meets the constraints and completes the trail before
  also completes it afterwards, and there is no conflict.
* `quietOn_propagate` — at rest every constraint is quiet, provided that each constraint that was
  not quiet before was to be examined.
-/

namespace Worldsmith

variable {count : Nat} {constraints : List Constraint} {occurrences : Occurrences}

/-! ## Occurrences -/

namespace Occurrences

/-- Whether occurrences are those of constraints about the first `count` propositions. -/
structure Indexes (occurrences : Occurrences) (count : Nat) (constraints : List Constraint) :
    Prop where
  lt_count : ∀ {constraint : Constraint} {p : Proposition},
    constraint ∈ constraints → p ∈ constraint.propositions → p.index < count
  mem_of_iff : ∀ {constraint : Constraint} {p : Proposition},
    constraint ∈ occurrences.of p ↔ constraint ∈ constraints ∧ p ∈ constraint.propositions

theorem mem_of_modify {constraint other : Constraint} {p q : Proposition} :
    other ∈ of (occurrences.modify p.index (constraint :: ·)) q ↔
      other ∈ of occurrences q ∨ (other = constraint ∧ p = q ∧ q.index < occurrences.size) := by
  have same : p = q ↔ p.index = q.index := by
    cases p
    cases q
    simp
  rw [same]
  simp only [of, Array.getD_eq_getD_getElem?, Array.getElem?_modify]
  by_cases inside : q.index < occurrences.size <;> by_cases index : p.index = q.index <;>
    simp [inside, index, or_comm]

theorem mem_of_foldl_modify {constraint other : Constraint} {ps : List Proposition}
    {q : Proposition} :
    other ∈ of (ps.foldl (fun occurrences p => occurrences.modify p.index (constraint :: ·))
        occurrences) q ↔
      other ∈ of occurrences q ∨ (other = constraint ∧ q ∈ ps ∧ q.index < occurrences.size) := by
  induction ps generalizing occurrences with
  | nil => simp
  | cons p ps ih =>
    rw [List.foldl_cons, ih, mem_of_modify, Array.size_modify, List.mem_cons]
    grind

theorem size_put (constraint : Constraint) (occurrences : Occurrences) :
    (put constraint occurrences).size = occurrences.size := by
  have step (ps : List Proposition) (occurrences : Occurrences) :
      (ps.foldl (fun occurrences p => occurrences.modify p.index (constraint :: ·))
        occurrences).size = occurrences.size := by
    induction ps generalizing occurrences with
    | nil => rfl
    | cons p ps ih => rw [List.foldl_cons, ih, Array.size_modify]
  exact step _ occurrences

theorem size_ofConstraints (count : Nat) (constraints : List Constraint) :
    (ofConstraints count constraints).size = count := by
  induction constraints with
  | nil => simp [ofConstraints]
  | cons constraint rest ih => exact (size_put constraint _).trans ih

theorem mem_of_ofConstraints {constraint : Constraint} {p : Proposition} :
    constraint ∈ (ofConstraints count constraints).of p ↔
      constraint ∈ constraints ∧ p ∈ constraint.propositions ∧ p.index < count := by
  induction constraints with
  | nil =>
    simp only [ofConstraints, List.foldr_nil, of, Array.getD_eq_getD_getElem?,
      Array.getElem?_replicate]
    split_ifs <;> simp
  | cons first rest ih =>
    have split : ofConstraints count (first :: rest) = put first (ofConstraints count rest) := rfl
    rw [split, put, mem_of_foldl_modify, ih, size_ofConstraints, List.mem_eraseDups]
    grind

theorem indexes_ofConstraints (scope : ∀ constraint ∈ constraints,
    ∀ p ∈ constraint.propositions, p.index < count) :
    (ofConstraints count constraints).Indexes count constraints where
  lt_count mem hp := scope _ mem _ hp
  mem_of_iff := by
    intro constraint p
    rw [mem_of_ofConstraints]
    exact ⟨fun ⟨mem, hp, _⟩ => ⟨mem, hp⟩, fun ⟨mem, hp⟩ => ⟨mem, hp, scope _ mem _ hp⟩⟩

end Occurrences

/-! ## Forcing literals -/

namespace Trail

variable {trail trail' : Trail} {literals : List Literal} {queue queue' : List Proposition}
  {ok : Bool}

theorem force_grows (h : trail.force literals queue = (ok, trail', queue'))
    (inside : ∀ l ∈ literals, l.proposition.index < trail.values.size) :
    trail.Grows trail' := by
  fun_induction trail.force literals queue with
  | case1 => cases h; exact .refl
  | case2 l rest trail queue _ ih =>
    exact ih h (List.forall_mem_cons.mp inside).2
  | case3 => cases h; exact .refl
  | case4 l rest trail queue unknown ih =>
    have fresh : trail.Open l.proposition :=
      open_iff.mpr ⟨inside l List.mem_cons_self, Assignment.value_eq_none.mp unknown⟩
    refine (grows_assign fresh).trans (ih h ?_)
    rw [size_assign]
    exact (List.forall_mem_cons.mp inside).2

theorem mem_force_queue (h : trail.force literals queue = (ok, trail', queue')) {p : Proposition}
    (hp : p ∈ queue) : p ∈ queue' := by
  fun_induction trail.force literals queue with
  | case1 => cases h; exact hp
  | case2 l rest trail queue _ ih => exact ih h hp
  | case3 => cases h; exact hp
  | case4 l rest trail queue _ ih => exact ih h (List.mem_cons_of_mem _ hp)

/-- Whatever gets a value is put on the queue. -/
theorem at?_force_of_notMem (h : trail.force literals queue = (ok, trail', queue'))
    (inside : ∀ l ∈ literals, l.proposition.index < trail.values.size) {p : Proposition}
    (hp : p ∉ queue') : trail'.at? p = trail.at? p := by
  fun_induction trail.force literals queue with
  | case1 => cases h; rfl
  | case2 l rest trail queue _ ih =>
    exact ih h (List.forall_mem_cons.mp inside).2
  | case3 => cases h; rfl
  | case4 l rest trail queue unknown ih =>
    have fresh : trail.Open l.proposition :=
      open_iff.mpr ⟨inside l List.mem_cons_self, Assignment.value_eq_none.mp unknown⟩
    rw [ih h, at?_assign_of_ne fresh]
    · rintro rfl
      exact hp (mem_force_queue h List.mem_cons_self)
    · rw [size_assign]
      exact (List.forall_mem_cons.mp inside).2

/-- An unknown literal at the front gets onto the queue. -/
theorem head_mem_force_queue {l : Literal} {rest : List Literal}
    (h : trail.force (l :: rest) queue = (ok, trail', queue'))
    (unknown : trail.at? l.proposition = none) : l.proposition ∈ queue' := by
  have value : trail.value l = none := Assignment.value_eq_none.mpr unknown
  rw [force, value] at h
  exact mem_force_queue h List.mem_cons_self

end Trail

/-! ## Examining constraints -/

variable {trail trail' : Trail} {constraint : Constraint} {todo : List Constraint}
  {literals : List Literal} {queue queue' : List Proposition} {ok : Bool} {v : Valuation}

theorem Occurrences.Indexes.inside (index : occurrences.Indexes trail.values.size constraints)
    (listed : constraint ∈ constraints)
    (forced : constraint.consequence trail.value = .force literals) :
    ∀ l ∈ literals, l.proposition.index < trail.values.size := by
  intro l hl
  obtain ⟨-, about⟩ := Constraint.consequence_force forced
  exact index.lt_count listed (about l hl).1

/-- Propagation only gives values to open propositions. -/
theorem grows_propagate (index : occurrences.Indexes trail.values.size constraints)
    (left : Nat) {todo : List Constraint} (queue : List Proposition)
    (listed : ∀ c ∈ todo, c ∈ constraints) :
    trail.Grows (propagate occurrences left todo queue trail).trail := by
  fun_induction propagate occurrences left todo queue trail with
  | case1 => exact .refl
  | case2 left trail p queue ih => exact ih index fun c hc => (index.mem_of_iff.mp hc).1
  | case3 => exact .refl
  | case4 queue trail constraint todo left _ ih =>
    exact ih index (List.forall_mem_cons.mp listed).2
  | case5 queue trail constraint todo left _ ih =>
    exact ih index (List.forall_mem_cons.mp listed).2
  | case6 => exact .refl
  | case7 queue trail constraint todo left literals forced trail' queue' done ih =>
    have grows : trail.Grows trail' :=
      Trail.force_grows done (index.inside (listed _ List.mem_cons_self) forced)
    rw [← grows.size_eq] at index
    exact grows.trans (ih index (List.forall_mem_cons.mp listed).2)
  | case8 queue trail constraint todo left literals forced trail' queue' done =>
    exact Trail.force_grows done (index.inside (listed _ List.mem_cons_self) forced)

/-! ## What lasts -/

/-- Whether a property of trails agrees with the literals of some sort and lasts when they are made
true, while constraints neither are in conflict nor force anything else. -/
structure Lasts (constraints : List Constraint) (isRight : Literal → Prop) (holds : Trail → Prop) :
    Prop where
  agrees : ∀ {trail : Trail} {l : Literal}, holds trail → isRight l → trail.value l ≠ some false
  assign : ∀ {trail : Trail} {l : Literal}, holds trail → isRight l → trail.Open l.proposition →
    holds (trail.assign l)
  clear : ∀ {trail : Trail} {constraint : Constraint}, holds trail → constraint ∈ constraints →
    constraint.consequence trail.value ≠ .conflict
  forced : ∀ {trail : Trail} {constraint : Constraint} {literals : List Literal}, holds trail →
    constraint ∈ constraints → constraint.consequence trail.value = .force literals →
      ∀ l ∈ literals, isRight l

namespace Lasts

variable {isRight : Literal → Prop} {holds : Trail → Prop}
  (lasts : Lasts constraints isRight holds)
include lasts

/-- Literals of the right sort are forced without fail. -/
theorem force (h : trail.force literals queue = (ok, trail', queue'))
    (inside : ∀ l ∈ literals, l.proposition.index < trail.values.size)
    (right : ∀ l ∈ literals, isRight l) (start : holds trail) : ok = true ∧ holds trail' := by
  fun_induction trail.force literals queue with
  | case1 => cases h; exact ⟨rfl, start⟩
  | case2 l rest trail queue _ ih =>
    exact ih h (List.forall_mem_cons.mp inside).2 (List.forall_mem_cons.mp right).2 start
  | case3 l rest trail queue refused =>
    exact absurd refused (lasts.agrees start (right l List.mem_cons_self))
  | case4 l rest trail queue unknown ih =>
    have fresh : trail.Open l.proposition := Trail.open_iff.mpr
      ⟨inside l List.mem_cons_self, Assignment.value_eq_none.mp unknown⟩
    refine ih h ?_ (List.forall_mem_cons.mp right).2 ?_
    · rw [Trail.size_assign]
      exact (List.forall_mem_cons.mp inside).2
    · exact lasts.assign start (right l List.mem_cons_self) fresh

/-- What lasts is never lost in propagation, and rules conflicts out. -/
theorem propagate (index : occurrences.Indexes trail.values.size constraints) (left : Nat)
    {todo : List Constraint} (queue : List Proposition) (listed : ∀ c ∈ todo, c ∈ constraints)
    (start : holds trail) :
    (propagate occurrences left todo queue trail).verdict ≠ .conflict ∧
      holds (propagate occurrences left todo queue trail).trail := by
  fun_induction Worldsmith.propagate occurrences left todo queue trail with
  | case1 => exact ⟨by simp, start⟩
  | case2 left trail p queue ih =>
    exact ih index (fun c hc => (index.mem_of_iff.mp hc).1) start
  | case3 => exact ⟨by simp, start⟩
  | case4 queue trail constraint todo left _ ih =>
    exact ih index (List.forall_mem_cons.mp listed).2 start
  | case5 queue trail constraint todo left _ ih =>
    exact ih index (List.forall_mem_cons.mp listed).2 start
  | case6 queue trail constraint todo left conflict =>
    exact absurd conflict (lasts.clear start (listed constraint List.mem_cons_self))
  | case7 queue trail constraint todo left literals forced trail' queue' done ih =>
    have mem := listed constraint List.mem_cons_self
    have inside := index.inside mem forced
    rw [← (Trail.force_grows done inside).size_eq] at index
    exact ih index (List.forall_mem_cons.mp listed).2
      (lasts.force done inside (lasts.forced start mem forced) start).2
  | case8 queue trail constraint todo left literals forced trail' queue' done =>
    have mem := listed constraint List.mem_cons_self
    have agrees :=
      (lasts.force done (index.inside mem forced) (lasts.forced start mem forced) start).1
    cases agrees

end Lasts

/-- That a valuation which meets all constraints completes the trail lasts. -/
theorem lasts_completes (met : ∀ c ∈ constraints, c.holds v.satisfies = true) :
    Lasts constraints (v.satisfies · = true) (v.Completes ·.at?) := by
  constructor
  · intro trail l completes satisfied refused
    have violated := completes.satisfies refused
    simp [satisfied] at violated
  · exact fun completes satisfied fresh => completes.assign fresh satisfied
  · intro trail constraint completes mem conflict
    have broken := constraint.consequence_sound completes
    rw [← Trail.value_eq, conflict, Consequence.SoundFor] at broken
    simp [met constraint mem] at broken
  · intro trail constraint literals completes mem forced
    have sound := constraint.consequence_sound completes
    rw [← Trail.value_eq, forced] at sound
    exact sound (met constraint mem)

/-- A valuation that meets all constraints stays a completion, and rules conflicts out. -/
theorem completes_propagate (index : occurrences.Indexes trail.values.size constraints)
    (left : Nat) {todo : List Constraint} (queue : List Proposition)
    (listed : ∀ c ∈ todo, c ∈ constraints)
    (met : ∀ c ∈ constraints, c.holds v.satisfies = true) (completes : v.Completes trail.at?) :
    (propagate occurrences left todo queue trail).verdict ≠ .conflict ∧
      v.Completes (propagate occurrences left todo queue trail).trail.at? :=
  (lasts_completes met).propagate index left queue listed completes

/-! ## Coming to rest -/

/-- Whether nothing follows from any single constraint. -/
def Trail.QuietOn (trail : Trail) (constraints : List Constraint) : Prop :=
  ∀ constraint ∈ constraints, (constraint.consequence trail.value).isQuiet = true

/-- Whether all constraints from which something follows are still to be examined, themselves or by
way of a proposition on the queue. -/
def Covered (constraints todo : List Constraint) (queue : List Proposition) (trail : Trail) :
    Prop :=
  ∀ constraint ∈ constraints, (constraint.consequence trail.value).isQuiet = true ∨
    constraint ∈ todo ∨ ∃ p ∈ queue, p ∈ constraint.propositions

theorem covered_pop {p : Proposition} (index : occurrences.Indexes count constraints)
    (covered : Covered constraints [] (p :: queue) trail) :
    Covered constraints (occurrences.of p) queue trail := by
  intro c hc
  rcases covered c hc with quiet | todo | ⟨q, hq, mention⟩
  · exact .inl quiet
  · simp at todo
  · rcases List.mem_cons.mp hq with rfl | hq
    · exact .inr (.inl (index.mem_of_iff.mpr ⟨hc, mention⟩))
    · exact .inr (.inr ⟨q, hq, mention⟩)

theorem covered_skip (covered : Covered constraints (constraint :: todo) queue trail)
    (quiet : (constraint.consequence trail.value).isQuiet = true) :
    Covered constraints todo queue trail := by
  intro c hc
  rcases covered c hc with quiet' | mem | queued
  · exact .inl quiet'
  · rcases List.mem_cons.mp mem with rfl | mem
    · exact .inl quiet
    · exact .inr (.inl mem)
  · exact .inr (.inr queued)

/-- What is forced is queued, and with it all constraints that it concerns, among them the one that
forced it. -/
theorem covered_force (covered : Covered constraints (constraint :: todo) queue trail)
    (inside : ∀ l ∈ literals, l.proposition.index < trail.values.size)
    (forced : constraint.consequence trail.value = .force literals)
    (done : trail.force literals queue = (ok, trail', queue')) :
    Covered constraints todo queue' trail' := by
  obtain ⟨some_literal, about⟩ := Constraint.consequence_force forced
  intro c hc
  by_cases queued : ∃ p ∈ queue', p ∈ c.propositions
  · exact .inr (.inr queued)
  have unchanged : c.consequence trail'.value = c.consequence trail.value := by
    refine Constraint.consequence_congr fun p hp => ?_
    exact Trail.at?_force_of_notMem done inside fun hq => queued ⟨p, hq, hp⟩
  rcases covered c hc with quiet | mem | ⟨p, hq, hp⟩
  · exact .inl (unchanged ▸ quiet)
  · rcases List.mem_cons.mp mem with rfl | mem
    · obtain ⟨l, rest, rfl⟩ := List.exists_cons_of_ne_nil some_literal
      have := Trail.head_mem_force_queue done (about l List.mem_cons_self).2
      exact absurd ⟨_, this, (about l List.mem_cons_self).1⟩ queued
    · exact .inr (.inl mem)
  · exact absurd ⟨p, Trail.mem_force_queue done hq, hp⟩ queued

/-- At rest nothing more follows from any single constraint. -/
theorem quietOn_propagate (index : occurrences.Indexes trail.values.size constraints)
    {left : Nat} (listed : ∀ c ∈ todo, c ∈ constraints)
    (covered : Covered constraints todo queue trail)
    (rest : (propagate occurrences left todo queue trail).verdict = .quiet) :
    (propagate occurrences left todo queue trail).trail.QuietOn constraints := by
  fun_induction propagate occurrences left todo queue trail with
  | case1 left trail =>
    intro c hc
    simpa using covered c hc
  | case2 left trail p queue ih =>
    exact ih index (fun c hc => (index.mem_of_iff.mp hc).1) (covered_pop index covered) rest
  | case3 => simp at rest
  | case4 queue trail constraint todo left quiet ih =>
    exact ih index (List.forall_mem_cons.mp listed).2
      (covered_skip covered (by rw [quiet]; rfl)) rest
  | case5 queue trail constraint todo left quiet ih =>
    exact ih index (List.forall_mem_cons.mp listed).2
      (covered_skip covered (by rw [quiet]; rfl)) rest
  | case6 => simp at rest
  | case7 queue trail constraint todo left literals forced trail' queue' done ih =>
    have inside := index.inside (listed _ List.mem_cons_self) forced
    rw [← (Trail.force_grows done inside).size_eq] at index
    exact ih index (List.forall_mem_cons.mp listed).2
      (covered_force covered inside forced done) rest
  | case8 => simp at rest

end Worldsmith
