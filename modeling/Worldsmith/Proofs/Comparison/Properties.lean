import Worldsmith.Proofs.Comparison.Basic
import Worldsmith.Proofs.Search.Menus

/-!
# Properties side by side

Where two blueprints give a being the same property, its menus offer the same. What one of them
demands of a property that the other does not have is all about the menu of that property.

## Main statements

* `Blueprint.Matches.addProperties` — beings are given their properties side by side.
-/

namespace Worldsmith

namespace Problem

variable {problem later : Problem} {name : String} {guard : Literal} {constraint : Constraint}

theorem constraints_choiceNames (problem : Problem) (name : String) (values : List String) :
    (problem.choiceNames name values).2.constraints = problem.constraints := by
  induction values generalizing problem with
  | nil => rfl
  | cons value rest ih => exact ih _

theorem of_mem_constraints_guardChoices {prior : Float} {choices : List Proposition}
    (mem : constraint ∈ (problem.guardChoices prior guard choices).constraints.toList) :
    constraint ∈ problem.constraints.toList ∨
      ∃ choice ∈ choices, constraint = .clause [choice.negative, guard].eraseDups := by
  induction choices generalizing problem with
  | nil => exact .inl mem
  | cons choice rest ih =>
    rcases ih mem with mem | ⟨other, among, same⟩
    · refine (mem_constraints_add.mp mem).imp id ?_
      exact fun same => ⟨choice, List.mem_cons_self, same⟩
    · exact .inr ⟨other, List.mem_cons_of_mem _ among, same⟩

/-- All that comes with a menu is that its choices imply the guard and that there is one. -/
theorem of_mem_constraints_menuVariable {values : List String}
    (mem : constraint ∈ (problem.menuVariable name values guard).2.constraints.toList) :
    constraint ∈ problem.constraints.toList ∨
      (∃ choice ∈ (problem.choiceNames name values).1,
        constraint = .clause [choice.negative, guard].eraseDups) ∨
      constraint = (Constraint.between 1 1 ((problem.choiceNames name values).1.map
        Proposition.positive).eraseDups).guarded guard := by
  rcases mem_constraints_add.mp mem with mem | same
  · rcases of_mem_constraints_guardChoices mem with mem | among
    · rw [constraints_choiceNames] at mem
      exact .inl mem
    · exact .inr (.inl among)
  · exact .inr (.inr same)

theorem menu?_menuVariable (problem : Problem) (name : String) (values : List String)
    (guard : Literal) : (problem.menuVariable name values guard).2.menu?
      (problem.menuVariable name values guard).1 =
        some (guard, values.zip (problem.choiceNames name values).1) := by
  rw [menu?, unknown?_menuVariable]

theorem restrictMenu_eq {index : Nat} {menu : List (String × Proposition)}
    (found : problem.menu? index = some (guard, menu)) (conditions : List Literal)
    (allowed : List String) : problem.restrictMenu index conditions allowed =
      problem.clause (guard.negate :: conditions.map Literal.negate ++
        (menu.filter fun choice => allowed.any (Text.sameAscii · choice.1)).map
          fun choice => choice.2.positive) := by
  rw [restrictMenu, found]

theorem Extends.menu?_eq_some (h : problem.Extends later) {index : Nat}
    {menu : Literal × List (String × Proposition)} (found : problem.menu? index = some menu) :
    later.menu? index = some menu := by
  have known : ∃ v, problem.unknowns[index]? = some v := by
    rw [menu?] at found
    split at found
    case h_1 known => exact ⟨_, known⟩
    case h_2 => cases found
  rw [h.menu?_eq known.choose_spec, found]

end Problem

namespace Blueprint

variable {b b' c c' : Blueprint} {i v v' : Nat} {id : Id .property} {kind : Id .kind}
  {p p' : Proposition} {l l' member member' : Literal} {name name' : String}

/-! ## Menus -/

/-- The name of the menu of a property. -/
def menuName (b : Blueprint) (i : Nat) (id : Id .property) : String :=
  Problem.unaryName (untokenize (b.world.property id).name) (b.being i).name

/-- A blueprint with one menu more. -/
def withMenu (b : Blueprint) (i : Nat) (id : Id .property) (values : List String)
    (guard : Literal) : Blueprint :=
  { b with problem := (b.problem.menuVariable (b.menuName i id) values guard).2 }

theorem quiet_withMenu (values : List String) : b.Quiet (b.withMenu i id values l) := rfl

theorem Valid.withMenu (valid : b.Valid) (i : Nat) (id : Id .property)
    (own : b.problem.Has l.proposition) (values : List String) :
    b.Advances (b.withMenu i id values l) :=
  valid.advances_problem (Problem.extends_menuVariable b.problem _ values l)
    (valid.built.menuVariable _ values l own) fun _ own =>
      (Problem.has_menuVariable own).imp_right fun ⟨_, named⟩ => .other named (.inr (by simp))

/-- The choices of a menu say which value the property takes. -/
theorem says_choices (own : b.world.Owns id) (hi : i < b.beings.size) (values : List String)
    (guard : Literal) :
    List.Forall₂ (fun p value => (b.withMenu i id values guard).Says p (.choice i id value))
      (b.problem.choiceNames (b.menuName i id) values).1 values :=
  (b.problem.isMenu_menuVariable (b.menuName i id) values guard).names.imp
    fun _ _ named => ⟨⟨own, hi⟩, named⟩

/-- Whether two menus offer the same values, each by propositions that say the same. -/
def MenuEchoes (b b' : Blueprint) (v v' : Nat) : Prop :=
  ∃ guard guard' menu menu', b.problem.menu? v = some (guard, menu) ∧
    b'.problem.menu? v' = some (guard', menu') ∧ guard.Echoes (b.Echo b') guard' ∧
      List.Forall₂ (fun x y => x.1 = y.1 ∧ b.Echo b' x.2 y.2) menu menu'

theorem MenuEchoes.later (h : b.MenuEchoes b' v v') (together : Together b b' c c') :
    c.MenuEchoes c' v v' := by
  obtain ⟨guard, guard', menu, menu', found, found', guards, each⟩ := h
  refine ⟨guard, guard', menu, menu', together.grows.problem.menu?_eq_some found,
    together.grows'.problem.menu?_eq_some found', together.literal guards, ?_⟩
  exact each.imp fun _ _ same => ⟨same.1, together.echo same.2⟩

/-- Both menus have a choice for a value, or neither has. -/
theorem MenuEchoes.menuChoice? (h : b.MenuEchoes b' v v') (value : String) :
    Option.Rel (b.Echo b') (b.problem.menuChoice? v value) (b'.problem.menuChoice? v' value) := by
  obtain ⟨guard, guard', menu, menu', found, found', -, each⟩ := h
  rw [Problem.menuChoice?, Problem.menuChoice?, found, found', Option.bind_some, Option.bind_some]
  dsimp only
  clear found found'
  induction each with
  | nil => exact .none
  | cons same _ ih =>
    rw [List.find?_cons, List.find?_cons, same.1]
    split
    · exact .some same.2
    · exact ih

/-- Choose the value that the world has fixed, if it is on the menu. -/
def chooseFixed (v : Nat) (fixed : Option String) (b : Blueprint) : Blueprint :=
  match fixed.bind (b.problem.menuChoice? v) with
  | some choice => b.modifyProblem (·.assert choice.positive)
  | none => b

/-- Record a property of a being with the number of its variable. -/
def recordProperty (i : Nat) (id : Id .property) (v : Nat) (b : Blueprint) : Blueprint :=
  b.modifyBeing i fun being => { being with properties := being.properties ++ [(id, v)] }

theorem addProperty_of_menu {source : String} {values : List String}
    {restrictions : List MenuRestriction}
    (new : ((b.being i).properties.any (·.1 == id)) = false)
    (menu : (b.world.property id).domain = .menu source values restrictions) :
    addProperty i member b id =
      let v := (b.problem.menuVariable (b.menuName i id) values member).1
      recordProperty i id v (chooseFixed v (b.fixedValue? i id)
        (restrictions.foldl (addRestriction i v) (b.withMenu i id values member))) := by
  unfold addProperty
  rw [new]
  dsimp only
  rw [menu]
  rfl

theorem addProperty_of_range {low high : Float}
    (new : ((b.being i).properties.any (·.1 == id)) = false)
    (range : (b.world.property id).domain = .range low high) :
    addProperty i member b id =
      if (b.fixedValue? i id).isSome then b
      else recordProperty i id (b.problem.rangeVariable (b.menuName i id) low high member).1
        { b with problem := (b.problem.rangeVariable (b.menuName i id) low high member).2 } := by
  unfold addProperty
  rw [new]
  dsimp only
  rw [range]
  rfl

theorem addProperty_of_text (text : (b.world.property id).domain = .text) :
    addProperty i member b id = b := by
  unfold addProperty
  dsimp only
  rw [text]
  exact ite_self b

theorem addProperty_of_recorded (known : ((b.being i).properties.any (·.1 == id)) = true) :
    addProperty i member b id = b := by
  unfold addProperty
  rw [known]
  rfl

namespace Matches

variable (h : b.Matches b')
include h

/-- Both sides make the same menu. -/
theorem withMenu (own : b.world.Owns id) (hi : i < b.beings.size)
    (echoes : member.Echoes (b.Echo b') member') (values : List String) :
    Together b b' (b.withMenu i id values member) (b'.withMenu i id values member') ∧
      (b.withMenu i id values member).MenuEchoes (b'.withMenu i id values member')
        (b.problem.menuVariable (b.menuName i id) values member).1
        (b'.problem.menuVariable (b'.menuName i id) values member').1 := by
  have step := h.valid.withMenu i id echoes.1.has.1 values
  have step' := h.valid'.withMenu i id echoes.1.has.2 values
  have own' : b'.world.Owns id := Nat.lt_of_lt_of_le own h.underlies.size_properties
  have choices := forall₂_of_same (says_choices own hi values member)
    (says_choices own' (h.lt_size hi) values member')
    (R := (b.withMenu i id values member).Echo (b'.withMenu i id values member'))
    fun said said' => ⟨_, said, said'⟩
  have echoes : member.Echoes ((b.withMenu i id values member).Echo
      (b'.withMenu i id values member')) member' :=
    echoes.mono fun echo => echo.later step.grows step'.grows
  have menu := b.problem.isMenu_menuVariable (b.menuName i id) values member
  refine ⟨h.quiet step (quiet_withMenu values) step' (quiet_withMenu values) ?_, ?_⟩
  · intro constraint' demands
    refine (Problem.of_mem_constraints_menuVariable demands).imp_right fun new => .inl ?_
    rcases new with ⟨choice', mem, rfl⟩ | rfl
    · obtain ⟨choice, mem, echo⟩ := exists_of_forall₂_right choices choice' mem
      exact ⟨_, menu.guarded choice mem, .clause (.cons (.negative echo) (.cons echoes .nil))⟩
    · exact ⟨_, menu.unique, .guarded 1 1 echoes (forall₂_echoes_positive choices)⟩
  · exact ⟨member, member', _, _, b.problem.menu?_menuVariable _ values member,
      b'.problem.menu?_menuVariable _ values member', echoes, forall₂_zip_left values choices⟩

/-- Both sides restrict the same menu in the same way. -/
theorem addRestriction (hi : i < b.beings.size) (menus : b.MenuEchoes b' v v')
    (restriction : MenuRestriction) :
    Together b b' (addRestriction i v b restriction) (addRestriction i v' b' restriction) := by
  obtain ⟨made, conditions⟩ := h.literals hi restriction.conditions
  obtain ⟨guard, guard', menu, menu', found, found', guards, each⟩ := menus.later made
  unfold Blueprint.addRestriction
  generalize b.literals i restriction.conditions = left at made conditions found guards each ⊢
  generalize b'.literals i restriction.conditions = right at made conditions found' guards each ⊢
  obtain ⟨ls, c⟩ := left
  obtain ⟨ls', c'⟩ := right
  dsimp only at made conditions found found' guards each ⊢
  have permitted : List.Forall₂ (Literal.Echoes (c.Echo c'))
      ((menu.filter fun choice => restriction.values.any (Text.sameAscii · choice.1)).map
        fun choice => choice.2.positive)
      ((menu'.filter fun choice => restriction.values.any (Text.sameAscii · choice.1)).map
        fun choice => choice.2.positive) := by
    rw [List.forall₂_map_left_iff, List.forall₂_map_right_iff]
    refine (List.rel_filter ?_ each).imp fun _ _ same => .positive same.2
    intro x y same
    simp [same.1]
  rw [modifyProblem, modifyProblem, Problem.restrictMenu_eq found, Problem.restrictMenu_eq found']
  exact made.trans (made.matched.clause (.cons guards.negate
    (List.rel_append (forall₂_echoes_negate conditions) permitted)))

theorem chooseFixed (menus : b.MenuEchoes b' v v') (fixed : Option String) :
    Together b b' (chooseFixed v fixed b) (chooseFixed v' fixed b') := by
  cases fixed with
  | none => exact .refl h
  | some value =>
    have choices := menus.menuChoice? value
    unfold Blueprint.chooseFixed
    rw [Option.bind_some, Option.bind_some]
    generalize b.problem.menuChoice? v value = choice? at choices ⊢
    generalize b'.problem.menuChoice? v' value = choice?' at choices ⊢
    cases choices with
    | some echo => exact h.clause (.cons (.positive echo) .nil)
    | none => exact .refl h

end Matches

/-! ## Properties that are recorded -/

theorem Extends.modifyBeing (b : Blueprint) (i : Nat) {f : Being → Being}
    (keeps : ∀ being, (f being).essence = being.essence) : b.Extends (b.modifyBeing i f) :=
  ⟨rfl, .refl _, Nat.le_of_eq Array.size_modify.symm,
    fun j _ => (keeps_modifyBeing b i keeps).essence j, fun _ => fun mem => mem,
    fun _ => fun mem => mem⟩

theorem Valid.modifyBeing (valid : b.Valid) (i : Nat) {f : Being → Being}
    (keeps : ∀ being, (f being).essence = being.essence) : (b.modifyBeing i f).Valid := by
  have grows := Extends.modifyBeing b i keeps
  refine ⟨valid.built, ?_, ?_, ?_, valid.relations, valid.relationIndex⟩
  · exact fun j kind mem => grows.lt_size (valid.asserted_lt j kind mem)
  · exact fun j kind mem => grows.lt_size (valid.expanded_lt j kind mem)
  · intro j kind mem
    obtain ⟨hj, denies⟩ := valid.excluded j kind mem
    exact ⟨grows.lt_size hj, grows.denies hj denies⟩

theorem being_modifyBeing_eq (b : Blueprint) (i j : Nat) (f : Being → Being) :
    (b.modifyBeing i f).being j =
      if i = j ∧ j < b.beings.size then f (b.being j) else b.being j :=
  getD_modify b.beings i j f

/-- Both sides change what is recorded of a being's parts and properties, and they are alike
afterwards. -/
theorem Matches.modifyBeing (h : b.Matches b') (i : Nat) {f g : Being → Being}
    (keeps : ∀ being, (f being).essence = being.essence)
    (keeps' : ∀ being, (g being).essence = being.essence)
    (alike : ∀ {x y : Being}, x.Resembles b.world y → (f x).Resembles b.world (g y)) :
    Together b b' (b.modifyBeing i f) (b'.modifyBeing i g) := by
  have permanent {b : Blueprint} {f : Being → Being} (j : Nat) (id : Id .property)
      (keeps : ∀ being, (f being).essence = being.essence) :
      (b.modifyBeing i f).fixedValue? j id = b.fixedValue? j id := by
    have same := congrArg Being.permanent ((keeps_modifyBeing b i keeps).essence j)
    have same : ((b.modifyBeing i f).being j).permanent = (b.being j).permanent := same
    rw [fixedValue?, fixedValue?, same]
    rfl
  refine h.goOn (Extends.modifyBeing b i keeps) (Extends.modifyBeing b' i keeps')
    (h.valid.modifyBeing i keeps) (h.valid'.modifyBeing i keeps')
    (Array.size_modify.trans (h.size.trans Array.size_modify.symm)) (fun j => ?_) (fun j id => ?_)
    h.asserted h.expanded ⟨rfl, rfl⟩ ⟨rfl, rfl⟩ fun _ => .inl
  · rw [being_modifyBeing_eq, being_modifyBeing_eq, h.size]
    split_ifs
    · exact alike (h.beings j)
    · exact h.beings j
  · rw [permanent j id keeps, permanent j id keeps', h.fixed]

theorem modifyBeing_self (b : Blueprint) (i : Nat) : b.modifyBeing i (fun being => being) = b := by
  have same : b.beings.modify i (fun being => being) = b.beings := by
    refine Array.ext_getElem? fun j => ?_
    rw [Array.getElem?_modify]
    split_ifs
    · exact Option.map_id'
    · rfl
  rw [modifyBeing, same]

theorem Valid.advances_range (valid : b.Valid) (own : b.problem.Has l.proposition)
    (name : String) (low high : Float) :
    b.Advances { b with problem := (b.problem.rangeVariable name low high l).2 } :=
  valid.advances_problem (Problem.extends_rangeVariable b.problem name low high l)
    (valid.built.rangeVariable name low high l own) fun _ => .inl

namespace Matches

variable (h : b.Matches b')
include h

theorem recordProperty (i : Nat) (id : Id .property) (v v' : Nat) :
    Together b b' (recordProperty i id v b) (recordProperty i id v' b') :=
  h.modifyBeing i (fun _ => rfl) (fun _ => rfl) fun alike =>
    ⟨alike.kinds, alike.depth, alike.parts, fun id own => by
      simp [List.any_append, alike.properties id own]⟩

/-- A property that the first side does not have is recorded on the second. -/
theorem recordFurther (i : Nat) (other : ¬b.world.Owns id) (v : Nat) :
    Together b b' b (Blueprint.recordProperty i id v b') := by
  have recorded := h.modifyBeing (f := fun being => being)
    (g := fun being => { being with properties := being.properties ++ [(id, v)] }) i
    (fun _ => rfl) (fun _ => rfl) fun alike =>
      ⟨alike.kinds, alike.depth, alike.parts, fun known own => by
        have apart : ¬id = known := by
          rintro rfl
          exact other own
        simp [List.any_append, alike.properties known own, apart]⟩
  rw [modifyBeing_self] at recorded
  exact recorded

/-- A property that both worlds have. -/
theorem addProperty (own : b.world.Owns id) (hi : i < b.beings.size)
    (echoes : member.Echoes (b.Echo b') member') :
    Together b b' (addProperty i member b id) (addProperty i member' b' id) := by
  have recorded := (h.beings i).properties id own
  have same := h.underlies.property id own
  cases known : (b.being i).properties.any (·.1 == id) with
  | true =>
    rw [addProperty_of_recorded known, addProperty_of_recorded (recorded.trans known)]
    exact .refl h
  | false =>
    rw [known] at recorded
    cases domain : (b.world.property id).domain with
    | text =>
      rw [addProperty_of_text domain, addProperty_of_text (same ▸ domain)]
      exact .refl h
    | range low high =>
      rw [addProperty_of_range known domain, addProperty_of_range recorded (same ▸ domain), h.fixed]
      split_ifs
      · exact .refl h
      · have made := h.quiet (h.valid.advances_range echoes.1.has.1 (b.menuName i id) low high) rfl
          (h.valid'.advances_range echoes.1.has.2 (b'.menuName i id) low high) rfl fun _ => .inl
        exact made.trans (made.matched.recordProperty i id _ _)
    | menu source values restrictions =>
      rw [addProperty_of_menu known domain, addProperty_of_menu recorded (same ▸ domain), h.fixed]
      dsimp only
      obtain ⟨made, menus⟩ := h.withMenu own hi echoes values
      have restricted := Together.foldl restrictions made.matched fun c c' together restriction _ =>
        together.matched.addRestriction (together.lt_size (made.lt_size hi))
          (menus.later together) restriction
      have chosen := restricted.matched.chooseFixed (menus.later restricted) (b.fixedValue? i id)
      exact made.trans (restricted.trans (chosen.trans (chosen.matched.recordProperty i id _ _)))

/-- A property that only the second world has. -/
theorem addFurther (own : b'.world.Owns id) (other : ¬b.world.Owns id) (hi : i < b.beings.size)
    (said : b'.Says p' (.quality i (.kind (b'.world.property id).owner))) :
    Together b b' b (Blueprint.addProperty i p'.positive b' id) := by
  have has := Problem.has_of_name? said.name?
  cases known : (b'.being i).properties.any (·.1 == id) with
  | true =>
    rw [addProperty_of_recorded known]
    exact .refl h
  | false =>
    have fixed : b'.fixedValue? i id = none := (h.fixed i id).trans (h.fixedValue?_eq_none other)
    have fresh := h.underlies.fresh id own other
    cases domain : (b'.world.property id).domain with
    | text =>
      rw [addProperty_of_text domain]
      exact .refl h
    | range low high =>
      rw [addProperty_of_range known domain, fixed]
      have made := h.quiet (.refl h.valid) (.refl b)
        (h.valid'.advances_range (l := p'.positive) has (b'.menuName i id) low high) rfl
        fun _ => .inl
      exact made.trans (made.matched.recordFurther i other _)
    | menu source values restrictions =>
      rw [domain] at fresh
      obtain ⟨-, rfl⟩ := fresh
      rw [addProperty_of_menu known domain, fixed]
      have step' := h.valid'.withMenu (l := p'.positive) i id has values
      have offers : (b'.withMenu i id values p'.positive).Offers i id p'
          (b'.problem.choiceNames (b'.menuName i id) values).1 :=
        ⟨own, said.later step'.grows, source, values, [], domain,
          says_choices own (h.lt_size hi) values p'.positive⟩
      have made := h.quiet (.refl h.valid) (.refl b) step' (quiet_withMenu values) fun _ demands =>
        (Problem.of_mem_constraints_menuVariable demands).imp_right fun new => .inr <| by
          rcases new with ⟨choice, mem, rfl⟩ | rfl
          · exact .implies other offers mem
          · exact .one other offers
      exact made.trans (made.matched.recordFurther i other _)

/-- Of some properties both sides have those that the first world has. -/
theorem addListed (properties : List (Id .property))
    (listed : ∀ id ∈ properties, b'.world.Owns id ∧ (b'.world.property id).owner = kind)
    (hi : i < b.beings.size) (echo : b.Echo b' p p')
    (said : b'.Says p' (.quality i (.kind kind))) :
    Together b b'
      ((properties.filter (·.index < b.world.properties.size)).foldl
        (Blueprint.addProperty i p.positive) b)
      (properties.foldl (Blueprint.addProperty i p'.positive) b') := by
  induction properties generalizing b b' with
  | nil => exact .refl h
  | cons id rest ih =>
    obtain ⟨⟨own', owner⟩, others⟩ := List.forall_mem_cons.mp listed
    have go_on {c c' : Blueprint} (first : Together b b' c c') : Together c c'
        ((rest.filter (·.index < b.world.properties.size)).foldl
          (Blueprint.addProperty i p.positive) c)
        (rest.foldl (Blueprint.addProperty i p'.positive) c') := by
      rw [← first.grows.world]
      exact ih first.matched (first.grows'.world ▸ others) (first.lt_size hi) (first.echo echo)
        (said.later first.grows')
    rw [List.filter_cons, List.foldl_cons]
    split_ifs with own
    · have known : id.index < b.world.properties.size := by simpa using own
      have first := h.addProperty known hi (.positive echo)
      exact first.trans (go_on first)
    · have other : ¬id.index < b.world.properties.size := by simpa using own
      have first := h.addFurther own' other hi (owner ▸ said)
      exact first.trans (go_on first)

/-- Beings are given the properties of a kind side by side. -/
theorem addProperties (hi : i < b.beings.size) (echo : b.Echo b' p p')
    (said : b'.Says p' (.quality i (.kind kind))) :
    Together b b' ((b.world.kind kind).properties.foldl (Blueprint.addProperty i p.positive) b)
      ((b'.world.kind kind).properties.foldl (Blueprint.addProperty i p'.positive) b') := by
  rw [← h.underlies.properties kind]
  exact h.addListed _ (fun id => (h.underlies.listed.mem_iff kind id).mp) hi echo said

end Matches

end Blueprint

end Worldsmith
