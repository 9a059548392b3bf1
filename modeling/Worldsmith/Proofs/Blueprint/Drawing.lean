import Worldsmith.Proofs.Blueprint.Beings
import Worldsmith.Proofs.Blueprint.Quiet
import Worldsmith.Proofs.Logic.Contents

/-!
# Blueprints of one being

What is written down about a single being is followed step by step on a sheet, so that the problem
of a small request can be told in full.

## Main definitions

* `Blueprint.Drawn` — a blueprint is about one being, and a sheet lists its problem.
-/

namespace Worldsmith

namespace Sheet

/-- The name of the proposition that a being is of a kind. -/
def memberName (world : World) (who : Being) (kind : Id .kind) : String :=
  Problem.unaryName (world.kindName kind) who.name

/-- The being is a member. -/
def assertMember (sheet : Sheet) (world : World) (who : Being) (kind : Id .kind) : Sheet :=
  let (p, sheet) := sheet.proposition (memberName world who kind)
  sheet.add (.clause [p.positive].eraseDups)

/-- A member is of a kind just above. -/
def implySuperkind (sheet : Sheet) (world : World) (who : Being) (member : Literal)
    (parent : Id .kind) : Sheet :=
  let (p, sheet) := sheet.proposition (memberName world who parent)
  sheet.add (.clause [member.negate, p.positive].eraseDups)

/-- The values of a menu that nothing restricts, for a member. -/
def addMenu (sheet : Sheet) (world : World) (who : Being) (member : Literal)
    (id : Id .property) : Sheet :=
  match (world.property id).domain with
  | .menu _ values _ =>
    sheet.menuVariable (untokenize (world.property id).name ++ "(" ++ who.name ++ ")") values member
  | _ => sheet

/-- What being of a kind entails if no kinds are below it. -/
def expandLeaf (sheet : Sheet) (world : World) (who : Being) (kind : Id .kind) : Sheet :=
  let (p, sheet) := sheet.proposition (memberName world who kind)
  let sheet := (world.kind kind).superkinds.foldl
    (fun sheet parent => sheet.implySuperkind world who p.positive parent) sheet
  (world.kind kind).properties.foldl
    (fun sheet id => sheet.addMenu world who p.positive id) sheet

/-- The being is both what a verb relates and what it relates that to. -/
def bothAre (sheet : Sheet) (world : World) (who : Being) (subjectKind objectKind : Id .kind) :
    Literal × Literal × Sheet :=
  let (s, sheet) := sheet.proposition (memberName world who subjectKind)
  let (o, sheet) := sheet.proposition (memberName world who objectKind)
  (s.positive, o.positive, sheet)

/-- If a proposition holds, the being is both. -/
def demandKinds (sheet : Sheet) (world : World) (who : Being) (premise : Literal)
    (subjectKind objectKind : Id .kind) : Sheet :=
  let (s, o, sheet) := sheet.bothAre world who subjectKind objectKind
  (sheet.add (.clause [premise.negate, s].eraseDups)).add (.clause [premise.negate, o].eraseDups)

/-- The proposition that a verb relates the being to itself. -/
def relateSelf (sheet : Sheet) (who : Being) (verb : Verb) : Proposition × Sheet :=
  sheet.proposition (Problem.binaryName (untokenize verb.base) who.name who.name verb.symmetric)

/-- If the being is both, the proposition holds. -/
def demandSelf (sheet : Sheet) (world : World) (who : Being) (p : Proposition)
    (subjectKind objectKind : Id .kind) : Sheet :=
  let (s, o, sheet) := sheet.bothAre world who subjectKind objectKind
  sheet.add (.clause [s.negate, o.negate, p.positive].eraseDups)

end Sheet

/-- Whether of a kind nothing is known but edges and properties. -/
structure Kind.IsPlain (kind : Kind) : Prop where
  adjectives : kind.adjectives = []
  implications : kind.implications = []
  alternativeSets : kind.alternativeSets = []
  parts : kind.parts = []

namespace Blueprint

variable {b : Blueprint} {world : World} {who : Being} {expanded : List (Id .kind)} {sheet : Sheet}
  {kind : Id .kind} {kinds : List (Id .kind)} {member : Literal} {id : Id .property}
  {recorded : List (Id .property)}

/-- Whether a blueprint is about one being, of which certain kinds have been expanded and certain
properties recorded, and a sheet lists its problem. -/
structure Drawn (b : Blueprint) (world : World) (who : Being) (expanded : List (Id .kind))
    (recorded : List (Id .property)) (sheet : Sheet) : Prop where
  world : b.world = world
  size : b.beings.size = 1
  essence : (b.being 0).essence = who.essence
  properties : (b.being 0).properties.map Prod.fst = recorded
  expanded : ∀ kind, (0, kind) ∈ b.expanded ↔ kind ∈ expanded
  consists : b.problem.Consists sheet

namespace Drawn

variable (d : b.Drawn world who expanded recorded sheet)
include d

theorem name_eq : (b.being 0).name = who.name := 
  have same := congrArg Being.name d.essence
  same

theorem kinds_eq : (b.being 0).kinds = who.kinds := 
  have same := congrArg Being.kinds d.essence
  same

theorem couldBe_eq (kind : Id .kind) : b.couldBe 0 kind = world.couldBe who.kinds kind := by
  rw [couldBe, d.kinds_eq, d.world]

theorem modifyProblem {f : Problem → Problem} {later : Sheet}
    (consists : (f b.problem).Consists later) :
    (b.modifyProblem f).Drawn world who expanded recorded later :=
  ⟨d.world, d.size, d.essence, d.properties, d.expanded, consists⟩

theorem add (constraint : Constraint) :
    (b.modifyProblem (·.add constraint)).Drawn world who expanded recorded (sheet.add constraint) :=
  d.modifyProblem (d.consists.add constraint)

/-- That the being is of a kind that it could be is told by the kind's name. -/
theorem isOf (could : world.couldBe who.kinds kind = true) :
    (b.isOf 0 kind).1 = (sheet.proposition (Sheet.memberName world who kind)).1 ∧
      (b.isOf 0 kind).2.Drawn world who expanded recorded
        (sheet.proposition (Sheet.memberName world who kind)).2 := by
  have name : b.qualityName 0 (.kind kind) = Sheet.memberName world who kind := by
    rw [qualityName, d.name_eq, d.world]
    rfl
  obtain ⟨first, consists⟩ := d.consists.proposition (Sheet.memberName world who kind)
  rw [isOf_of_couldBe ((d.couldBe_eq kind).trans could) (Prod.eta _).symm, name]
  exact ⟨first, ⟨d.world, d.size, d.essence, d.properties, d.expanded, consists⟩⟩

theorem implySuperkind {parent : Id .kind} (could : world.couldBe who.kinds parent = true) :
    (implySuperkind 0 member parent b).Drawn world who expanded recorded
      (sheet.implySuperkind world who member parent) := by
  obtain ⟨same, drawn⟩ := d.isOf could
  rw [Blueprint.implySuperkind, Sheet.implySuperkind]
  generalize sheet.proposition _ = listed at same drawn ⊢
  generalize b.isOf 0 parent = made at same drawn ⊢
  obtain ⟨p, later⟩ := made
  obtain rfl := same
  exact drawn.add _

theorem record (id : Id .property) (variableIndex : Nat) :
    (b.modifyBeing 0 fun being =>
      { being with properties := being.properties ++ [(id, variableIndex)] }).Drawn world who
        expanded (recorded ++ [id]) sheet := by
  have changed : (b.modifyBeing 0 fun being =>
      { being with properties := being.properties ++ [(id, variableIndex)] }).being 0 =
        { b.being 0 with properties := (b.being 0).properties ++ [(id, variableIndex)] } := by
    rw [being, modifyBeing, getD_modify, if_pos ⟨rfl, d.size ▸ Nat.one_pos⟩]
    rfl
  refine ⟨d.world, Array.size_modify.trans d.size, ?_, ?_, d.expanded, d.consists⟩
  · rw [changed]
    exact d.essence
  · rw [changed, List.map_append, d.properties]
    rfl

/-- A menu that nothing restricts, of which the world has fixed no value. -/
theorem addProperty {source : String} {values : List String}
    (menu : (world.property id).domain = .menu source values []) (new : id ∉ recorded)
    (permanent : who.permanent = none) :
    (addProperty 0 member b id).Drawn world who expanded (recorded ++ [id])
      (sheet.addMenu world who member id) := by
  have unknown : ¬((b.being 0).properties.any (·.1 == id)) = true := by
    rw [List.any_eq_true]
    rintro ⟨entry, mem, same⟩
    exact new (d.properties ▸ beq_iff_eq.mp same ▸ List.mem_map_of_mem mem)
  have free : b.fixedValue? 0 id = none := by
    have same := congrArg Being.permanent d.essence
    rw [fixedValue?, show (b.being 0).permanent = none from same.trans permanent]
    rfl
  obtain rfl := d.world
  rw [Blueprint.addProperty, if_neg unknown, Sheet.addMenu]
  simp only [free, menu, d.name_eq]
  refine record (b := b.modifyProblem fun problem => (problem.menuVariable _ values member).2)
    (d.modifyProblem ?_) id _
  exact d.consists.menuVariable _ values member

/-- What has been expanded is done with. -/
theorem expand_of_mem (mem : kind ∈ expanded) (fuel : Nat) :
    work (fuel + 1) (.expand 0 kind) b = b := by
  rw [work, if_pos (Std.HashSet.contains_iff_mem.mpr ((d.expanded kind).mpr mem))]

theorem mark (kind : Id .kind) : { b with expanded := b.expanded.insert (0, kind) }.Drawn world
    who (kind :: expanded) recorded sheet := by
  refine ⟨d.world, d.size, d.essence, d.properties, fun other => ?_, d.consists⟩
  rw [Std.HashSet.mem_insert, d.expanded, List.mem_cons, beq_iff_eq, Prod.mk.injEq]
  simp [eq_comm]

theorem expand_of_notMem (new : kind ∉ expanded) (fuel : Nat) :
    work (fuel + 1) (.expand 0 kind) b =
      expandMembership (work fuel) 0 kind { b with expanded := b.expanded.insert (0, kind) } := by
  rw [work, if_neg]
  rwa [Std.HashSet.contains_iff_mem, d.expanded]

theorem addProperties {ids : List (Id .property)} (nodup : ids.Nodup)
    (new : ∀ id ∈ ids, id ∉ recorded)
    (menus : ∀ id ∈ ids, ∃ source values, (world.property id).domain = .menu source values [])
    (permanent : who.permanent = none) :
    (ids.foldl (Blueprint.addProperty 0 member) b).Drawn world who expanded (recorded ++ ids)
      (ids.foldl (fun sheet id => sheet.addMenu world who member id) sheet) := by
  induction ids generalizing b sheet recorded with
  | nil => exact (List.append_nil recorded).symm ▸ d
  | cons id rest ih =>
    obtain ⟨⟨source, values, menu⟩, menus⟩ := List.forall_mem_cons.mp menus
    obtain ⟨newHere, new⟩ := List.forall_mem_cons.mp new
    obtain ⟨apart, nodup⟩ := List.nodup_cons.mp nodup
    rw [List.append_cons]
    refine ih (d.addProperty menu newHere permanent) nodup (fun other mem known => ?_) menus
    rcases List.mem_append.mp known with known | same
    · exact new other mem known
    · exact apart (List.mem_singleton.mp same ▸ mem)

theorem implySuperkinds {parents : List (Id .kind)} (fuel : Nat)
    (above : ∀ parent ∈ parents, parent ∈ expanded ∧ world.couldBe who.kinds parent = true) :
    (parents.foldl (fun b parent =>
      work (fuel + 1) (.expand 0 parent) (Blueprint.implySuperkind 0 member parent b)) b).Drawn
        world who expanded recorded (parents.foldl (fun sheet parent =>
          sheet.implySuperkind world who member parent) sheet) := by
  induction parents generalizing b sheet with
  | nil => exact d
  | cons parent rest ih =>
    obtain ⟨⟨known, could⟩, above⟩ := List.forall_mem_cons.mp above
    have implied : (Blueprint.implySuperkind 0 member parent b).Drawn _ _ _ _ _ :=
      d.implySuperkind could
    rw [List.foldl_cons, List.foldl_cons, implied.expand_of_mem known fuel]
    exact ih implied above

/-- A kind that no kinds are below, all kinds above which have been expanded, and whose properties
are menus that nothing restricts. -/
theorem expand_leaf (new : kind ∉ expanded) (could : world.couldBe who.kinds kind = true)
    (plain : (world.kind kind).IsPlain) (lowest : (world.kind kind).subkinds = [])
    (above : ∀ parent ∈ (world.kind kind).superkinds,
      parent ∈ expanded ∧ world.couldBe who.kinds parent = true)
    (nodup : (world.kind kind).properties.Nodup)
    (fresh : ∀ id ∈ (world.kind kind).properties, id ∉ recorded)
    (menus : ∀ id ∈ (world.kind kind).properties,
      ∃ source values, (world.property id).domain = .menu source values [])
    (permanent : who.permanent = none) (fuel : Nat) :
    (work (fuel + 2) (.expand 0 kind) b).Drawn world who (kind :: expanded)
      (recorded ++ (world.kind kind).properties) (sheet.expandLeaf world who kind) := by
  rw [d.expand_of_notMem new]
  have d := d.mark kind
  generalize { b with expanded := b.expanded.insert (0, kind) } = b at d ⊢
  obtain rfl := d.world
  obtain ⟨same, drawn⟩ := d.isOf could
  rw [expandMembership, Sheet.expandLeaf]
  simp only [plain.adjectives, plain.implications, plain.alternativeSets, plain.parts, lowest,
    List.foldl_nil, ite_self]
  generalize sheet.proposition _ = listed at same drawn ⊢
  generalize b.isOf 0 kind = made at same drawn ⊢
  obtain ⟨p, later⟩ := made
  obtain rfl := same
  have above' parent mem := (above parent mem).imp_left (List.mem_cons_of_mem kind)
  exact (drawn.implySuperkinds fuel above').addProperties nodup fresh menus permanent

theorem request (requested : List Nat) : { b with requested := requested }.Drawn world who
    expanded recorded sheet :=
  ⟨d.world, d.size, d.essence, d.properties, d.expanded, d.consists⟩

theorem candidates_eq (could : world.couldBe who.kinds kind = true) : b.candidates kind = [0] := by
  have could : b.couldBe 0 kind = true := (d.couldBe_eq kind).trans could
  simp [candidates, d.size, could]

theorem bothAre {subjectKind objectKind : Id .kind}
    (subject : world.couldBe who.kinds subjectKind = true)
    (object : world.couldBe who.kinds objectKind = true) :
    ((Blueprint.bothAre 0 0 subjectKind objectKind b).1 =
        (sheet.bothAre world who subjectKind objectKind).1 ∧
      (Blueprint.bothAre 0 0 subjectKind objectKind b).2.1 =
        (sheet.bothAre world who subjectKind objectKind).2.1) ∧
      (Blueprint.bothAre 0 0 subjectKind objectKind b).2.2.Drawn world who expanded recorded
        (sheet.bothAre world who subjectKind objectKind).2.2 := by
  obtain ⟨first, drawn⟩ := d.isOf subject
  obtain ⟨second, last⟩ := drawn.isOf object
  exact ⟨⟨congrArg Proposition.positive first, congrArg Proposition.positive second⟩, last⟩

theorem demandKinds {premise : Literal} {subjectKind objectKind : Id .kind}
    (subject : world.couldBe who.kinds subjectKind = true)
    (object : world.couldBe who.kinds objectKind = true) :
    (Blueprint.demandKinds premise 0 0 subjectKind objectKind b).Drawn world who expanded recorded
      (sheet.demandKinds world who premise subjectKind objectKind) := by
  obtain ⟨⟨first, second⟩, drawn⟩ := d.bothAre subject object
  rw [Blueprint.demandKinds, Sheet.demandKinds]
  generalize sheet.bothAre _ _ _ _ = listed at first second drawn ⊢
  generalize Blueprint.bothAre 0 0 subjectKind objectKind b = made at first second drawn ⊢
  obtain ⟨s, o, later⟩ := made
  obtain ⟨_, _, listed⟩ := listed
  obtain rfl := first
  obtain rfl := second
  exact drawn.modifyProblem ((drawn.consists.add _).add _)

/-- A verb that demands nothing but the kinds of what it relates. -/
theorem addPair {verb : Verb} {subjectKind objectKind : Id .kind} (id : Id .verb)
    (directed : verb.symmetric = false) (subjectModifiers : verb.subjectModifiers = [])
    (objectModifiers : verb.objectModifiers = [])
    (subject : world.couldBe who.kinds subjectKind = true)
    (object : world.couldBe who.kinds objectKind = true) :
    (Blueprint.addPair id verb subjectKind objectKind 0 0 b).relation? id 0 0 =
        some (sheet.relateSelf who verb).1 ∧
      (Blueprint.addPair id verb subjectKind objectKind 0 0 b).Drawn world who expanded recorded
        ((sheet.relateSelf who verb).2.demandKinds world who (sheet.relateSelf who verb).1.positive
          subjectKind objectKind) := by
  obtain ⟨first, consists⟩ := d.consists.proposition
    (Problem.binaryName (untokenize verb.base) who.name who.name verb.symmetric)
  unfold Blueprint.addPair Problem.binary
  rw [d.name_eq, Sheet.relateSelf]
  generalize sheet.proposition _ = listed at first consists ⊢
  generalize b.problem.proposition _ = made at first consists ⊢
  obtain ⟨p, problem⟩ := made
  obtain ⟨_, listed⟩ := listed
  obtain rfl := first
  simp only [directed, subjectModifiers, objectModifiers, demandTraits, List.foldl_nil,
    Bool.false_eq_true, if_false]
  constructor
  · rw [(quiet_demandKinds _ _ _ _ _ _).relation?, relation?]
    exact Std.HashMap.getElem?_insert_self
  · have made : { b with
        problem := problem.setPrior p verb.density
        relations := b.relations.push ⟨id, 0, 0, p⟩
        relationIndex := b.relationIndex.insert (id, 0, 0) p }.Drawn world who expanded recorded
          listed :=
      ⟨d.world, d.size, d.essence, d.properties, d.expanded, consists.setPrior p verb.density⟩
    exact made.demandKinds subject object

/-- A verb that relates everything of its kinds to itself. -/
theorem addLoop {verb : Verb} {subjectKind objectKind : Id .kind} {id : Id .verb} {p : Proposition}
    (known : b.relation? id 0 0 = some p) (reflexive : verb.reflexive = true)
    (notAnti : verb.antiReflexive = false) (subject : world.couldBe who.kinds subjectKind = true)
    (object : world.couldBe who.kinds objectKind = true) :
    (Blueprint.addLoop id verb subjectKind objectKind b 0).Drawn world who expanded recorded
      (sheet.demandSelf world who p subjectKind objectKind) := by
  obtain ⟨⟨first, second⟩, drawn⟩ := d.bothAre subject object
  unfold Blueprint.addLoop
  rw [known, Sheet.demandSelf]
  simp only [reflexive, notAnti, if_true, Bool.false_eq_true, if_false]
  generalize sheet.bothAre _ _ _ _ = listed at first second drawn ⊢
  generalize Blueprint.bothAre 0 0 subjectKind objectKind b = made at first second drawn ⊢
  obtain ⟨s, o, later⟩ := made
  obtain ⟨_, _, listed⟩ := listed
  obtain rfl := first
  obtain rfl := second
  exact drawn.add _

/-- A kind that no kinds are above is asserted and then expanded. -/
theorem declare_root (fresh : (0, kind) ∉ b.asserted) (top : (world.kind kind).superkinds = [])
    (could : world.couldBe who.kinds kind = true) (fuel : Nat) :
    ∃ later : Blueprint, work (fuel + 1) (.declare 0 kind) b = work fuel (.expand 0 kind) later ∧
      later.Drawn world who expanded recorded (sheet.assertMember world who kind) := by
  obtain rfl := d.world
  have marked : { b with asserted := b.asserted.insert (0, kind) }.Drawn b.world who expanded
      recorded sheet := ⟨d.world, d.size, d.essence, d.properties, d.expanded, d.consists⟩
  obtain ⟨same, drawn⟩ := marked.isOf could
  rw [work, if_neg (by rwa [Std.HashSet.contains_iff_mem]), assertMembership, Sheet.assertMember]
  generalize sheet.proposition _ = listed at same drawn ⊢
  generalize Blueprint.isOf _ 0 kind = made at same drawn ⊢
  obtain ⟨p, later⟩ := made
  obtain ⟨_, listed⟩ := listed
  obtain rfl := same
  have superkinds : (later.world.kind kind).superkinds = [] := drawn.world ▸ top
  refine ⟨later.modifyProblem (·.assert p.positive), ?_, drawn.add _⟩
  simp only [Blueprint.modifyProblem, superkinds, List.foldl_nil]

end Drawn

/-- The only being that is requested where there are no individuals. -/
def soleBeing (world : World) (kind : Id .kind) : Being :=
  ⟨((world.kindName kind).map fun c => if c = ' ' then '_' else c) ++ (1).repr, [kind], [], none,
    none, [], [], 0⟩

theorem drawn_withBeing (world : World) (kind : Id .kind) :
    ((ofWorld world).withBeing [kind] [] none 0).Drawn world (soleBeing world kind) [] []
      .empty := by
  have name : ((ofWorld world).freshName kind).1 = (soleBeing world kind).name := by
    simp only [freshName, ofWorld, Std.HashMap.getD_empty, soleBeing]
  have being : ((ofWorld world).withBeing [kind] [] none 0).being 0 = soleBeing world kind := by
    simp only [withBeing, name]
    rfl
  refine ⟨rfl, rfl, ?_, ?_, ?_, .empty⟩
  · rw [being]
  · rw [being]
    rfl
  · simp [withBeing, freshName, ofWorld]

/-- A request for one being where there are no individuals. -/
theorem ofRequest_one (none : world.individuals.size = 0) (kind : Id .kind) :
    ofRequest world ⟨kind, [], 1⟩ = addRelations
      { work (enoughFuel world) (.declare 0 kind)
          ((ofWorld world).withBeing [kind] [] Option.none 0) with
        requested := (work (enoughFuel world) (.declare 0 kind)
          ((ofWorld world).withBeing [kind] [] Option.none 0)).requested ++ [0] } := by
  have individuals : world.individualIds = [] := by simp [World.individualIds, none, Id.upTo]
  have declared : declaredKinds (ofWorld world).world [kind] [] = [kind] :=
    declaredKinds_singleton world kind
  rw [ofRequest, individuals, List.foldl_nil, addRequested, addBeing_eq, declared]
  rfl

end Blueprint

end Worldsmith
