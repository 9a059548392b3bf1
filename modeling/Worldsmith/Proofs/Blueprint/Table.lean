import Mathlib.Data.Prod.Basic
import Worldsmith.Proofs.Blueprint.Pairs

/-!
# The table of relations

Relations are recorded twice: in the order in which they are made, and by the verb and the two
beings that they relate. Each verb is dealt with once and each of its pairs is made once, so that
both records agree, and no pair is recorded twice for one verb.

## Main definitions

* `Blueprint.Tabulated` — both records agree and hold relations of just some verbs and pairs.

## Main statements

* `Blueprint.tabulated_ofRequest` — so they do in the blueprint of a request.
-/

namespace Worldsmith

/-- What a relation is recorded by. -/
def Relation.key (r : Relation) : Id .verb × Nat × Nat := (r.verb, r.subject, r.object)

namespace Blueprint

variable {b b' : Blueprint} {keys : List (Id .verb × Nat × Nat)} {id : Id .verb}
  {subject object : Nat} {world : World}

/-- Whether both records of relations agree and are of some verbs and pairs, each once. -/
structure Tabulated (b : Blueprint) (keys : List (Id .verb × Nat × Nat)) : Prop where
  keys_eq : b.relations.toList.map Relation.key = keys
  nodup : keys.Nodup
  mem_iff : ∀ r, r ∈ b.relations.toList ↔
    b.relation? r.verb r.subject r.object = some r.proposition

namespace Tabulated

theorem of_eq (h : b.Tabulated keys) (relations : b'.relations = b.relations)
    (relationIndex : b'.relationIndex = b.relationIndex) : b'.Tabulated keys := by
  refine ⟨relations ▸ h.keys_eq, h.nodup, ?_⟩
  simpa only [relation?, relations, relationIndex] using h.mem_iff

theorem keeps (h : b.Tabulated keys) (keeps : b.Keeps b') : b'.Tabulated keys :=
  h.of_eq keeps.relations keeps.relationIndex

theorem quiet (h : b.Tabulated keys) (quiet : b.Quiet b') : b'.Tabulated keys := h.keeps quiet.keeps

/-- A relation that is recorded for the first time. -/
theorem insert (h : b.Tabulated keys) (p : Proposition) (problem : Problem)
    (fresh : (id, subject, object) ∉ keys) :
    Tabulated { b with
      problem := problem
      relations := b.relations.push ⟨id, subject, object, p⟩
      relationIndex := b.relationIndex.insert (id, subject, object) p }
      (keys ++ [(id, subject, object)]) := by
  refine ⟨by simp [h.keys_eq, Relation.key], ?_, fun r => ?_⟩
  · exact h.nodup.append (List.nodup_singleton _) (List.disjoint_singleton.mpr fresh)
  · have known := h.mem_iff r
    simp only [relation?, Array.toList_push, List.mem_append, List.mem_singleton,
      Std.HashMap.getElem?_insert, beq_iff_eq] at known ⊢
    obtain ⟨verb, s, o, q⟩ := r
    split_ifs with same
    · -- No relation was recorded under this key, so it is the new one.
      obtain ⟨rfl, rfl, rfl⟩ : id = verb ∧ subject = s ∧ object = o := by simpa using same
      have other : (⟨id, subject, object, q⟩ : Relation) ∉ b.relations.toList := fun mem =>
        fresh (h.keys_eq ▸ List.mem_map_of_mem (f := Relation.key) mem)
      simp [other, eq_comm]
    · rw [known]
      refine or_iff_left fun is => same ?_
      cases is
      rfl

theorem addPair (h : b.Tabulated keys) (verb : Verb) (subjectKind objectKind : Id .kind)
    (fresh : (id, subject, object) ∉ keys) :
    Tabulated (addPair id verb subjectKind objectKind subject object b)
      (keys ++ [(id, subject, object)]) :=
  (h.insert _ _ fresh).quiet (quiet_demandPair _ verb subjectKind objectKind subject object _)

theorem addPairs (h : b.Tabulated keys) (verb : Verb) (subjectKind objectKind : Id .kind)
    (ps : List (Nat × Nat))
    (nodup : (keys ++ ps.map (Prod.mk id)).Nodup) :
    Tabulated (ps.foldl (fun b (subject, object) =>
      Blueprint.addPair id verb subjectKind objectKind subject object b) b)
      (keys ++ ps.map (Prod.mk id)) := by
  induction ps generalizing b keys with
  | nil => simpa using h
  | cons pair rest ih =>
    have shift : keys ++ (pair :: rest).map (Prod.mk id) =
        keys ++ [(id, pair)] ++ rest.map (Prod.mk id) := by simp
    have fresh : (id, pair) ∉ keys := fun mem =>
      (List.nodup_append.mp nodup).2.2 _ mem _ List.mem_cons_self rfl
    rw [shift] at nodup ⊢
    exact ih (h.addPair verb subjectKind objectKind fresh) nodup

end Tabulated

theorem nodup_pairs {xs ys : List Nat} (hx : xs.Nodup) (hy : ys.Nodup) : (pairs xs ys).Nodup := by
  refine List.nodup_flatMap.mpr ⟨fun x _ => hy.map (Prod.mk_right_injective x), ?_⟩
  refine hx.imp fun apart => ?_
  rintro ⟨x, y⟩ mem mem'
  obtain ⟨_, -, same⟩ := List.mem_map.mp mem
  obtain ⟨_, -, same'⟩ := List.mem_map.mp mem'
  exact apart ((congrArg Prod.fst same).trans (congrArg Prod.fst same').symm)

theorem nodup_candidates (b : Blueprint) (kind : Id .kind) : (b.candidates kind).Nodup :=
  List.nodup_range.filter _

/-- The laws of a verb are written down without further relations. -/
theorem quiet_laws (id : Id .verb) (verb : Verb) (subjectKind objectKind : Id .kind)
    (subjects objects both : List Nat) (ps : List (Nat × Nat)) (b : Blueprint) :
    b.Quiet (subjects.foldl (addBounds id verb subjectKind objects)
      (if verb.antiSymmetric then
        ps.foldl (addOneWay id) (both.foldl (addLoop id verb subjectKind objectKind) b)
      else both.foldl (addLoop id verb subjectKind objectKind) b)) := by
  have loops := Quiet.foldl (quiet_addLoop id verb subjectKind objectKind) both b
  refine Quiet.trans ?_ (.foldl (quiet_addBounds id verb subjectKind objects) subjects _)
  split_ifs
  · exact loops.trans (.foldl (quiet_addOneWay id) ps _)
  · exact loops

/-- A verb that has not been dealt with adds keys of its own. -/
theorem Tabulated.addVerb (h : b.Tabulated keys) (fresh : ∀ key ∈ keys, key.1 ≠ id) :
    ∃ new, (∀ key ∈ new, key.1 = id) ∧ (addVerb b id).Tabulated (keys ++ new) := by
  unfold Blueprint.addVerb
  dsimp only
  split
  case h_2 => exact ⟨[], by simp, by simpa using h⟩
  case h_1 subjectKind objectKind _ _ =>
    have own : ((pairs (b.candidates subjectKind) (b.candidates objectKind)).map
        (Prod.mk id)).Nodup :=
      (nodup_pairs (nodup_candidates b _) (nodup_candidates b _)).map (Prod.mk_right_injective id)
    have apart : keys.Disjoint ((pairs (b.candidates subjectKind)
        (b.candidates objectKind)).map (Prod.mk id)) := by
      intro key mem mem'
      obtain ⟨pair, -, rfl⟩ := List.mem_map.mp mem'
      exact fresh _ mem rfl
    have paired := h.addPairs (b.world.verb id) subjectKind objectKind _ (h.nodup.append own apart)
    refine ⟨_, ?_, paired.quiet ?_⟩
    · intro key mem
      obtain ⟨pair, -, rfl⟩ := List.mem_map.mp mem
      rfl
    · exact quiet_laws id (b.world.verb id) subjectKind objectKind _ _ _ _ _

theorem Tabulated.addVerbs (h : b.Tabulated keys) (ids : List (Id .verb)) (nodup : ids.Nodup)
    (fresh : ∀ key ∈ keys, key.1 ∉ ids) :
    ∃ keys', (ids.foldl Blueprint.addVerb b).Tabulated keys' := by
  induction ids generalizing b keys with
  | nil => exact ⟨keys, h⟩
  | cons id rest ih =>
    obtain ⟨other, nodup⟩ := List.nodup_cons.mp nodup
    obtain ⟨new, own, added⟩ := h.addVerb fun key mem same =>
      fresh key mem (same ▸ List.mem_cons_self)
    refine ih added nodup fun key mem again => ?_
    rcases List.mem_append.mp mem with mem | mem
    · exact fresh key mem (List.mem_cons_of_mem id again)
    · exact other (own key mem ▸ again)

theorem quiet_tieVerb (b : Blueprint) (id : Id .verb) : b.Quiet (tieVerb b id) := by
  refine .foldl (fun b relation => ?_) _ b
  unfold tieRelation
  exact ((Quiet.foldl (quiet_addGeneral relation) _ b).trans
    (.foldl (quiet_addExcluded relation) _ _)).trans (quiet_addWays relation _ _)

theorem nodup_verbIds (world : World) : world.verbIds.Nodup :=
  List.nodup_range.map fun _ _ same => congrArg Id.index same

theorem Tabulated.addRelations (h : b.Tabulated []) : ∃ keys, b.addRelations.Tabulated keys := by
  obtain ⟨keys, added⟩ := h.addVerbs b.world.verbIds (nodup_verbIds b.world) (by simp)
  exact ⟨keys, added.quiet (.foldl quiet_tieVerb _ _)⟩

/-- Whether no relation has been recorded. -/
def Unrecorded (b : Blueprint) : Prop := b.Tabulated []

/-- No work on beings records any. -/
theorem isInvariant_unrecorded : IsInvariant Unrecorded where
  keeps kept h := h.keeps kept
  withBeing {b} kind modifiers container depth h := by
    unfold withBeing
    cases declaredKinds b.world [kind] modifiers <;> exact h.of_eq rfl rfl

theorem tabulated_ofRequest (world : World) (request : Request) :
    ∃ keys, (ofRequest world request).Tabulated keys := by
  have start : (ofWorld world).Unrecorded :=
    ⟨rfl, List.nodup_nil, fun r => by simp [ofWorld, relation?]⟩
  exact Tabulated.addRelations (isInvariant_unrecorded.beingsOf world request start
    (fun _ h => h.of_eq rfl rfl) fun _ h => h.of_eq rfl rfl)

end Blueprint

end Worldsmith
