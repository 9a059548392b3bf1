import Worldsmith.Model.Description
import Worldsmith.Proofs.Model.Presence
import Mathlib.Data.Finset.Card
import Mathlib.Data.Finset.Prod

/-!
# Filling templates ends

A template may name a part of a being or what the being is within, whose templates may name the
being in turn. Everything that comes upon a template asks the path first, and the path is what is
being filled: each template that is filled within another has one pair of a being and a caption
less to come upon. Between two templates there is no recursion at all, so the number of such pairs
bounds how deep templates are nested.

Templates that name each other are filled here in a way that fails where one is nested too deep,
and where one is come upon that is being filled already. It never fails.

## Main definitions

* `Model.watch` — filling templates, with an eye on what is being filled.
* `Model.FillsAs` — what is watched fills whatever the path leaves open as the other does.
* `Model.unfilled` — what a path leaves open.

## Main statements

* `Model.fillsAs_watch` — watching changes nothing where there is fuel for all that is left open.
* `Model.rendering_ends` — all texts of a model end, and no template is filled within itself.
-/

namespace Worldsmith

namespace Model

/-- Fill a template, and fail where it is being filled already or where more than `fuel` templates
are nested. -/
def watch (m : Model) : (fuel : ℕ) → (filling : Path) → Render Option
  | 0, _ => fun _ _ _ _ => none
  | fuel + 1, filling => fun i template caption path =>
    if (i, caption) ∈ filling then none
    else m.fillTemplate (m.watch fuel ((i, caption) :: filling)) i template caption path

section Evaluation

variable {α β : Type}

theorem bind_eq_some_bind {x : Option α} {a : Plainly α} {f : α → Option β} {g : α → Plainly β}
    (hx : x = some a) (hf : f a = some (g a)) : (x >>= f) = some (a >>= g) := by
  rw [hx]
  exact hf

theorem mapM_eq_some_mapM {f : α → Option β} {g : α → Plainly β} {l : List α}
    (h : ∀ a ∈ l, f a = some (g a)) : l.mapM f = some (l.mapM g) := by
  induction l with
  | nil => rfl
  | cons a l ih =>
    rw [List.mapM_cons, List.mapM_cons]
    refine bind_eq_some_bind (h a (List.mem_cons_self ..)) ?_
    exact bind_eq_some_bind (ih fun b hb => h b (List.mem_cons_of_mem _ hb)) rfl

end Evaluation

variable {m : Model} {path : Path} {i : ℕ} {caption : Caption}

/-! ### Between two templates -/

/-- Whether a way of filling templates that may fail does what another does with all that a path
does not keep from being filled. -/
def FillsAs (m : Model) (path : Path) (watched : Render Option) (plain : Render Plainly) : Prop :=
  ∀ i caption template, m.template? i caption = some template → (i, caption) ∉ path →
    watched i template caption path = some (plain i template caption path)

namespace FillsAs

variable {watched : Render Option} {plain : Render Plainly}

theorem nameBy (h : m.FillsAs path watched plain) (i : ℕ) :
    m.nameBy watched path i = some (m.nameBy plain path i) := by
  unfold Model.nameBy
  split
  · rfl
  split
  · rfl
  next fresh =>
  split
  · next template ht => exact h i .name template ht (by simpa using fresh)
  · rfl

theorem propertiesBy (h : m.FillsAs path watched plain) (i : ℕ) (shown : Shown) :
    m.propertiesBy watched path i shown = some (m.propertiesBy plain path i shown) := by
  refine bind_eq_some_bind (mapM_eq_some_mapM fun part _ => ?_) rfl
  exact bind_eq_some_bind (h.nameBy part.2) rfl

theorem descriptionBy (h : m.FillsAs path watched plain) (i : ℕ) :
    m.descriptionBy watched path i = some (m.descriptionBy plain path i) := by
  unfold Model.descriptionBy
  split
  · rfl
  next fresh =>
  split
  · next template ht => exact h i .description template ht (by simpa using fresh)
  · refine bind_eq_some_bind (h.nameBy i) ?_
    exact bind_eq_some_bind (h.propertiesBy i _) rfl

theorem fillSlot (h : m.FillsAs path watched plain) (i : ℕ) (slot : String) (shown : Shown) :
    m.fillSlot watched path i slot shown = some (m.fillSlot plain path i slot shown) := by
  unfold Model.fillSlot
  split
  · rfl
  split
  · rfl
  split
  · exact bind_eq_some_bind (h.propertiesBy i shown) rfl
  split
  · split
    · exact bind_eq_some_bind (h.nameBy _) rfl
    · rfl
  split
  · rfl
  split
  · exact bind_eq_some_bind (h.descriptionBy _) rfl
  · rfl

theorem fillSlots (h : m.FillsAs path watched plain) (i : ℕ) (shown : Shown)
    (tokens : List Token) :
    m.fillSlots watched path i shown tokens = some (m.fillSlots plain path i shown tokens) := by
  induction tokens generalizing shown with
  | nil => rfl
  | cons token tokens ih =>
    unfold Model.fillSlots
    split
    · exact bind_eq_some_bind (h.fillSlot i _ shown) (bind_eq_some_bind (ih _) rfl)
    · exact bind_eq_some_bind (ih shown) rfl

theorem fillTemplate (h : m.FillsAs ((i, caption) :: path) watched plain) (template : Template) :
    m.fillTemplate watched i template caption path =
      some (m.fillTemplate plain i template caption path) :=
  bind_eq_some_bind (h.fillSlots i _ _) rfl

theorem labelsBy (h : m.FillsAs [] watched plain) :
    m.labelsBy watched = some (m.labelsBy plain) :=
  bind_eq_some_bind (mapM_eq_some_mapM fun i _ => h.nameBy i) rfl

theorem textBy (h : m.FillsAs [] watched plain) :
    m.textBy watched = some (m.textBy plain) := by
  refine bind_eq_some_bind h.labelsBy ?_
  exact bind_eq_some_bind (mapM_eq_some_mapM fun i _ => h.descriptionBy i) rfl

end FillsAs

/-! ### From template to template -/

/-- The templates that a path does not keep from being filled: one of each caption for each being
that is not on it. -/
def unfilled (m : Model) (path : Path) : Finset (ℕ × Caption) :=
  (Finset.range m.size ×ˢ {.name, .description}) \ path.toFinset

theorem card_unfilled_nil (m : Model) : (m.unfilled []).card = 2 * m.size := by
  rw [unfilled, List.toFinset_nil, Finset.sdiff_empty, Finset.card_product, Finset.card_range,
    Finset.card_pair (by decide), Nat.mul_comm]

theorem kinds_eq_nil (none : (m.being i).kinds = []) : m.kinds i = [] := by
  rw [kinds, none]
  cases m.world.kinds.size <;> rfl

/-- Only beings that there are have templates. -/
theorem lt_size_of_template? {template : Template} (h : m.template? i caption = some template) :
    i < m.size := by
  cases hk : (m.being i).kinds with
  | nil => simp [template?, specificKinds, World.mostSpecific, kinds_eq_nil hk] at h
  | cons kind kinds => exact lt_size_of_mem_kinds (hk ▸ List.mem_cons_self ..)

theorem mem_unfilled {template : Template} (h : m.template? i caption = some template)
    (fresh : (i, caption) ∉ path) : (i, caption) ∈ m.unfilled path := by
  have hi := lt_size_of_template? h
  cases caption <;> simp [unfilled, hi, fresh]

theorem card_unfilled_lt (mem : (i, caption) ∈ m.unfilled path) :
    (m.unfilled ((i, caption) :: path)).card < (m.unfilled path).card := by
  have erased : m.unfilled ((i, caption) :: path) = (m.unfilled path).erase (i, caption) := by
    simp only [unfilled, List.toFinset_cons, Finset.sdiff_insert]
  rw [erased]
  exact Finset.card_erase_lt_of_mem mem

/-- Where there is fuel for all that a path leaves open, whatever is watched does not fail, and
fills templates as they are filled without. The path that is asked is what is being filled. -/
theorem fillsAs_watch (m : Model) (path : Path) {fuel fuel' : ℕ}
    (enough : (m.unfilled path).card ≤ fuel) (enough' : (m.unfilled path).card ≤ fuel') :
    m.FillsAs path (m.watch fuel path) (m.render fuel') := by
  induction fuel generalizing path fuel' with
  | zero =>
    intro i caption template ht fresh
    have less := card_unfilled_lt (mem_unfilled ht fresh)
    omega
  | succ fuel ih =>
    intro i caption template ht fresh
    have less := card_unfilled_lt (mem_unfilled ht fresh)
    cases fuel' with
    | zero => omega
    | succ fuel' =>
      have within : m.FillsAs ((i, caption) :: path) (m.watch fuel ((i, caption) :: path))
          (m.render fuel') := ih _ (by omega) (by omega)
      rw [render, ← within.fillTemplate template]
      exact if_neg fresh

/-- Names, descriptions, labels and the text of a model end: templates that name each other to any
depth are nested at most `maxNesting` deep, and however much deeper they might be, the same
template of the same being is never come upon while it is being filled. -/
theorem rendering_ends (m : Model) (extra : ℕ) :
    (∀ i, m.nameBy (m.watch (m.maxNesting + extra) []) [] i = some (m.name i)) ∧
    (∀ i, m.descriptionBy (m.watch (m.maxNesting + extra) []) [] i = some (m.description i)) ∧
    m.labelsBy (m.watch (m.maxNesting + extra) []) = some m.labels ∧
    m.textBy (m.watch (m.maxNesting + extra) []) = some m.text := by
  have enough : (m.unfilled []).card ≤ m.maxNesting := by
    rw [card_unfilled_nil, maxNesting]
    omega
  have same := m.fillsAs_watch [] (Nat.le_add_right_of_le (k := extra) enough) enough
  exact ⟨same.nameBy, same.descriptionBy, same.labelsBy, same.textBy⟩

end Model

end Worldsmith
