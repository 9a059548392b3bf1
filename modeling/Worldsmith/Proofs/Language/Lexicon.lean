import Mathlib.Tactic.Common
import Worldsmith.Language.Lexicon

/-!
# What names are bound to

Binding a name changes what no other name is bound to. One walk down the tree finds what a search
through all lengths would: the longest name that begins some tokens. So whatever holds of all that
names are bound to goes on holding if it holds of what is bound.

## Main definitions

* `Lexicon.Binds` — all that names are bound to is so.
* `Lexicon.Begins` — the longest name that begins some tokens, by trying all lengths.

## Main statements

* `Lexicon.get?_store` — what a name is bound to after another has been bound.
* `Lexicon.longest?_eq_some_iff` — the walk finds the longest name that begins the tokens.
-/

namespace Worldsmith

/-- The folded tokens of a name, which decide what it is bound to. -/
def Name.keys (name : Name) : List String := name.map Token.key

@[simp] theorem Name.keys_nil : Name.keys [] = [] := rfl

@[simp] theorem Name.keys_cons (token : Token) (rest : Name) :
    Name.keys (token :: rest) = token.key :: Name.keys rest := rfl

theorem Name.same_comm (a b : Name) : a.same b = b.same a := by
  fun_induction Name.same a b with
  | case1 => rfl
  | case2 a as b bs ih =>
    rw [Name.same, ih, Token.same, Token.same, BEq.comm (a := a.kind),
      BEq.comm (a := Text.fold a.text)]
  | case3 a b => cases a <;> cases b <;> simp_all [Name.same]

theorem Name.keys_eq_of_same {a b : Name} (same : a.same b = true) : a.keys = b.keys := by
  fun_induction Name.same a b with
  | case1 => rfl
  | case2 a as b bs ih =>
    obtain ⟨first, rest⟩ := Bool.and_eq_true_iff.mp same
    have key : a.key = b.key := by
      simp only [Token.same, Bool.and_eq_true, beq_iff_eq] at first
      simp [Token.key, first.2]
    rw [keys_cons, keys_cons, key, ih rest]
  | case3 => cases same

namespace Lexicon

variable {α : Type} {lexicon : Lexicon α} {name : Name} {entry : Option (Entry α)}
  {found : Entry α} {holds : α → Prop}

/-- Whether all that names are bound to is so. -/
def Binds (lexicon : Lexicon α) (holds : α → Prop) : Prop :=
  ∀ name entry, lexicon.get? name = some entry → holds entry.value

theorem lookup_putBranch (key other : String) (branch : Lexicon α)
    (branches : List (String × Lexicon α)) : (putBranch key branch branches).lookup other =
      if other = key then some branch else branches.lookup other := by
  induction branches with
  | nil =>
    by_cases same : other = key
    · simp [putBranch, same]
    · simp [putBranch, List.lookup_cons, same, beq_eq_false_iff_ne.mpr same]
  | cons first rest ih =>
    obtain ⟨k, old⟩ := first
    rw [putBranch]
    by_cases here : k = key
    · subst here
      by_cases same : other = k
      · simp [same]
      · simp [List.lookup_cons, same, beq_eq_false_iff_ne.mpr same]
    · by_cases same : other = k
      · simp [same, here]
      · simp [List.lookup_cons, here, beq_eq_false_iff_ne.mpr same, ih]

theorem get?_empty (name : Name) : (empty : Lexicon α).get? name = none := by
  cases name <;> rfl

/-- Binding a name changes what it is bound to, up to case, and what no other name is. -/
theorem get?_store (entry : Option (Entry α)) (name other : Name) (lexicon : Lexicon α) :
    (lexicon.store entry name).get? other =
      if other.keys = name.keys then entry else lexicon.get? other := by
  induction name generalizing lexicon other with
  | nil => cases other <;> simp [store, get?, Lexicon.entry, branch?, branches]
  | cons token rest ih =>
    cases other with
    | nil => simp [store, get?, Lexicon.entry]
    | cons token' rest' =>
      obtain ⟨here, branches⟩ := lexicon
      simp only [store, get?, branch?, Lexicon.branches, lookup_putBranch, Name.keys_cons,
        List.cons.injEq]
      by_cases same : token'.key = token.key
      · simp only [same, if_true, true_and, ih]
        cases branches.lookup token.key <;> simp [get?_empty]
      · simp [same]

theorem get?_eq_of_keys {other : Name} (same : other.keys = name.keys) :
    lexicon.get? other = lexicon.get? name := by
  induction name generalizing lexicon other with
  | nil =>
    obtain rfl := List.map_eq_nil_iff.mp same
    rfl
  | cons token rest ih =>
    cases other with
    | nil => cases same
    | cons token' rest' =>
      obtain ⟨first, others⟩ := List.cons.inj same
      rw [get?, get?, first]
      split
      · rfl
      · exact ih others

/-- Bind all forms of a name to one thing, the later ones last. -/
def bindAll (value : α) (forms : List (Name × WordForm)) (lexicon : Lexicon α) : Lexicon α :=
  forms.foldl (fun lexicon form => lexicon.store (some ⟨value, form.2⟩) form.1) lexicon

@[simp] theorem bindAll_nil (value : α) : lexicon.bindAll value [] = lexicon := rfl

@[simp] theorem bindAll_cons (value : α) (form : Name × WordForm)
    (rest : List (Name × WordForm)) : lexicon.bindAll value (form :: rest) =
      (lexicon.store (some ⟨value, form.2⟩) form.1).bindAll value rest := rfl

theorem get?_bindAll_of_apart {value : α} {forms : List (Name × WordForm)}
    (apart : ∀ form ∈ forms, name.keys ≠ form.1.keys) :
    (lexicon.bindAll value forms).get? name = lexicon.get? name := by
  induction forms generalizing lexicon with
  | nil => rfl
  | cons first rest ih =>
    obtain ⟨here, others⟩ := List.forall_mem_cons.mp apart
    rw [bindAll_cons, ih others, get?_store, if_neg here]

/-- A name that is bound several times keeps the form that it gets last. -/
theorem get?_bindAll_of_mem {value : α} {forms : List (Name × WordForm)}
    (among : ∃ form ∈ forms, form.1.keys = name.keys) : ∃ form ∈ forms,
      form.1.keys = name.keys ∧ (lexicon.bindAll value forms).get? name = some ⟨value, form.2⟩ := by
  induction forms generalizing lexicon with
  | nil => simp at among
  | cons first rest ih =>
    rw [bindAll_cons]
    by_cases later : ∃ form ∈ rest, form.1.keys = name.keys
    · obtain ⟨form, mem, same, bound⟩ := @ih (lexicon.store (some ⟨value, first.2⟩) first.1) later
      exact ⟨form, List.mem_cons_of_mem _ mem, same, bound⟩
    · obtain ⟨form, mem, same⟩ := among
      obtain rfl | mem := List.mem_cons.mp mem
      · refine ⟨form, List.mem_cons_self, same, (get?_bindAll_of_apart ?_).trans ?_⟩
        · exact fun other mem same => later ⟨other, mem, same.symm⟩
        · rw [get?_store, if_pos same.symm]
      · exact absurd ⟨form, mem, same⟩ later

theorem binds_empty : (empty : Lexicon α).Binds holds := by
  intro name found known
  rw [get?_empty] at known
  cases known

theorem Binds.store (binds : lexicon.Binds holds)
    (new : ∀ found, entry = some found → holds found.value) (name : Name) :
    (lexicon.store entry name).Binds holds := by
  intro other found known
  rw [get?_store] at known
  split_ifs at known
  · exact new found known
  · exact binds other found known

/-! ## One walk for all lengths -/

/-- Whether the longest name that begins some tokens has `n` of them and is bound to `found`. -/
structure Begins (lexicon : Lexicon α) (tokens : List Token) (found : Entry α) (n : ℕ) : Prop where
  pos : 0 < n
  le : n ≤ tokens.length
  bound : lexicon.get? (tokens.take n) = some found
  longest : ∀ m, n < m → m ≤ tokens.length → lexicon.get? (tokens.take m) = none

/-- Whether no name begins some tokens. -/
def BeginsNone (lexicon : Lexicon α) (tokens : List Token) : Prop :=
  ∀ n, 0 < n → n ≤ tokens.length → lexicon.get? (tokens.take n) = none

section Walk

variable {branch : Lexicon α} {rest : List Token} {token : Token} {n : ℕ}

theorem get?_take_of_branch? (known : lexicon.branch? token.key = some branch) (n : ℕ) :
    lexicon.get? ((token :: rest).take (n + 1)) = branch.get? (rest.take n) := by
  rw [List.take_succ_cons, get?, known]

theorem beginsNone_of_branch? (known : lexicon.branch? token.key = none) :
    lexicon.BeginsNone (token :: rest) := by
  intro n pos _
  obtain ⟨n, rfl⟩ := Nat.exists_eq_add_of_lt pos
  rw [Nat.zero_add, List.take_succ_cons, get?, known]

/-- A longer name goes on in the branch of its first token. -/
theorem Begins.cons (known : lexicon.branch? token.key = some branch)
    (begins : branch.Begins rest found n) : lexicon.Begins (token :: rest) found (n + 1) where
  pos := Nat.succ_pos n
  le := Nat.succ_le_succ begins.le
  bound := by rw [get?_take_of_branch? known, begins.bound]
  longest := by
    intro m longer within
    obtain ⟨m, rfl⟩ := Nat.exists_eq_add_of_lt (Nat.lt_of_le_of_lt (Nat.zero_le _) longer)
    rw [Nat.zero_add, get?_take_of_branch? known]
    exact begins.longest m (by omega) (by simpa using within)

/-- Where no longer name goes on, a name of one token is the longest. -/
theorem Begins.singleton (known : lexicon.branch? token.key = some branch)
    (nothing : branch.BeginsNone rest) (here : branch.entry = some found) :
    lexicon.Begins (token :: rest) found 1 where
  pos := Nat.one_pos
  le := by simp
  bound := by rw [get?_take_of_branch? known, List.take_zero, get?, here]
  longest := by
    intro m longer within
    obtain ⟨m, rfl⟩ := Nat.exists_eq_add_of_lt (Nat.lt_trans Nat.one_pos longer)
    rw [Nat.zero_add, get?_take_of_branch? known]
    exact nothing m (by omega) (by simpa using within)

theorem BeginsNone.cons (known : lexicon.branch? token.key = some branch)
    (nothing : branch.BeginsNone rest) (here : branch.entry = none) :
    lexicon.BeginsNone (token :: rest) := by
  intro m pos within
  obtain ⟨m, rfl⟩ := Nat.exists_eq_add_of_lt pos
  rw [Nat.zero_add, get?_take_of_branch? known]
  cases m with
  | zero => rw [List.take_zero, get?, here]
  | succ m => exact nothing (m + 1) (by omega) (by simpa using within)

/-- The walk that has gone past `walked` tokens finds the longest name that begins the others, or
there is none. -/
theorem longestFrom_spec (walked : ℕ) (tokens : List Token) (lexicon : Lexicon α) :
    (∃ found n, longestFrom walked tokens lexicon = some (found, walked + n) ∧
      lexicon.Begins tokens found n) ∨
    (longestFrom walked tokens lexicon = none ∧ lexicon.BeginsNone tokens) := by
  induction tokens generalizing walked lexicon with
  | nil =>
    right
    refine ⟨rfl, fun n pos within => ?_⟩
    simp only [List.length_nil] at within
    omega
  | cons token rest ih =>
    rw [longestFrom]
    cases known : lexicon.branch? token.key with
    | none => exact Or.inr ⟨rfl, beginsNone_of_branch? known⟩
    | some branch =>
      rcases ih (walked + 1) branch with ⟨found, n, further, begins⟩ | ⟨ended, nothing⟩
      · left
        refine ⟨found, n + 1, ?_, begins.cons known⟩
        simp only [further]
        rw [Nat.add_right_comm, Nat.add_assoc]
      · simp only [ended]
        cases here : branch.entry with
        | none => exact Or.inr ⟨rfl, nothing.cons known here⟩
        | some found => exact Or.inl ⟨found, 1, rfl, .singleton known nothing here⟩

end Walk

section Longest

variable {tokens : List Token} {found' : Entry α} {n n' stop : ℕ}

/-- Of the names that begin some tokens only one is the longest. -/
theorem Begins.unique (one : lexicon.Begins tokens found n)
    (other : lexicon.Begins tokens found' n') : found = found' ∧ n = n' := by
  have same : n = n' := by
    rcases Nat.lt_trichotomy n n' with shorter | same | longer
    · simpa [one.longest n' shorter other.le] using other.bound
    · exact same
    · simpa [other.longest n longer one.le] using one.bound
  subst same
  exact ⟨Option.some.inj (one.bound.symm.trans other.bound), rfl⟩

theorem Begins.not_beginsNone (begins : lexicon.Begins tokens found n) :
    ¬ lexicon.BeginsNone tokens := by
  intro nothing
  simpa [nothing n begins.pos begins.le] using begins.bound

theorem longest?_eq_some_iff :
    lexicon.longest? tokens = some (found, n) ↔ lexicon.Begins tokens found n := by
  rw [longest?]
  rcases longestFrom_spec 0 tokens lexicon with ⟨found', n', walk, begins⟩ | ⟨ended, nothing⟩
  · rw [walk, Nat.zero_add, Option.some.injEq, Prod.mk.injEq]
    constructor
    · rintro ⟨rfl, rfl⟩
      exact begins
    · exact begins.unique
  · rw [ended]
    exact iff_of_false (by simp) fun begins => begins.not_beginsNone nothing

theorem longest?_eq_none_iff : lexicon.longest? tokens = none ↔ lexicon.BeginsNone tokens := by
  rw [longest?]
  rcases longestFrom_spec 0 tokens lexicon with ⟨found, n, walk, begins⟩ | ⟨ended, nothing⟩
  · rw [walk]
    exact iff_of_false (by simp) begins.not_beginsNone
  · exact iff_of_true ended nothing

/-- The longest name that begins some tokens is the longest in any part of them that holds it. -/
theorem Begins.take (begins : lexicon.Begins tokens found n) (within : n ≤ stop) :
    lexicon.Begins (tokens.take stop) found n where
  pos := begins.pos
  le := by
    rw [List.length_take]
    exact Nat.le_min.mpr ⟨within, begins.le⟩
  bound := by rw [List.take_take, Nat.min_eq_left within, begins.bound]
  longest := by
    intro m longer le
    rw [List.length_take, Nat.le_min] at le
    rw [List.take_take, Nat.min_eq_left le.1]
    exact begins.longest m longer le.2

theorem BeginsNone.take (nothing : lexicon.BeginsNone tokens) (stop : ℕ) :
    lexicon.BeginsNone (tokens.take stop) := by
  intro n pos le
  rw [List.length_take, Nat.le_min] at le
  rw [List.take_take, Nat.min_eq_left le.1]
  exact nothing n pos le.2

end Longest

end Lexicon

end Worldsmith
