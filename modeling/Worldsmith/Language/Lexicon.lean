import Worldsmith.Language.Token

/-!
# Lexicon

Names and what they stand for, kept in a tree over folded tokens. Following a list of tokens down
the tree meets every stored name that begins the list, so the longest is found in one walk.
-/

namespace Worldsmith

/-- Which form of a word a stored name is. -/
inductive WordForm where
  | singular
  | plural
  /-- One form for singular and plural. -/
  | either
  | gerund
  deriving DecidableEq, Repr

/-- What a name is bound to. -/
structure Entry (α : Type) where
  value : α
  form : WordForm
  deriving DecidableEq, Repr

/-- A tree of names. A node may hold the entry of the name that leads to it. -/
inductive Lexicon (α : Type) where
  | node (entry : Option (Entry α)) (branches : List (String × Lexicon α))

namespace Lexicon

variable {α : Type}

def empty : Lexicon α := .node none []

instance : Inhabited (Lexicon α) := ⟨empty⟩

def entry : Lexicon α → Option (Entry α)
  | .node entry _ => entry

def branches : Lexicon α → List (String × Lexicon α)
  | .node _ branches => branches

/-- The subtree under a folded token. -/
def branch? (lexicon : Lexicon α) (key : String) : Option (Lexicon α) :=
  lexicon.branches.lookup key

/-- Put a subtree under a folded token. -/
def putBranch (key : String) (branch : Lexicon α) :
    List (String × Lexicon α) → List (String × Lexicon α)
  | [] => [(key, branch)]
  | (k, old) :: rest =>
    if k == key then (k, branch) :: rest else (k, old) :: putBranch key branch rest

/-- Bind a name to an entry, or to nothing, whatever it was bound to before. -/
def store (entry : Option (Entry α)) : Name → Lexicon α → Lexicon α
  | [], lexicon => .node entry lexicon.branches
  | token :: rest, lexicon =>
    let branch := (lexicon.branch? token.key).getD empty
    .node lexicon.entry (putBranch token.key (store entry rest branch) lexicon.branches)

/-- The entry of a whole name. -/
def get? : Name → Lexicon α → Option (Entry α)
  | [], lexicon => lexicon.entry
  | token :: rest, lexicon =>
    match lexicon.branch? token.key with
    | none => none
    | some branch => get? rest branch

/-- The entry of the longest stored name that begins `tokens`, with the name's length. The walk
has already gone past `walked` tokens. -/
def longestFrom (walked : Nat) : List Token → Lexicon α → Option (Entry α × Nat)
  | [], _ => none
  | token :: rest, lexicon =>
    match lexicon.branch? token.key with
    | none => none
    | some branch =>
      match longestFrom (walked + 1) rest branch with
      | some found => some found
      | none => branch.entry.map (·, walked + 1)

/-- The entry of the longest name that begins `tokens`, with the name's length. -/
def longest? (lexicon : Lexicon α) (tokens : List Token) : Option (Entry α × Nat) :=
  longestFrom 0 tokens lexicon

/-- A name that is found is longer than what was walked before, and within the tokens. -/
theorem lt_of_longestFrom {walked : Nat} {tokens : List Token} {lexicon : Lexicon α}
    {found : Entry α} {length : Nat}
    (h : longestFrom walked tokens lexicon = some (found, length)) :
    walked < length ∧ length ≤ walked + tokens.length := by
  induction tokens generalizing walked lexicon with
  | nil => simp [longestFrom] at h
  | cons token rest ih =>
    rw [longestFrom] at h
    split at h
    · simp at h
    · split at h
      · rename_i further
        simp only [Option.some.injEq] at h
        have := ih (h ▸ further)
        simp only [List.length_cons]
        omega
      · simp only [Option.map_eq_some_iff, Prod.mk.injEq] at h
        obtain ⟨_, _, _, rfl⟩ := h
        simp only [List.length_cons]
        omega

/-- A name that is found is not empty. -/
theorem pos_of_longest? {lexicon : Lexicon α} {tokens : List Token} {found : Entry α}
    {length : Nat} (h : lexicon.longest? tokens = some (found, length)) : 0 < length :=
  (lt_of_longestFrom h).1

/-- The longest name from position `start` on that ends at or before `stop`, with the position
after it. -/
def lookup (lexicon : Lexicon α) (tokens : List Token) (start stop : Nat) :
    Option (Entry α × Nat) :=
  (lexicon.longest? ((tokens.take stop).drop start)).map fun (entry, length) =>
    (entry, start + length)

end Lexicon

end Worldsmith
