import Mathlib.Data.List.Forall2
import Mathlib.Data.List.Induction
import Worldsmith.Proofs.Language.Lexicon

/-!
# The longest name

A lexicon is a tree in which names that begin alike share branches, and a branch stays when nothing
is bound below it any more. What can be asked of it is told by the updates that made it: a name is
bound to what was stored last under a name like it, since all was cleared last. And from a cursor
on, the longest name is found that is bound to something.

## Main definitions

* `Name.Alike` — two names read the same, whatever the case of letters.
* `Lexicon.Update` — storing something under a name, or clearing everything.
* `Lexicon.LastStored` — what was stored last under a name.
* `Lexicon.seek` — look up a name at a cursor, which moves past it.
* `Lexicon.StoredAt` — a name that was stored last stands at a cursor.

## Main statements

* `Lexicon.get?_made` — a name is bound to what was stored last.
* `Lexicon.longest_match` — a lexicon finds the longest of the names stored last.
-/

namespace Worldsmith

/-! ## Names that read the same -/

/-- Whether two names read the same, token by token, whatever the case of letters. -/
def Name.Alike (a b : Name) : Prop := List.Forall₂ (fun s t => s.reads t.text = true) a b

theorem Token.reads_iff_key_eq {s t : Token} : s.reads t.text = true ↔ s.key = t.key := by
  simp [Token.reads, Token.key, String.ofList_inj]

theorem Name.alike_iff_keys_eq {a b : Name} : a.Alike b ↔ a.keys = b.keys := by
  simp only [Name.Alike, Token.reads_iff_key_eq, Name.keys, ← List.forall₂_eq_eq_eq,
    List.forall₂_map_left_iff, List.forall₂_map_right_iff]

namespace Lexicon

variable {α : Type}

/-! ## What was stored last -/

/-- One change of a lexicon. -/
inductive Update (α : Type) where
  /-- Bind a name to an entry, or to nothing. -/
  | store (name : Name) (entry : Option (Entry α))
  | clear

def Update.perform (lexicon : Lexicon α) : Update α → Lexicon α
  | store name entry => lexicon.store entry name
  | clear => empty

/-- The lexicon that updates make of an empty one. -/
def made (updates : List (Update α)) : Lexicon α := updates.foldl Update.perform empty

/-- Whether `entry` is what was stored last under a name like `name`, with no clearing since. -/
def LastStored (updates : List (Update α)) (name : Name) (entry : Option (Entry α)) : Prop :=
  ∃ before stored after, updates = before ++ .store stored entry :: after ∧ stored.Alike name ∧
    ∀ update ∈ after, ∃ other entry', update = .store other entry' ∧ ¬ other.Alike name

section LastStored

variable {updates : List (Update α)} {name : Name} {entry : Option (Entry α)}

theorem made_concat (updates : List (Update α)) (update : Update α) :
    made (updates ++ [update]) = update.perform (made updates) := by
  rw [made, List.foldl_append]
  rfl

theorem not_lastStored_nil : ¬ LastStored ([] : List (Update α)) name entry := by
  rintro ⟨before, stored, after, split, -⟩
  simp at split

/-- One more update stores something under the name, or leaves what was stored as it was. -/
theorem lastStored_concat_iff {update : Update α} :
    LastStored (updates ++ [update]) name entry ↔
      (∃ stored, update = .store stored entry ∧ stored.Alike name) ∨
      (∃ other entry', update = .store other entry' ∧ ¬ other.Alike name) ∧
        LastStored updates name entry := by
  constructor
  · rintro ⟨before, stored, after, split, alike, others⟩
    rcases List.eq_nil_or_concat after with rfl | ⟨after, last, rfl⟩
    · left
      obtain ⟨-, same⟩ := List.append_inj' split rfl
      exact ⟨stored, List.singleton_inj.mp same, alike⟩
    · right
      rw [List.concat_eq_append] at split others
      rw [← List.cons_append, ← List.append_assoc] at split
      obtain ⟨rfl, same⟩ := List.append_inj' split rfl
      obtain rfl := List.singleton_inj.mp same
      refine ⟨others update (by simp), before, stored, after, rfl, alike, fun other mem => ?_⟩
      exact others other (List.mem_append_left _ mem)
  · rintro (⟨stored, rfl, alike⟩ | ⟨apart, before, stored, after, rfl, alike, others⟩)
    · exact ⟨updates, stored, [], rfl, alike, by simp⟩
    · refine ⟨before, stored, after ++ [update], by simp, alike, ?_⟩
      exact List.forall_mem_append.mpr ⟨others, List.forall_mem_singleton.mpr apart⟩

/-- A name is bound to what was stored last under a name like it. -/
theorem get?_made (updates : List (Update α)) (name : Name) (found : Entry α) :
    (made updates).get? name = some found ↔ LastStored updates name (some found) := by
  induction updates using List.reverseRecOn with
  | nil => simp [made, get?_empty, not_lastStored_nil]
  | append_singleton updates update ih =>
    rw [made_concat, lastStored_concat_iff, ← ih]
    cases update with
    | clear => simp [Update.perform, get?_empty]
    | store stored entry =>
      rw [Update.perform, get?_store]
      by_cases alike : stored.Alike name
      · simp [Name.alike_iff_keys_eq.mp alike, alike]
      · have apart : name.keys ≠ stored.keys := fun same =>
          alike (Name.alike_iff_keys_eq.mpr same.symm)
        simp [apart, alike]

end LastStored

/-! ## Looking names up at a cursor -/

/-- Look up the longest name from the cursor on that ends at or before `stop`. The cursor moves past
what is found. -/
def seek (lexicon : Lexicon α) (tokens : List Token) (cursor stop : ℕ) : Option (Entry α) × ℕ :=
  match lexicon.lookup tokens cursor stop with
  | some (found, later) => (some found, later)
  | none => (none, cursor)

/-- Whether the tokens from the cursor up to `later`, at least one and none past `stop`, read as a
name does that was stored last with an entry. -/
structure StoredAt (updates : List (Update α)) (tokens : List Token) (cursor stop : ℕ)
    (found : Entry α) (later : ℕ) : Prop where
  ahead : cursor < later
  le_stop : later ≤ stop
  le_length : later ≤ tokens.length
  stored : LastStored updates ((tokens.take later).drop cursor) (some found)

section Seek

variable {updates : List (Update α)} {lexicon : Lexicon α} {tokens : List Token}
  {cursor stop later : ℕ} {found : Entry α}

theorem seek_eq_some_iff : lexicon.seek tokens cursor stop = (some found, later) ↔
    ∃ n, later = cursor + n ∧ lexicon.Begins ((tokens.take stop).drop cursor) found n := by
  simp only [seek, lookup, ← longest?_eq_some_iff]
  cases lexicon.longest? ((tokens.take stop).drop cursor) with
  | none => simp
  | some longest =>
    simp only [Option.map_some, Prod.mk.injEq, Option.some.injEq]
    grind

theorem seek_eq_none_iff : lexicon.seek tokens cursor stop = (none, cursor) ↔
    lexicon.BeginsNone ((tokens.take stop).drop cursor) := by
  simp only [seek, lookup, ← longest?_eq_none_iff]
  cases lexicon.longest? ((tokens.take stop).drop cursor) <;> simp

/-- A stored name stands at the cursor where the tokens in front of `stop` begin with it. -/
theorem storedAt_iff : StoredAt updates tokens cursor stop found later ↔
    ∃ n, later = cursor + n ∧ 0 < n ∧ n ≤ ((tokens.take stop).drop cursor).length ∧
      (made updates).get? (((tokens.take stop).drop cursor).take n) = some found := by
  have cut (n : ℕ) (le : cursor + n ≤ stop) :
      ((tokens.take stop).drop cursor).take n = (tokens.take (cursor + n)).drop cursor := by
    rw [List.take_drop, List.take_take, Nat.min_eq_left le]
  simp only [List.length_drop, List.length_take]
  constructor
  · rintro ⟨ahead, le_stop, le_length, stored⟩
    obtain ⟨n, rfl⟩ := Nat.exists_eq_add_of_le (Nat.le_of_lt ahead)
    refine ⟨n, rfl, by omega, by omega, ?_⟩
    rw [cut n le_stop]
    exact (get?_made ..).mpr stored
  · rintro ⟨n, rfl, pos, le, bound⟩
    have le_stop : cursor + n ≤ stop := by omega
    rw [cut n le_stop] at bound
    exact ⟨by omega, le_stop, by omega, (get?_made ..).mp bound⟩

/-- What is found at a cursor is the longest stored name that stands there. -/
theorem seek_made_eq_some_iff : (made updates).seek tokens cursor stop = (some found, later) ↔
    StoredAt updates tokens cursor stop found later ∧
      ∀ other further, StoredAt updates tokens cursor stop other further → further ≤ later := by
  rw [seek_eq_some_iff]
  constructor
  · rintro ⟨n, rfl, begins⟩
    refine ⟨storedAt_iff.mpr ⟨n, rfl, begins.pos, begins.le, begins.bound⟩, ?_⟩
    intro other further stored
    obtain ⟨m, rfl, -, le, bound⟩ := storedAt_iff.mp stored
    by_contra longer
    simp [begins.longest m (by omega) le] at bound
  · rintro ⟨stored, longest⟩
    obtain ⟨n, rfl, pos, le, bound⟩ := storedAt_iff.mp stored
    refine ⟨n, rfl, pos, le, bound, fun m longer le' => ?_⟩
    rw [Option.eq_none_iff_forall_ne_some]
    intro other bound'
    have := longest other (cursor + m) (storedAt_iff.mpr ⟨m, rfl, by omega, le', bound'⟩)
    omega

/-- Nothing is found at a cursor where no stored name stands. -/
theorem seek_made_eq_none_iff : (made updates).seek tokens cursor stop = (none, cursor) ↔
    ∀ found later, ¬ StoredAt updates tokens cursor stop found later := by
  rw [seek_eq_none_iff]
  constructor
  · intro nothing found later stored
    obtain ⟨n, rfl, pos, le, bound⟩ := storedAt_iff.mp stored
    simp [nothing n pos le] at bound
  · intro nothing n pos le
    rw [Option.eq_none_iff_forall_ne_some]
    exact fun found bound => nothing found _ (storedAt_iff.mpr ⟨n, rfl, pos, le, bound⟩)

/-- A lexicon finds the longest match. Whatever was stored and cleared, a name is bound to what was
stored last, and nothing else is; and from a cursor on, the longest stored name that stands there in
front of `stop` is found and the cursor moves past it, or there is none and the cursor stays. -/
theorem longest_match (updates : List (Update α)) :
    (∀ name found, (made updates).get? name = some found ↔
      LastStored updates name (some found)) ∧
    ∀ tokens cursor stop,
      (∀ found later, (made updates).seek tokens cursor stop = (some found, later) ↔
        StoredAt updates tokens cursor stop found later ∧
          ∀ other further, StoredAt updates tokens cursor stop other further → further ≤ later) ∧
      ((made updates).seek tokens cursor stop = (none, cursor) ↔
        ∀ found later, ¬ StoredAt updates tokens cursor stop found later) := by
  refine ⟨get?_made updates, fun tokens cursor stop => ⟨fun found later => ?_, ?_⟩⟩
  · exact seek_made_eq_some_iff
  · exact seek_made_eq_none_iff

example :
    let updates := [.store (.ofText "black") (some ⟨0, .singular⟩),
      .store (.ofText "black cats") (some ⟨1, .plural⟩)]
    (made updates).seek (Name.ofText "big Black cats sleep") 1 4 = (some ⟨1, .plural⟩, 3) := by
  decide +kernel

end Seek

end Lexicon

end Worldsmith
