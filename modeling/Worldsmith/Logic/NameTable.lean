import Std.Data.HashMap

/-!
# Numbered names

A table that gives every name a number, counting from zero in the order in which the names came.
A name and its number determine each other.
-/

namespace Worldsmith

/-- Names and their numbers. -/
structure NameTable where
  names : Array String
  index : Std.HashMap String Nat
  index_eq_some_iff : ∀ (name : String) (i : Nat), index[name]? = some i ↔ names[i]? = some name

namespace NameTable

def empty : NameTable where
  names := #[]
  index := ∅
  index_eq_some_iff := by simp

instance : Inhabited NameTable := ⟨empty⟩

/-- The number of a name. -/
def find? (table : NameTable) (name : String) : Option Nat :=
  table.index[name]?

/-- Add a name that is not in the table. -/
def push (table : NameTable) (name : String) (h : table.index[name]? = none) : NameTable where
  names := table.names.push name
  index := table.index.insert name table.names.size
  index_eq_some_iff other i := by
    have known := table.index_eq_some_iff
    rw [Std.HashMap.getElem?_insert, Array.getElem?_push]
    by_cases same : name = other
    · subst same
      have fresh : table.names[i]? ≠ some name := by
        rw [Ne, ← known, h]
        simp
      by_cases hi : i = table.names.size
      · simp [hi]
      · simp [hi, fresh, eq_comm]
    · by_cases hi : i = table.names.size
      · subst hi
        simp [same, known]
      · simp [same, hi, known]

/-- The number of a name, which is given one if it has none. -/
def intern (table : NameTable) (name : String) : Nat × NameTable :=
  match h : table.index[name]? with
  | some i => (i, table)
  | none => (table.names.size, table.push name h)

def size (table : NameTable) : Nat := table.names.size

theorem find?_eq_some_iff {table : NameTable} {name : String} {i : Nat} :
    table.find? name = some i ↔ table.names[i]? = some name :=
  table.index_eq_some_iff name i

/-- The number that a name is given is the name's from then on. -/
theorem getElem?_intern_self (table : NameTable) (name : String) :
    (table.intern name).2.names[(table.intern name).1]? = some name := by
  unfold intern
  split
  case h_1 i h => exact (table.index_eq_some_iff name i).mp h
  case h_2 h => simp [push]

/-- Names keep their numbers. -/
theorem getElem?_intern_of_eq_some {table : NameTable} {i : Nat} {name : String} (other : String)
    (h : table.names[i]? = some name) : (table.intern other).2.names[i]? = some name := by
  unfold intern
  split
  · exact h
  · obtain ⟨lt, _⟩ := Array.getElem?_eq_some_iff.mp h
    simpa [push, Array.getElem?_push, Nat.ne_of_lt lt] using h

/-- A name that is known keeps its number, and nothing changes. -/
theorem intern_of_getElem? {table : NameTable} {name : String} {i : Nat}
    (h : table.names[i]? = some name) : table.intern name = (i, table) := by
  have known := (table.index_eq_some_iff name i).mpr h
  unfold intern
  split
  case h_1 j found =>
    obtain rfl := Option.some.inj (known.symm.trans found)
    rfl
  case h_2 absent => cases known.symm.trans absent

/-- A new name gets the next number and comes last. -/
theorem intern_of_notMem {table : NameTable} {name : String} (h : name ∉ table.names) :
    (table.intern name).1 = table.size ∧
      (table.intern name).2.names = table.names.push name := by
  unfold intern
  split
  case h_1 i known =>
    exact absurd (Array.mem_of_getElem? ((table.index_eq_some_iff name i).mp known)) h
  case h_2 => exact ⟨rfl, rfl⟩

end NameTable

end Worldsmith
