import Mathlib
import Worldsmith.Text.LowerCase
import Worldsmith.Text.Uppercase

/-!
# Small letters of the Latin alphabet

On texts of ASCII letters small letters are made one by one, and no letter depends on what is
beside it.

## Main definitions

* `Text.IsLatin` — a text consists of ASCII letters.
* `Text.IsSmall` — a text consists of small ASCII letters.
* `Text.IsCased` — a letter has the small and capital form that it should have.

## Main statements

* `Text.toList_lowerText` — the small form of a text of ASCII letters has the small form of each.
-/

namespace Worldsmith.Text

/-- Whether a text consists of ASCII letters. -/
def IsLatin (s : String) : Prop := ∀ c ∈ s.toList, c.isAlpha = true

/-- Whether a text consists of small ASCII letters. -/
def IsSmall (s : String) : Prop := ∀ c ∈ s.toList, c.isLower = true

instance (s : String) : Decidable (IsLatin s) :=
  decidable_of_iff (s.toList.all Char.isAlpha = true) List.all_eq_true

instance (s : String) : Decidable (IsSmall s) :=
  decidable_of_iff (s.toList.all Char.isLower = true) List.all_eq_true

/-! ## One letter -/

section Letters

variable {c : Char}

/-- Whether an ASCII letter has the small and capital form that it should have, by itself. -/
structure IsCased (c : Char) : Prop where
  small : c.isAlpha = true → lowerChar c = [c.toLower] ∧ c.toLower.isLower = true
  capital : c.isLower = true → c.toLower = c ∧ isUppercase c = false ∧
    c.toUpper.isAlpha = true ∧ c.toUpper.toLower = c

instance (c : Char) : Decidable (IsCased c) :=
  decidable_of_iff ((c.isAlpha = true → lowerChar c = [c.toLower] ∧ c.toLower.isLower = true) ∧
      (c.isLower = true → c.toLower = c ∧ isUppercase c = false ∧
        c.toUpper.isAlpha = true ∧ c.toUpper.toLower = c))
    ⟨fun ⟨small, capital⟩ => ⟨small, capital⟩, fun cased => ⟨cased.small, cased.capital⟩⟩

theorem isCased_ofNat : ∀ n < 128, IsCased (Char.ofNat n) := by decide +kernel

theorem isCased_of_isAlpha (letter : c.isAlpha = true) : IsCased c := by
  have lt : c.toNat < 128 := by
    simp only [Char.isAlpha, Char.isUpper, Char.isLower, Bool.or_eq_true, Bool.and_eq_true,
      decide_eq_true_eq, ge_iff_le, UInt32.le_iff_toNat_le] at letter
    have : 'Z'.val.toNat = 90 := rfl
    have : 'z'.val.toNat = 122 := rfl
    have : c.toNat = c.val.toNat := rfl
    omega
  simpa using isCased_ofNat c.toNat lt

theorem isAlpha_of_isLower (small : c.isLower = true) : c.isAlpha = true := by
  simp [Char.isAlpha, small]

theorem lowerChar_of_isAlpha (letter : c.isAlpha = true) : lowerChar c = [c.toLower] :=
  ((isCased_of_isAlpha letter).small letter).1

theorem isLower_toLower (letter : c.isAlpha = true) : c.toLower.isLower = true :=
  ((isCased_of_isAlpha letter).small letter).2

section Small

variable (small : c.isLower = true)
include small

theorem isCased_of_isLower : IsCased c := isCased_of_isAlpha (isAlpha_of_isLower small)

theorem toLower_of_isLower : c.toLower = c := ((isCased_of_isLower small).capital small).1

theorem isUppercase_of_isLower : isUppercase c = false :=
  ((isCased_of_isLower small).capital small).2.1

theorem isAlpha_toUpper : c.toUpper.isAlpha = true :=
  ((isCased_of_isLower small).capital small).2.2.1

theorem toLower_toUpper : c.toUpper.toLower = c :=
  ((isCased_of_isLower small).capital small).2.2.2

end Small

end Letters

/-! ## Texts of letters -/

section Texts

variable {s t : String}

theorem IsSmall.isLatin (small : IsSmall s) : IsLatin s :=
  fun c mem => isAlpha_of_isLower (small c mem)

theorem IsLatin.append (first : IsLatin s) (last : IsLatin t) : IsLatin (s ++ t) := by
  simpa [IsLatin, or_imp, forall_and] using ⟨first, last⟩

theorem IsLatin.ofList_take (latin : IsLatin s) (n : Nat) :
    IsLatin (String.ofList (s.toList.take n)) := by
  intro c mem
  rw [String.toList_ofList] at mem
  exact latin c (List.mem_of_mem_take mem)

theorem lowerFrom_of_isAlpha (before : List Char) {cs : List Char}
    (letters : ∀ c ∈ cs, c.isAlpha = true) : lowerFrom before cs = cs.map Char.toLower := by
  induction cs generalizing before with
  | nil => rfl
  | cons c cs ih =>
    obtain ⟨letter, others⟩ := List.forall_mem_cons.mp letters
    have notSigma : c ≠ 'Σ' := by
      rintro rfl
      exact absurd letter (by decide)
    rw [lowerFrom, if_neg notSigma, lowerChar_of_isAlpha letter, ih _ others]
    rfl

/-- The small form of a text of ASCII letters has the small form of each. -/
theorem toList_lowerText (latin : IsLatin s) :
    (lowerText s).toList = s.toList.map Char.toLower := by
  rw [lowerText, String.toList_ofList, lowerFrom_of_isAlpha _ latin]

theorem isSmall_lowerText (latin : IsLatin s) : IsSmall (lowerText s) := by
  intro c mem
  rw [toList_lowerText latin] at mem
  obtain ⟨d, among, rfl⟩ := List.mem_map.mp mem
  exact isLower_toLower (latin d among)

theorem lowerText_of_isSmall (small : IsSmall s) : lowerText s = s := by
  have same : ∀ c ∈ s.toList, c.toLower = id c := fun c mem => toLower_of_isLower (small c mem)
  rw [← String.toList_inj, toList_lowerText small.isLatin, List.map_congr_left same, List.map_id]

theorem lowerText_append (first : IsLatin s) (last : IsLatin t) :
    lowerText (s ++ t) = lowerText s ++ lowerText t := by
  rw [← String.toList_inj, String.toList_append, toList_lowerText (first.append last),
    toList_lowerText first, toList_lowerText last, String.toList_append, List.map_append]

end Texts

end Worldsmith.Text
