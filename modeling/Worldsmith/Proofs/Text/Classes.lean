import Mathlib.Tactic.Common
import Worldsmith.Language.Scan

/-!
# Classes of characters

Whether text can be cut into tokens in only one way rests on which classes of characters have
nothing in common: what parts words is no letter, no digit and no punctuation, and so on. Classes
are lists of ranges, so it is enough to compare their ranges. Numbers are written with digits only.

## Main definitions

* `Text.Ranges.Apart` — no range of one list meets a range of the other.

## Main statements

* `Text.Ranges.Apart.has_eq_false` — lists of ranges that are apart have no point in common.
-/

namespace Worldsmith

namespace Text.Ranges

variable {a b : Ranges} {n : Nat}

theorem exists_of_has (has : a.has n = true) : ∃ range ∈ a, range.1 ≤ n ∧ n ≤ range.2 := by
  induction a with
  | nil => cases has
  | cons range rest ih =>
    rw [Ranges.has] at has
    split at has
    · cases has
    · rcases Bool.or_eq_true_iff.mp has with within | later
      · exact ⟨range, by simp, by omega, by simpa using within⟩
      · obtain ⟨other, among, inside⟩ := ih later
        exact ⟨other, List.mem_cons_of_mem _ among, inside⟩

/-- Whether no range of one list meets a range of the other. -/
def Apart (a b : Ranges) : Prop :=
  ∀ range ∈ a, ∀ other ∈ b, range.2 < other.1 ∨ other.2 < range.1

instance (a b : Ranges) : Decidable (a.Apart b) :=
  decidable_of_iff (a.all fun range => b.all fun other =>
      range.2.blt other.1 || other.2.blt range.1)
    (by simp [Apart, Nat.blt_eq])

/-- Lists of ranges that are apart have no point in common. -/
theorem Apart.has_eq_false (apart : a.Apart b) (has : a.has n = true) : b.has n = false := by
  by_contra both
  obtain ⟨range, among, inside⟩ := exists_of_has has
  obtain ⟨other, among', inside'⟩ := exists_of_has (eq_true_of_ne_false both)
  have := apart range among other among'
  omega

end Text.Ranges

/-! ## Punctuation and digits as ranges -/

/-- The code points of ASCII punctuation. -/
def punctuationPoints : Text.Ranges := [(0x21, 0x2f), (0x3a, 0x40), (0x5b, 0x60), (0x7b, 0x7e)]

/-- The code points of ASCII digits. -/
def digitPoints : Text.Ranges := [(0x30, 0x39)]

variable {c : Char}

theorem has_punctuationPoints (mark : isPunctuation c = true) :
    punctuationPoints.has c.toNat = true := by
  simp only [isPunctuation, Char.le_def, UInt32.le_iff_toNat_le, Bool.or_eq_true,
    Bool.and_eq_true, decide_eq_true_eq] at mark
  simp only [punctuationPoints, Text.Ranges.has, Char.toNat]
  grind

theorem has_digitPoints (digit : c.isDigit = true) : digitPoints.has c.toNat = true := by
  simp only [Char.isDigit, ge_iff_le, UInt32.le_iff_toNat_le, Bool.and_eq_true,
    decide_eq_true_eq] at digit
  simp only [digitPoints, Text.Ranges.has, Char.toNat]
  grind

/-! ## What classes have nothing in common -/

theorem apart_classes : Text.alphabetic.Apart Text.blank ∧
    digitPoints.Apart Text.alphabetic ∧ digitPoints.Apart Text.blank ∧
    punctuationPoints.Apart Text.alphabetic ∧ punctuationPoints.Apart Text.blank ∧
    digitPoints.Apart punctuationPoints := by
  decide +kernel

theorem isBlank_of_isAlphabetic (letter : Text.isAlphabetic c = true) :
    Text.isBlank c = false :=
  apart_classes.1.has_eq_false letter

theorem isAlphabetic_of_isDigit (digit : c.isDigit = true) : Text.isAlphabetic c = false :=
  apart_classes.2.1.has_eq_false (has_digitPoints digit)

theorem isBlank_of_isDigit (digit : c.isDigit = true) : Text.isBlank c = false :=
  apart_classes.2.2.1.has_eq_false (has_digitPoints digit)

theorem isAlphabetic_of_isPunctuation (mark : isPunctuation c = true) :
    Text.isAlphabetic c = false :=
  apart_classes.2.2.2.1.has_eq_false (has_punctuationPoints mark)

theorem isBlank_of_isPunctuation (mark : isPunctuation c = true) : Text.isBlank c = false :=
  apart_classes.2.2.2.2.1.has_eq_false (has_punctuationPoints mark)

theorem isDigit_of_isPunctuation (mark : isPunctuation c = true) : c.isDigit = false := by
  by_contra digit
  have none := apart_classes.2.2.2.2.2.has_eq_false (has_digitPoints (eq_true_of_ne_false digit))
  simp [has_punctuationPoints mark] at none

/-! ## Digits of numbers -/

theorem isDigit_of_mem_repr {number : ℕ} (mem : c ∈ number.repr.toList) : c.isDigit = true :=
  Nat.isDigit_of_mem_toDigits (by decide) (by decide) (Nat.toList_repr ▸ mem)

/-- A number is told by its digits. -/
theorem eq_of_toList_repr_eq {number number' : ℕ}
    (same : number.repr.toList = number'.repr.toList) : number = number' := by
  have values := congrArg (Nat.ofDigitChars 10 · 0) same
  simpa only [Nat.toList_repr, Nat.ofDigitChars_ten_toDigits] using values

end Worldsmith
