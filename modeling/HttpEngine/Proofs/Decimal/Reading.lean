import HttpEngine.Decimal
import Mathlib.Tactic.Ring

/-!
# Which numbers are read

A string of digits stands for the sum of its digits, each times the power of
ten of its place. `read?` finds this sum when the string is not empty, has
digits only, and the sum is less than `2 ^ 64`; it finds nothing otherwise. The
reader gives up at the first prefix whose value is too large, which loses
nothing, since a string stands for no less than its prefixes.
-/

namespace HttpEngine
namespace Decimal

/-- The number that a string of digits stands for. -/
def value : Bytes → Nat
  | [] => 0
  | b :: rest => digitValue b * 10 ^ rest.length + value rest

/-- The string is a decimal number that fits into a 64-bit word. -/
structure IsWord (bytes : Bytes) (n : Nat) : Prop where
  ne_nil : bytes ≠ []
  digits : ∀ b ∈ bytes, isDigit b = true
  value_eq : value bytes = n
  lt : n < 2 ^ 64

theorem isDigit_iff {b : UInt8} : isDigit b = true ↔ 48 ≤ b.toNat ∧ b.toNat ≤ 57 := by
  rw [isDigit, Bool.and_eq_true, decide_eq_true_eq, decide_eq_true_eq, UInt8.le_iff_toNat_le,
    UInt8.le_iff_toNat_le]
  rfl

theorem push?_eq_some_iff {acc n : Nat} {b : UInt8} :
    push? acc b = some n ↔
      isDigit b = true ∧ acc * 10 + digitValue b = n ∧ n < wordLimit := by
  unfold push? inWord?
  by_cases hdigit : isDigit b = true
  · by_cases hshift : acc * 10 < wordLimit
    · by_cases hsum : acc * 10 + digitValue b < wordLimit
      · simp only [hdigit, hshift, hsum, if_true, bind, Option.bind, Option.some.injEq, true_and]
        constructor
        · rintro rfl
          exact ⟨rfl, hsum⟩
        · exact fun h => h.1
      · simp only [hdigit, hshift, hsum, if_true, if_false, bind, Option.bind, true_and]
        constructor
        · intro h
          contradiction
        · rintro ⟨rfl, hless⟩
          contradiction
    · simp only [hdigit, hshift, if_true, if_false, bind, Option.bind, true_and]
      constructor
      · intro h
        contradiction
      · rintro ⟨rfl, hless⟩
        omega
  · simp [hdigit]

/-- The digits that follow a prefix of value `acc`. -/
theorem foldlM_push?_eq_some_iff
    (bytes : Bytes) {acc n : Nat} (hacc : acc < wordLimit) :
    bytes.foldlM push? acc = some n ↔
      (∀ b ∈ bytes, isDigit b = true) ∧
        acc * 10 ^ bytes.length + value bytes = n ∧ n < wordLimit := by
  induction bytes generalizing acc with
  | nil =>
      simp only [List.foldlM_nil, pure, Option.some.injEq, value, List.length_nil, pow_zero,
        mul_one, add_zero]
      constructor
      · rintro rfl
        exact ⟨by simp, rfl, hacc⟩
      · exact fun h => h.2.1
  | cons b rest ih =>
      have hplaces :
          acc * 10 ^ (b :: rest).length + value (b :: rest) =
            (acc * 10 + digitValue b) * 10 ^ rest.length + value rest := by
        simp only [List.length_cons, value]
        ring
      rw [List.foldlM_cons, hplaces, Option.bind_eq_bind, Option.bind_eq_some_iff]
      constructor
      · rintro ⟨next, hpush, hrest⟩
        obtain ⟨hdigit, rfl, hnext⟩ := push?_eq_some_iff.mp hpush
        obtain ⟨hdigits, hvalue, hless⟩ := (ih hnext).mp hrest
        exact ⟨List.forall_mem_cons.mpr ⟨hdigit, hdigits⟩, hvalue, hless⟩
      · rintro ⟨hdigits, hvalue, hless⟩
        obtain ⟨hdigit, hrest⟩ := List.forall_mem_cons.mp hdigits
        have hprefix :
            acc * 10 + digitValue b ≤ (acc * 10 + digitValue b) * 10 ^ rest.length :=
          Nat.le_mul_of_pos_right _ (Nat.pow_pos (by decide))
        have hnext : acc * 10 + digitValue b < wordLimit := by omega
        exact ⟨_, push?_eq_some_iff.mpr ⟨hdigit, rfl, hnext⟩,
          (ih hnext).mpr ⟨hrest, hvalue, hless⟩⟩

/-- What is read is what the digits stand for. -/
theorem read?_eq_some_iff {bytes : Bytes} {n : Nat} :
    read? bytes = some n ↔ IsWord bytes n := by
  cases bytes with
  | nil =>
      constructor
      · intro h
        contradiction
      · exact fun h => absurd rfl h.ne_nil
  | cons b rest =>
      have hfold : (b :: rest).foldlM push? 0 = some n ↔ _ :=
        foldlM_push?_eq_some_iff (b :: rest) (by decide)
      rw [Nat.zero_mul, Nat.zero_add] at hfold
      constructor
      · intro h
        obtain ⟨hdigits, hvalue, hless⟩ := hfold.mp h
        exact ⟨by simp, hdigits, hvalue, hless⟩
      · intro h
        exact hfold.mpr ⟨h.digits, h.value_eq, h.lt⟩

/-- Nothing is read where no word stands. -/
theorem read?_eq_none_iff {bytes : Bytes} :
    read? bytes = none ↔ ∀ n, ¬ IsWord bytes n := by
  rw [Option.eq_none_iff_forall_ne_some]
  exact forall_congr' fun n => not_congr read?_eq_some_iff

end Decimal
end HttpEngine
