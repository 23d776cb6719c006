import HttpEngine.Proofs.Bytes.Text
import HttpEngine.Proofs.Decimal.Reading

/-!
# Numbers that are written can be read

The digits of a number are those of its text, and they stand for the number again. So
whatever fits into a word is read back by the reader.
-/

namespace HttpEngine
namespace Decimal

theorem ofText_digitChar {n : Nat} (hless : n < 10) :
    Bytes.ofText (String.singleton n.digitChar) = [digit n] := by
  interval_cases n <;> rfl

/-- A number is written as its text. -/
theorem ofNat_eq_ofText (n : Nat) : ofNat n = Bytes.ofText (toString n) := by
  rw [Nat.toString_eq_repr]
  fun_induction ofNat n with
  | case1 n hless => rw [Nat.repr_of_lt hless, ofText_digitChar hless]
  | case2 n hless ih =>
      rw [Nat.repr_of_ge (by omega), Bytes.ofText_append,
        ofText_digitChar (Nat.mod_lt n (by decide)), ih]

theorem solid_ofNat (n : Nat) : (ofNat n).Solid := by
  rw [ofNat_eq_ofText]
  exact Bytes.solid_toString n

theorem isDigit_digit {n : Nat} (hless : n < 10) : isDigit (digit n) = true := by
  interval_cases n <;> rfl

theorem digitValue_digit {n : Nat} (hless : n < 10) : digitValue (digit n) = n := by
  interval_cases n <;> rfl

theorem value_append_singleton (bytes : Bytes) (b : UInt8) :
    value (bytes ++ [b]) = value bytes * 10 + digitValue b := by
  induction bytes with
  | nil => simp [value]
  | cons c bytes ih =>
      simp only [List.cons_append, value, ih, List.length_append, List.length_singleton]
      ring

theorem ofNat_ne_nil (n : Nat) : ofNat n ≠ [] := by
  fun_cases ofNat n <;> simp

theorem isDigit_of_mem_ofNat {n : Nat} {b : UInt8} (hb : b ∈ ofNat n) : isDigit b = true := by
  fun_induction ofNat n with
  | case1 n hless =>
      rw [List.mem_singleton.mp hb]
      exact isDigit_digit hless
  | case2 n hless ih =>
      rcases List.mem_append.mp hb with hb | hb
      · exact ih hb
      · rw [List.mem_singleton.mp hb]
        exact isDigit_digit (Nat.mod_lt n (by decide))

/-- The digits of a number stand for it. -/
theorem value_ofNat (n : Nat) : value (ofNat n) = n := by
  fun_induction ofNat n with
  | case1 n hless => simp [value, digitValue_digit hless]
  | case2 n hless ih =>
      rw [value_append_singleton, ih, digitValue_digit (Nat.mod_lt n (by decide))]
      omega

theorem isWord_ofNat {n : Nat} (hless : n < 2 ^ 64) : IsWord (ofNat n) n where
  ne_nil := ofNat_ne_nil n
  digits := fun _ hb => isDigit_of_mem_ofNat hb
  value_eq := value_ofNat n
  lt := hless

end Decimal
end HttpEngine
