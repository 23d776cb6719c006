import HttpEngine.Decimal

/-!
# Digits in a fixed buffer

The last digit of a number is the one that comes out first, so digits are put into a buffer
from its end. The buffer has 39 places, one for each digit of the largest number of 128 bits.
Whether a place is left is checked whenever a digit is put in.

A zero has no digit to put in. Its text is the last place, where a `0` has stood from the
beginning.
-/

namespace HttpEngine

/-- Places for digits; those from `start` on are taken. -/
structure DigitBuffer where
  places : Vector UInt8 39
  start : Nat
  start_le : start ≤ 39

namespace DigitBuffer

/-- A `0` at every place, and the places from `start` on taken. -/
def blank (start : Nat) (start_le : start ≤ 39) : DigitBuffer :=
  { places := .replicate 39 (Decimal.digit 0)
    start := start
    start_le := start_le }

/-- Takes the place before those that are taken, if there is one. -/
def push? (buffer : DigitBuffer) (b : UInt8) : Option DigitBuffer :=
  if hpos : 0 < buffer.start then
    have hplace : buffer.start - 1 < 39 :=
      Nat.lt_of_lt_of_le (Nat.sub_one_lt_of_lt hpos) buffer.start_le
    some
      { places := buffer.places.set (buffer.start - 1) b
        start := buffer.start - 1
        start_le := Nat.le_of_lt hplace }
  else
    none

/-- Puts the digits of a number in, the last one first. -/
def fill? (n : Nat) (buffer : DigitBuffer) : Option DigitBuffer :=
  if n = 0 then some buffer
  else
    match buffer.push? (Decimal.digit (n % 10)) with
    | none => none
    | some next => fill? (n / 10) next

/-- A buffer that holds the digits of a number and nothing else. -/
def ofNat? (n : Nat) : Option DigitBuffer :=
  if n = 0 then some (blank 38 (by decide)) else fill? n (blank 39 (by decide))

/-- What stands at the places that are taken. -/
def text (buffer : DigitBuffer) : Bytes :=
  buffer.places.toList.drop buffer.start

theorem push?_eq_none_iff {buffer : DigitBuffer} {b : UInt8} :
    buffer.push? b = none ↔ buffer.start = 0 := by
  rw [push?]
  split
  · next hpos => exact iff_of_false nofun (Nat.ne_of_gt hpos)
  · next hzero => exact iff_of_true rfl (Nat.eq_zero_of_not_pos hzero)

/-- A byte that was put in stands before those that were there. -/
theorem of_push?_eq_some
    {buffer next : DigitBuffer} {b : UInt8} (hpush : buffer.push? b = some next) :
    buffer.start = next.start + 1 ∧ next.text = b :: buffer.text := by
  have hle := buffer.start_le
  rw [push?] at hpush
  split at hpush
  · next hpos =>
      obtain rfl := Option.some.inj hpush
      have hnext : buffer.start - 1 + 1 = buffer.start := Nat.sub_add_cancel hpos
      refine ⟨hnext.symm, ?_⟩
      have hplace : buffer.start - 1 < (buffer.places.toList.set (buffer.start - 1) b).length := by
        rw [List.length_set, Vector.length_toList]
        omega
      simp only [text, Vector.toList_set]
      rw [List.drop_eq_getElem_cons hplace, List.getElem_set_self, hnext,
        List.drop_set_of_lt (by omega)]
  · contradiction

/-- A number can be put in if it has no more digits than there are places left. -/
theorem isSome_fill?_iff {n : Nat} {buffer : DigitBuffer} :
    (fill? n buffer).isSome ↔ n < Nat.pow 10 buffer.start := by
  fun_induction fill? n buffer with
  | case1 buffer => exact iff_of_true rfl (Nat.pow_pos (by decide))
  | case2 n buffer hn hfull =>
      rw [push?_eq_none_iff.mp hfull]
      exact iff_of_false nofun fun hless => hn (Nat.lt_one_iff.mp hless)
  | case3 n buffer hn next hpush ih =>
      rw [ih, (of_push?_eq_some hpush).1, Nat.pow_eq, Nat.pow_eq, Nat.pow_succ,
        Nat.div_lt_iff_lt_mul (by decide)]

/-- The buffer has room for numbers of up to 39 digits. -/
theorem isSome_ofNat?_iff {n : Nat} : (ofNat? n).isSome ↔ n < Nat.pow 10 39 := by
  rw [ofNat?]
  split
  · next hzero =>
      rw [hzero]
      exact iff_of_true rfl (Nat.pow_pos (by decide))
  · exact isSome_fill?_iff

/-- Numbers of 128 bits have room. -/
theorem isSome_ofNat?_toNat (value : BitVec 128) : (ofNat? value.toNat).isSome :=
  isSome_ofNat?_iff.mpr (Nat.lt_of_lt_of_le value.isLt (by decide))

/-- The digits of a number of 128 bits. -/
def ofWord (value : BitVec 128) : DigitBuffer :=
  (ofNat? value.toNat).get (isSome_ofNat?_toNat value)

end DigitBuffer
end HttpEngine
