import HttpEngine.Payload
import HttpEngine.Proofs.Decimal.Numerals

/-!
# Integers in a payload

An integer of any width is made an integer of 128 bits, which does not change it, and the
digits of its absolute value are put into the buffer. The absolute value of the least integer
of 128 bits is `2 ^ 127`: it is no integer with sign of that width, but one without sign. So
what is appended is the numeral of the integer, and the buffer always has room.
-/

namespace HttpEngine

theorem Width.bits_le (width : Width) : width.bits ≤ 128 := by
  cases width <;> decide

namespace Part

/-- The absolute value has no sign. -/
theorem toNat_abs_eq (value : BitVec 128) : value.abs.toNat = value.toInt.natAbs := by
  have hless : value.toNat < 2 ^ 128 := value.isLt
  rw [BitVec.toNat_abs, BitVec.toInt_eq_msb_cond]
  split
  · omega
  · omega

theorem writeUnsigned_eq (value : BitVec 128) (written : Bytes) :
    writeUnsigned value written = written ++ Decimal.ofNat value.toNat := by
  rw [writeUnsigned, DigitBuffer.text_ofWord]

theorem writeSigned_eq (value : BitVec 128) (written : Bytes) :
    writeSigned value written = written ++ Decimal.ofInt value.toInt := by
  have hnegative : value.slt 0 = decide (value.toInt < 0) := BitVec.slt_eq_decide
  rw [writeSigned, writeUnsigned_eq, toNat_abs_eq, Decimal.ofInt, hnegative]
  by_cases hsign : value.toInt < 0
  · simp [hsign]
  · simp [hsign]

/-- A wider integer without sign is the same number. -/
theorem write_unsigned (width : Width) (value : BitVec width.bits) (written : Bytes) :
    (unsigned width value).write written = written ++ Decimal.ofNat value.toNat := by
  rw [write, writeUnsigned_eq, BitVec.toNat_setWidth_of_le width.bits_le]

/-- A wider integer with sign is the same number. -/
theorem write_signed (width : Width) (value : BitVec width.bits) (written : Bytes) :
    (signed width value).write written = written ++ Decimal.ofInt value.toInt := by
  rw [write, writeSigned_eq, BitVec.toInt_signExtend_of_le width.bits_le]

/-- Whatever its width and its value, an integer is appended as its numeral, the one decimal form
that has a minus sign if and only if the integer is negative, no leading zero, and digits that
stand for the absolute value. The buffer for the digits has room for each number that has no
more than 39 of them, so for each number of 128 bits. The text of a word without sign is read
as the word. -/
theorem writes_numeral_of_integer :
    (∀ (z : Int) (text : Bytes), Decimal.IsNumeral z text ↔ text = Decimal.ofInt z) ∧
      (∀ (width : Width) (value : BitVec width.bits) (written : Bytes),
        (unsigned width value).write written = written ++ Decimal.ofInt value.toNat) ∧
      (∀ (width : Width) (value : BitVec width.bits) (written : Bytes),
        (signed width value).write written = written ++ Decimal.ofInt value.toInt) ∧
      (∀ n : Nat, (DigitBuffer.ofNat? n).isSome ↔ n < 10 ^ 39) ∧
      (∀ value : BitVec 128, ∃ buffer,
        DigitBuffer.ofNat? value.toNat = some buffer ∧
          buffer.start + buffer.text.length = 39 ∧
          Decimal.IsCanonical value.toNat buffer.text) ∧
      ∀ value : BitVec Width.w64.bits,
        Decimal.read? ((unsigned .w64 value).write []) = some value.toNat := by
  refine ⟨fun z text => Decimal.isNumeral_iff, ?_, write_signed,
    fun n => DigitBuffer.isSome_ofNat?_iff, ?_, ?_⟩
  · intro width value written
    rw [write_unsigned, Decimal.ofInt_natCast]
  · intro value
    have hcanonical := Decimal.isCanonical_ofNat value.toNat
    rw [← DigitBuffer.text_ofWord] at hcanonical
    exact ⟨.ofWord value, DigitBuffer.ofNat?_toNat value, DigitBuffer.length_text _, hcanonical⟩
  · intro value
    rw [write_unsigned, List.nil_append]
    exact Decimal.read?_eq_some_iff.mpr (Decimal.isWord_ofNat value.isLt)

/-- The largest number takes all places of the buffer. -/
example : (DigitBuffer.ofWord (BitVec.allOnes 128)).start = 0 := by
  cbv

example : (signed .w8 (-128)).write [] = Bytes.ofText "-128" := by
  cbv

end Part
end HttpEngine
