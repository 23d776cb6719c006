import HttpEngine.Decimal.Digits
import HttpEngine.Proofs.Decimal.Writing

/-!
# The one decimal form of a number

The canonical digits of a number have no leading zero, and stand for the number; a single `0`
stands for zero. There is just one such string of digits for each number. An integer has its
numeral: the canonical digits of its absolute value, with a minus sign in front of those of a
negative integer.

`Decimal.ofNat` and `Decimal.ofInt` give these forms, and so does the buffer that is filled
with digits from its end.
-/

namespace HttpEngine
namespace Decimal

/-- Digits that stand for a number, without a leading zero. -/
structure IsCanonical (n : Nat) (bytes : Bytes) : Prop where
  ne_nil : bytes ≠ []
  digits : ∀ b ∈ bytes, isDigit b = true
  value_eq : value bytes = n
  no_leading_zero : bytes.head? = some (digit 0) → bytes = [digit 0]

/-- The canonical digits of the absolute value, after a minus sign if there is need for it. -/
def IsNumeral (z : Int) (text : Bytes) : Prop :=
  ∃ digits, IsCanonical z.natAbs digits ∧ text = if z < 0 then minus :: digits else digits

/-! ## Canonical digits -/

theorem digit_digitValue {b : UInt8} (hdigit : isDigit b = true) : digit (digitValue b) = b := by
  rw [digit, digitValue, Nat.add_sub_cancel' (isDigit_iff.mp hdigit).1]
  exact UInt8.ofNat_toNat

theorem digitValue_lt {b : UInt8} (hdigit : isDigit b = true) : digitValue b < 10 := by
  have hhigh := (isDigit_iff.mp hdigit).2
  rw [digitValue]
  omega

theorem digit_ne_digit_zero {n : Nat} (hpos : n ≠ 0) (hless : n < 10) : digit n ≠ digit 0 := by
  intro heq
  have hvalue := congrArg digitValue heq
  rw [digitValue_digit hless, digitValue_digit (by decide)] at hvalue
  exact hpos hvalue

theorem ofNat_of_lt {n : Nat} (hless : n < 10) : ofNat n = [digit n] := by
  rw [ofNat, if_pos hless]

/-- A number has its last digit after those of its tenth. -/
theorem ofNat_eq_append (n : Nat) :
    ofNat n = (if n / 10 = 0 then [] else ofNat (n / 10)) ++ [digit (n % 10)] := by
  by_cases hless : n < 10
  · rw [ofNat_of_lt hless, if_pos (Nat.div_eq_of_lt hless), Nat.mod_eq_of_lt hless,
      List.nil_append]
  · rw [ofNat, if_neg hless, if_neg (by omega)]

/-- One more digit behind the digits of a number. -/
theorem ofNat_mul_add {n d : Nat} (hpos : n ≠ 0) (hless : d < 10) :
    ofNat (n * 10 + d) = ofNat n ++ [digit d] := by
  have hdiv : (n * 10 + d) / 10 = n := by omega
  have hmod : (n * 10 + d) % 10 = d := by omega
  rw [ofNat_eq_append, hdiv, hmod, if_neg hpos]

theorem head?_ofNat_ne {n : Nat} (hpos : n ≠ 0) : (ofNat n).head? ≠ some (digit 0) := by
  fun_induction ofNat n with
  | case1 n hless =>
      rw [List.head?_singleton, ne_eq, Option.some.injEq]
      exact digit_ne_digit_zero hpos hless
  | case2 n hless ih =>
      rw [List.head?_append_of_ne_nil _ (ofNat_ne_nil _)]
      exact ih (by omega)

theorem isCanonical_ofNat (n : Nat) : IsCanonical n (ofNat n) where
  ne_nil := ofNat_ne_nil n
  digits := fun _ hb => isDigit_of_mem_ofNat hb
  value_eq := value_ofNat n
  no_leading_zero := by
    intro hhead
    by_cases hzero : n = 0
    · rw [hzero, ofNat_of_lt (by decide)]
    · exact absurd hhead (head?_ofNat_ne hzero)

/-- Canonical digits are those that are written. The induction takes the last digit off: what
is before it is canonical again, and does not stand for zero. -/
theorem IsCanonical.eq_ofNat {n : Nat} {bytes : Bytes} (h : IsCanonical n bytes) :
    bytes = ofNat n := by
  induction bytes using List.reverseRecOn generalizing n with
  | nil => exact absurd rfl h.ne_nil
  | append_singleton front b ih =>
      have hb : isDigit b = true := h.digits b (by simp)
      have hvalue : value front * 10 + digitValue b = n := by
        rw [← value_append_singleton, h.value_eq]
      by_cases hfront : front = []
      · subst hfront
        rw [← hvalue, value, Nat.zero_mul, Nat.zero_add, ofNat_of_lt (digitValue_lt hb),
          digit_digitValue hb, List.nil_append]
      · have hhead : front.head? ≠ some (digit 0) := by
          intro hzero
          have hwhole := h.no_leading_zero (by rwa [List.head?_append_of_ne_nil _ hfront])
          have hlength := congrArg List.length hwhole
          simp [hfront] at hlength
        have hcanonical : IsCanonical (value front) front :=
          { ne_nil := hfront
            digits := fun c hc => h.digits c (List.mem_append_left _ hc)
            value_eq := rfl
            no_leading_zero := fun hzero => absurd hzero hhead }
        have hwritten : front = ofNat (value front) := ih hcanonical
        have hpos : value front ≠ 0 := by
          intro hzero
          rw [hzero, ofNat_of_lt (by decide)] at hwritten
          rw [hwritten] at hhead
          contradiction
        rw [← hvalue, ofNat_mul_add hpos (digitValue_lt hb), ← hwritten, digit_digitValue hb]

theorem isCanonical_iff {n : Nat} {bytes : Bytes} :
    IsCanonical n bytes ↔ bytes = ofNat n := by
  constructor
  · exact IsCanonical.eq_ofNat
  · rintro rfl
    exact isCanonical_ofNat n

theorem ofInt_natCast (n : Nat) : ofInt n = ofNat n := by
  rw [ofInt, if_neg (by omega), Int.natAbs_natCast]

/-- Each integer has one numeral. -/
theorem isNumeral_iff {z : Int} {text : Bytes} : IsNumeral z text ↔ text = ofInt z := by
  simp only [IsNumeral, isCanonical_iff, exists_eq_left]
  rfl

end Decimal

/-! ## Digits in a buffer -/

namespace DigitBuffer

theorem length_text (buffer : DigitBuffer) : buffer.start + buffer.text.length = 39 := by
  have hle := buffer.start_le
  rw [text, List.length_drop, Vector.length_toList]
  omega

/-- The digits that were put in stand before what was there. -/
theorem text_of_fill?_eq_some
    {n : Nat} {buffer filled : DigitBuffer} (hfill : fill? n buffer = some filled) :
    filled.text = (if n = 0 then [] else Decimal.ofNat n) ++ buffer.text := by
  fun_induction fill? n buffer with
  | case1 buffer => rw [Option.some.inj hfill, if_pos rfl, List.nil_append]
  | case2 => contradiction
  | case3 n buffer hn next hpush ih =>
      rw [ih hfill, (of_push?_eq_some hpush).2, if_neg hn, Decimal.ofNat_eq_append n,
        List.append_assoc, List.singleton_append]

/-- The buffer holds the digits of the number. -/
theorem text_of_ofNat?_eq_some
    {n : Nat} {buffer : DigitBuffer} (hfill : ofNat? n = some buffer) :
    buffer.text = Decimal.ofNat n := by
  rw [ofNat?] at hfill
  split at hfill
  · next hzero =>
      obtain rfl := Option.some.inj hfill
      rw [hzero, Decimal.ofNat_of_lt (by decide)]
      rfl
  · next hpos =>
      have hblank : (blank 39 (by decide)).text = [] := rfl
      rw [text_of_fill?_eq_some hfill, if_neg hpos, hblank, List.append_nil]

theorem ofNat?_toNat (value : BitVec 128) : ofNat? value.toNat = some (ofWord value) :=
  (Option.some_get _).symm

theorem text_ofWord (value : BitVec 128) : (ofWord value).text = Decimal.ofNat value.toNat :=
  text_of_ofNat?_eq_some (ofNat?_toNat value)

end DigitBuffer
end HttpEngine
