import HttpEngine.Proofs.Decimal.Reading

/-!
# Reading numbers in words

The reader once more, with the arithmetic of words of 64 bits, which wraps around. A product
or a sum that does not fit into a word is noticed, and ends the reading.

It reads the same numbers, and no operation of a turn that is made wraps around. So what is
read is exact, and what is refused is no decimal number or does not fit: a prefix that does
not fit stands for no more than the whole.
-/

namespace HttpEngine
namespace Decimal

/-- The outcome of an operation on words, if the number that it should be fits into a word. -/
def checked? (exact : Nat) (outcome : UInt64) : Option UInt64 :=
  if exact < wordLimit then some outcome else none

/-- The product of two words, if it fits into a word. -/
def mulWord? (a b : UInt64) : Option UInt64 :=
  checked? (a.toNat * b.toNat) (a * b)

/-- The sum of two words, if it fits into a word. -/
def addWord? (a b : UInt64) : Option UInt64 :=
  checked? (a.toNat + b.toNat) (a + b)

/-- Takes one more digit into a word. -/
def pushWord? (word : UInt64) (b : UInt8) : Option UInt64 := do
  if isDigit b then
    let shifted ← mulWord? word 10
    addWord? shifted (b - 48).toUInt64
  else
    none

/-- The word that a string of digits stands for. -/
def readWord? : Bytes → Option UInt64
  | [] => none
  | b :: rest => (b :: rest).foldlM pushWord? 0

/-- One turn of the reader: the word before it, the byte that it takes, and the word after
it. -/
structure Turn where
  before : UInt64
  byte : UInt8
  after : UInt64
deriving Repr, DecidableEq

/-- No operation of the turn wraps around. -/
structure Turn.Exact (turn : Turn) : Prop where
  digit_eq : turn.byte.toNat = 48 + (turn.byte - 48).toNat
  product_eq : (turn.before * 10).toNat = turn.before.toNat * 10
  sum_eq :
    (turn.before * 10 + (turn.byte - 48).toUInt64).toNat =
      (turn.before * 10).toNat + (turn.byte - 48).toNat
  after_eq : turn.after = turn.before * 10 + (turn.byte - 48).toUInt64

/-- The turns that the reader makes from a word on. -/
def turnsFrom (word : UInt64) : Bytes → List Turn
  | [] => []
  | b :: rest =>
      match pushWord? word b with
      | none => []
      | some next => { before := word, byte := b, after := next } :: turnsFrom next rest

/-! ## One turn -/

theorem checked?_eq_some_iff {exact : Nat} {outcome word : UInt64} :
    checked? exact outcome = some word ↔ exact < wordLimit ∧ outcome = word := by
  rw [checked?]
  split
  · next hfits => rw [Option.some.injEq, and_iff_right hfits]
  · next hfits => exact iff_of_false nofun fun h => hfits h.1

theorem toNat_mul_of_fits {a b : UInt64} (hfits : a.toNat * b.toNat < wordLimit) :
    (a * b).toNat = a.toNat * b.toNat := by
  rw [UInt64.toNat_mul]
  exact Nat.mod_eq_of_lt hfits

theorem toNat_add_of_fits {a b : UInt64} (hfits : a.toNat + b.toNat < wordLimit) :
    (a + b).toNat = a.toNat + b.toNat := by
  rw [UInt64.toNat_add]
  exact Nat.mod_eq_of_lt hfits

theorem toNat_eq_of_isDigit {b : UInt8} (hdigit : isDigit b = true) :
    b.toNat = 48 + (b - 48).toNat := by
  have hlow : 48 ≤ b.toNat := (isDigit_iff.mp hdigit).1
  have hle : 48 ≤ b := UInt8.le_iff_toNat_le.mpr hlow
  rw [UInt8.toNat_sub_of_le _ _ hle]
  exact (Nat.add_sub_cancel' hlow).symm

theorem toNat_sub_of_isDigit {b : UInt8} (hdigit : isDigit b = true) :
    (b - 48).toUInt64.toNat = digitValue b := by
  have heq := toNat_eq_of_isDigit hdigit
  rw [UInt8.toNat_toUInt64, digitValue]
  omega

/-- A turn that is made is exact. -/
theorem exact_of_pushWord?
    {word next : UInt64} {b : UInt8} (hpush : pushWord? word b = some next) :
    Turn.Exact { before := word, byte := b, after := next } := by
  rw [pushWord?] at hpush
  split at hpush
  · next hdigit =>
      obtain ⟨shifted, hmul, hadd⟩ := Option.bind_eq_some_iff.mp hpush
      obtain ⟨hproduct, rfl⟩ := checked?_eq_some_iff.mp hmul
      obtain ⟨hsum, rfl⟩ := checked?_eq_some_iff.mp hadd
      exact
        { digit_eq := toNat_eq_of_isDigit hdigit
          product_eq := toNat_mul_of_fits hproduct
          sum_eq := by rw [toNat_add_of_fits hsum, UInt8.toNat_toUInt64]
          after_eq := rfl }
  · contradiction

/-- A turn of the reader on words is a turn of the reader on numbers. -/
theorem map_pushWord? (word : UInt64) (b : UInt8) :
    (pushWord? word b).map UInt64.toNat = push? word.toNat b := by
  rw [pushWord?, push?]
  split
  · next hdigit =>
      have hten : (10 : UInt64).toNat = 10 := rfl
      simp only [mulWord?, addWord?, checked?, inWord?, hten]
      by_cases hproduct : word.toNat * 10 < wordLimit
      · have hshifted : (word * 10).toNat = word.toNat * 10 := toNat_mul_of_fits hproduct
        simp only [hproduct, if_true, Option.bind_eq_bind, Option.bind_some, hshifted,
          toNat_sub_of_isDigit hdigit]
        split
        · next hsum =>
            rw [Option.map_some, toNat_add_of_fits, hshifted, toNat_sub_of_isDigit hdigit]
            rwa [hshifted, toNat_sub_of_isDigit hdigit]
        · rfl
      · simp only [hproduct, if_false]
        rfl
  · rfl

/-! ## All turns -/

theorem exact_of_mem_turnsFrom
    {word : UInt64} {bytes : Bytes} {turn : Turn} (hturn : turn ∈ turnsFrom word bytes) :
    turn.Exact := by
  induction bytes generalizing word with
  | nil => contradiction
  | cons b rest ih =>
      rw [turnsFrom] at hturn
      cases hpush : pushWord? word b with
      | none =>
          rw [hpush] at hturn
          contradiction
      | some next =>
          rw [hpush] at hturn
          rcases List.mem_cons.mp hturn with rfl | hrest
          · exact exact_of_pushWord? hpush
          · exact ih hrest

theorem map_foldlM_pushWord? (word : UInt64) (bytes : Bytes) :
    (bytes.foldlM pushWord? word).map UInt64.toNat = bytes.foldlM push? word.toNat := by
  induction bytes generalizing word with
  | nil => rfl
  | cons b rest ih =>
      rw [List.foldlM_cons, List.foldlM_cons, ← map_pushWord?]
      cases pushWord? word b with
      | none => rfl
      | some next => exact ih next

/-- Both readers read the same. -/
theorem map_readWord? (bytes : Bytes) : (readWord? bytes).map UInt64.toNat = read? bytes := by
  cases bytes with
  | nil => rfl
  | cons b rest => exact map_foldlM_pushWord? 0 (b :: rest)

/-! ## What is read -/

/-- Nothing is read from nothing, from what is not all digits, and from a number that is too
large. -/
theorem read?_eq_none_iff_or {bytes : Bytes} :
    read? bytes = none ↔
      bytes = [] ∨ (∃ b ∈ bytes, isDigit b = false) ∨ 2 ^ 64 ≤ value bytes := by
  rw [read?_eq_none_iff]
  constructor
  · intro hnone
    by_contra hnot
    simp only [not_or, not_exists, not_and, Bool.not_eq_false, not_le] at hnot
    obtain ⟨hne, hdigits, hless⟩ := hnot
    exact hnone _ ⟨hne, hdigits, rfl, hless⟩
  · rintro (rfl | ⟨b, hb, hother⟩ | hlarge) n hword
    · exact hword.ne_nil rfl
    · rw [hword.digits b hb] at hother
      contradiction
    · have hless := hword.lt
      rw [← hword.value_eq] at hless
      omega

theorem value_replicate_zero_append (zeros : Nat) (bytes : Bytes) :
    value (List.replicate zeros (digit 0) ++ bytes) = value bytes := by
  induction zeros with
  | zero => rfl
  | succ zeros ih =>
      have hzero : digitValue (digit 0) = 0 := rfl
      rw [List.replicate_succ, List.cons_append, value, hzero, Nat.zero_mul, Nat.zero_add, ih]

/-- Leading zeros make no difference. -/
theorem read?_replicate_zero_append (zeros : Nat) {bytes : Bytes} (hne : bytes ≠ []) :
    read? (List.replicate zeros (digit 0) ++ bytes) = read? bytes := by
  refine Option.ext fun n => ?_
  rw [read?_eq_some_iff, read?_eq_some_iff]
  constructor
  · intro h
    exact
      { ne_nil := hne
        digits := fun b hb => h.digits b (List.mem_append_right _ hb)
        value_eq := by rw [← h.value_eq, value_replicate_zero_append]
        lt := h.lt }
  · intro h
    refine
      { ne_nil := List.append_ne_nil_of_right_ne_nil _ hne
        digits := ?_
        value_eq := by rw [value_replicate_zero_append, h.value_eq]
        lt := h.lt }
    intro b hb
    rcases List.mem_append.mp hb with hb | hb
    · rw [(List.mem_replicate.mp hb).2]
      rfl
    · exact h.digits b hb

/-- A number is read if and only if it is written with one digit or more, with digits only, and
is less than `2 ^ 64`; leading zeros make no difference. The reader on words reads the same, and
no operation of its turns wraps around. -/
theorem reads_exactly_the_words (bytes : Bytes) :
    (∀ n, read? bytes = some n ↔
        bytes ≠ [] ∧ (∀ b ∈ bytes, isDigit b = true) ∧ value bytes = n ∧ n < 2 ^ 64) ∧
      (read? bytes = none ↔
        bytes = [] ∨ (∃ b ∈ bytes, isDigit b = false) ∨ 2 ^ 64 ≤ value bytes) ∧
      (bytes = [] ∨ ∀ zeros, read? (List.replicate zeros (digit 0) ++ bytes) = read? bytes) ∧
      (readWord? bytes).map UInt64.toNat = read? bytes ∧
      ∀ turn ∈ turnsFrom 0 bytes, turn.Exact := by
  refine ⟨fun n => ?_, read?_eq_none_iff_or, ?_, map_readWord? bytes,
    fun turn hturn => exact_of_mem_turnsFrom hturn⟩
  · rw [read?_eq_some_iff]
    exact ⟨fun h => ⟨h.ne_nil, h.digits, h.value_eq, h.lt⟩,
      fun ⟨hne, hdigits, hvalue, hless⟩ => ⟨hne, hdigits, hvalue, hless⟩⟩
  · by_cases hne : bytes = []
    · exact .inl hne
    · exact .inr fun zeros => read?_replicate_zero_append zeros hne

/-- The largest word is read to its last digit, and the last turn has room for no more. -/
theorem reads_exactly_the_words_of_largest :
    let bytes := Bytes.ofText "18446744073709551615"
    let last : Turn := { before := 1844674407370955161, byte := 53, after := 18446744073709551615 }
    read? bytes = some 18446744073709551615 ∧ last ∈ turnsFrom 0 bytes ∧ last.Exact := by
  intro bytes last
  obtain ⟨hread, -, -, -, hexact⟩ := reads_exactly_the_words bytes
  have hdigits : ∀ b ∈ bytes, isDigit b = true := List.all_eq_true.mp rfl
  have hvalue : value bytes = 18446744073709551615 := rfl
  have hlast : last ∈ turnsFrom 0 bytes := by decide
  exact ⟨(hread _).mpr ⟨by decide, hdigits, hvalue, by norm_num⟩, hlast, hexact last hlast⟩

end Decimal
end HttpEngine
