import HttpEngine.Route.Endpoint

/-!
# A single changed byte changes the hash

Each step of the hash of an endpoint takes in a word by an exclusive or and multiplies by
an odd factor, which has an inverse modulo `2 ^ 64`. So a step loses nothing: two different
states stay different when they take in the same word, and one state becomes two different
ones when it takes in different words.

Two endpoints whose parts have the same lengths take in the same words but for their bytes.
If they differ in one byte alone, their states agree up to this byte, differ right after it
and stay different to the end.
-/

namespace HttpEngine

/-- At how many positions two byte strings of one length differ. -/
def Bytes.differences (a b : Bytes) : Nat :=
  (a.zip b).countP fun pair => pair.1 != pair.2

namespace Bytes

theorem differences_cons (x y : UInt8) (a b : Bytes) :
    differences (x :: a) (y :: b) = differences a b + if x = y then 0 else 1 := by
  rw [differences, List.zip_cons_cons, List.countP_cons, ← differences]
  by_cases hsame : x = y
  · simp [hsame]
  · simp [hsame]

/-- Byte strings of one length that differ nowhere are equal. -/
theorem eq_of_differences_eq_zero
    {a b : Bytes} (hlength : a.length = b.length) (hzero : differences a b = 0) :
    a = b := by
  induction a generalizing b with
  | nil => exact (List.length_eq_zero_iff.mp hlength.symm).symm
  | cons x a ih =>
      cases b with
      | nil => contradiction
      | cons y b =>
          rw [List.length_cons, List.length_cons] at hlength
          rw [differences_cons] at hzero
          by_cases hsame : x = y
          · have hrest : a = b := ih (by omega) (by omega)
            rw [hsame, hrest]
          · rw [if_neg hsame] at hzero
            omega

end Bytes

namespace Endpoint

/-- The number that undoes a multiplication by the factor of the hash. -/
def hashPrimeInverse : UInt64 := 0xce965057aff6957b

theorem hashPrime_mul_inverse : hashPrime * hashPrimeInverse = 1 := by
  decide

/-- Takes some bytes into a running hash, without their length. -/
def mixEach (state : UInt64) (bytes : Bytes) : UInt64 :=
  bytes.foldl (fun state b => mix state b.toUInt64) state

theorem mixBytes_eq (state : UInt64) (bytes : Bytes) :
    mixBytes state bytes = mixEach (mix state (UInt64.ofNat bytes.length)) bytes :=
  rfl

/-! ## No step loses anything -/

/-- The odd factor can be cancelled. -/
theorem mul_hashPrime_inj {a b : UInt64} : a * hashPrime = b * hashPrime ↔ a = b := by
  constructor
  · intro h
    calc
      a = a * (hashPrime * hashPrimeInverse) := by rw [hashPrime_mul_inverse, UInt64.mul_one]
      _ = b * (hashPrime * hashPrimeInverse) := by
        rw [← UInt64.mul_assoc, h, UInt64.mul_assoc]
      _ = b := by rw [hashPrime_mul_inverse, UInt64.mul_one]
  · rintro rfl
    rfl

theorem mix_left_inj {state other word : UInt64} :
    mix state word = mix other word ↔ state = other := by
  rw [mix, mix, mul_hashPrime_inj, UInt64.xor_left_inj]

theorem mix_right_inj {state word other : UInt64} :
    mix state word = mix state other ↔ word = other := by
  rw [mix, mix, mul_hashPrime_inj, UInt64.xor_right_inj]

theorem mixEach_left_inj {state other : UInt64} {bytes : Bytes} :
    mixEach state bytes = mixEach other bytes ↔ state = other := by
  induction bytes generalizing state other with
  | nil => exact Iff.rfl
  | cons b bytes ih => exact ih.trans mix_left_inj

theorem mixBytes_left_inj {state other : UInt64} {bytes : Bytes} :
    mixBytes state bytes = mixBytes other bytes ↔ state = other := by
  rw [mixBytes_eq, mixBytes_eq, mixEach_left_inj, mix_left_inj]

/-! ## One difference -/

/-- The induction is on the bytes: before the difference the states agree, and after it the
rest is the same. -/
theorem mixEach_ne
    {a b : Bytes} (state : UInt64) (hlength : a.length = b.length)
    (hone : a.differences b = 1) :
    mixEach state a ≠ mixEach state b := by
  induction a generalizing b state with
  | nil => contradiction
  | cons x a ih =>
      cases b with
      | nil => contradiction
      | cons y b =>
          rw [List.length_cons, List.length_cons] at hlength
          rw [Bytes.differences_cons] at hone
          by_cases hsame : x = y
          · subst hsame
            rw [if_pos rfl] at hone
            exact ih _ (by omega) hone
          · rw [if_neg hsame] at hone
            have hrest : a = b := Bytes.eq_of_differences_eq_zero (by omega) (by omega)
            subst hrest
            intro hhash
            have hword := mix_right_inj.mp (mixEach_left_inj.mp hhash)
            exact hsame (UInt8.toUInt64_inj.mp hword)

theorem mixBytes_ne
    {a b : Bytes} (state : UInt64) (hlength : a.length = b.length)
    (hone : a.differences b = 1) :
    mixBytes state a ≠ mixBytes state b := by
  rw [mixBytes_eq, mixBytes_eq, hlength]
  exact mixEach_ne _ hlength hone

/-- Two endpoints with methods of one length and paths of one length that differ in exactly
one byte, wherever it is, have different hashes. -/
theorem hashCode_ne_of_one_difference
    {endpoint other : Endpoint}
    (hmethod : endpoint.method.length = other.method.length)
    (hpath : endpoint.path.length = other.path.length)
    (hone : endpoint.method.differences other.method +
      endpoint.path.differences other.path = 1) :
    endpoint.hashCode ≠ other.hashCode := by
  rw [hashCode, hashCode]
  by_cases hsame : endpoint.method.differences other.method = 0
  · rw [Bytes.eq_of_differences_eq_zero hmethod hsame]
    exact mixBytes_ne _ hpath (by omega)
  · have hequal : endpoint.path.differences other.path = 0 := by omega
    rw [Bytes.eq_of_differences_eq_zero hpath hequal]
    intro hhash
    have hmethods := mixBytes_left_inj.mp hhash
    exact mixBytes_ne hashSeed hmethod (by omega) hmethods

/-- A difference in the first byte of the method survives all the bytes that follow. -/
theorem hashCode_ne_of_first_byte :
    let endpoint : Endpoint := { method := [71, 69, 84], path := [47, 97, 98] }
    let other : Endpoint := { method := [83, 69, 84], path := [47, 97, 98] }
    endpoint.method.length = other.method.length ∧ endpoint.path.length = other.path.length ∧
      endpoint.method.differences other.method + endpoint.path.differences other.path = 1 ∧
      endpoint.hashCode ≠ other.hashCode :=
  ⟨rfl, rfl, by decide, hashCode_ne_of_one_difference rfl rfl (by decide)⟩

end Endpoint
end HttpEngine
