import HttpEngine.Proofs.Bytes.Trim
import Mathlib.Tactic.IntervalCases

/-!
# The bytes of texts

A text that is put together from parts has the bytes of its parts one after the other.
This is used to see that a text has no blank: `Solid` is closed under all the ways in
which the engine puts texts together, and for a fixed text it can be computed.
-/

namespace HttpEngine
namespace Bytes

@[simp]
theorem ofText_append (first second : String) :
    ofText (first ++ second) = ofText first ++ ofText second := by
  simp [ofText, String.toByteArray_append]

/-- No blank anywhere. -/
def Solid (bytes : Bytes) : Prop :=
  ∀ b ∈ bytes, isBlank b = false

instance (bytes : Bytes) : Decidable bytes.Solid :=
  List.decidableBAll _ _

variable {first second : Bytes}

theorem Solid.append (hfirst : first.Solid) (hsecond : second.Solid) :
    (first ++ second).Solid := by
  intro b hb
  rcases List.mem_append.mp hb with hb | hb
  · exact hfirst b hb
  · exact hsecond b hb

theorem Solid.startsClean (h : first.Solid) : first.StartsClean :=
  fun b hb => h b (List.mem_of_head? hb)

theorem Solid.endsClean (h : first.Solid) : first.EndsClean :=
  fun b hb => h b (List.mem_of_getLast? hb)

theorem Solid.space_not_mem (h : first.Solid) : space ∉ first := by
  intro hmem
  have hblank := h space hmem
  contradiction

theorem Solid.lineFeed_not_mem (h : first.Solid) : lineFeed ∉ first := by
  intro hmem
  have hblank := h lineFeed hmem
  contradiction

theorem solid_intercalate
    {separator : String} {parts : List String}
    (hseparator : (ofText separator).Solid) (hparts : ∀ part ∈ parts, (ofText part).Solid) :
    (ofText (separator.intercalate parts)).Solid := by
  induction parts with
  | nil =>
      rw [String.intercalate_nil]
      decide
  | cons part parts ih =>
      obtain ⟨hpart, hrest⟩ := List.forall_mem_cons.mp hparts
      cases parts with
      | nil => rwa [String.intercalate_singleton]
      | cons other parts =>
          rw [String.intercalate_cons_cons, ofText_append, ofText_append]
          exact (hpart.append hseparator).append (ih hrest)

/-- Numbers up to hexadecimal have no blanks. The induction is on the digits. -/
theorem solid_toDigits {base : Nat} (hbase : 1 < base) (hle : base ≤ 16) (n : Nat) :
    (ofText (String.ofList (Nat.toDigits base n))).Solid := by
  have hdigit : ∀ d < base, (ofText (String.ofList [Nat.digitChar d])).Solid := by
    intro d hd
    have hless : d < 16 := by omega
    interval_cases d <;> decide
  induction n using Nat.strongRecOn with
  | ind n ih =>
      by_cases hless : n < base
      · rw [Nat.toDigits_of_lt_base hless]
        exact hdigit n hless
      · have hdiv : n / base < n := Nat.div_lt_self (by omega) hbase
        rw [Nat.toDigits_of_base_le hbase (by omega), String.ofList_append, ofText_append]
        exact (ih _ hdiv).append (hdigit _ (Nat.mod_lt n (by omega)))

theorem solid_toString (n : Nat) : (ofText (toString n)).Solid :=
  solid_toDigits (by decide) (by decide) n

end Bytes
end HttpEngine
