import HttpEngine.Bytes

/-!
# Case folding of bytes

The only letters that have a case on the wire are the 26 of ASCII. `fold` sends
`A` to `a`, … `Z` to `z` and leaves each of the other 230 bytes alone, so `@`
and the grave accent, which differ in the same bit, stay distinct.

The folded form of a byte is looked up in a table that has a place for every
byte and is filled place by place. A capital is filed with the one bit set that
tells small letters from capitals; no capital has that bit, so setting it is
adding 32.
-/

namespace HttpEngine
namespace Bytes

/-- The lower-case form of an ASCII capital; every other byte is its own. -/
def fold (b : UInt8) : UInt8 :=
  if 65 ≤ b ∧ b ≤ 90 then b + 32 else b

/-- What the table has for a byte. -/
def foldEntry (b : UInt8) : UInt8 :=
  if 65 ≤ b ∧ b ≤ 90 then b ||| 32 else b

/-- What is filed at a place and at those after it, one place in each turn. -/
def foldEntries (place : Nat) : (turns : Nat) → List UInt8
  | 0 => []
  | turns + 1 => foldEntry (UInt8.ofNat place) :: foldEntries (place + 1) turns

theorem length_foldEntries (place turns : Nat) :
    (foldEntries place turns).length = turns := by
  induction turns generalizing place with
  | zero => rfl
  | succ turns ih => rw [foldEntries, List.length_cons, ih]

/-- The table, with every place filled. -/
def foldTable : Vector UInt8 256 :=
  ⟨(foldEntries 0 256).toArray, length_foldEntries 0 256⟩

/-- The folded form of a byte as the table has it. -/
def foldAt (b : UInt8) : UInt8 :=
  have hplace : b.toNat < 256 := b.toNat_lt
  foldTable[b.toNat]

/-- Two byte strings of one length that agree byte by byte once folded. -/
def sameFolded (a b : Bytes) : Bool :=
  a.length == b.length && (a.zip b).all fun pair => foldAt pair.1 == foldAt pair.2

/-- The bit that a capital is filed with is the one that adding 32 sets. -/
theorem foldEntry_eq (b : UInt8) : foldEntry b = fold b := by
  have hcapitals : ∀ place : Nat, place < 26 →
      UInt8.ofNat (65 + place) ||| 32 = UInt8.ofNat (65 + place) + 32 := by
    decide
  rw [foldEntry, fold]
  split
  · next hcapital =>
      have hlow : 65 ≤ b.toNat := UInt8.le_iff_toNat_le.mp hcapital.1
      have hhigh : b.toNat ≤ 90 := UInt8.le_iff_toNat_le.mp hcapital.2
      have hplace := hcapitals (b.toNat - 65) (by omega)
      rwa [Nat.add_sub_cancel' hlow, UInt8.ofNat_toNat] at hplace
  · rfl

/-- Each turn files the folded form of its place. -/
theorem foldEntries_eq (place turns : Nat) :
    foldEntries place turns =
      (List.range' place turns).map fun place => fold (UInt8.ofNat place) := by
  induction turns generalizing place with
  | zero => rfl
  | succ turns ih => rw [foldEntries, foldEntry_eq, ih, List.range'_succ, List.map_cons]

/-- The table folds capitals and nothing else. -/
theorem foldAt_eq (b : UInt8) : foldAt b = fold b := by
  simp [foldAt, foldTable, foldEntries_eq]

/-- Agreeing byte by byte is the same as having equal folded forms. -/
theorem sameFolded_iff {a b : Bytes} :
    sameFolded a b = true ↔ a.map fold = b.map fold := by
  simp only [sameFolded, foldAt_eq]
  induction a generalizing b with
  | nil => cases b <;> simp
  | cons x a ih =>
      cases b with
      | nil => simp
      | cons y b =>
          -- The lengths come first, so the bytes in front change places with them.
          have htail := @ih b
          simp only [Bool.and_eq_true, beq_iff_eq] at htail
          simp [← htail, and_left_comm]

end Bytes
end HttpEngine
