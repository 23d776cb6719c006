import HttpEngine.Bytes
import Mathlib.Data.List.DropRight
import Mathlib.Data.List.TakeWhile

/-!
# What trimming leaves

A trimmed byte string is described from outside: it starts or ends with no
blank, and what surrounds it is blank. A part of a byte string that fits the
description is what `trim` and `trimEnd` find there.

The same is done for the end of a line: `LineOf raw line` says that `raw` is
`line`, with one carriage return after it or without any.
-/

namespace HttpEngine
namespace Bytes

/-- Nothing but blanks. -/
def Blank (bytes : Bytes) : Prop :=
  ∀ b ∈ bytes, isBlank b = true

/-- The first byte, if there is one, is no blank. -/
def StartsClean (bytes : Bytes) : Prop :=
  ∀ b, bytes.head? = some b → isBlank b = false

/-- The last byte, if there is one, is no blank. -/
def EndsClean (bytes : Bytes) : Prop :=
  ∀ b, bytes.getLast? = some b → isBlank b = false

/-- A line and the bytes before the line feed that ended it. -/
inductive LineOf : Bytes → Bytes → Prop
  | bare {line : Bytes} (hlast : line.getLast? ≠ some carriageReturn) : LineOf line line
  | returned (line : Bytes) : LineOf (line ++ [carriageReturn]) line

theorem trimEnd_eq_rdropWhile (bytes : Bytes) :
    bytes.trimEnd = bytes.rdropWhile isBlank := rfl

/-- Nothing but blanks is trimmed away. -/
theorem exists_blank_append_of_trimEnd (bytes : Bytes) :
    ∃ blanks, bytes = bytes.trimEnd ++ blanks ∧ Blank blanks := by
  refine ⟨(bytes.reverse.takeWhile isBlank).reverse, ?_, ?_⟩
  · rw [trimEnd, ← List.reverse_append, List.takeWhile_append_dropWhile, List.reverse_reverse]
  · intro b hb
    exact List.mem_takeWhile_imp (List.mem_reverse.mp hb)

theorem endsClean_trimEnd (bytes : Bytes) : EndsClean bytes.trimEnd := by
  intro b hb
  rw [trimEnd_eq_rdropWhile] at hb
  have hne : bytes.rdropWhile isBlank ≠ [] := by
    intro hnil
    rw [hnil] at hb
    contradiction
  have hlast := List.rdropWhile_last_not isBlank bytes hne
  rw [List.getLast?_eq_some_getLast hne, Option.some.injEq] at hb
  rw [hb] at hlast
  exact Bool.eq_false_iff.mpr hlast

theorem trimEnd_eq_nil_iff {bytes : Bytes} :
    bytes.trimEnd = [] ↔ Blank bytes := by
  rw [trimEnd_eq_rdropWhile, List.rdropWhile_eq_nil_iff]
  rfl

theorem trimEnd_eq_self {bytes : Bytes} (hend : EndsClean bytes) :
    bytes.trimEnd = bytes := by
  rw [trimEnd_eq_rdropWhile, List.rdropWhile_eq_self_iff]
  intro hne
  have hlast := hend (bytes.getLast hne) (List.getLast?_eq_some_getLast hne)
  simp [hlast]

theorem trimEnd_append_blank
    (bytes : Bytes) {blanks : Bytes} (hblank : Blank blanks) :
    (bytes ++ blanks).trimEnd = bytes.trimEnd := by
  have hreverse : ∀ b ∈ blanks.reverse, isBlank b = true :=
    fun b hb => hblank b (List.mem_reverse.mp hb)
  rw [trimEnd, trimEnd, List.reverse_append, List.dropWhile_append_of_pos hreverse]

/-- The front part of a byte string starts with no blank either. -/
theorem startsClean_of_append
    {bytes : Bytes} (more : Bytes)
    (hstart : StartsClean (bytes ++ more)) :
    StartsClean bytes := by
  intro b hb
  cases bytes with
  | nil => contradiction
  | cons x bytes => exact hstart b hb

theorem startsClean_dropWhile (bytes : Bytes) : StartsClean (bytes.dropWhile isBlank) := by
  intro b hb
  have hhead := List.head?_dropWhile_not isBlank bytes
  rw [hb] at hhead
  exact Bool.eq_false_iff.mpr (by simpa using hhead)

/-- What trimming at both ends takes away and what it leaves. -/
theorem exists_blank_append_of_trim (bytes : Bytes) :
    ∃ before after, bytes = before ++ bytes.trim ++ after ∧ Blank before ∧ Blank after ∧
      StartsClean bytes.trim ∧ EndsClean bytes.trim := by
  obtain ⟨after, hafter, hblank⟩ :=
    exists_blank_append_of_trimEnd (bytes.dropWhile isBlank)
  refine ⟨bytes.takeWhile isBlank, after, ?_, ?_, hblank, ?_, endsClean_trimEnd _⟩
  · calc
      bytes = bytes.takeWhile isBlank ++ bytes.dropWhile isBlank :=
        List.takeWhile_append_dropWhile.symm
      _ = bytes.takeWhile isBlank ++ (bytes.trim ++ after) := by
        rw [trim, ← hafter]
      _ = bytes.takeWhile isBlank ++ bytes.trim ++ after := by
        rw [List.append_assoc]
  · intro b hb
    exact List.mem_takeWhile_imp hb
  · apply startsClean_of_append after
    rw [trim, ← hafter]
    exact startsClean_dropWhile bytes

/-- A part without blanks at its ends, among blanks, is what trimming finds. -/
theorem trim_append
    {before value after : Bytes}
    (hbefore : Blank before) (hafter : Blank after)
    (hstart : StartsClean value) (hend : EndsClean value) (hne : value ≠ []) :
    (before ++ value ++ after).trim = value := by
  cases value with
  | nil => contradiction
  | cons b value =>
      have hb : isBlank b = false := hstart b rfl
      have hdrop :
          (before ++ (b :: value) ++ after).dropWhile isBlank = (b :: value) ++ after := by
        rw [List.append_assoc, List.dropWhile_append_of_pos hbefore]
        simp [hb]
      rw [trim, hdrop, trimEnd_append_blank _ hafter, trimEnd_eq_self hend]

theorem trim_eq_nil_iff {bytes : Bytes} :
    bytes.trim = [] ↔ Blank bytes := by
  constructor
  · intro hnil
    obtain ⟨before, after, hbytes, hbefore, hafter, -, -⟩ := exists_blank_append_of_trim bytes
    rw [hnil, List.append_nil] at hbytes
    intro b hb
    rw [hbytes, List.mem_append] at hb
    rcases hb with hb | hb
    · exact hbefore b hb
    · exact hafter b hb
  · intro hblank
    have hdrop : bytes.dropWhile isBlank = [] := List.dropWhile_eq_nil_iff.mpr hblank
    rw [trim, hdrop]
    rfl

/-- The line before a line feed is what is left without its carriage return. -/
theorem lineOf_iff_dropReturn {raw line : Bytes} :
    LineOf raw line ↔ raw.dropReturn = line := by
  constructor
  · intro hline
    cases hline with
    | bare hlast => exact if_neg hlast
    | returned => simp [dropReturn]
  · rintro rfl
    unfold dropReturn
    split
    · next hlast =>
        obtain ⟨front, rfl⟩ := List.getLast?_eq_some_iff.mp hlast
        rw [List.dropLast_concat]
        exact LineOf.returned front
    · next hlast => exact LineOf.bare hlast

end Bytes
end HttpEngine
