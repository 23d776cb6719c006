import HttpEngine.Proofs.Bytes.Cut
import HttpEngine.Proofs.Bytes.Trim

/-!
# Reading by positions

A byte string can be taken apart by positions: a byte is looked for, and the part
between two positions is read. A part whose ends are out of order or behind the end of
the string is not there, and neither is a difference that is less than zero.

A position at which a byte was found in a string is in range for that string, so what
is read there is there, and it is what cutting and trimming find.
-/

namespace HttpEngine

/-- What is left of a number, if the other one is no greater. -/
def difference? (a b : Nat) : Option Nat :=
  if b ≤ a then some (a - b) else none

theorem difference?_of_le {a b : Nat} (h : b ≤ a) : difference? a b = some (a - b) :=
  if_pos h

namespace Bytes

/-- The bytes from one position up to another, if both are in range. -/
def slice? (bytes : Bytes) (first last : Nat) : Option Bytes :=
  if first ≤ last ∧ last ≤ bytes.length then some ((bytes.take last).drop first) else none

/-- The position of the last byte that is no blank. -/
def lastClean? (bytes : Bytes) : Option Nat :=
  (bytes.reverse.findIdx? fun b => !isBlank b).map fun back => bytes.length - 1 - back

/-- The bytes from the first one without a property on. -/
def skipAt? (p : UInt8 → Bool) (bytes : Bytes) : Option Bytes :=
  bytes.slice? ((bytes.findIdx? fun b => !p b).getD bytes.length) bytes.length

/-- The bytes up to the last one that is no blank. -/
def trimEndAt? (bytes : Bytes) : Option Bytes :=
  bytes.slice? 0 (bytes.lastClean?.elim 0 (· + 1))

/-- The bytes from the first one that is no blank up to the last one. -/
def trimAt? (bytes : Bytes) : Option Bytes := do
  let rest ← bytes.skipAt? isBlank
  rest.trimEndAt?

/-- A part of a byte string stands between the positions of its ends. -/
theorem slice?_append
    (head part tail : Bytes) {first last : Nat}
    (hfirst : first = head.length) (hlast : last = head.length + part.length) :
    (head ++ (part ++ tail)).slice? first last = some part := by
  have hpart : (head ++ (part ++ tail)).take last = head ++ part := by
    rw [← List.append_assoc, hlast, ← List.length_append, List.take_left]
  have hrange : first ≤ last ∧ last ≤ (head ++ (part ++ tail)).length := by
    rw [List.length_append, List.length_append]
    omega
  rw [slice?, if_pos hrange, hpart, hfirst, List.drop_left]

theorem slice?_head (head tail : Bytes) : (head ++ tail).slice? 0 head.length = some head :=
  slice?_append [] head tail rfl (Nat.zero_add _).symm

theorem slice?_tail
    (head tail : Bytes) {first : Nat} (hfirst : first = head.length) :
    (head ++ tail).slice? first (head ++ tail).length = some tail := by
  have htail := slice?_append head tail [] hfirst List.length_append
  rwa [List.append_nil] at htail

theorem slice?_take {bytes : Bytes} {count : Nat} (h : count ≤ bytes.length) :
    bytes.slice? 0 count = some (bytes.take count) := by
  have hhead := slice?_head (bytes.take count) (bytes.drop count)
  rwa [List.take_append_drop, List.length_take_of_le h] at hhead

theorem slice?_drop {bytes : Bytes} {count : Nat} (h : count ≤ bytes.length) :
    bytes.slice? count bytes.length = some (bytes.drop count) := by
  have htail :=
    slice?_tail (bytes.take count) (bytes.drop count) (List.length_take_of_le h).symm
  rwa [List.take_append_drop] at htail

/-- What follows a mark. -/
theorem slice?_after (head : Bytes) (mark : UInt8) (tail : Bytes) :
    (head ++ mark :: tail).slice? (head.length + 1) (head ++ mark :: tail).length = some tail := by
  have hlength : head.length + 1 = (head ++ [mark]).length := by simp
  have htail := slice?_tail (head ++ [mark]) tail hlength
  rwa [List.append_assoc, List.singleton_append] at htail

/-- What is looked for is found behind bytes that are not it. -/
theorem findIdx?_append_cons
    {p : UInt8 → Bool} {head : Bytes} {b : UInt8} (tail : Bytes)
    (hhead : ∀ x ∈ head, p x = false) (hb : p b = true) :
    (head ++ b :: tail).findIdx? p = some head.length := by
  have hnone : head.findIdx? p = none := List.findIdx?_eq_none_iff.mpr hhead
  rw [List.findIdx?_append, hnone, List.findIdx?_cons, if_pos hb, Option.none_or,
    Option.map_some, Nat.zero_add]

theorem idxOf?_of_not_mem {mark : UInt8} {bytes : Bytes} (hfree : mark ∉ bytes) :
    bytes.idxOf? mark = none :=
  List.idxOf?_eq_none_iff.mpr hfree

theorem idxOf?_append_cons
    {mark : UInt8} {head : Bytes} (tail : Bytes) (hfree : mark ∉ head) :
    (head ++ mark :: tail).idxOf? mark = some head.length := by
  refine findIdx?_append_cons tail ?_ (beq_self_eq_true mark)
  intro x hx
  exact beq_eq_false_iff_ne.mpr fun heq => hfree (heq ▸ hx)

/-- Skipping is in range. -/
theorem skipAt?_eq (p : UInt8 → Bool) (bytes : Bytes) :
    bytes.skipAt? p = some (bytes.dropWhile p) := by
  have hlength :
      (bytes.findIdx? fun b => !p b).getD bytes.length = (bytes.takeWhile p).length := by
    rw [← List.findIdx_eq_getD_findIdx?, List.takeWhile_eq_take_findIdx_not, List.length_take,
      Nat.min_eq_left List.findIdx_le_length]
  have hsplit : bytes = bytes.takeWhile p ++ bytes.dropWhile p :=
    List.takeWhile_append_dropWhile.symm
  have htail := slice?_tail (bytes.takeWhile p) (bytes.dropWhile p) hlength
  rwa [← hsplit] at htail

theorem lastClean?_of_blank {bytes : Bytes} (hblank : Blank bytes) : bytes.lastClean? = none := by
  have hnone : (bytes.reverse.findIdx? fun b => !isBlank b) = none := by
    rw [List.findIdx?_eq_none_iff]
    intro b hb
    rw [hblank b (List.mem_reverse.mp hb)]
    rfl
  rw [lastClean?, hnone, Option.map_none]

theorem lastClean?_append_cons
    (init : Bytes) {b : UInt8} {blanks : Bytes}
    (hclean : isBlank b = false) (hblank : Blank blanks) :
    (init ++ b :: blanks).lastClean? = some init.length := by
  have hback :
      ((init ++ b :: blanks).reverse.findIdx? fun b => !isBlank b) = some blanks.length := by
    have hreverse : (init ++ b :: blanks).reverse = blanks.reverse ++ b :: init.reverse := by
      simp
    have hlength : blanks.length = blanks.reverse.length := List.length_reverse.symm
    rw [hreverse, hlength]
    refine findIdx?_append_cons init.reverse ?_ ?_
    · intro x hx
      rw [hblank x (List.mem_reverse.mp hx)]
      rfl
    · rw [hclean]
      rfl
  rw [lastClean?, hback, Option.map_some, List.length_append, List.length_cons]
  congr 1
  omega

/-- Trimming at the end is in range. -/
theorem trimEndAt?_eq (bytes : Bytes) : bytes.trimEndAt? = some bytes.trimEnd := by
  obtain ⟨blanks, hbytes, hblank⟩ := exists_blank_append_of_trimEnd bytes
  have hhead := slice?_head bytes.trimEnd blanks
  rw [← hbytes] at hhead
  rcases List.eq_nil_or_concat bytes.trimEnd with hnil | ⟨init, b, hconcat⟩
  · rw [trimEndAt?, lastClean?_of_blank (trimEnd_eq_nil_iff.mp hnil), Option.elim_none]
    rwa [hnil] at hhead ⊢
  · have hclean : isBlank b = false := by
      refine endsClean_trimEnd bytes b ?_
      rw [hconcat, List.concat_eq_append, List.getLast?_concat]
    have hlast : bytes.lastClean? = some init.length := by
      rw [hbytes, hconcat, List.concat_eq_append, List.append_assoc]
      exact lastClean?_append_cons init hclean hblank
    have hlength : init.length + 1 = bytes.trimEnd.length := by
      rw [hconcat, List.length_concat]
    rw [trimEndAt?, hlast, Option.elim_some, hlength]
    exact hhead

/-- Trimming at both ends is in range. -/
theorem trimAt?_eq (bytes : Bytes) : bytes.trimAt? = some bytes.trim := by
  rw [trimAt?, skipAt?_eq, Option.bind_eq_bind, Option.bind_some, trimEndAt?_eq, trim]

end Bytes
end HttpEngine
