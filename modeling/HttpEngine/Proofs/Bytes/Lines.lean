import HttpEngine.Proofs.Bytes.Trim
import HttpEngine.Proofs.Bytes.Cut

/-!
# Lines and the empty line after them

A block is a number of lines, one after the other, each with its line end. When no line
of a block is empty and none has a line feed in it, the block can be told from what
follows it, whatever that is:

* the line end of an empty line right after the block is the first one that follows
  another line end;
* two blocks that are followed by an empty line agree only line by line;
* cutting at the line feeds gives the lines again.
-/

namespace HttpEngine
namespace Bytes

/-- The line end of a line and that of an empty line after it. -/
def gap : Bytes := lineEnd ++ lineEnd

/-- The first gap stands between two parts. -/
structure CutAtGap (bytes head rest : Bytes) : Prop where
  parts : bytes = head ++ (gap ++ rest)
  first : ∀ front back, bytes = front ++ (gap ++ back) → head.length ≤ front.length

/-- The pieces between the line feeds, each without a carriage return at its end. -/
def lines (bytes : Bytes) : List Bytes :=
  (bytes.splitOn lineFeed).map dropReturn

/-- Lines one after the other, each with its line end. -/
def block (lines : List Bytes) : Bytes :=
  lines.flatMap (· ++ lineEnd)

/-- A line that is neither empty nor broken, and that does not end in a blank. -/
structure IsLine (line : Bytes) : Prop where
  ne_nil : line ≠ []
  lineFeed_not_mem : lineFeed ∉ line
  endsClean : EndsClean line

/-- There is only one first gap. -/
theorem CutAtGap.unique
    {bytes head rest other back : Bytes}
    (h : CutAtGap bytes head rest) (hother : CutAtGap bytes other back) :
    head = other ∧ rest = back := by
  have hle := h.first other back hother.parts
  have hge := hother.first head rest h.parts
  have hparts := h.parts.symm.trans hother.parts
  obtain ⟨hhead, htail⟩ := List.append_inj hparts (Nat.le_antisymm hle hge)
  exact ⟨hhead, List.append_cancel_left htail⟩

theorem block_cons (line : Bytes) (lines : List Bytes) :
    block (line :: lines) = line ++ carriageReturn :: lineFeed :: block lines := by
  simp [block, lineEnd]

/-- The line end of the last line can be set apart. -/
theorem block_eq_intercalate {lines : List Bytes} (hne : lines ≠ []) :
    block lines = lineEnd.intercalate lines ++ lineEnd := by
  induction lines with
  | nil => contradiction
  | cons line lines ih =>
      cases lines with
      | nil => simp [block]
      | cons next lines =>
          rw [List.intercalate_cons_cons, List.append_assoc, ← ih (List.cons_ne_nil _ _)]
          simp [block]

/-- A line ends where its line feed is. -/
theorem append_lineEnd_inj
    {line other rest back : Bytes}
    (hline : lineFeed ∉ line) (hother : lineFeed ∉ other)
    (h : line ++ carriageReturn :: lineFeed :: rest =
      other ++ carriageReturn :: lineFeed :: back) :
    line = other ∧ rest = back := by
  have hreturn : lineFeed ≠ carriageReturn := by decide
  have hraw : lineFeed ∉ line ++ [carriageReturn] := by simp [hline, hreturn]
  have hrawOther : lineFeed ∉ other ++ [carriageReturn] := by simp [hother, hreturn]
  rw [List.append_cons, List.append_cons other] at h
  obtain ⟨hlines, hrests⟩ := append_cons_inj hraw hrawOther h
  exact ⟨List.append_cancel_right hlines, hrests⟩

/-- Two blocks, each followed by an empty line, agree only line by line. The induction is
on the lines of the one; the other has a line where it has one. -/
theorem block_append_inj
    {lines others : List Bytes} {rest back : Bytes}
    (hlines : ∀ line ∈ lines, IsLine line) (hothers : ∀ line ∈ others, IsLine line)
    (h : block lines ++ (lineEnd ++ rest) = block others ++ (lineEnd ++ back)) :
    lines = others ∧ rest = back := by
  induction lines generalizing others with
  | nil =>
      cases others with
      | nil => exact ⟨rfl, List.append_cancel_left (List.append_cancel_left h)⟩
      | cons other others =>
          obtain ⟨hother, -⟩ := List.forall_mem_cons.mp hothers
          rw [block_cons, List.append_assoc] at h
          have hends := append_lineEnd_inj List.not_mem_nil hother.lineFeed_not_mem h
          exact absurd hends.1.symm hother.ne_nil
  | cons line lines ih =>
      obtain ⟨hline, hlines⟩ := List.forall_mem_cons.mp hlines
      cases others with
      | nil =>
          rw [block_cons, List.append_assoc] at h
          have hends := append_lineEnd_inj hline.lineFeed_not_mem List.not_mem_nil h
          exact absurd hends.1 hline.ne_nil
      | cons other others =>
          obtain ⟨hother, hmore⟩ := List.forall_mem_cons.mp hothers
          rw [block_cons, block_cons, List.append_assoc, List.append_assoc] at h
          obtain ⟨rfl, htail⟩ :=
            append_lineEnd_inj hline.lineFeed_not_mem hother.lineFeed_not_mem h
          obtain ⟨rfl, hrest⟩ := ih hlines hmore htail
          exact ⟨rfl, hrest⟩

/-- No gap begins before the last line of a block has ended. The induction is on the
lines: a line feed before the gap is that of the first line, and behind it the block is
shorter; without one the gap begins at the end of the first line, and no line follows. -/
theorem length_block_le_of_gap
    {lines : List Bytes} {rest front back : Bytes}
    (hlines : ∀ line ∈ lines, IsLine line)
    (h : block lines ++ (lineEnd ++ rest) = front ++ (gap ++ back)) :
    (block lines).length ≤ front.length + 2 := by
  have hreturn : lineFeed ≠ carriageReturn := by decide
  induction lines generalizing front with
  | nil => simp [block]
  | cons line lines ih =>
      obtain ⟨hline, hmore⟩ := List.forall_mem_cons.mp hlines
      rw [block_cons, List.append_assoc] at h
      by_cases hfeed : lineFeed ∈ front
      · obtain ⟨first, behind, rfl, hfirst⟩ := List.eq_append_cons_of_mem hfeed
        have hraw : lineFeed ∉ line ++ [carriageReturn] := by
          simp [hline.lineFeed_not_mem, hreturn]
        have hcut :
            (line ++ [carriageReturn]) ++ lineFeed :: (block lines ++ (lineEnd ++ rest)) =
              first ++ lineFeed :: (behind ++ (gap ++ back)) := by
          simpa using h
        obtain ⟨rfl, hbehind⟩ := append_cons_inj hraw hfirst hcut
        have hle := ih hmore hbehind
        simp only [block_cons, List.length_append, List.length_cons, List.length_nil]
        omega
      · have hgap : front ++ (gap ++ back) =
            front ++ carriageReturn :: lineFeed :: (block [] ++ (lineEnd ++ back)) := rfl
        obtain ⟨rfl, hnone⟩ := append_lineEnd_inj hline.lineFeed_not_mem hfeed (h.trans hgap)
        obtain ⟨rfl, -⟩ := block_append_inj hmore (by simp) hnone
        simp [block, lineEnd]

/-- The first gap is the end of a block and of the empty line after it. -/
theorem cutAtGap_block
    {lines : List Bytes} (hlines : ∀ line ∈ lines, IsLine line) (hne : lines ≠ [])
    (rest : Bytes) :
    CutAtGap (block lines ++ (lineEnd ++ rest)) (lineEnd.intercalate lines) rest where
  parts := by simp [block_eq_intercalate hne, gap]
  first := by
    intro front back hgap
    have hle := length_block_le_of_gap hlines hgap
    rw [block_eq_intercalate hne, List.length_append] at hle
    exact Nat.le_of_add_le_add_right hle

theorem dropReturn_of_endsClean {line : Bytes} (h : EndsClean line) : line.dropReturn = line := by
  refine if_neg ?_
  intro hlast
  have hblank := h carriageReturn hlast
  contradiction

theorem lines_append_lineEnd {line : Bytes} (hfree : lineFeed ∉ line) (rest : Bytes) :
    lines (line ++ carriageReturn :: lineFeed :: rest) = line :: lines rest := by
  have hraw : ∀ b ∈ line ++ [carriageReturn], (b == lineFeed) = false := by
    intro b hb
    rw [beq_eq_false_iff_ne]
    rintro rfl
    rcases List.mem_append.mp hb with hb | hb
    · exact hfree hb
    · exact absurd (List.mem_singleton.mp hb) (by decide)
  have hreturned : dropReturn (line ++ [carriageReturn]) = line := by simp [dropReturn]
  rw [lines, List.append_cons, List.splitOn,
    List.splitOnP_append_cons_of_forall_mem hraw lineFeed (beq_self_eq_true _), List.map_cons,
    hreturned]
  rfl

/-- Cutting at the line feeds gives the lines again. -/
theorem lines_intercalate
    {lines : List Bytes} (hlines : ∀ line ∈ lines, IsLine line) (hne : lines ≠ []) :
    Bytes.lines (lineEnd.intercalate lines) = lines := by
  induction lines with
  | nil => contradiction
  | cons line lines ih =>
      obtain ⟨hline, hmore⟩ := List.forall_mem_cons.mp hlines
      cases lines with
      | nil =>
          have hraw : ∀ b ∈ line, (b == lineFeed) = false := by
            intro b hb
            rw [beq_eq_false_iff_ne]
            rintro rfl
            exact hline.lineFeed_not_mem hb
          rw [List.intercalate_singleton, Bytes.lines, List.splitOn,
            List.splitOnP_eq_singleton hraw, List.map_singleton,
            dropReturn_of_endsClean hline.endsClean]
      | cons next lines =>
          have hend : lineEnd = [carriageReturn, lineFeed] := rfl
          rw [List.intercalate_cons_cons, hend, List.append_assoc, List.cons_append,
            List.cons_append, List.nil_append, lines_append_lineEnd hline.lineFeed_not_mem,
            ← hend, ih hmore (List.cons_ne_nil _ _)]

end Bytes
end HttpEngine
