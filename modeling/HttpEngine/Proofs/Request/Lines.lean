import HttpEngine.Proofs.Bytes.Cut
import HttpEngine.Proofs.Request.Grammar

/-!
# Taking request lines and header lines apart

Every line either is a request line or has a fault as a request line, and the
parser finds the parts or the fault; the same holds for header lines. So the
line predicates of the grammar and the functions that split lines decide the
same questions.
-/

namespace HttpEngine
namespace Grammar

/-! ## Request lines -/

theorem RequestLine.split
    {line method route version : Bytes}
    (h : RequestLine line method route version) :
    Parser.splitRequestLine line = .ok (method, route, version) := by
  obtain ⟨blanks, rfl, hblank⟩ := h.parts
  have htrim : (version ++ blanks).trimEnd = version := by
    rw [Bytes.trimEnd_append_blank _ hblank, Bytes.trimEnd_eq_self h.version_end]
  simp [Parser.splitRequestLine, Bytes.cut?_append_cons _ h.method_free,
    Bytes.cut?_append_cons _ h.route_free, htrim, h.method_ne, h.route_ne, h.version_ne]

theorem RequestLineFault.split
    {line : Bytes} {fault : RequestFault}
    (h : RequestLineFault line fault) :
    Parser.splitRequestLine line = .error fault := by
  cases h with
  | noSpace hfree =>
      simp [Parser.splitRequestLine, Bytes.cut?_eq_none_iff.mpr hfree]
  | oneSpace hmethod hrest =>
      simp [Parser.splitRequestLine, Bytes.cut?_append_cons _ hmethod,
        Bytes.cut?_eq_none_iff.mpr hrest]
  | emptyPart hmethod hroute hempty =>
      simp only [Parser.splitRequestLine, Bytes.cut?_append_cons _ hmethod,
        Bytes.cut?_append_cons _ hroute]
      rw [if_pos]
      rcases hempty with hnil | hnil | hblank
      · simp [hnil]
      · simp [hnil]
      · simp [Bytes.trimEnd_eq_nil_iff.mpr hblank]

theorem RequestLineFault.code_eq
    {line : Bytes} {fault : RequestFault}
    (h : RequestLineFault line fault) :
    fault.code = .requestLineSyntax := by
  cases h <;> rfl

/-- A line is a request line or has a fault as one. -/
theorem requestLine_or_fault (line : Bytes) :
    (∃ method route version, RequestLine line method route version) ∨
      ∃ fault, RequestLineFault line fault := by
  cases hfirst : line.cut? Bytes.space with
  | none => exact Or.inr ⟨_, .noSpace (Bytes.cut?_eq_none_iff.mp hfirst)⟩
  | some parts =>
      obtain ⟨method, rest⟩ := parts
      obtain ⟨rfl, hmethod⟩ := Bytes.cut?_eq_some_iff.mp hfirst
      cases hsecond : rest.cut? Bytes.space with
      | none => exact Or.inr ⟨_, .oneSpace hmethod (Bytes.cut?_eq_none_iff.mp hsecond)⟩
      | some parts =>
          obtain ⟨route, tail⟩ := parts
          obtain ⟨rfl, hroute⟩ := Bytes.cut?_eq_some_iff.mp hsecond
          by_cases hempty : method = [] ∨ route = [] ∨ Bytes.Blank tail
          · exact Or.inr ⟨_, .emptyPart hmethod hroute hempty⟩
          · rw [not_or, not_or] at hempty
            obtain ⟨hmethodNe, hrouteNe, hblank⟩ := hempty
            obtain ⟨blanks, htail, hblanks⟩ := Bytes.exists_blank_append_of_trimEnd tail
            refine Or.inl ⟨method, route, tail.trimEnd, ?_⟩
            exact
              { parts := ⟨blanks, by rw [← htail], hblanks⟩
                method_free := hmethod
                route_free := hroute
                method_ne := hmethodNe
                route_ne := hrouteNe
                version_ne := fun hnil => hblank (Bytes.trimEnd_eq_nil_iff.mp hnil)
                version_end := Bytes.endsClean_trimEnd tail }

/-! ## Header lines -/

theorem HeaderLine.split
    {line : Bytes} {header : Header}
    (h : HeaderLine line header) :
    Parser.splitHeader line = .ok (header.name, header.value) := by
  obtain ⟨before, after, rfl, hbefore, hafter⟩ := h.parts
  have htrim : Bytes.trim (before ++ header.value ++ after) = header.value :=
    Bytes.trim_append hbefore hafter h.value_start h.value_end h.value_ne
  simp only [Parser.splitHeader, Bytes.cut?_append_cons _ h.name_free, htrim]
  simp [h.name_ne, h.value_ne]

theorem HeaderLineFault.split
    {line : Bytes} {fault : RequestFault}
    (h : HeaderLineFault line fault) :
    Parser.splitHeader line = .error fault := by
  cases h with
  | noColon hfree =>
      simp [Parser.splitHeader, Bytes.cut?_eq_none_iff.mpr hfree]
  | emptyName tail =>
      have hcut : Bytes.cut? Bytes.colon (Bytes.colon :: tail) = some ([], tail) :=
        Bytes.cut?_append_cons tail (List.not_mem_nil)
      simp [Parser.splitHeader, hcut]
  | emptyValue hname hne hblank =>
      simp [Parser.splitHeader, Bytes.cut?_append_cons _ hname, hne,
        Bytes.trim_eq_nil_iff.mpr hblank]

theorem HeaderLineFault.code_eq
    {line : Bytes} {fault : RequestFault}
    (h : HeaderLineFault line fault) :
    fault.code = .headerSyntax := by
  cases h <;> rfl

theorem HeaderLine.ne_nil
    {line : Bytes} {header : Header}
    (h : HeaderLine line header) :
    line ≠ [] := by
  obtain ⟨before, after, rfl, -, -⟩ := h.parts
  simp

/-- A line is a header line or has a fault as one. -/
theorem headerLine_or_fault (line : Bytes) :
    (∃ header, HeaderLine line header) ∨ ∃ fault, HeaderLineFault line fault := by
  cases hcut : line.cut? Bytes.colon with
  | none => exact Or.inr ⟨_, .noColon (Bytes.cut?_eq_none_iff.mp hcut)⟩
  | some parts =>
      obtain ⟨name, tail⟩ := parts
      obtain ⟨rfl, hname⟩ := Bytes.cut?_eq_some_iff.mp hcut
      by_cases hne : name = []
      · subst hne
        exact Or.inr ⟨_, .emptyName tail⟩
      · by_cases hblank : Bytes.Blank tail
        · exact Or.inr ⟨_, .emptyValue hname hne hblank⟩
        · obtain ⟨before, after, htail, hbefore, hafter, hstart, hend⟩ :=
            Bytes.exists_blank_append_of_trim tail
          refine Or.inl ⟨{ name := ⟨name⟩, value := tail.trim }, ?_⟩
          exact
            { parts := ⟨before, after, by rw [← htail], hbefore, hafter⟩
              name_free := hname
              name_ne := hne
              value_ne := fun hnil => hblank (Bytes.trim_eq_nil_iff.mp hnil)
              value_start := hstart
              value_end := hend }

end Grammar
end HttpEngine
