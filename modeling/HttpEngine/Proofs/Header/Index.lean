import HttpEngine.Header.Map
import Mathlib.Data.List.Induction

/-!
# Header maps and their lists of headers

A header map is determined by its list of headers: the index sends the name of
each header to the position of the header in the list. `ofHeaders` is the map
of a list, and inserting a header whose name is new appends it to the list.
-/

namespace HttpEngine

/-- No header of the list has that name, in any spelling. -/
def Fresh (headers : List Header) (name : HeaderName) : Prop :=
  ∀ header ∈ headers, (header.name == name) = false

namespace HeaderMap

/-- The map of a list of headers. -/
def ofHeaders (headers : List Header) : HeaderMap :=
  { headers := headers
    index := headers.zipIdx.foldl (fun index entry => index.insert entry.1.name entry.2) ∅ }

theorem withCapacity_eq_ofHeaders_nil (capacity : Nat) :
    withCapacity capacity = ofHeaders [] := by
  unfold withCapacity
  rw [Std.ExtHashMap.emptyWithCapacity_eq]
  rfl

theorem index_ofHeaders_concat (headers : List Header) (header : Header) :
    (ofHeaders (headers ++ [header])).index =
      (ofHeaders headers).index.insert header.name headers.length := by
  simp [ofHeaders, List.zipIdx_append]

/-- The index knows the names of the headers and no others. -/
theorem contains_ofHeaders (headers : List Header) (name : HeaderName) :
    (ofHeaders headers).index.contains name =
      headers.any fun header => header.name == name := by
  induction headers using List.reverseRecOn with
  | nil => simp [ofHeaders]
  | append_singleton headers header ih =>
      rw [index_ofHeaders_concat, Std.ExtHashMap.contains_insert, ih, List.any_append]
      simp [Bool.or_comm]

theorem contains_ofHeaders_eq_false_iff
    {headers : List Header} {name : HeaderName} :
    (ofHeaders headers).index.contains name = false ↔ Fresh headers name := by
  rw [contains_ofHeaders, List.any_eq_false]
  simp [Fresh]

/-- The index knows no positions but those of the headers. -/
theorem lt_of_index_ofHeaders
    {headers : List Header} {name : HeaderName} {position : Nat}
    (hindex : (ofHeaders headers).index[name]? = some position) :
    position < headers.length := by
  induction headers using List.reverseRecOn with
  | nil => simp [ofHeaders] at hindex
  | append_singleton headers header ih =>
      rw [index_ofHeaders_concat, Std.ExtHashMap.getElem?_insert] at hindex
      rw [List.length_append, List.length_singleton]
      split at hindex
      · rw [← Option.some.inj hindex]
        exact Nat.lt_succ_self _
      · exact Nat.lt_succ_of_lt (ih hindex)

theorem get?_ofHeaders_nil (name : HeaderName) : (ofHeaders []).get? name = none := by
  simp [ofHeaders, get?]

/-- The last header is found under its name, and the others as before. -/
theorem get?_ofHeaders_concat (headers : List Header) (header : Header) (name : HeaderName) :
    (ofHeaders (headers ++ [header])).get? name =
      if header.name == name then some header.value else (ofHeaders headers).get? name := by
  simp only [get?, index_ofHeaders_concat, Std.ExtHashMap.getElem?_insert]
  cases hname : header.name == name with
  | true => simp [ofHeaders]
  | false =>
      simp only [Bool.false_eq_true, if_false]
      cases hindex : (ofHeaders headers).index[name]? with
      | none => rfl
      | some position =>
          have hlt := lt_of_index_ofHeaders hindex
          simp only [ofHeaders, Option.bind_eq_bind, Option.bind_some,
            List.getElem?_append_left hlt]

/-- A header with a new name is appended. -/
theorem insert?_ofHeaders_of_fresh
    {headers : List Header} {name : HeaderName} (value : Bytes)
    (hfresh : Fresh headers name) :
    (ofHeaders headers).insert? name value =
      some (ofHeaders (headers ++ [{ name := name, value := value }])) := by
  have hindex := index_ofHeaders_concat headers { name := name, value := value }
  have hnew := contains_ofHeaders_eq_false_iff.mpr hfresh
  simp only [insert?, hnew, Bool.false_eq_true, if_false, Option.some.injEq]
  rw [ofHeaders, mk.injEq]
  exact ⟨rfl, hindex.symm⟩

/-- A header with a name that is taken is refused. -/
theorem insert?_ofHeaders_of_not_fresh
    {headers : List Header} {name : HeaderName} (value : Bytes)
    (htaken : ¬ Fresh headers name) :
    (ofHeaders headers).insert? name value = none := by
  have hknown : (ofHeaders headers).index.contains name = true := by
    rw [← contains_ofHeaders_eq_false_iff] at htaken
    simpa using htaken
  simp only [insert?, hknown, if_true]

end HeaderMap
end HttpEngine
