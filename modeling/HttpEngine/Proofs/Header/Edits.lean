import HttpEngine.Proofs.Header.Index
import Mathlib.Data.List.Nodup

/-!
# Header maps under edits

A header map is edited by offering it headers and by clearing it. A header that is offered
is appended unless its name is taken in some spelling; then nothing changes.

After any edits a header map is coherent: its names are pairwise different once folded, and
the index sends each name, in every spelling, to the position of the header of that name in
the list, and knows no others. So every question that the index answers can be answered
from the list of headers alone. The list has the first header of each name that was offered
since the map was cleared, as it was spelled, in the order of their arrival.
-/

namespace HttpEngine

/-- The bytes of a name with its capitals in lower case. -/
def HeaderName.folded (name : HeaderName) : Bytes :=
  name.bytes.map Bytes.fold

theorem beq_name_iff {header : Header} {name : HeaderName} :
    (header.name == name) = true ↔ header.name.folded = name.folded :=
  HeaderName.beq_iff

namespace HeaderMap

/-- What can be done to a header map. -/
inductive Edit where
  /-- Offer a header. -/
  | insert (name : HeaderName) (value : Bytes)
  /-- Remove all headers. -/
  | clear

/-- Makes an edit. A header that is refused changes nothing. -/
def edit (map : HeaderMap) : Edit → HeaderMap
  | .insert name value => (map.insert? name value).getD map
  | .clear => map.clear

/-- Makes edits one after the other. -/
def editAll (map : HeaderMap) (edits : List Edit) : HeaderMap :=
  edits.foldl edit map

/-- The headers that were offered since the map was cleared, in order. -/
def offered (edits : List Edit) : List Header :=
  edits.foldl (fun headers made =>
    match made with
    | .insert name value => headers ++ [{ name := name, value := value }]
    | .clear => []) []

/-- The first header of each name, in order. -/
def firstOfEachName (headers : List Header) : List Header :=
  headers.eraseDupsBy fun later earlier => later.name == earlier.name

/-- The names differ once folded, and the index has the position of each header under its
name and nothing else. -/
structure Coherent (map : HeaderMap) : Prop where
  names_nodup : (map.headers.map fun header => header.name.folded).Nodup
  index_eq : ∀ name : HeaderName,
    map.index[name]? = map.headers.findIdx? fun header => header.name == name
  index_size : map.index.size = map.headers.length

/-- What a header map answers is said by its list of headers: a name is looked up in any
spelling, a header whose name is taken is refused and changes nothing, and any other header
is appended. -/
structure Answers (map : HeaderMap) : Prop where
  get?_eq_some_iff : ∀ (name : HeaderName) (value : Bytes),
    map.get? name = some value ↔
      ∃ header ∈ map.headers, header.name.folded = name.folded ∧ header.value = value
  get?_eq_none_iff : ∀ name : HeaderName,
    map.get? name = none ↔ ∀ header ∈ map.headers, header.name.folded ≠ name.folded
  contains_iff : ∀ name : HeaderName,
    map.contains name = true ↔ ∃ header ∈ map.headers, header.name.folded = name.folded
  insert?_eq_none_iff : ∀ (name : HeaderName) (value : Bytes),
    map.insert? name value = none ↔ map.contains name = true
  edit_of_contains : ∀ (name : HeaderName) (value : Bytes),
    map.contains name = true → map.edit (.insert name value) = map
  headers_of_insert? : ∀ (name : HeaderName) (value : Bytes) (next : HeaderMap),
    map.insert? name value = some next →
      next = map.edit (.insert name value) ∧
        next.headers = map.headers ++ [{ name := name, value := value }]

theorem editAll_concat (map : HeaderMap) (edits : List Edit) (made : Edit) :
    map.editAll (edits ++ [made]) = (map.editAll edits).edit made := by
  rw [editAll, List.foldl_append]
  rfl

theorem editAll_append (map : HeaderMap) (edits others : List Edit) :
    map.editAll (edits ++ others) = (map.editAll edits).editAll others :=
  List.foldl_append

theorem withCapacity_eq_empty (capacity : Nat) : withCapacity capacity = empty := by
  rw [empty, withCapacity_eq_ofHeaders_nil, withCapacity_eq_ofHeaders_nil]

theorem clear_eq_empty (map : HeaderMap) : map.clear = empty :=
  withCapacity_eq_empty _

theorem insert?_eq_none_iff {map : HeaderMap} {name : HeaderName} {value : Bytes} :
    map.insert? name value = none ↔ map.contains name = true := by
  unfold insert?
  split
  · next htaken => exact iff_of_true rfl htaken
  · next hnew => exact iff_of_false nofun hnew

theorem insert?_eq_some_iff {map next : HeaderMap} {name : HeaderName} {value : Bytes} :
    map.insert? name value = some next ↔
      map.contains name = false ∧
        next =
          { headers := map.headers ++ [{ name := name, value := value }]
            index := map.index.insert name map.headers.length } := by
  unfold insert?
  split
  · next htaken =>
      refine iff_of_false nofun ?_
      rintro ⟨hnew, -⟩
      rw [contains, htaken] at hnew
      contradiction
  · next hnew =>
      rw [Option.some.injEq, contains, Bool.eq_false_iff, eq_comm]
      exact (and_iff_right hnew).symm

/-! ## Names -/

/-- A name that no header has may be added to names that differ. -/
theorem names_nodup_concat {headers : List Header} {header : Header}
    (hnodup : (headers.map fun header => header.name.folded).Nodup)
    (hfresh : Fresh headers header.name) :
    ((headers ++ [header]).map fun header => header.name.folded).Nodup := by
  rw [List.map_append, List.map_singleton, List.nodup_append]
  refine ⟨hnodup, List.nodup_singleton _, ?_⟩
  rintro taken htaken _ hnew rfl
  obtain ⟨other, hother, rfl⟩ := List.mem_map.mp htaken
  have hsame := beq_name_iff.mpr (List.mem_singleton.mp hnew)
  rw [hfresh other hother] at hsame
  contradiction

theorem findIdx?_name_eq_none_iff {headers : List Header} {name : HeaderName} :
    (headers.findIdx? fun header => header.name == name) = none ↔ Fresh headers name := by
  rw [List.findIdx?_eq_none_iff]
  exact Iff.rfl

/-! ## Coherence -/

theorem coherent_empty : empty.Coherent := by
  rw [empty, withCapacity_eq_ofHeaders_nil]
  exact ⟨List.nodup_nil, fun _ => Std.ExtHashMap.getElem?_empty, Std.ExtHashMap.size_empty⟩

namespace Coherent

variable {map next : HeaderMap}

/-- The index knows a name if and only if a header has it. -/
theorem contains_eq_false_iff (h : map.Coherent) {name : HeaderName} :
    map.contains name = false ↔ Fresh map.headers name := by
  rw [contains, Std.ExtHashMap.contains_eq_isSome_getElem?, h.index_eq,
    Option.isSome_eq_false_iff, Option.isNone_iff_eq_none, findIdx?_name_eq_none_iff]

/-- Looking a name up finds what the header of that name holds. -/
theorem get?_eq (h : map.Coherent) (name : HeaderName) :
    map.get? name =
      (map.headers.find? fun header => header.name == name).map Header.value := by
  rw [List.find?_eq_bind_findIdx?_getElem?, ← h.index_eq, get?, Option.map_bind]
  exact Option.bind_congr fun position _ => Option.map_eq_bind.symm

/-- A header that is accepted stands at the position that the index has for it. -/
theorem insert?
    (h : map.Coherent) {name : HeaderName} {value : Bytes}
    (hinsert : map.insert? name value = some next) :
    next.Coherent := by
  obtain ⟨hnew, rfl⟩ := insert?_eq_some_iff.mp hinsert
  have hfresh : Fresh map.headers name := h.contains_eq_false_iff.mp hnew
  refine ⟨names_nodup_concat h.names_nodup hfresh, ?_, ?_⟩
  · intro other
    rw [Std.ExtHashMap.getElem?_insert, List.findIdx?_append, h.index_eq]
    cases hsame : name == other with
    | true =>
        have hother : Fresh map.headers other :=
          fun header hheader => BEq.congr_right hsame ▸ hfresh header hheader
        rw [findIdx?_name_eq_none_iff.mpr hother]
        simp [List.findIdx?_cons, hsame]
    | false => simp [List.findIdx?_cons, hsame]
  · have habsent : name ∉ map.index := by
      rw [Std.ExtHashMap.mem_iff_contains]
      exact Bool.eq_false_iff.mp hnew
    rw [Std.ExtHashMap.size_insert, if_neg habsent, h.index_size, List.length_append]
    rfl

/-- There is one header of a name at most, so the one that is found is the one that there
is. -/
theorem find?_eq_some_iff (h : map.Coherent) {name : HeaderName} {header : Header} :
    (map.headers.find? fun header => header.name == name) = some header ↔
      header ∈ map.headers ∧ header.name.folded = name.folded := by
  constructor
  · intro hfind
    have hname := List.find?_some hfind
    exact ⟨List.mem_of_find?_eq_some hfind, beq_name_iff.mp hname⟩
  · rintro ⟨hmem, hname⟩
    cases hfind : map.headers.find? fun header => header.name == name with
    | none =>
        have hother := List.find?_eq_none.mp hfind header hmem
        exact absurd (beq_name_iff.mpr hname) hother
    | some found =>
        have hfound := List.find?_some hfind
        have hsame := List.inj_on_of_nodup_map h.names_nodup
          (List.mem_of_find?_eq_some hfind) hmem ((beq_name_iff.mp hfound).trans hname.symm)
        rw [hsame]

theorem contains_iff (h : map.Coherent) {name : HeaderName} :
    map.contains name = true ↔ ∃ header ∈ map.headers, header.name.folded = name.folded := by
  rw [← Bool.not_eq_false, h.contains_eq_false_iff, Fresh]
  push Not
  simp only [ne_eq, Bool.not_eq_false, beq_name_iff]

/-- In a coherent header map the list of headers decides every answer. -/
theorem answers (h : map.Coherent) : map.Answers where
  get?_eq_some_iff := by
    intro name value
    rw [h.get?_eq, Option.map_eq_some_iff]
    simp only [h.find?_eq_some_iff, and_assoc]
  get?_eq_none_iff := by
    intro name
    rw [h.get?_eq, Option.map_eq_none_iff, List.find?_eq_none]
    simp only [beq_name_iff, ne_eq]
  contains_iff := fun name => h.contains_iff
  insert?_eq_none_iff := fun name value => HeaderMap.insert?_eq_none_iff
  edit_of_contains := by
    intro name value hcontains
    rw [HeaderMap.edit, HeaderMap.insert?_eq_none_iff.mpr hcontains]
    rfl
  headers_of_insert? := by
    intro name value next hinsert
    rw [HeaderMap.edit, hinsert]
    obtain ⟨-, rfl⟩ := insert?_eq_some_iff.mp hinsert
    exact ⟨rfl, rfl⟩

theorem edit (h : map.Coherent) (made : Edit) : (map.edit made).Coherent := by
  cases made with
  | insert name value =>
      cases hinsert : map.insert? name value with
      | none =>
          rw [HeaderMap.edit, hinsert]
          exact h
      | some next =>
          rw [HeaderMap.edit, hinsert]
          exact h.insert? hinsert
  | clear =>
      rw [HeaderMap.edit, clear_eq_empty]
      exact coherent_empty

theorem editAll (h : map.Coherent) (edits : List Edit) : (map.editAll edits).Coherent := by
  induction edits generalizing map with
  | nil => exact h
  | cons made edits ih => exact ih (h.edit made)

end Coherent

/-! ## The headers that are kept -/

theorem loop_append
    (same : Header → Header → Bool) (headers later kept : List Header) :
    List.eraseDupsBy.loop same (headers ++ later) kept =
      List.eraseDupsBy.loop same later (List.eraseDupsBy.loop same headers kept).reverse := by
  induction headers generalizing kept with
  | nil =>
      rw [List.nil_append, List.eraseDupsBy.loop, List.reverse_reverse]
  | cons header headers ih =>
      simp only [List.cons_append, List.eraseDupsBy.loop]
      split
      · exact ih kept
      · exact ih (header :: kept)

/-- The last header is kept if its name is not yet among those that are kept. -/
theorem firstOfEachName_concat (headers : List Header) (header : Header) :
    firstOfEachName (headers ++ [header]) =
      if (firstOfEachName headers).any (fun earlier => header.name == earlier.name) then
        firstOfEachName headers
      else firstOfEachName headers ++ [header] := by
  unfold firstOfEachName List.eraseDupsBy
  rw [loop_append, List.eraseDupsBy.loop, List.any_reverse]
  split
  · next htaken => simp [htaken, List.eraseDupsBy.loop]
  · next hnew => simp [hnew, List.eraseDupsBy.loop]

/-- A header that is offered is appended if its name is new. -/
theorem headers_edit_insert
    {map : HeaderMap} (hcoherent : map.Coherent) (name : HeaderName) (value : Bytes) :
    (map.edit (.insert name value)).headers =
      if map.headers.any (fun earlier => name == earlier.name) then map.headers
      else map.headers ++ [{ name := name, value := value }] := by
  have hany : map.index.contains name = map.headers.any fun earlier => name == earlier.name := by
    rw [Std.ExtHashMap.contains_eq_isSome_getElem?, hcoherent.index_eq, List.findIdx?_isSome]
    exact List.any_congr rfl fun earlier => BEq.comm
  rw [edit, insert?, hany]
  split <;> rfl

/-- The headers are the first of each name that was offered. -/
theorem headers_editAll (edits : List Edit) :
    (empty.editAll edits).headers = firstOfEachName (offered edits) := by
  induction edits using List.reverseRecOn with
  | nil => rfl
  | append_singleton edits made ih =>
      rw [editAll_concat, offered, List.foldl_append]
      cases made with
      | insert name value =>
          have hconcat := firstOfEachName_concat (offered edits) { name := name, value := value }
          rw [headers_edit_insert (coherent_empty.editAll edits), ih]
          exact hconcat.symm
      | clear => rfl

end HeaderMap
end HttpEngine
