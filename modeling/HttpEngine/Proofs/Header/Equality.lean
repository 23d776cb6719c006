import HttpEngine.Proofs.Header.Edits
import HttpEngine.Request
import Mathlib.Data.List.Forall2

/-!
# Equal header maps and equal requests

Header maps are compared with their indexes, though the index of a coherent map says
nothing that the list of headers does not say. Two coherent maps are equal if and only if
they have the same headers in the same order, names up to the case of their letters and
values byte for byte. Equal lists have equal indexes, since a name stands at the same
position in both, so the indexes can never make a difference, and a different order of the
headers always does.
-/

namespace HttpEngine

/-- The same headers in the same order, names up to the case of their letters. -/
def SameHeaders (headers others : List Header) : Prop :=
  List.Forall₂
    (fun header other => header.name.folded = other.name.folded ∧ header.value = other.value)
    headers others

/-- The same parts, byte for byte except for the case of letters in names of headers. -/
structure SameContent (request other : Request) : Prop where
  method_eq : request.method = other.method
  route_eq : request.route = other.route
  version_eq : request.version = other.version
  body_eq : request.body = other.body
  headers_same : SameHeaders request.headers.headers other.headers.headers

theorem beq_header_iff {header other : Header} :
    (header == other) = true ↔
      header.name.folded = other.name.folded ∧ header.value = other.value := by
  have hparts : (header == other) = true ↔
      (header.name == other.name) = true ∧ (header.value == other.value) = true :=
    Bool.and_eq_true_iff
  rw [hparts, beq_name_iff, beq_iff_eq]

theorem beq_headers_iff {headers others : List Header} :
    (headers == others) = true ↔ SameHeaders headers others := by
  induction headers generalizing others with
  | nil => cases others <;> simp [SameHeaders]
  | cons header headers ih =>
      cases others with
      | nil => simp [SameHeaders]
      | cons other others =>
          rw [List.cons_beq_cons, Bool.and_eq_true, beq_header_iff, ih, SameHeaders, SameHeaders,
            List.forall₂_cons]

/-- The same headers have every name at the same position. -/
theorem SameHeaders.findIdx?_eq
    {headers others : List Header} (hsame : SameHeaders headers others) (name : HeaderName) :
    (headers.findIdx? fun header => header.name == name) =
      others.findIdx? fun header => header.name == name := by
  induction hsame with
  | nil => rfl
  | @cons header other headers others hhead htail ih =>
      have hname : (header.name == name) = (other.name == name) :=
        BEq.congr_left (beq_name_iff.mpr hhead.1)
      rw [List.findIdx?_cons, List.findIdx?_cons, hname, ih]

namespace HeaderMap

/-- The indexes of coherent maps with the same headers are equal. -/
theorem Coherent.sameIndex
    {map other : HeaderMap} (h : map.Coherent) (hother : other.Coherent)
    (hsame : SameHeaders map.headers other.headers) :
    map.sameIndex other = true := by
  have hsize : map.index.size = other.index.size := by
    rw [h.index_size, hother.index_size, hsame.length_eq]
  have hindex : ∀ name : HeaderName, other.index[name]? = map.index[name]? := by
    intro name
    rw [h.index_eq, hother.index_eq, hsame.findIdx?_eq]
  rw [HeaderMap.sameIndex, Bool.and_eq_true, beq_iff_eq, Std.ExtHashMap.isEmpty_iff,
    Std.ExtHashMap.filter_eq_empty_iff]
  refine ⟨hsize, ?_⟩
  intro name hname
  have hspelling := Std.ExtHashMap.getElem?_congr (m := map.index)
    (Std.ExtHashMap.getKey_beq hname)
  rw [hindex, hspelling, Std.ExtHashMap.getElem?_eq_some_getElem hname]
  exact bne_self_eq_false _

/-- Coherent maps are equal if and only if they have the same headers. -/
theorem Coherent.beq_iff
    {map other : HeaderMap} (h : map.Coherent) (hother : other.Coherent) :
    (map == other) = true ↔ SameHeaders map.headers other.headers := by
  have hboth : (map == other) = true ↔
      (map.headers == other.headers) = true ∧ map.sameIndex other = true :=
    Bool.and_eq_true_iff
  rw [hboth, beq_headers_iff]
  exact ⟨And.left, fun hsame => ⟨hsame, h.sameIndex hother hsame⟩⟩

set_option maxRecDepth 1600 in
/-- The same headers in another order are not the same. -/
example :
    (empty.editAll [.insert ⟨[97]⟩ [49], .insert ⟨[98]⟩ [50]] ==
      empty.editAll [.insert ⟨[98]⟩ [50], .insert ⟨[97]⟩ [49]]) = false := by
  cbv

end HeaderMap

/-- Requests with coherent headers are equal if and only if they have the same content. -/
theorem Request.beq_iff
    {request other : Request}
    (h : request.headers.Coherent) (hother : other.headers.Coherent) :
    (request == other) = true ↔ SameContent request other := by
  have hparts : (request == other) = true ↔
      request.method = other.method ∧ request.route = other.route ∧
        request.version = other.version ∧ (request.headers == other.headers) = true ∧
          request.body = other.body := by
    show Request.same request other = true ↔ _
    simp only [Request.same, Bool.and_eq_true, beq_iff_eq, and_assoc]
  rw [hparts, h.beq_iff hother]
  constructor
  · rintro ⟨hmethod, hroute, hversion, hheaders, hbody⟩
    exact ⟨hmethod, hroute, hversion, hbody, hheaders⟩
  · intro hsame
    exact ⟨hsame.method_eq, hsame.route_eq, hsame.version_eq, hsame.headers_same,
      hsame.body_eq⟩

end HttpEngine
