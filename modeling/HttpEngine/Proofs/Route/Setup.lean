import HttpEngine.Proofs.Route.Lookup
import Mathlib.Data.List.Dedup
import Mathlib.Data.List.Perm.Basic

/-!
# Setting up routes

Routes are registered one after the other, and registries that were filled in the same
way are merged in between. Written out in one line, a merged registry's registrations
stand where it is merged. A request is then answered by the first of the registrations
for its method and path:

* a registry lists its routes in no order of its own, neither when it is merged nor when
  it is frozen, and what comes out does not depend on the order;
* of the registrations for one endpoint all but the first are ignored, each with a
  warning.
-/

namespace HttpEngine

/-- How a registry is filled: the calls up to the last one. -/
inductive RouteSetup where
  /-- Nothing is registered. -/
  | blank
  | add (before : RouteSetup) (route : Route)
  | map (before : RouteSetup) (method path : Bytes) (handler : Handler)
  | mapVerb (before : RouteSetup) (verb : Verb) (path : Bytes) (answer : Answer)
  /-- A registry that was filled by another setup is merged. -/
  | merge (before other : RouteSetup)

/-- All registrations in one line. -/
def RouteSetup.registrations : RouteSetup → List Route
  | .blank => []
  | .add before route => before.registrations ++ [route]
  | .map before method path handler =>
      before.registrations ++ [({ method := method, path := path }, handler)]
  | .mapVerb before verb path answer => before.registrations ++ [verb.route path answer]
  | .merge before other => before.registrations ++ other.registrations

/-- The registries that a setup can lead to. A registry that is merged gives its routes
in some order. -/
inductive Fills : RouteSetup → Registry → Prop
  | blank : Fills .blank .empty
  | add {before : RouteSetup} {registry : Registry} (route : Route)
      (hbefore : Fills before registry) :
      Fills (.add before route) (registry.add route)
  | map {before : RouteSetup} {registry : Registry} (method path : Bytes) (handler : Handler)
      (hbefore : Fills before registry) :
      Fills (.map before method path handler) (registry.map method path handler)
  | mapVerb {before : RouteSetup} {registry : Registry} (verb : Verb) (path : Bytes)
      (answer : Answer)
      (hbefore : Fills before registry) :
      Fills (.mapVerb before verb path answer) (registry.mapVerb verb path answer)
  | merge {before other : RouteSetup} {registry merged : Registry} {order : List Route}
      (hbefore : Fills before registry)
      (hother : Fills other merged)
      (horder : order.Perm merged.routes.toList) :
      Fills (.merge before other) (registry.mergeInOrder merged order)

/-- The handler of the first of some registrations for an endpoint. -/
def firstHandler? (registrations : List Route) (endpoint : Endpoint) : Option Handler :=
  (registrations.find? fun route => route.1 == endpoint).map Prod.snd

theorem firstHandler?_singleton (route : Route) (endpoint : Endpoint) :
    firstHandler? [route] endpoint = if route.1 == endpoint then some route.2 else none := by
  cases hroute : route.1 == endpoint <;> simp [firstHandler?, hroute]

theorem firstHandler?_append (first second : List Route) (endpoint : Endpoint) :
    firstHandler? (first ++ second) endpoint =
      (firstHandler? first endpoint).or (firstHandler? second endpoint) := by
  rw [firstHandler?, List.find?_append, Option.map_or]
  rfl

theorem firstHandler?_eq_none_iff {registrations : List Route} {endpoint : Endpoint} :
    firstHandler? registrations endpoint = none ↔
      ∀ route ∈ registrations, route.1 ≠ endpoint := by
  simp [firstHandler?, List.find?_eq_none]

namespace Registry

variable {registry merged : Registry}
variable {registrations others : List Route}

/-- A new endpoint is kept beside the others. -/
theorem keys_insert_perm {route : Route} (hnew : route.1 ∉ registry.routes) :
    (registry.routes.insert route.1 route.2).keys.Perm (route.1 :: registry.routes.keys) := by
  have hall :
      (registry.routes.toList.filter fun entry => decide ¬(route.1 == entry.1) = true) =
        registry.routes.toList := by
    rw [List.filter_eq_self]
    intro entry hentry
    have hmem : entry.1 ∈ registry.routes := by
      rw [← Std.HashMap.mem_keys, ← Std.HashMap.map_fst_toList_eq_keys]
      exact List.mem_map_of_mem hentry
    have hne : route.1 ≠ entry.1 := fun heq => hnew (heq ▸ hmem)
    simpa using hne
  have hinsert : (registry.routes.insert route.1 route.2).toList.Perm _ :=
    Std.HashMap.toList_insert_perm
  rw [hall] at hinsert
  have hkeys := hinsert.map Prod.fst
  rwa [Std.HashMap.map_fst_toList_eq_keys, List.map_cons,
    Std.HashMap.map_fst_toList_eq_keys] at hkeys

/-- What was registered first stays. -/
theorem getElem?_add (registry : Registry) (route : Route) (endpoint : Endpoint) :
    (registry.add route).routes[endpoint]? =
      (registry.routes[endpoint]?).or (firstHandler? [route] endpoint) := by
  rw [firstHandler?_singleton]
  unfold add
  split
  · next htaken =>
      cases hroute : route.1 == endpoint with
      | true =>
          rw [eq_of_beq hroute, ← Std.HashMap.isSome_getElem?_eq_contains] at htaken
          exact (Option.or_of_isSome htaken).symm
      | false => exact Option.or_none.symm
  · next hfree =>
      rw [Std.HashMap.getElem?_insert]
      cases hroute : route.1 == endpoint with
      | true =>
          rw [eq_of_beq hroute, ← Std.HashMap.isSome_getElem?_eq_contains,
            Option.not_isSome_iff_eq_none] at hfree
          rw [hfree, Option.none_or, if_pos rfl]
      | false => exact Option.or_none.symm

/-- A registration is kept or ignored. -/
theorem perm_add (registry : Registry) (route : Route) :
    ((registry.add route).ignored ++ (registry.add route).endpoints).Perm
      (registry.ignored ++ registry.endpoints ++ [route.1]) := by
  unfold add
  split
  · rw [List.append_assoc, List.append_assoc]
    exact List.perm_append_comm.append_left _
  · next hfree =>
      rw [← Std.HashMap.mem_iff_contains] at hfree
      have hkeys := (keys_insert_perm hfree).trans (List.perm_append_singleton _ _).symm
      rw [List.append_assoc]
      exact hkeys.append_left _

theorem getElem?_addAll (registry : Registry) (routes : List Route) (endpoint : Endpoint) :
    (registry.addAll routes).routes[endpoint]? =
      (registry.routes[endpoint]?).or (firstHandler? routes endpoint) := by
  induction routes generalizing registry with
  | nil => exact Option.or_none.symm
  | cons route routes ih =>
      have hsplit := firstHandler?_append [route] routes endpoint
      rw [List.singleton_append] at hsplit
      have hrest : ((registry.add route).addAll routes).routes[endpoint]? = _ := ih _
      rw [getElem?_add, Option.or_assoc, ← hsplit] at hrest
      exact hrest

theorem perm_addAll (registry : Registry) (routes : List Route) :
    ((registry.addAll routes).ignored ++ (registry.addAll routes).endpoints).Perm
      (registry.ignored ++ registry.endpoints ++ routes.map Prod.fst) := by
  induction routes generalizing registry with
  | nil =>
      rw [List.map_nil, List.append_nil]
      exact List.Perm.refl _
  | cons route routes ih =>
      have hfirst := (registry.perm_add route).append_right (routes.map Prod.fst)
      rw [List.append_assoc _ [route.1], List.singleton_append, ← List.map_cons] at hfirst
      exact (ih (registry.add route)).trans hfirst

/-- A registry has the first registration of every endpoint, and each registration has
been kept or ignored. -/
structure Reflects (registry : Registry) (registrations : List Route) : Prop where
  getElem?_eq :
    ∀ endpoint : Endpoint, registry.routes[endpoint]? = firstHandler? registrations endpoint
  perm : (registry.ignored ++ registry.endpoints).Perm (registrations.map Prod.fst)

theorem reflects_empty : empty.Reflects [] := by
  refine ⟨fun _ => Std.HashMap.getElem?_empty, ?_⟩
  rw [endpoints, empty, Std.HashMap.keys_empty]
  exact List.Perm.refl _

theorem Reflects.add (h : registry.Reflects registrations) (route : Route) :
    (registry.add route).Reflects (registrations ++ [route]) := by
  refine ⟨?_, ?_⟩
  · intro endpoint
    rw [getElem?_add, h.getElem?_eq, firstHandler?_append]
  · rw [List.map_append]
    exact (registry.perm_add route).trans (h.perm.append_right _)

/-- The routes of a merged registry count as its registrations do, in whatever order
they come. -/
theorem Reflects.mergeInOrder
    {order : List Route} (h : registry.Reflects registrations) (hmerged : merged.Reflects others)
    (horder : order.Perm merged.routes.toList) :
    (registry.mergeInOrder merged order).Reflects (registrations ++ others) := by
  refine ⟨?_, ?_⟩
  · intro endpoint
    have hfirst : firstHandler? order endpoint = firstHandler? others endpoint :=
      (merged.find?_of_perm horder endpoint).trans (hmerged.getElem?_eq endpoint)
    rw [Registry.mergeInOrder, getElem?_addAll, h.getElem?_eq, hfirst, firstHandler?_append]
  · have hendpoints : (order.map Prod.fst).Perm merged.endpoints := by
      have hkeys := horder.map Prod.fst
      rwa [Std.HashMap.map_fst_toList_eq_keys] at hkeys
    have hall :=
      perm_addAll { registry with ignored := registry.ignored ++ merged.ignored } order
    rw [List.map_append]
    calc
      List.Perm
          ((registry.mergeInOrder merged order).ignored ++
            (registry.mergeInOrder merged order).endpoints)
          (registry.ignored ++ merged.ignored ++ registry.endpoints ++ order.map Prod.fst) := hall
      List.Perm _ (registry.ignored ++ merged.ignored ++ registry.endpoints ++ merged.endpoints) :=
        hendpoints.append_left _
      List.Perm _ (registry.ignored ++ registry.endpoints ++ (merged.ignored ++ merged.endpoints)) := by
        simp only [List.append_assoc]
        exact (List.perm_append_comm_assoc _ _ _).append_left _
      List.Perm _ (registrations.map Prod.fst ++ others.map Prod.fst) := h.perm.append hmerged.perm

theorem Reflects.mem_endpoints_iff (h : registry.Reflects registrations) {endpoint : Endpoint} :
    endpoint ∈ registry.endpoints ↔ endpoint ∈ registrations.map Prod.fst := by
  have hmissing :
      firstHandler? registrations endpoint = none ↔ endpoint ∉ registrations.map Prod.fst := by
    rw [firstHandler?_eq_none_iff, List.mem_map]
    push Not
    exact Iff.rfl
  rw [endpoints, Std.HashMap.mem_keys, Std.HashMap.mem_iff_isSome_getElem?, h.getElem?_eq,
    Option.isSome_iff_ne_none, Ne, hmissing, not_not]

/-- The endpoints of a registry are those of its registrations, each once. -/
theorem Reflects.endpoints_perm (h : registry.Reflects registrations) :
    registry.endpoints.Perm (registrations.map Prod.fst).dedup := by
  have hnodup : registry.endpoints.Nodup := Std.HashMap.nodup_keys
  rw [List.perm_ext_iff_of_nodup hnodup (List.nodup_dedup _)]
  intro endpoint
  rw [List.mem_dedup]
  exact h.mem_endpoints_iff

theorem Reflects.size_eq (h : registry.Reflects registrations) :
    registry.size = (registrations.map Prod.fst).dedup.length :=
  Std.HashMap.length_keys.symm.trans h.endpoints_perm.length_eq

end Registry

/-- Whatever order the routes come in, a setup leads to a registry that has the first
registrations. The induction is on how the registry is filled. -/
theorem Fills.reflects
    {setup : RouteSetup} {registry : Registry} (hfills : Fills setup registry) :
    registry.Reflects setup.registrations := by
  induction hfills with
  | blank => exact Registry.reflects_empty
  | add route hbefore ih => exact ih.add route
  | map method path handler hbefore ih => exact ih.add _
  | mapVerb verb path answer hbefore ih => exact ih.add _
  | merge hbefore hother horder ih ihother => exact ih.mergeInOrder ihother horder

theorem RouteSetup.exists_fills (setup : RouteSetup) : ∃ registry, Fills setup registry := by
  induction setup with
  | blank => exact ⟨_, .blank⟩
  | add before route ih =>
      obtain ⟨registry, hbefore⟩ := ih
      exact ⟨_, .add route hbefore⟩
  | map before method path handler ih =>
      obtain ⟨registry, hbefore⟩ := ih
      exact ⟨_, .map method path handler hbefore⟩
  | mapVerb before verb path answer ih =>
      obtain ⟨registry, hbefore⟩ := ih
      exact ⟨_, .mapVerb verb path answer hbefore⟩
  | merge before other ih ihother =>
      obtain ⟨registry, hbefore⟩ := ih
      obtain ⟨merged, hother⟩ := ihother
      exact ⟨_, .merge hbefore hother (List.Perm.refl _)⟩

/-- A table answers each method and path by the first registration for them, byte by
byte, and lists their endpoints each once. -/
structure RouteTable.AnswersFrom (table : RouteTable) (registrations : List Route) : Prop where
  lookup_eq :
    ∀ method path : Bytes, table.lookup method path = firstHandler? registrations ⟨method, path⟩
  lookup_eq_none_iff :
    ∀ method path : Bytes,
      table.lookup method path = none ↔ ∀ route ∈ registrations, route.1 ≠ ⟨method, path⟩
  endpoints_perm : table.endpoints.Perm (registrations.map Prod.fst).dedup
  size_eq : table.size = (registrations.map Prod.fst).dedup.length

/-- In whatever order a registry gives its routes, its table answers from the
registrations that the registry has been filled with. -/
theorem Registry.Reflects.answersFrom
    {registry : Registry} {registrations order : List Route}
    (h : registry.Reflects registrations) (horder : order.Perm registry.routes.toList) :
    (RouteTable.ofRoutes order).AnswersFrom registrations := by
  have hlookup : ∀ method path : Bytes,
      (RouteTable.ofRoutes order).lookup method path =
        firstHandler? registrations ⟨method, path⟩ := by
    intro method path
    rw [RouteTable.lookup_ofRoutes, registry.find?_of_perm horder, h.getElem?_eq]
  have hendpoints : (order.map Prod.fst).Perm registry.endpoints := by
    have hkeys := horder.map Prod.fst
    rwa [Std.HashMap.map_fst_toList_eq_keys] at hkeys
  have hperm : (order.map Prod.fst).Perm (registrations.map Prod.fst).dedup :=
    hendpoints.trans h.endpoints_perm
  exact
    { lookup_eq := hlookup
      lookup_eq_none_iff := fun method path => by rw [hlookup, firstHandler?_eq_none_iff]
      endpoints_perm := (RouteTable.endpoints_ofRoutes_perm order).trans hperm
      size_eq := by
        rw [← hperm.length_eq, List.length_map]
        rfl }

/-- A setup leads to a registry, and whatever order registries give their routes in, when
they are merged and when they are frozen: the table answers each method and path by the
first registration for them, it has as many routes as there are endpoints, and the
registrations that it does not have were ignored, each with a warning. -/
theorem first_registration_answers (setup : RouteSetup) :
    (∃ registry, Fills setup registry) ∧
      ∀ (registry : Registry) (order : List Route),
        Fills setup registry → order.Perm registry.routes.toList →
          (RouteTable.ofRoutes order).AnswersFrom setup.registrations ∧
            registry.size = (RouteTable.ofRoutes order).size ∧
            registry.ignored.length + (RouteTable.ofRoutes order).size =
              setup.registrations.length := by
  refine ⟨setup.exists_fills, ?_⟩
  intro registry order hfills horder
  have hreflects := hfills.reflects
  have hanswers := hreflects.answersFrom horder
  have hsize : registry.size = (RouteTable.ofRoutes order).size :=
    hreflects.size_eq.trans hanswers.size_eq.symm
  refine ⟨hanswers, hsize, ?_⟩
  have hlength := hreflects.perm.length_eq
  rw [List.length_append, List.length_map] at hlength
  rw [← hsize, ← hlength]
  exact congrArg _ Std.HashMap.length_keys.symm

/-- A registry of two routes is merged into one that has a route for the path of the
first: the merged registry gives the path of the second. -/
theorem first_registration_answers_of_merge :
    let created : Answer := .reply (.bare .created)
    let accepted : Answer := .reply (.bare .accepted)
    let first := Bytes.ofText "/a"
    let second := Bytes.ofText "/b"
    let other : RouteSetup := .mapVerb (.mapVerb .blank .get first accepted) .get second accepted
    let setup : RouteSetup := .merge (.mapVerb .blank .get first created) other
    ∃ registry, Fills setup registry ∧
      registry.freeze.lookup Verb.get.bytes first = some (.constant created) ∧
      registry.freeze.lookup Verb.get.bytes second = some (.constant accepted) ∧
      registry.ignored.length + registry.size = 3 := by
  intro created accepted first second other setup
  obtain ⟨⟨registry, hfills⟩, hall⟩ := first_registration_answers setup
  obtain ⟨hanswers, hsize, hcount⟩ := hall registry registry.routes.toList hfills (List.Perm.refl _)
  refine ⟨registry, hfills, ?_, ?_, ?_⟩
  · exact (hanswers.lookup_eq Verb.get.bytes first).trans rfl
  · exact (hanswers.lookup_eq Verb.get.bytes second).trans rfl
  · rw [hsize]
    exact hcount

end HttpEngine
