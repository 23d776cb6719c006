import HttpEngine.Route.Table

/-!
# Looking routes up

The table of a registry finds for each method and path the handler that the
registry has for them. The buckets are only a way to search less: a bucket holds
the routes whose hash selects it, in the order in which they were placed, and a
search for an endpoint among those routes finds what a search among all routes
finds.
-/

namespace HttpEngine
namespace RouteTable

theorem getD_place
    (buckets : Array (List Route)) (route : Route) {i : Nat}
    (hi : i < buckets.size) :
    (place buckets route).getD i [] =
      buckets.getD i [] ++ [route].filter fun r => slot buckets.size r.1 == i := by
  simp only [place, Array.getD_eq_getD_getElem?, Array.getElem?_modify]
  by_cases hslot : slot buckets.size route.1 = i
  · simp [hslot, hi]
  · simp [hslot]

/-- A bucket holds the routes whose hash selects it, in the order of
placing. -/
theorem getD_foldl_place
    (routes : List Route) (buckets : Array (List Route)) {i : Nat}
    (hi : i < buckets.size) :
    (routes.foldl place buckets).getD i [] =
      buckets.getD i [] ++ routes.filter fun r => slot buckets.size r.1 == i := by
  induction routes generalizing buckets with
  | nil => simp
  | cons route routes ih =>
      have hsize : (place buckets route).size = buckets.size := Array.size_modify
      rw [List.foldl_cons, ih _ (by rwa [hsize]), getD_place buckets route hi, hsize,
        List.append_assoc, ← List.filter_append, List.singleton_append]

theorem size_foldl_place (routes : List Route) (buckets : Array (List Route)) :
    (routes.foldl place buckets).size = buckets.size := by
  induction routes generalizing buckets with
  | nil => rfl
  | cons route routes ih =>
      rw [List.foldl_cons, ih]
      exact Array.size_modify

theorem bucketCount_pos (routes : Nat) : 0 < bucketCount routes :=
  Nat.pos_of_isPowerOfTwo (Nat.isPowerOfTwo_nextPowerOfTwo _)

/-- A lookup finds the first route of the endpoint. -/
theorem lookup_ofRoutes (routes : List Route) (method path : Bytes) :
    (ofRoutes routes).lookup method path =
      (routes.find? fun route => route.1 == { method := method, path := path }).map
        Prod.snd := by
  have hsize : (ofRoutes routes).buckets.size = bucketCount routes.length := by
    rw [ofRoutes, size_foldl_place, Array.size_replicate]
  have hslot :
      slot (bucketCount routes.length) { method := method, path := path } <
        (Array.replicate (bucketCount routes.length) ([] : List Route)).size := by
    rw [Array.size_replicate]
    exact Nat.mod_lt _ (bucketCount_pos _)
  have hbucket := getD_foldl_place routes _ hslot
  have hempty :
      (Array.replicate (bucketCount routes.length) ([] : List Route)).getD
        (slot (bucketCount routes.length) { method := method, path := path }) [] = [] := by
    rw [Array.getD_eq_getD_getElem?, Array.getElem?_replicate]
    split <;> rfl
  rw [hempty, List.nil_append, Array.size_replicate] at hbucket
  rw [lookup, hsize]
  simp only [ofRoutes, hbucket, List.find?_filter]
  congr 2
  funext route
  by_cases hroute : route.1 = { method := method, path := path }
  · simp [hroute]
  · simp [hroute]

/-- A route that is placed is in one bucket. -/
theorem flatten_place_perm
    (buckets : Array (List Route)) (route : Route) (hsize : 0 < buckets.size) :
    (place buckets route).toList.flatten.Perm (buckets.toList.flatten ++ [route]) := by
  have hslot : slot buckets.size route.1 < buckets.toList.length := Nat.mod_lt _ hsize
  rw [place, Array.toList_modify]
  generalize slot buckets.size route.1 = i at hslot
  generalize buckets.toList = lists at hslot
  induction lists generalizing i with
  | nil => exact absurd hslot (Nat.not_lt_zero _)
  | cons list lists ih =>
      cases i with
      | zero =>
          simp only [List.modify_zero_cons, List.flatten_cons, List.append_assoc]
          exact List.Perm.append_left list List.perm_append_comm
      | succ i =>
          simp only [List.modify_succ_cons, List.flatten_cons, List.append_assoc]
          exact (ih i (Nat.lt_of_succ_lt_succ hslot)).append_left list

theorem flatten_foldl_place_perm
    (routes : List Route) (buckets : Array (List Route)) (hsize : 0 < buckets.size) :
    (routes.foldl place buckets).toList.flatten.Perm (buckets.toList.flatten ++ routes) := by
  induction routes generalizing buckets with
  | nil => simp
  | cons route routes ih =>
      have hplaced : (place buckets route).size = buckets.size := Array.size_modify
      have hfirst := flatten_place_perm buckets route hsize
      have hrest := ih (place buckets route) (hplaced ▸ hsize)
      rw [List.foldl_cons]
      refine hrest.trans ((hfirst.append_right routes).trans ?_)
      rw [List.append_assoc, List.singleton_append]

/-- A table lists the endpoints of its routes. -/
theorem endpoints_ofRoutes_perm (routes : List Route) :
    (ofRoutes routes).endpoints.Perm (routes.map Prod.fst) := by
  have hempty :
      (Array.replicate (bucketCount routes.length) ([] : List Route)).toList.flatten = [] := by
    simp
  have hplaced :=
    flatten_foldl_place_perm routes (Array.replicate (bucketCount routes.length) []) (by
      rw [Array.size_replicate]
      exact bucketCount_pos _)
  rw [hempty, List.nil_append] at hplaced
  have hendpoints := hplaced.map Prod.fst
  rwa [List.map_flatten, ← List.flatMap_def] at hendpoints

end RouteTable

namespace Registry

/-- In whatever order the routes of a registry are listed, the one of an endpoint is
the registry's. -/
theorem find?_of_perm
    (registry : Registry) {order : List Route} (horder : order.Perm registry.routes.toList)
    (endpoint : Endpoint) :
    (order.find? fun route => route.1 == endpoint).map Prod.snd = registry.routes[endpoint]? := by
  cases hfind : order.find? fun route => route.1 == endpoint with
  | none =>
      have hnone := List.find?_eq_none.mp hfind
      refine (Option.eq_none_iff_forall_ne_some.mpr ?_).symm
      intro handler hhandler
      have hmem := Std.HashMap.mem_toList_iff_getElem?_eq_some.mpr hhandler
      exact hnone (endpoint, handler) (horder.mem_iff.mpr hmem) (beq_self_eq_true endpoint)
  | some route =>
      have hmem := horder.mem_iff.mp (List.mem_of_find?_eq_some hfind)
      have hendpoint : route.1 = endpoint := by simpa using List.find?_some hfind
      rw [Option.map_some, ← hendpoint, Std.HashMap.mem_toList_iff_getElem?_eq_some.mp hmem]

/-- The table of a registry finds the handlers of the registry. -/
theorem lookup_freeze (registry : Registry) (method path : Bytes) :
    registry.freeze.lookup method path =
      registry.routes[({ method := method, path := path } : Endpoint)]? := by
  rw [freeze, RouteTable.lookup_ofRoutes, registry.find?_of_perm (List.Perm.refl _)]

end Registry
end HttpEngine
