import HttpEngine.Limits

/-!
# Limits in range

A configuration has eleven limits that are checked, and they have an order. Each allows a
number of things, which is at least one, or a length of time, which is greater than zero
and at most 86400 seconds to the nanosecond, or anything at all where a number may be
absent and is. Whether a limit is in range depends on that limit alone.

Checking the limits finds the fault of the first one in the order that is out of range, and
nothing if there is none.
-/

namespace HttpEngine

/-- What a limit allows. -/
inductive Allowance where
  | unlimited
  | count (n : Nat)
  | time (d : Duration)

namespace Allowance

/-- What an optional number allows. -/
def ofOption : Option Nat → Allowance
  | none => .unlimited
  | some n => .count n

/-- A number is at least one; a time is greater than zero and at most one day. -/
def InRange : Allowance → Prop
  | .unlimited => True
  | .count n => 1 ≤ n
  | .time d => 0 < d.nanos ∧ d.nanos ≤ 86400 * 1000000000

instance : DecidablePred InRange
  | .unlimited => inferInstanceAs (Decidable True)
  | .count n => inferInstanceAs (Decidable (1 ≤ n))
  | .time d => inferInstanceAs (Decidable (0 < d.nanos ∧ d.nanos ≤ 86400 * 1000000000))

/-- What is wrong with an allowance that is out of range. -/
def complaint : Allowance → String
  | .time d => if d.nanos = 0 then "must be greater than zero" else "must not exceed one day"
  | _ => "must be at least 1"

end Allowance

/-- The limits that are checked. -/
inductive Limit where
  | workersCount
  | bufferSize
  | listenBacklog
  | heartbeatInterval
  | keepAliveTimeout
  | requestHeadersTimeout
  | maxRequestBodySize
  | maxRequestHeaderCount
  | maxRequestLineSize
  | maxRequestHeadersTotalSize
  | maxConcurrentConnections
deriving Repr, DecidableEq

namespace Limit

/-- The order in which limits are checked. -/
def inOrder : List Limit :=
  [.workersCount, .bufferSize, .listenBacklog, .heartbeatInterval, .keepAliveTimeout,
    .requestHeadersTimeout, .maxRequestBodySize, .maxRequestHeaderCount, .maxRequestLineSize,
    .maxRequestHeadersTotalSize, .maxConcurrentConnections]

/-- The name of a limit. -/
def field : Limit → String
  | .workersCount => "workers_count"
  | .bufferSize => "buffer_size"
  | .listenBacklog => "listen_backlog"
  | .heartbeatInterval => "heartbeat_interval"
  | .keepAliveTimeout => "keep_alive_timeout"
  | .requestHeadersTimeout => "request_headers_timeout"
  | .maxRequestBodySize => "max_request_body_size"
  | .maxRequestHeaderCount => "max_request_header_count"
  | .maxRequestLineSize => "max_request_line_size"
  | .maxRequestHeadersTotalSize => "max_request_headers_total_size"
  | .maxConcurrentConnections => "max_concurrent_connections"

section

variable (server : ServerLimits) (connection : ConnectionLimits)

/-- What the limits of a server and of its connections allow. -/
def allowance : Limit → Allowance
  | .workersCount => .count server.workersCount
  | .bufferSize => .count server.bufferSize
  | .listenBacklog => .count server.listenBacklog
  | .heartbeatInterval => .time server.heartbeatInterval
  | .keepAliveTimeout => .time connection.keepAliveTimeout
  | .requestHeadersTimeout => .time connection.requestHeadersTimeout
  | .maxRequestBodySize => .ofOption connection.maxRequestBodySize
  | .maxRequestHeaderCount => .count connection.maxRequestHeaderCount
  | .maxRequestLineSize => .count connection.maxRequestLineSize
  | .maxRequestHeadersTotalSize => .count connection.maxRequestHeadersTotalSize
  | .maxConcurrentConnections => .ofOption connection.maxConcurrentConnections

/-- The limit is in range. -/
def InRange (limit : Limit) : Prop :=
  (limit.allowance server connection).InRange

/-- The limit is out of range, and all limits before it are in range. -/
def IsFirstOutOfRange (limit : Limit) : Prop :=
  ¬ limit.InRange server connection ∧
    ∃ before after, inOrder = before ++ limit :: after ∧
      ∀ earlier ∈ before, earlier.InRange server connection

instance : DecidablePred (InRange server connection) :=
  fun limit => inferInstanceAs (Decidable (limit.allowance server connection).InRange)

/-- The fault of a limit that is out of range. -/
def fault : Limit → ConfigFault
  | .workersCount => .noWorkers
  | limit => .invalidLimit limit.field (limit.allowance server connection).complaint

/-- The conditions that are checked for a limit. -/
def checks : Limit → List Check
  | .workersCount => [{ holds := 1 ≤ server.workersCount, fault := .noWorkers }]
  | .bufferSize => [.atLeastOne "buffer_size" server.bufferSize]
  | .listenBacklog => [.atLeastOne "listen_backlog" server.listenBacklog]
  | .heartbeatInterval => Check.time "heartbeat_interval" server.heartbeatInterval
  | .keepAliveTimeout => Check.time "keep_alive_timeout" connection.keepAliveTimeout
  | .requestHeadersTimeout =>
      Check.time "request_headers_timeout" connection.requestHeadersTimeout
  | .maxRequestBodySize =>
      [.atLeastOneIfGiven "max_request_body_size" connection.maxRequestBodySize]
  | .maxRequestHeaderCount =>
      [.atLeastOne "max_request_header_count" connection.maxRequestHeaderCount]
  | .maxRequestLineSize => [.atLeastOne "max_request_line_size" connection.maxRequestLineSize]
  | .maxRequestHeadersTotalSize =>
      [.atLeastOne "max_request_headers_total_size" connection.maxRequestHeadersTotalSize]
  | .maxConcurrentConnections =>
      [.atLeastOneIfGiven "max_concurrent_connections" connection.maxConcurrentConnections]

end

theorem mem_inOrder (limit : Limit) : limit ∈ inOrder := by
  cases limit <;> decide

/-- The conditions on a configuration are those of its limits in their order. -/
theorem checks_eq (server : ServerLimits) (connection : ConnectionLimits) :
    server.checks ++ connection.checks = inOrder.flatMap (checks server connection) :=
  rfl

end Limit

namespace Check

theorem firstFault_append (checks others : List Check) :
    firstFault (checks ++ others) = (firstFault checks).or (firstFault others) := by
  induction checks with
  | nil => rfl
  | cons check checks ih =>
      rw [List.cons_append, firstFault, firstFault]
      split
      · exact ih
      · rfl

theorem firstFault_flatMap {α : Type} (checksOf : α → List Check) (items : List α) :
    firstFault (items.flatMap checksOf) =
      items.findSome? fun item => firstFault (checksOf item) := by
  induction items with
  | nil => rfl
  | cons item items ih =>
      rw [List.flatMap_cons, firstFault_append, ih, List.findSome?_cons]
      cases firstFault (checksOf item) <;> rfl

section

variable (field : String)

theorem firstFault_singleton (check : Check) :
    firstFault [check] = if check.holds then none else some check.fault :=
  rfl

theorem firstFault_atLeastOne (n : Nat) :
    firstFault [atLeastOne field n] =
      if (Allowance.count n).InRange then none
      else some (.invalidLimit field (Allowance.count n).complaint) := by
  rw [firstFault_singleton, atLeastOne]
  simp only [decide_eq_true_eq]
  rfl

theorem firstFault_atLeastOneIfGiven (n : Option Nat) :
    firstFault [atLeastOneIfGiven field n] =
      if (Allowance.ofOption n).InRange then none
      else some (.invalidLimit field (Allowance.ofOption n).complaint) := by
  cases n with
  | none => rfl
  | some n => exact firstFault_atLeastOne field n

/-- Of a time both bounds are checked, the lower one first. -/
theorem firstFault_time (d : Duration) :
    firstFault (time field d) =
      if (Allowance.time d).InRange then none
      else some (.invalidLimit field (Allowance.time d).complaint) := by
  have hchecks :
      firstFault (time field d) =
        if 0 < d.nanos then
          if d.nanos ≤ 86400 * 1000000000 then none
          else some (.invalidLimit field "must not exceed one day")
        else some (.invalidLimit field "must be greater than zero") := by
    have hday : oneDay.nanos = 86400 * 1000000000 := rfl
    rw [time, firstFault, firstFault_singleton]
    simp only [decide_eq_true_eq, hday]
  rw [hchecks, Allowance.complaint]
  by_cases hzero : d.nanos = 0
  · have hout : ¬ (Allowance.time d).InRange := by
      rintro ⟨hpos, -⟩
      omega
    rw [if_neg (by omega), if_neg hout, if_pos hzero]
  · have hpos : 0 < d.nanos := by omega
    have hin : (Allowance.time d).InRange ↔ d.nanos ≤ 86400 * 1000000000 := and_iff_right hpos
    rw [if_pos hpos, if_neg hzero]
    simp only [hin]

/-- A day may not be exceeded by a nanosecond. -/
example :
    firstFault (time "keep_alive_timeout" (.ofParts 86400 1)) =
      some (.invalidLimit "keep_alive_timeout" "must not exceed one day") := by
  decide

end

end Check

namespace Limit

variable {server : ServerLimits} {connection : ConnectionLimits}

/-- What checking one limit finds. -/
theorem firstFault_checks (limit : Limit) :
    Check.firstFault (limit.checks server connection) =
      if limit.InRange server connection then none
      else some (limit.fault server connection) := by
  cases limit with
  | workersCount =>
      rw [checks, Check.firstFault_singleton]
      simp only [decide_eq_true_eq]
      rfl
  | bufferSize => exact Check.firstFault_atLeastOne _ _
  | listenBacklog => exact Check.firstFault_atLeastOne _ _
  | heartbeatInterval => exact Check.firstFault_time _ _
  | keepAliveTimeout => exact Check.firstFault_time _ _
  | requestHeadersTimeout => exact Check.firstFault_time _ _
  | maxRequestBodySize => exact Check.firstFault_atLeastOneIfGiven _ _
  | maxRequestHeaderCount => exact Check.firstFault_atLeastOne _ _
  | maxRequestLineSize => exact Check.firstFault_atLeastOne _ _
  | maxRequestHeadersTotalSize => exact Check.firstFault_atLeastOne _ _
  | maxConcurrentConnections => exact Check.firstFault_atLeastOneIfGiven _ _

theorem firstFault_checks_eq_none_iff {limit : Limit} :
    Check.firstFault (limit.checks server connection) = none ↔
      limit.InRange server connection := by
  rw [firstFault_checks]
  split
  · next hin => exact iff_of_true rfl hin
  · next hout => exact iff_of_false nofun hout

theorem firstFault_checks_eq_some_iff {limit : Limit} {found : ConfigFault} :
    Check.firstFault (limit.checks server connection) = some found ↔
      ¬ limit.InRange server connection ∧ found = limit.fault server connection := by
  rw [firstFault_checks]
  split
  · next hin => exact iff_of_false nofun fun hout => hout.1 hin
  · next hout =>
      rw [Option.some.injEq, eq_comm]
      exact (and_iff_right hout).symm

/-- Nothing is found if and only if all limits are in range. -/
theorem firstFault_eq_none_iff :
    Check.firstFault (server.checks ++ connection.checks) = none ↔
      ∀ limit : Limit, limit.InRange server connection := by
  rw [checks_eq, Check.firstFault_flatMap, List.findSome?_eq_none_iff]
  simp only [firstFault_checks_eq_none_iff]
  exact ⟨fun h limit => h limit limit.mem_inOrder, fun h limit _ => h limit⟩

/-- What is found is the fault of the first limit out of range. -/
theorem firstFault_eq_some_iff {found : ConfigFault} :
    Check.firstFault (server.checks ++ connection.checks) = some found ↔
      ∃ limit : Limit, limit.IsFirstOutOfRange server connection ∧
        found = limit.fault server connection := by
  rw [checks_eq, Check.firstFault_flatMap, List.findSome?_eq_some_iff]
  simp only [firstFault_checks_eq_none_iff, firstFault_checks_eq_some_iff]
  constructor
  · rintro ⟨before, limit, after, horder, ⟨hout, hfound⟩, hbefore⟩
    exact ⟨limit, ⟨hout, before, after, horder, hbefore⟩, hfound⟩
  · rintro ⟨limit, ⟨hout, before, after, horder, hbefore⟩, hfound⟩
    exact ⟨before, limit, after, horder, ⟨hout, hfound⟩, hbefore⟩

/-- The limits of a server that is told nothing are in range on any machine that has a
processor. -/
theorem inRange_standard {processors : Nat} (hpos : 1 ≤ processors) (limit : Limit) :
    limit.InRange (.standard processors) .standard := by
  cases limit with
  | workersCount => exact hpos
  | _ => exact of_decide_eq_true rfl

end Limit
end HttpEngine
