import HttpEngine.Pool
import Mathlib.Data.List.TakeWhile

/-!
# The queue of a pool

Cancelled waiters stay in the queue, but only those that have not been cancelled
are waiting, in the order in which they joined. An object that is returned goes to
the first of them, who then waits no longer; when nobody is waiting, it is idle
again. Whoever has been cancelled gets nothing.
-/

namespace HttpEngine
namespace Pool

variable {α : Type}

/-- The tickets of those who wait, the longest waiting first. -/
def waiting (pool : Pool α) : List Nat :=
  (pool.queue.filter fun waiter => !waiter.cancelled).map Waiter.ticket

theorem waiterCount_eq_length (pool : Pool α) : pool.waiterCount = pool.waiting.length := by
  rw [waiterCount, waiting, List.length_map]

theorem waiterCount_eq_zero_iff {pool : Pool α} : pool.waiterCount = 0 ↔ pool.waiting = [] := by
  rw [waiterCount_eq_length, List.length_eq_zero_iff]

theorem isQueued_of_mem_waiting
    {pool : Pool α} {ticket : Nat} (h : ticket ∈ pool.waiting) :
    pool.isQueued ticket = true := by
  obtain ⟨waiter, hwaiter, rfl⟩ := List.mem_map.mp h
  exact List.any_eq_true.mpr ⟨waiter, (List.mem_filter.mp hwaiter).1, by simp⟩

theorem take?_eq_none_iff {pool : Pool α} : pool.take? = none ↔ pool.idle = [] := by
  unfold take?
  split
  · next hidle => simp [hidle]
  · next hidle => simp [hidle]

theorem take?_eq_some_iff {pool rest : Pool α} {value : α} :
    pool.take? = some (value, rest) ↔
      ∃ idle, pool.idle = value :: idle ∧ rest = { pool with idle := idle } := by
  unfold take?
  split
  · next hidle => simp [hidle]
  · next first others hidle =>
      rw [hidle]
      constructor
      · intro h
        simp only [Option.some.injEq, Prod.mk.injEq] at h
        obtain ⟨rfl, rfl⟩ := h
        exact ⟨others, rfl, rfl⟩
      · rintro ⟨idle, hcons, rfl⟩
        obtain ⟨rfl, rfl⟩ := List.cons.inj hcons
        rfl

/-- Whoever joins waits behind all others. -/
theorem waiting_enqueue (pool : Pool α) :
    pool.enqueue.2.waiting = pool.waiting ++ [pool.nextTicket] := by
  simp [enqueue, waiting]

/-- Whoever is cancelled waits no longer, and all others wait as before. -/
theorem waiting_cancel (pool : Pool α) (ticket : Nat) :
    (pool.cancel ticket).waiting = pool.waiting.filter fun other => other != ticket := by
  simp only [cancel, waiting]
  induction pool.queue with
  | nil => rfl
  | cons waiter queue ih =>
      by_cases hticket : waiter.ticket = ticket
      · cases hcancelled : waiter.cancelled <;> simp [hticket, hcancelled, ih]
      · cases hcancelled : waiter.cancelled <;> simp [hticket, hcancelled, ih]

/-- Those who have not been cancelled are found behind the cancelled ones. -/
theorem filter_eq_filter_dropWhile (queue : List Waiter) :
    (queue.filter fun waiter => !waiter.cancelled) =
      (queue.dropWhile Waiter.cancelled).filter fun waiter => !waiter.cancelled := by
  induction queue with
  | nil => rfl
  | cons waiter queue ih =>
      cases hcancelled : waiter.cancelled <;> simp [hcancelled, ih]

/-- An object that nobody waits for is idle. -/
theorem release_of_waiting_eq_nil
    {pool : Pool α} (h : pool.waiting = []) (value : α) :
    pool.release value = ({ pool with idle := value :: pool.idle, queue := [] }, none) := by
  have hcancelled := List.filter_eq_nil_iff.mp (List.map_eq_nil_iff.mp h)
  have hnone : pool.queue.dropWhile Waiter.cancelled = [] := by
    rw [List.dropWhile_eq_nil_iff]
    intro waiter hwaiter
    simpa using hcancelled waiter hwaiter
  rw [release, hnone]

/-- An object that somebody waits for goes to who has waited longest. -/
theorem release_of_waiting_eq_cons
    {pool : Pool α} {ticket : Nat} {others : List Nat}
    (h : pool.waiting = ticket :: others) (value : α) :
    ∃ queue,
      pool.release value = ({ pool with queue := queue }, some ticket) ∧
        ({ pool with queue := queue } : Pool α).waiting = others := by
  rw [waiting, filter_eq_filter_dropWhile] at h
  cases hdrop : pool.queue.dropWhile Waiter.cancelled with
  | nil => simp [hdrop] at h
  | cons waiter queue =>
      have hlive : waiter.cancelled = false := by
        have hhead := List.head?_dropWhile_not Waiter.cancelled pool.queue
        simpa [hdrop] using hhead
      rw [hdrop, List.filter_cons_of_pos (by simp [hlive]), List.map_cons,
        List.cons.injEq] at h
      obtain ⟨rfl, rfl⟩ := h
      exact ⟨queue, by rw [release, hdrop], rfl⟩

end Pool
end HttpEngine
