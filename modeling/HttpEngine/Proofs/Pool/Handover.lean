import HttpEngine.Pool.Desk
import HttpEngine.Proofs.Pool.Queue
import Mathlib.Data.List.Nodup

/-!
# Handing objects over

A returned object goes to the ticket that stands first in the queue. Exactly one
task holds that ticket if no two tasks hold the same; it is handed the object, and
nothing changes for all others.
-/

namespace HttpEngine
namespace Task

variable {α : Type}

/-- The ticket of a task that stands in the queue. -/
def ticket? (task : Task α) : Option Nat :=
  match task.stage with
  | .queued ticket => some ticket
  | _ => none

/-- The object that was handed to a task and that it has not taken yet. -/
def inFlight? (task : Task α) : Option α :=
  match task.stage with
  | .served value => some value
  | _ => none

/-- The task after an object was handed to whoever holds a ticket. -/
def serve (ticket : Nat) (value : α) (task : Task α) : Task α :=
  if task.ticket? = some ticket then { task with stage := .served value } else task

theorem serve_of_ticket
    {task : Task α} {ticket : Nat} (h : task.ticket? = some ticket) (value : α) :
    task.serve ticket value = { task with stage := .served value } :=
  if_pos h

theorem serve_of_ne
    {task : Task α} {ticket : Nat} (h : task.ticket? ≠ some ticket) (value : α) :
    task.serve ticket value = task :=
  if_neg h

theorem ticket?_eq_some_iff {task : Task α} {ticket : Nat} :
    task.ticket? = some ticket ↔ task.stage = .queued ticket := by
  unfold ticket?
  cases task.stage <;> simp

theorem eq_of_ticket {task : Task α} {ticket : Nat} (h : task.ticket? = some ticket) :
    task = { owning := task.owning, stage := .queued ticket } := by
  rw [← ticket?_eq_some_iff.mp h]

/-- A queued task has not been handed anything. -/
theorem inFlight?_of_ticket {task : Task α} {ticket : Nat} (h : task.ticket? = some ticket) :
    task.inFlight? = none := by
  rw [inFlight?, ticket?_eq_some_iff.mp h]

/-- Nothing changes for tasks of which none holds the ticket. -/
theorem map_serve_eq_self
    {ticket : Nat} {tasks : List (Task α)}
    (h : ticket ∉ tasks.filterMap ticket?) (value : α) :
    tasks.map (serve ticket value) = tasks := by
  have hserve : ∀ task ∈ tasks, serve ticket value task = id task := by
    intro task htask
    refine serve_of_ne ?_ value
    intro hticket
    exact h (List.mem_filterMap.mpr ⟨task, htask, hticket⟩)
  rw [List.map_congr_left hserve, List.map_id]

/-- Exactly one task is handed the object, and it stands in the queue no longer. -/
theorem filterMap_map_serve
    {ticket : Nat} {tasks : List (Task α)}
    (hnodup : (tasks.filterMap ticket?).Nodup) (hmem : ticket ∈ tasks.filterMap ticket?)
    (value : α) :
    ((tasks.map (serve ticket value)).filterMap inFlight?).Perm
        (value :: tasks.filterMap inFlight?) ∧
      (tasks.filterMap ticket?).Perm
        (ticket :: (tasks.map (serve ticket value)).filterMap ticket?) := by
  induction tasks with
  | nil => simp at hmem
  | cons task tasks ih =>
      rw [List.map_cons]
      cases hticket : task.ticket? with
      | none =>
          rw [List.filterMap_cons_none hticket] at hnodup hmem
          obtain ⟨hflight, htickets⟩ := ih hnodup hmem
          rw [serve_of_ne (by simp [hticket]), List.filterMap_cons_none hticket,
            List.filterMap_cons_none hticket]
          refine ⟨?_, htickets⟩
          cases hheld : task.inFlight? with
          | none => rwa [List.filterMap_cons_none hheld, List.filterMap_cons_none hheld]
          | some held =>
              rw [List.filterMap_cons_some hheld, List.filterMap_cons_some hheld]
              exact (hflight.cons held).trans (List.Perm.swap _ _ _)
      | some held =>
          have hnone := inFlight?_of_ticket hticket
          rw [List.filterMap_cons_some hticket] at hnodup hmem
          obtain ⟨hnot, hnodup⟩ := List.nodup_cons.mp hnodup
          by_cases heq : held = ticket
          · subst heq
            rw [serve_of_ticket hticket, map_serve_eq_self hnot,
              List.filterMap_cons_none hnone, List.filterMap_cons_some hticket]
            exact ⟨List.Perm.refl _, List.Perm.refl _⟩
          · have hmem : ticket ∈ tasks.filterMap ticket? := by
              rcases List.mem_cons.mp hmem with h | h
              · exact absurd h.symm heq
              · exact h
            obtain ⟨hflight, htickets⟩ := ih hnodup hmem
            rw [serve_of_ne (by simp [hticket, heq]), List.filterMap_cons_none hnone,
              List.filterMap_cons_none hnone, List.filterMap_cons_some hticket,
              List.filterMap_cons_some hticket]
            exact ⟨hflight, (htickets.cons held).trans (List.Perm.swap _ _ _)⟩

end Task

namespace Desk

variable {α : Type}
variable {desk : Desk α}

theorem serve_eq (ticket : Nat) (value : α) (entry : String × Task α) :
    serve ticket value entry = (entry.1, entry.2.serve ticket value) := by
  obtain ⟨name, owning, stage⟩ := entry
  cases stage with
  | fresh => rfl
  | queued held =>
      by_cases hheld : held = ticket <;> simp [serve, Task.serve, Task.ticket?, hheld]
  | served value => rfl

theorem map_fst_map_serve (ticket : Nat) (value : α) (tasks : List (String × Task α)) :
    (tasks.map (serve ticket value)).map Prod.fst = tasks.map Prod.fst := by
  rw [List.map_map]
  refine List.map_congr_left ?_
  intro entry _
  rw [Function.comp_apply, serve_eq]

theorem map_snd_map_serve (ticket : Nat) (value : α) (tasks : List (String × Task α)) :
    (tasks.map (serve ticket value)).map Prod.snd =
      (tasks.map Prod.snd).map (Task.serve ticket value) := by
  rw [List.map_map, List.map_map]
  refine List.map_congr_left ?_
  intro entry _
  rw [Function.comp_apply, serve_eq, Function.comp_apply]

theorem lookup_map_serve
    (ticket : Nat) (value : α) (tasks : List (String × Task α)) (name : String) :
    (tasks.map (serve ticket value)).lookup name =
      (tasks.lookup name).map (Task.serve ticket value) := by
  induction tasks with
  | nil => rfl
  | cons entry tasks ih =>
      rw [List.map_cons, serve_eq, List.lookup_cons, List.lookup_cons, ih]
      cases name == entry.1 <;> rfl

/-- An object that nobody waits for is idle. -/
theorem giveBack_of_waiting_eq_nil (h : desk.pool.waiting = []) (value : α) :
    desk.giveBack value =
      { desk with pool := { desk.pool with idle := value :: desk.pool.idle, queue := [] } } := by
  rw [giveBack, Pool.release_of_waiting_eq_nil h]

/-- An object that somebody waits for is handed to the task that holds the first
ticket. -/
theorem giveBack_of_waiting_eq_cons
    {ticket : Nat} {others : List Nat}
    (h : desk.pool.waiting = ticket :: others) (value : α) :
    ∃ queue,
      desk.giveBack value =
          { desk with
            pool := { desk.pool with queue := queue }
            tasks := desk.tasks.map (serve ticket value) } ∧
        ({ desk.pool with queue := queue } : Pool α).waiting = others := by
  obtain ⟨queue, hrelease, hwaiting⟩ := Pool.release_of_waiting_eq_cons h value
  exact ⟨queue, by rw [giveBack, hrelease], hwaiting⟩

end Desk
end HttpEngine
