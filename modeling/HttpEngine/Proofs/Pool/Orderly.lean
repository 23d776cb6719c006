import HttpEngine.Proofs.Named
import HttpEngine.Proofs.Pool.Handover
import Mathlib.Tactic.Abel

/-!
# Tasks and their places in the queue

Every task that is queued has a place of its own in the queue, and nobody else
waits there. So a returned object that goes to a ticket goes to exactly one task,
and a queued task never finds its place gone.

An operation that is under way may have taken a task off the desk that still has
its place: the tickets of such tasks are listed beside the desk.
-/

namespace HttpEngine
namespace Desk

variable {α : Type}
variable {desk : Desk α}
variable {pending : Multiset Nat}

/-- The tickets of the tasks that stand in the queue. -/
def tickets (desk : Desk α) : List Nat :=
  Named.gather Task.ticket? desk.tasks

/-- No name is used twice, and those who wait in the queue are the queued tasks of
the desk and those of an operation that is under way, each once. -/
structure Orderly (desk : Desk α) (pending : Multiset Nat) : Prop where
  handles_nodup : (desk.handles.map Prod.fst).Nodup
  tasks_nodup : (desk.tasks.map Prod.fst).Nodup
  waiting_eq : (desk.pool.waiting : Multiset Nat) = pending + desk.tickets
  waiting_nodup : desk.pool.waiting.Nodup
  lt_next : ∀ ticket ∈ desk.pool.waiting, ticket < desk.pool.nextTicket

/-- The ticket of a task, if there is a task and it is queued. -/
def ticketOf (task : Option (Task α)) : Multiset Nat :=
  (task.bind Task.ticket?).toList

theorem orderly_new (make : Nat → α) (count : Nat) : (new make count).Orderly 0 :=
  { handles_nodup := List.nodup_nil
    tasks_nodup := List.nodup_nil
    waiting_eq := rfl
    waiting_nodup := List.nodup_nil
    lt_next := by simp [new, Pool.fill, Pool.empty, Pool.waiting] }

/-- The ticket of a task and those of all others. -/
theorem tickets_eq (hnames : (desk.tasks.map Prod.fst).Nodup) (name : String) :
    (desk.tickets : Multiset Nat) = ticketOf (desk.task? name) + (desk.dropTask name).tickets :=
  Named.gather_eq hnames Task.ticket? name

theorem tickets_setTask (desk : Desk α) (name : String) (task : Task α) :
    ((desk.setTask name task).tickets : Multiset Nat) =
      ticketOf (some task) + (desk.dropTask name).tickets :=
  Named.gather_cons Task.ticket? name task (desk.dropTask name).tasks

theorem mem_tickets_of_task
    {name : String} {task : Task α} {ticket : Nat}
    (htask : desk.task? name = some task) (hticket : task.ticket? = some ticket) :
    ticket ∈ desk.tickets := by
  refine List.mem_filterMap.mpr ⟨task, ?_, hticket⟩
  exact List.mem_map.mpr ⟨_, Named.mem_of_lookup htask, rfl⟩

namespace Orderly

theorem setMade (h : desk.Orderly pending) (made : Nat) :
    ({ desk with made := made } : Desk α).Orderly pending :=
  ⟨h.handles_nodup, h.tasks_nodup, h.waiting_eq, h.waiting_nodup, h.lt_next⟩

theorem setIdle (h : desk.Orderly pending) (idle : List α) :
    ({ desk with pool := { desk.pool with idle := idle } } : Desk α).Orderly pending :=
  ⟨h.handles_nodup, h.tasks_nodup, h.waiting_eq, h.waiting_nodup, h.lt_next⟩

theorem take
    {value : α} {pool : Pool α}
    (h : desk.Orderly pending) (htake : desk.pool.take? = some (value, pool)) :
    ({ desk with pool := pool } : Desk α).Orderly pending := by
  obtain ⟨idle, -, rfl⟩ := Pool.take?_eq_some_iff.mp htake
  exact h.setIdle idle

theorem dropHandle (h : desk.Orderly pending) (name : String) :
    (desk.dropHandle name).Orderly pending :=
  { h with handles_nodup := Named.nodup_filter h.handles_nodup name }

theorem setHandle (h : desk.Orderly pending) (name : String) (handle : Handle α) :
    (desk.setHandle name handle).Orderly pending :=
  { h with handles_nodup := Named.nodup_cons_filter h.handles_nodup name handle }

/-- A task that is taken off the desk keeps its place. -/
theorem dropTask (h : desk.Orderly pending) (name : String) :
    (desk.dropTask name).Orderly (ticketOf (desk.task? name) + pending) where
  handles_nodup := h.handles_nodup
  tasks_nodup := Named.nodup_filter h.tasks_nodup name
  waiting_eq := by
    refine h.waiting_eq.trans ?_
    rw [tickets_eq h.tasks_nodup name]
    abel
  waiting_nodup := h.waiting_nodup
  lt_next := h.lt_next

/-- A task that is put on the desk brings its place, and the task that it replaces
keeps its own. -/
theorem setTask
    {name : String} {task : Task α} (h : desk.Orderly (ticketOf (some task) + pending)) :
    (desk.setTask name task).Orderly (ticketOf (desk.task? name) + pending) where
  handles_nodup := h.handles_nodup
  tasks_nodup := Named.nodup_cons_filter h.tasks_nodup name task
  waiting_eq := by
    refine h.waiting_eq.trans ?_
    rw [tickets_eq h.tasks_nodup name, tickets_setTask]
    abel
  waiting_nodup := h.waiting_nodup
  lt_next := h.lt_next

/-- Whoever joins the queue gets a ticket that nobody has. -/
theorem enqueue (h : desk.Orderly pending) :
    ({ desk with pool := desk.pool.enqueue.2 } : Desk α).Orderly
      ({desk.pool.nextTicket} + pending) where
  handles_nodup := h.handles_nodup
  tasks_nodup := h.tasks_nodup
  waiting_eq := by
    rw [Pool.waiting_enqueue, ← Multiset.coe_add, h.waiting_eq]
    simp only [tickets, Multiset.coe_singleton]
    abel
  waiting_nodup := by
    rw [Pool.waiting_enqueue, List.nodup_append]
    refine ⟨h.waiting_nodup, List.nodup_singleton _, ?_⟩
    intro ticket hticket other hother heq
    have hlt := h.lt_next ticket hticket
    rw [List.mem_singleton.mp hother] at heq
    exact Nat.lt_irrefl _ (heq ▸ hlt)
  lt_next := by
    intro ticket hticket
    rw [Pool.waiting_enqueue, List.mem_append, List.mem_singleton] at hticket
    rcases hticket with hticket | rfl
    · exact Nat.lt_succ_of_lt (h.lt_next ticket hticket)
    · exact Nat.lt_succ_self _

/-- A task that is cancelled gives up its place. -/
theorem cancel {ticket : Nat} (h : desk.Orderly ({ticket} + pending)) :
    ({ desk with pool := desk.pool.cancel ticket } : Desk α).Orderly pending where
  handles_nodup := h.handles_nodup
  tasks_nodup := h.tasks_nodup
  waiting_eq := by
    have hmem : ticket ∈ desk.pool.waiting := by
      rw [← Multiset.mem_coe, h.waiting_eq]
      simp
    rw [Pool.waiting_cancel, ← h.waiting_nodup.erase_eq_filter, ← Multiset.coe_erase,
      h.waiting_eq, add_assoc, Multiset.singleton_add, Multiset.erase_cons_head]
    rfl
  waiting_nodup := by
    rw [Pool.waiting_cancel]
    exact h.waiting_nodup.filter _
  lt_next := by
    intro other hother
    rw [Pool.waiting_cancel] at hother
    exact h.lt_next other (List.mem_filter.mp hother).1

theorem tickets_nodup (h : desk.Orderly pending) : desk.tickets.Nodup := by
  have hnodup : (desk.pool.waiting : Multiset Nat).Nodup := h.waiting_nodup
  rw [h.waiting_eq] at hnodup
  exact Multiset.nodup_of_le (Multiset.le_add_left _ _) hnodup

theorem mem_tickets_iff (h : desk.Orderly 0) {ticket : Nat} :
    ticket ∈ desk.tickets ↔ ticket ∈ desk.pool.waiting := by
  rw [← Multiset.mem_coe, ← Multiset.mem_coe, h.waiting_eq, zero_add]

/-- A queued task stands in the queue. -/
theorem isQueued
    {name : String} {task : Task α} {ticket : Nat}
    (h : desk.Orderly 0) (htask : desk.task? name = some task)
    (hticket : task.ticket? = some ticket) :
    desk.pool.isQueued ticket = true :=
  Pool.isQueued_of_mem_waiting (h.mem_tickets_iff.mp (mem_tickets_of_task htask hticket))

/-- No two tasks hold the same ticket. -/
theorem eq_of_ticket
    {name other : String} {task second : Task α} {ticket : Nat}
    (h : desk.Orderly 0)
    (htask : desk.task? name = some task) (hticket : task.ticket? = some ticket)
    (hsecond : desk.task? other = some second) (hsame : second.ticket? = some ticket) :
    other = name := by
  have hnodup : (desk.tickets : Multiset Nat).Nodup := h.tickets_nodup
  have hof : ticketOf (desk.task? name) = {ticket} := by
    rw [htask, ticketOf, Option.bind_some, hticket]
    rfl
  rw [tickets_eq h.tasks_nodup name, hof, Multiset.singleton_add, Multiset.nodup_cons] at hnodup
  by_contra hne
  have hstays : (desk.dropTask name).task? other = some second :=
    (Named.lookup_filter_of_ne desk.tasks hne).trans hsecond
  exact hnodup.1 (mem_tickets_of_task hstays hsame)

/-- A returned object is handed to a task on the desk. -/
theorem giveBack (h : desk.Orderly 0) (value : α) : (desk.giveBack value).Orderly 0 := by
  cases hwaiting : desk.pool.waiting with
  | nil =>
      rw [giveBack_of_waiting_eq_nil hwaiting]
      refine ⟨h.handles_nodup, h.tasks_nodup, ?_, List.nodup_nil, by simp [Pool.waiting]⟩
      have hnone := h.waiting_eq
      rw [hwaiting] at hnone
      exact hnone
  | cons ticket others =>
      obtain ⟨queue, heq, hothers⟩ := giveBack_of_waiting_eq_cons hwaiting value
      have hmem : ticket ∈ desk.tickets := by
        rw [h.mem_tickets_iff, hwaiting]
        exact List.mem_cons_self
      have htickets := (Task.filterMap_map_serve h.tickets_nodup hmem value).2
      have hnodup := h.waiting_nodup
      have hlt := h.lt_next
      have hsame := h.waiting_eq
      rw [hwaiting] at hnodup hlt hsame
      rw [zero_add, Multiset.coe_eq_coe] at hsame
      rw [heq]
      refine ⟨h.handles_nodup, ?_, ?_, ?_, ?_⟩
      · rw [map_fst_map_serve]
        exact h.tasks_nodup
      · rw [hothers, tickets, Named.gather, map_snd_map_serve, zero_add, Multiset.coe_eq_coe]
        exact (hsame.trans htickets).cons_inv
      · rw [hothers]
        exact (List.nodup_cons.mp hnodup).2
      · rw [hothers]
        exact fun other hother => hlt other (List.mem_cons_of_mem _ hother)

theorem settle (h : desk.Orderly 0) (handle : Option (Handle α)) :
    (desk.settle handle).Orderly 0 := by
  unfold Desk.settle
  split
  · exact h.giveBack _
  · exact h

theorem hold (h : desk.Orderly 0) (name : String) (owning : Bool) (value : α) :
    (desk.hold name owning value).Orderly 0 :=
  (h.setHandle name _).settle _

theorem holdNew (h : desk.Orderly 0) (make : Nat → α) (name : String) (owning : Bool) :
    (desk.holdNew make name owning).1.Orderly 0 :=
  (h.setMade _).hold name owning _

/-- A task that was taken off the desk gives up its place or passes on its object. -/
theorem withdraw {task : Option (Task α)} (h : desk.Orderly (ticketOf task)) :
    (desk.withdraw task).Orderly 0 := by
  unfold Desk.withdraw
  split
  · next owning ticket =>
      have hpending : desk.Orderly ({ticket} + 0) := h
      exact hpending.cancel
  · exact giveBack h _
  · next hqueued hserved =>
      have hnone : ticketOf task = 0 := by
        rcases task with _ | ⟨owning, _ | ticket | value⟩
        · rfl
        · rfl
        · exact absurd rfl (hqueued owning ticket)
        · rfl
      rwa [hnone] at h

/-- A task that does not stand in the queue can be taken off the desk. -/
theorem dropTask_of_not_queued
    {name : String} (h : desk.Orderly 0) (htask : ticketOf (desk.task? name) = 0) :
    (desk.dropTask name).Orderly 0 := by
  have hdrop := h.dropTask name
  rwa [htask] at hdrop

theorem begin
    {name : String} (h : desk.Orderly 0) (htask : ticketOf (desk.task? name) = 0)
    (owning : Bool) :
    (desk.begin name owning).1.Orderly 0 := by
  unfold Desk.begin
  split
  · next value pool htake =>
      exact ((h.take htake).dropTask_of_not_queued htask).hold name owning value
  · have hqueued :
        (({ desk with pool := desk.pool.enqueue.2 } : Desk α).setTask name
            { owning := owning, stage := .queued desk.pool.nextTicket }).Orderly
          (ticketOf (desk.task? name) + 0) :=
      setTask h.enqueue
    rwa [htask, add_zero] at hqueued

/-- Every step of the desk keeps the order. -/
theorem step (h : desk.Orderly 0) (make : Nat → α) (s : DeskStep α) :
    (desk.step make s).1.Orderly 0 := by
  cases s with
  | acquire name owning =>
      simp only [Desk.step]
      split
      · next value pool htake => exact (h.take htake).hold name owning value
      · exact h.holdNew make name owning
  | tryAcquire name owning =>
      simp only [Desk.step]
      split
      · next value pool htake => exact (h.take htake).hold name owning value
      · exact h
  | release name =>
      simp only [Desk.step]
      split
      · exact (h.dropHandle name).giveBack _
      · exact (h.setHandle name _).giveBack _
      · exact h
      · exact h
  | drop name =>
      simp only [Desk.step]
      split
      · exact (h.dropHandle name).settle _
      · exact h
  | get name =>
      simp only [Desk.step]
      split <;> exact h
  | set name value =>
      simp only [Desk.step]
      split
      · exact h.setHandle name _
      · exact h.setHandle name _
      · exact h
      · exact h
  | put value => exact h.giveBack value
  | fill count => exact (h.setIdle _).setMade _
  | wait name owning =>
      have hset :
          (desk.setTask name { owning := owning, stage := .fresh }).Orderly
            (ticketOf (desk.task? name) + 0) :=
        setTask h
      rw [add_zero] at hset
      exact hset.withdraw
  | poll name =>
      simp only [Desk.step]
      split
      · next owning htask => exact h.begin (by rw [htask]; rfl) owning
      · next owning ticket htask =>
          rw [if_pos (h.isQueued htask rfl)]
          exact h
      · next owning value htask =>
          exact (h.dropTask_of_not_queued (by rw [htask]; rfl)).hold name owning value
      · exact h
  | cancel name =>
      simp only [Desk.step]
      split
      · next task htask =>
          have hdrop := h.dropTask name
          rw [htask, add_zero] at hdrop
          exact hdrop.withdraw
      · exact h

theorem run (h : desk.Orderly 0) (make : Nat → α) (steps : List (DeskStep α)) :
    (desk.run make steps).Orderly 0 := by
  induction steps generalizing desk with
  | nil => exact h
  | cons s steps ih => exact ih (h.step make s)

end Orderly
end Desk
end HttpEngine
