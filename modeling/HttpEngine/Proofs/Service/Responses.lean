import HttpEngine.Proofs.Service.Books

/-!
# The responses that wait to be sent

A task that has a response ready either had it before the step or has just written it
with the host that the step was made with. A service that has nothing left to do has no
response ready, and nothing that its tasks do changes it any more.
-/

namespace HttpEngine

theorem Exchange.buffer_of_look_eq_respond
    {exchange : Exchange} {site : Site} {connection next : Connection}
    {parser : Parser} {events : List Event}
    (hlook : exchange.look site connection = .settled .respond parser next events) :
    ∃ reply, next.buffer = Response.render site.host reply := by
  rcases look_eq_settled hlook with ⟨hother, -⟩ | ⟨-, -, hbuffer⟩
  · contradiction
  · exact hbuffer

/-- The response that a task has ready. -/
def Serving.response? : Serving → Option Bytes
  | .answered connection _ => some connection.buffer
  | _ => none

theorem Serving.response?_of_isOver {task : Serving} (hover : task.isOver = true) :
    task.response? = none := by
  cases task with
  | ended stream => rfl
  | aborted => rfl
  | _ => contradiction

namespace Service

variable {service : Service}
variable {site : Site}
variable {bytes : Bytes}

/-- The responses that are ready to be sent. -/
def responses (service : Service) : List Bytes :=
  service.tasks.filterMap Serving.response?

/-- A task that goes on has a response ready only if it has just been written. -/
theorem response?_next
    {task : Serving} (hresponse : (service.next site task).1.response? = some bytes) :
    ∃ reply, bytes = Response.render site.host reply := by
  cases task with
  | arrived stream =>
      simp only [next] at hresponse
      split at hresponse <;> contradiction
  | opening connection =>
      simp only [next] at hresponse
      split at hresponse <;> contradiction
  | reading connection exchange =>
      simp only [next] at hresponse
      split at hresponse
      · contradiction
      · next parser answered events hlook =>
          obtain ⟨reply, hbuffer⟩ := Exchange.buffer_of_look_eq_respond hlook
          simp only [Serving.response?, Option.some.injEq] at hresponse
          exact ⟨reply, hresponse ▸ hbuffer⟩
      · contradiction
  | starved connection exchange =>
      simp only [next] at hresponse
      split at hresponse <;> contradiction
  | closing connection exchange =>
      simp only [next] at hresponse
      split at hresponse <;> contradiction
  | _ => contradiction

/-- After a step a task that has a response ready had it before, or it has just been
written. -/
theorem responses_step
    (s : ServiceStep) (hresponse : bytes ∈ (service.step site s).1.responses) :
    bytes ∈ service.responses ∨ ∃ reply, bytes = Response.render site.host reply := by
  obtain ⟨task, htask, hbytes⟩ := List.mem_filterMap.mp hresponse
  cases s with
  | accept stream =>
      rcases List.mem_append.mp htask with hold | hnew
      · exact Or.inl (List.mem_filterMap.mpr ⟨task, hold, hbytes⟩)
      · rw [List.mem_singleton.mp hnew] at hbytes
        contradiction
  | advance k =>
      simp only [step] at htask
      split at htask
      · exact Or.inl (List.mem_filterMap.mpr ⟨task, htask, hbytes⟩)
      · rw [setTask, tasks_next] at htask
        rcases List.mem_or_eq_of_mem_set htask with hold | rfl
        · exact Or.inl (List.mem_filterMap.mpr ⟨task, hold, hbytes⟩)
        · exact Or.inr (response?_next hbytes)
  | abort k =>
      simp only [step] at htask
      split at htask
      · exact Or.inl (List.mem_filterMap.mpr ⟨task, htask, hbytes⟩)
      · split at htask
        · exact Or.inl (List.mem_filterMap.mpr ⟨task, htask, hbytes⟩)
        · rw [setTask, tasks_surrender] at htask
          rcases List.mem_or_eq_of_mem_set htask with hold | rfl
          · exact Or.inl (List.mem_filterMap.mpr ⟨task, hold, hbytes⟩)
          · contradiction

theorem responses_of_isIdle (hidle : service.isIdle = true) : service.responses = [] := by
  rw [responses, List.filterMap_eq_nil_iff]
  intro task htask
  exact Serving.response?_of_isOver (List.all_eq_true.mp hidle task htask)

/-- A task that is over stays as it is. -/
theorem next_of_isOver {task : Serving} (hover : task.isOver = true) :
    service.next site task = (task, service, []) := by
  cases task with
  | ended stream => rfl
  | aborted => rfl
  | _ => contradiction

theorem step_advance_of_isIdle (hidle : service.isIdle = true) (k : Nat) :
    (service.step site (.advance k)).1 = service := by
  simp only [step]
  split
  · rfl
  · next task htask =>
      have hover := List.all_eq_true.mp hidle task (List.mem_of_getElem? htask)
      rw [next_of_isOver hover, setTask]
      obtain ⟨hk, rfl⟩ := List.getElem?_eq_some_iff.mp htask
      rw [List.set_getElem_self]

theorem step_abort_of_isIdle (hidle : service.isIdle = true) (k : Nat) :
    (service.step site (.abort k)).1 = service := by
  simp only [step]
  split
  · rfl
  · next task htask =>
      rw [if_pos (List.all_eq_true.mp hidle task (List.mem_of_getElem? htask))]

end Service

end HttpEngine
