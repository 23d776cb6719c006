import HttpEngine.Proofs.Service.Following

/-!
# Connections served side by side do not notice each other

A service may accept any number of clients and let their tasks go on or abort them
in any order. Every client whose task runs to its end has then been sent what a new
service would have sent to it alone, no two tasks ever hold the same slot or the same
exchange, and when nothing is left to do for any client everything is idle.

The comparison goes by way of the client: what a task sends is explained by the
client alone, and a task that is alone and does not have to wait for its client
comes to its end.
-/

namespace HttpEngine

/-- The client that is accepted by a step. -/
def ServiceStep.client? : ServiceStep → Option Stream
  | .accept stream => some stream
  | _ => none

namespace Stream

/-- Two clients that have written the same bytes, in whatever pieces, and whose sides
stand alike. -/
structure SameBytes (first second : Stream) : Prop where
  content_eq : second.content = first.content
  ending_eq : second.ending = first.ending
  sent_eq : second.sent = first.sent

theorem SameBytes.sentTo_eq
    {first second : Stream} (h : first.SameBytes second) (site : Site) :
    site.sentTo second = site.sentTo first := by
  rw [Site.sentTo, Site.sentTo, isBroken, isBroken, h.content_eq, h.ending_eq, h.sent_eq]

theorem SameBytes.canEnd
    {first second : Stream} (h : first.SameBytes second) (hcan : first.CanEnd) :
    second.CanEnd := by
  rwa [CanEnd, h.content_eq, h.ending_eq]

end Stream

namespace Service

variable {service : Service}
variable {site : Site}

theorem getElem?_setTask_self
    {shared : Service} {k : Nat} {task : Serving}
    (htasks : shared.tasks = service.tasks) (htask : service.tasks[k]? = some task)
    (next : Serving) :
    (shared.setTask k next).tasks[k]? = some next := by
  rw [setTask, htasks, List.getElem?_set_self (List.getElem?_eq_some_iff.mp htask).1]

theorem step_advance
    {k : Nat} {task : Serving} (htask : service.tasks[k]? = some task) (site : Site) :
    (service.step site (.advance k)).1 =
      (service.next site task).2.1.setTask k (service.next site task).1 := by
  simp only [step, htask]

/-- A task whose client does not leave the server waiting comes to its end when it
goes on long enough. -/
theorem Consistent.ended_advanceFor
    {client : Stream} {k : Nat} {task : Serving}
    (h : service.Consistent) (hcan : client.CanEnd)
    (htask : service.tasks[k]? = some task) (hfollows : task.Follows site client)
    (steps : Nat) (hsteps : task.remaining ≤ steps) :
    ∃ stream,
      (service.advanceFor site k steps).tasks[k]? = some (.ended stream) ∧
        client.Concluded site stream := by
  induction steps generalizing service task with
  | zero =>
      cases task with
      | ended stream => exact ⟨stream, htask, hfollows⟩
      | aborted => exact hfollows.elim
      | _ =>
          simp only [Serving.remaining] at hsteps
          omega
  | succ steps ih =>
      have hentered := h.entered task (List.mem_of_getElem? htask)
      obtain ⟨hnext, hless⟩ := follows_next hfollows (h.balancedWith htask) hentered
      have hafter := step_advance htask site
      rw [advanceFor]
      refine ih (h.step site (.advance k)) ?_ hnext ?_
      · rw [hafter, getElem?_setTask_self (service.tasks_next site task) htask]
      · have hdecreases := hless hcan
        omega

/-- A client that does not leave the server waiting is served to the end, and sent
what its bytes say. -/
theorem Consistent.sent?_serve
    {client : Stream} (h : service.Consistent) (hcan : client.CanEnd) (site : Site) :
    (service.serve site client).2.sent? = some (site.sentTo client) := by
  have htask :
      (service.step site (.accept client)).1.tasks[service.tasks.length]? =
        some (.arrived client) := by
    simp [Service.step]
  have hsteps : (Serving.arrived client).remaining ≤ stepsFor client := by
    simp only [Serving.remaining, stepsFor]
    omega
  obtain ⟨stream, hended, hconcluded⟩ :=
    (h.step site (.accept client)).ended_advanceFor hcan htask
      (show (Serving.arrived client).Follows site client from rfl) (stepsFor client) hsteps
  rw [serve]
  simp only [hended, Option.getD_some, Serving.sent?, hconcluded.sent_eq]

/-- The tasks are about these clients, except for those that have been aborted. -/
structure Serves (site : Site) (service : Service) (clients : List Stream) : Prop where
  length_eq : service.tasks.length = clients.length
  follows :
    ∀ (k : Nat) (task : Serving) (client : Stream),
      service.tasks[k]? = some task → clients[k]? = some client →
        task = .aborted ∨ task.Follows site client

/-- A task may be replaced by another one about its client. -/
theorem Serves.setTask
    {shared : Service} {clients : List Stream} {k : Nat} {task next : Serving}
    (h : service.Serves site clients) (htask : service.tasks[k]? = some task)
    (htasks : shared.tasks = service.tasks)
    (hnext :
      ∀ client : Stream, task = .aborted ∨ task.Follows site client →
        next = .aborted ∨ next.Follows site client) :
    (shared.setTask k next).Serves site clients := by
  refine ⟨?_, ?_⟩
  · rw [Service.setTask, htasks, List.length_set, h.length_eq]
  · intro j other client hother hclient
    by_cases hj : j = k
    · subst hj
      rw [getElem?_setTask_self htasks htask] at hother
      obtain rfl := Option.some.inj hother
      exact hnext client (h.follows j task client htask hclient)
    · rw [Service.setTask, htasks, List.getElem?_set_ne (Ne.symm hj)] at hother
      exact h.follows j other client hother hclient

/-- A step leaves every task about its client. -/
theorem Serves.step
    {clients : List Stream}
    (h : service.Serves site clients) (hconsistent : service.Consistent) (s : ServiceStep) :
    (service.step site s).1.Serves site (clients ++ s.client?.toList) := by
  cases s with
  | accept stream =>
      refine ⟨by simp [Service.step, ServiceStep.client?, h.length_eq], ?_⟩
      intro k task client htask hclient
      simp only [Service.step, ServiceStep.client?, Option.toList_some] at htask hclient
      by_cases hk : k < clients.length
      · rw [List.getElem?_append_left (h.length_eq ▸ hk)] at htask
        rw [List.getElem?_append_left hk] at hclient
        exact h.follows k task client htask hclient
      · rw [List.getElem?_append_right (h.length_eq ▸ Nat.le_of_not_lt hk),
          List.getElem?_singleton, h.length_eq] at htask
        rw [List.getElem?_append_right (Nat.le_of_not_lt hk), List.getElem?_singleton] at hclient
        split at htask
        · next hzero =>
            rw [if_pos hzero] at hclient
            obtain rfl := Option.some.inj htask
            obtain rfl := Option.some.inj hclient
            exact Or.inr rfl
        · contradiction
  | advance k =>
      simp only [ServiceStep.client?, Option.toList_none, List.append_nil]
      cases htask : service.tasks[k]? with
      | none => simpa only [Service.step, htask] using h
      | some task =>
          have hentered := hconsistent.entered task (List.mem_of_getElem? htask)
          have hbooks := hconsistent.balancedWith htask
          rw [step_advance htask]
          refine h.setTask htask (service.tasks_next site task) ?_
          intro client hfollows
          rcases hfollows with rfl | hfollows
          · exact Or.inl rfl
          · exact Or.inr (follows_next hfollows hbooks hentered).1
  | abort k =>
      simp only [ServiceStep.client?, Option.toList_none, List.append_nil, Service.step]
      split
      · exact h
      · next task htask =>
          split
          · exact h
          · exact h.setTask htask (service.tasks_surrender task) fun _ _ => Or.inl rfl

/-- Any number of steps leave every task about its client. -/
theorem Serves.run
    {clients : List Stream}
    (h : service.Serves site clients) (hconsistent : service.Consistent)
    (steps : List ServiceStep) :
    (service.run site steps).Serves site (clients ++ steps.filterMap ServiceStep.client?) := by
  induction steps generalizing service clients with
  | nil => simpa [Service.run] using h
  | cons s steps ih =>
      have hrest := ih (h.step hconsistent s) (hconsistent.step site s)
      have hclients :
          s.client?.toList ++ steps.filterMap ServiceStep.client? =
            (s :: steps).filterMap ServiceStep.client? := by
        rw [List.filterMap_cons]
        cases s.client? <;> rfl
      rwa [List.append_assoc, hclients] at hrest

/-- When nothing is left to do for any client, nothing is held. -/
theorem held_of_isIdle (hidle : service.isIdle = true) :
    service.heldSlots = [] ∧ service.heldExchanges = [] ∧ service.heldEntries = [] := by
  have hover : ∀ task ∈ service.tasks, task.isOver = true := List.all_eq_true.mp hidle
  refine ⟨?_, ?_, ?_⟩
  all_goals
    refine List.flatMap_eq_nil_iff.mpr ?_
    intro task htask
    have htaskOver := hover task htask
    cases task with
    | ended stream => rfl
    | aborted => rfl
    | _ => contradiction

/-- What can be relied on after any run of a service: a client whose task has run to
its end has been sent what a new service sends to it alone, no two tasks hold the same
slot or the same exchange, and when nothing is left to do, the table is empty and all
slots and exchanges that were ever made are idle. -/
theorem isolates_run
    (site : Site) (limits alone : ServerLimits) (steps : List ServiceStep) :
    let service := (new limits).run site steps
    (∀ (k : Nat) (client same stream : Stream),
        (steps.filterMap ServiceStep.client?)[k]? = some client → client.SameBytes same →
          service.tasks[k]? = some (.ended stream) →
            ((new alone).serve site same).2.sent? = some stream.sent) ∧
      (service.heldSlots.Nodup ∧ service.heldExchanges.Nodup) ∧
      (service.isIdle = true →
        service.manager.active = [] ∧
          (service.manager.slots.idle.map Slot.number).Perm (List.range service.manager.made) ∧
          (service.exchanges.idle.map Exchange.number).Perm (List.range service.made)) := by
  intro service
  have hconsistent : service.Consistent := (consistent_new limits).run site steps
  have hnobody : (new limits).Serves site [] := ⟨rfl, fun _ _ _ htask => by simp [new] at htask⟩
  have hserves : service.Serves site (steps.filterMap ServiceStep.client?) :=
    hnobody.run (consistent_new limits) steps
  have hbooks := hconsistent.balanced
  refine ⟨?_, ⟨hbooks.lends.nodup_held, hbooks.engages.nodup_held⟩, ?_⟩
  · intro k client same stream hclient hsame htask
    rcases hserves.follows k _ client htask hclient with haborted | hconcluded
    · contradiction
    · have hcan := hsame.canEnd hconcluded.canEnd
      rw [(consistent_new alone).sent?_serve hcan, hsame.sentTo_eq, hconcluded.sent_eq]
  · intro hidle
    obtain ⟨hslots, hexchanges, hentries⟩ := held_of_isIdle hidle
    rw [hslots, hexchanges, hentries] at hbooks
    exact
      ⟨hbooks.enters.perm.eq_nil, hbooks.lends.idle_perm, hbooks.engages.idle_perm⟩

-- Two clients in turns: the first asks for a path without a route, the second leaves
-- before its request is complete.
example :
    let site : Site :=
      { routes := RouteTable.ofRoutes []
        host := Host.new (.v4 Ipv4.loopback 8080) }
    let first := Stream.ofPieces [Bytes.ofText "GET / HTTP/1.1\r", Bytes.ofText "\n\r\n"]
    let second := Stream.ofPieces [Bytes.ofText "PUT"]
    let inTurn : List ServiceStep := (List.replicate 12 [.advance 0, .advance 1]).flatten
    let service :=
      (new (ServerLimits.standard 1)).run site ([.accept first, .accept second] ++ inTurn)
    service.isIdle = true ∧
      service.tasks.map Serving.sent? =
        [some (Response.render site.host (.bare .notFound)), some []] := by
  decide +kernel

end Service
end HttpEngine
