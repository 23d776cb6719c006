import HttpEngine.Proofs.Connection.Opening
import HttpEngine.Service
import Mathlib.Data.List.Perm.Basic

/-!
# The books of a service

Whatever the tasks of a service do and in whatever order, the books are right:
every slot and every exchange that has been made is idle or held by one task, and
the table of the active connections has the entries of the connections that still
stand for one.

A step changes what one task holds and what is shared, and leaves alone what the
other tasks hold. So the books are balanced here against the holdings of the task
that goes on and a list of what all others hold.
-/

namespace HttpEngine

/-- A look that settles what to do leaves the connection as it is or puts a response into
its buffer. -/
theorem Exchange.look_eq_settled
    {exchange : Exchange} {site : Site} {connection next : Connection}
    {outcome : Outcome} {parser : Parser} {events : List Event}
    (hlook : exchange.look site connection = .settled outcome parser next events) :
    (outcome = .abort ∧ next = connection) ∨
      (outcome = .respond ∧ connection.Keeps next ∧
        ∃ reply, next.buffer = Response.render site.host reply) := by
  unfold look at hlook
  split at hlook
  · simp only [Look.settled.injEq] at hlook
    obtain ⟨rfl, -, rfl, -⟩ := hlook
    exact Or.inl ⟨rfl, rfl⟩
  · simp only [respond] at hlook
    split at hlook
    · contradiction
    · simp only [Look.settled.injEq] at hlook
      obtain ⟨rfl, -, rfl, -⟩ := hlook
      exact Or.inr ⟨rfl, ⟨rfl, rfl, rfl⟩, _, rfl⟩
    · simp only [Look.settled.injEq] at hlook
      obtain ⟨rfl, -, rfl, -⟩ := hlook
      exact Or.inr ⟨rfl, ⟨rfl, rfl, rfl⟩, _, rfl⟩

theorem Exchange.keeps_look
    {exchange : Exchange} {site : Site} {connection next : Connection}
    {outcome : Outcome} {parser : Parser} {events : List Event}
    (hlook : exchange.look site connection = .settled outcome parser next events) :
    connection.Keeps next := by
  rcases look_eq_settled hlook with ⟨-, rfl⟩ | ⟨-, hkeeps, -⟩
  · exact ⟨rfl, rfl, rfl⟩
  · exact hkeeps

namespace Serving

/-- The number of the slot that a task holds. -/
def slots (task : Serving) : List Nat :=
  (task.connection?.map fun connection => connection.slot.number).toList

/-- The number of the exchange that a task holds. -/
def exchanges (task : Serving) : List Nat :=
  (task.exchange?.map Exchange.number).toList

/-- The entry that a task answers for. -/
def entries (task : Serving) : List Nat :=
  (task.connection?.map Connection.entries).getD []

/-- A connection that has not been closed stands for its entry. -/
def Entered : Serving → Prop
  | .opening connection => connection.registered = true
  | .opened connection => connection.registered = true
  | .reading connection _ => connection.registered = true
  | .starved connection _ => connection.registered = true
  | .answered connection _ => connection.registered = true
  | .closing connection _ => connection.registered = true
  | _ => True

end Serving

namespace Service

/-- The shared books against what is held. -/
structure Balanced (service : Service) (slots exchanges entries : List Nat) : Prop where
  lends : service.manager.Lends slots
  engages : Pool.Accounts Exchange.number service.exchanges service.made exchanges
  enters : service.manager.Enters entries

/-- The shared books against what one task and all others hold. -/
abbrev BalancedWith
    (service : Service) (task : Serving) (slots exchanges entries : List Nat) : Prop :=
  service.Balanced (task.slots ++ slots) (task.exchanges ++ exchanges) (task.entries ++ entries)

variable {service : Service}
variable {slots exchanges entries : List Nat}

theorem balanced_new (limits : ServerLimits) : (new limits).Balanced [] [] [] :=
  { lends := Manager.lends_new limits
    engages := Pool.accounts_fill (fun _ => rfl) limits.preallocatedSlots
    enters := Manager.enters_new limits }

theorem Balanced.of_perm
    {slots' exchanges' entries' : List Nat}
    (h : service.Balanced slots exchanges entries)
    (hslots : slots.Perm slots') (hexchanges : exchanges.Perm exchanges')
    (hentries : entries.Perm entries') :
    service.Balanced slots' exchanges' entries' :=
  { lends := h.lends.of_perm hslots
    engages := h.engages.of_perm hexchanges
    enters := h.enters.of_perm hentries }

/-- An exchange that is taken is held. -/
theorem Balanced.takeExchange (h : service.Balanced slots exchanges entries) :
    service.takeExchange.2.Balanced slots
      (service.takeExchange.1.number :: exchanges) entries := by
  unfold Service.takeExchange
  split
  · next htake => exact ⟨h.lends, h.engages.take htake, h.enters⟩
  · exact ⟨h.lends, h.engages.make, h.enters⟩

/-- An exchange that is returned is idle. -/
theorem Balanced.returnExchange
    {exchange : Option Exchange}
    (h : service.Balanced slots ((exchange.map Exchange.number).toList ++ exchanges) entries) :
    (service.returnExchange exchange).Balanced slots exchanges entries := by
  cases exchange with
  | none => exact h
  | some exchange => exact ⟨h.lends, h.engages.release, h.enters⟩

/-- A connection that is dropped gives its slot and its entry back. -/
theorem Balanced.dropConnection
    {connection : Option Connection}
    (h :
      service.Balanced
        ((connection.map fun connection => connection.slot.number).toList ++ slots) exchanges
        ((connection.map Connection.entries).getD [] ++ entries)) :
    (service.dropConnection connection).1.Balanced slots exchanges entries := by
  cases connection with
  | none => exact h
  | some connection =>
      exact
        { lends := Manager.Lends.drop h.lends
          engages := h.engages
          enters := Manager.Enters.drop h.enters }

/-- A task that gives back all that it holds leaves nothing behind. -/
theorem BalancedWith.surrender
    {task : Serving} (h : service.BalancedWith task slots exchanges entries) :
    (service.surrender task).1.Balanced slots exchanges entries := by
  have hreturned :
      (service.returnExchange task.exchange?).Balanced (task.slots ++ slots) exchanges
        (task.entries ++ entries) :=
    h.returnExchange
  exact hreturned.dropConnection

/-- An operation that keeps the slot and the entry of a connection keeps the books. -/
theorem Balanced.of_keeps
    {connection next : Connection} (hkeeps : connection.Keeps next)
    (h :
      service.Balanced (connection.slot.number :: slots) exchanges
        (connection.entries ++ entries))
    (hentered : connection.registered = true) :
    service.Balanced (next.slot.number :: slots) exchanges (next.entries ++ entries) ∧
      next.registered = true := by
  rw [hkeeps.slot_eq, hkeeps.entries_eq, hkeeps.registered_eq]
  exact ⟨h, hentered⟩

/-- A connection that is to be closed is in the table. -/
theorem BalancedWith.enters_closing
    {connection : Connection} {exchange : Option Exchange}
    (h : service.BalancedWith (.closing connection exchange) slots exchanges entries)
    (hentered : (Serving.closing connection exchange).Entered) :
    service.manager.Enters (connection.id :: entries) := by
  have hentry : connection.entries = [connection.id] := if_pos hentered
  have henters := h.enters
  rwa [Serving.entries, Serving.connection?, Option.map_some, Option.getD_some,
    hentry] at henters

/-- A step of a task keeps the books balanced, and what is entered in them. -/
theorem BalancedWith.next
    {task : Serving} (h : service.BalancedWith task slots exchanges entries)
    (hentered : task.Entered) (site : Site) :
    (service.next site task).2.1.BalancedWith (service.next site task).1
        slots exchanges entries ∧
      (service.next site task).1.Entered := by
  cases task with
  | arrived stream =>
      have haccepted := Manager.accept_eq h.enters.nextId_not_mem stream
      have henters := h.enters.accept stream
      have hlends := h.lends.takeSlot
      rw [haccepted] at henters
      simp only [Service.next, haccepted]
      exact ⟨⟨⟨hlends.queue_eq, hlends.perm⟩, h.engages, henters⟩, rfl⟩
  | opening connection =>
      have hkeeps := (connection.readsOn_receive service.manager.bufferSize).toKeeps
      simp only [Service.next]
      generalize connection.receive service.manager.bufferSize = received at *
      obtain ⟨receipt, next⟩ := received
      cases receipt with
      | bytes count => exact Balanced.of_keeps hkeeps h hentered
      | failed fault => exact Balanced.of_keeps hkeeps h hentered
      | pending => exact Balanced.of_keeps hkeeps h hentered
  | opened connection =>
      exact ⟨Balanced.takeExchange h, hentered⟩
  | reading connection exchange =>
      simp only [Service.next]
      split
      · exact ⟨h, hentered⟩
      · next hlook => exact Balanced.of_keeps (Exchange.keeps_look hlook) h hentered
      · next hlook => exact Balanced.of_keeps (Exchange.keeps_look hlook) h hentered
  | starved connection exchange =>
      have hkeeps := (connection.readsOn_receive service.manager.bufferSize).toKeeps
      simp only [Service.next]
      generalize connection.receive service.manager.bufferSize = received at *
      obtain ⟨receipt, next⟩ := received
      cases receipt with
      | bytes count => exact Balanced.of_keeps hkeeps h hentered
      | failed fault => exact Balanced.of_keeps hkeeps h hentered
      | pending => exact Balanced.of_keeps hkeeps h hentered
  | answered connection exchange =>
      exact Balanced.of_keeps connection.keeps_send h hentered
  | closing connection exchange =>
      have henters := h.enters_closing hentered
      simp only [Service.next, henters.unregister_eq]
      exact ⟨⟨h.lends, h.engages, henters.forget⟩, trivial⟩
  | leaving connection exchange => exact ⟨Balanced.dropConnection h, trivial⟩
  | parting exchange stream => exact ⟨Balanced.returnExchange h, trivial⟩
  | ended stream => exact ⟨h, trivial⟩
  | aborted => exact ⟨h, trivial⟩

theorem tasks_takeExchange (service : Service) :
    service.takeExchange.2.tasks = service.tasks := by
  unfold Service.takeExchange
  split <;> rfl

theorem tasks_returnExchange (service : Service) (exchange : Option Exchange) :
    (service.returnExchange exchange).tasks = service.tasks := by
  cases exchange <;> rfl

theorem tasks_surrender (service : Service) (task : Serving) :
    (service.surrender task).1.tasks = service.tasks := by
  rw [← service.tasks_returnExchange task.exchange?, surrender]
  cases task.connection? <;> rfl

theorem tasks_next (service : Service) (site : Site) (task : Serving) :
    (service.next site task).2.1.tasks = service.tasks := by
  cases task with
  | arrived stream =>
      simp only [Service.next]
      split <;> rfl
  | opening connection =>
      simp only [Service.next]
      split <;> rfl
  | opened connection => exact service.tasks_takeExchange
  | reading connection exchange =>
      simp only [Service.next]
      split <;> rfl
  | starved connection exchange =>
      simp only [Service.next]
      split <;> rfl
  | answered connection exchange => rfl
  | closing connection exchange =>
      simp only [Service.next]
      split
      · rfl
      · exact service.tasks_surrender _
  | leaving connection exchange => rfl
  | parting exchange stream => exact service.tasks_returnExchange exchange
  | ended stream => rfl
  | aborted => rfl

/-- The numbers of the slots that are held. -/
def heldSlots (service : Service) : List Nat :=
  service.tasks.flatMap Serving.slots

/-- The numbers of the exchanges that are held. -/
def heldExchanges (service : Service) : List Nat :=
  service.tasks.flatMap Serving.exchanges

/-- The entries that the tasks answer for. -/
def heldEntries (service : Service) : List Nat :=
  service.tasks.flatMap Serving.entries

/-- The books are right. -/
structure Consistent (service : Service) : Prop where
  balanced :
    service.Balanced service.heldSlots service.heldExchanges service.heldEntries
  entered : ∀ task ∈ service.tasks, task.Entered

/-- What all tasks hold is what one of them holds and what the others hold. -/
theorem perm_flatMap_of_getElem?
    {α β : Type} {tasks : List α} {k : Nat} {task : α}
    (htask : tasks[k]? = some task) (held : α → List β) :
    (tasks.flatMap held).Perm (held task ++ (tasks.eraseIdx k).flatMap held) := by
  obtain ⟨hk, rfl⟩ := List.getElem?_eq_some_iff.mp htask
  exact ((List.getElem_cons_eraseIdx_perm hk).flatMap_right held).symm

/-- Replacing one task leaves alone what the others hold. -/
theorem perm_flatMap_set
    {α β : Type} {tasks : List α} {k : Nat} {task : α}
    (htask : tasks[k]? = some task) (next : α) (held : α → List β) :
    ((tasks.set k next).flatMap held).Perm
      (held next ++ (tasks.eraseIdx k).flatMap held) := by
  have hk := (List.getElem?_eq_some_iff.mp htask).1
  have hnext : (tasks.set k next)[k]? = some next := by
    rw [List.getElem?_set_self hk]
  have hperm := perm_flatMap_of_getElem? hnext held
  rwa [List.eraseIdx_set_eq] at hperm

/-- The books are balanced against what one task holds and what the others hold. -/
theorem Consistent.balancedWith
    {k : Nat} {task : Serving}
    (h : service.Consistent) (htask : service.tasks[k]? = some task) :
    service.BalancedWith task ((service.tasks.eraseIdx k).flatMap Serving.slots)
      ((service.tasks.eraseIdx k).flatMap Serving.exchanges)
      ((service.tasks.eraseIdx k).flatMap Serving.entries) :=
  h.balanced.of_perm (perm_flatMap_of_getElem? htask _) (perm_flatMap_of_getElem? htask _)
    (perm_flatMap_of_getElem? htask _)

/-- A task may be replaced if the books stay balanced whatever the others hold. -/
theorem Consistent.setTask
    {shared : Service} {k : Nat} {task next : Serving}
    (h : service.Consistent) (htask : service.tasks[k]? = some task)
    (htasks : shared.tasks = service.tasks)
    (hstep :
      ∀ slots exchanges entries,
        service.BalancedWith task slots exchanges entries →
          shared.BalancedWith next slots exchanges entries ∧ next.Entered) :
    (shared.setTask k next).Consistent := by
  obtain ⟨hbooks, hentered⟩ := hstep _ _ _ (h.balancedWith htask)
  have hbalanced' :
      shared.Balanced (shared.setTask k next).heldSlots (shared.setTask k next).heldExchanges
        (shared.setTask k next).heldEntries := by
    simp only [heldSlots, heldExchanges, heldEntries, Service.setTask, htasks]
    exact
      hbooks.of_perm (perm_flatMap_set htask next _).symm
        (perm_flatMap_set htask next _).symm (perm_flatMap_set htask next _).symm
  refine ⟨⟨hbalanced'.lends, hbalanced'.engages, hbalanced'.enters⟩, ?_⟩
  intro other hother
  rw [Service.setTask, htasks] at hother
  rcases List.mem_or_eq_of_mem_set hother with hold | rfl
  · exact h.entered other hold
  · exact hentered

theorem consistent_new (limits : ServerLimits) : (new limits).Consistent :=
  { balanced := balanced_new limits
    entered := by simp [new] }

/-- A step keeps the books right. -/
theorem Consistent.step
    (h : service.Consistent) (site : Site) (s : ServiceStep) :
    (service.step site s).1.Consistent := by
  cases s with
  | accept stream =>
      have hnothing :
          ∀ {β : Type} (held : Serving → List β), held (.arrived stream) = [] →
            (service.tasks ++ [Serving.arrived stream]).flatMap held =
              service.tasks.flatMap held := by
        intro β held hheld
        rw [List.flatMap_append, List.flatMap_singleton, hheld, List.append_nil]
      refine ⟨?_, ?_⟩
      · simp only [Service.step, heldSlots, heldExchanges, heldEntries]
        rw [hnothing Serving.slots rfl, hnothing Serving.exchanges rfl,
          hnothing Serving.entries rfl]
        exact ⟨h.balanced.lends, h.balanced.engages, h.balanced.enters⟩
      · intro task htask
        rcases List.mem_append.mp htask with hold | hnew
        · exact h.entered task hold
        · rw [List.mem_singleton.mp hnew]
          trivial
  | advance k =>
      simp only [Service.step]
      split
      · exact h
      · next task htask =>
          have hentered := h.entered task (List.mem_of_getElem? htask)
          refine h.setTask htask (service.tasks_next site task) ?_
          intro slots exchanges entries hbooks
          exact hbooks.next hentered site
  | abort k =>
      simp only [Service.step]
      split
      · exact h
      · next task htask =>
          split
          · exact h
          · refine h.setTask htask (service.tasks_surrender task) ?_
            intro slots exchanges entries hbooks
            exact ⟨hbooks.surrender, trivial⟩

/-- Any number of steps keep the books right. -/
theorem Consistent.run
    (h : service.Consistent) (site : Site) (steps : List ServiceStep) :
    (service.run site steps).Consistent := by
  induction steps generalizing service with
  | nil => exact h
  | cons s steps ih => exact ih (h.step site s)

end Service
end HttpEngine
