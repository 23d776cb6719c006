import HttpEngine.Proofs.Connection.Entries
import HttpEngine.Proofs.Connection.Transfers

/-!
# Accepting, and waiting for the first bytes

Where the table of a manager is right, a client is accepted under the next number,
and a first receive either leaves the connection with its entry or, when the
stream fails, closes it. Nothing is found wrong on the way. Every number that is
taken is spent, also that of a client whose first receive fails.
-/

namespace HttpEngine

theorem Connection.Keeps.entries_eq
    {connection next : Connection} (h : connection.Keeps next) :
    next.entries = connection.entries := by
  rw [entries, entries, h.id_eq, h.registered_eq]

/-- A connection that has been closed stands for no entry. -/
theorem Connection.entries_unregistered (connection : Connection) :
    { connection with registered := false }.entries = [] := rfl

/-- The entry of the connection that a first receive leaves. -/
def Opening.entries : Opening → List Nat
  | .opened connection => connection.entries
  | .pending connection => connection.entries
  | .failed _ => []
  | .crashed _ => []

/-- How a first receive on a connection comes out when the books are right. -/
inductive Opens (connection : Connection) : Opening → Prop
  | opened {next : Connection} (hkeeps : connection.Keeps next) :
      Opens connection (.opened next)
  | pending {next : Connection} (hkeeps : connection.Keeps next) :
      Opens connection (.pending next)
  | failed {fault : IoFault} : Opens connection (.failed fault)

namespace Manager

variable {manager : Manager}
variable {entries : List Nat}
variable {connection : Connection}

/-- Of what a manager has given out only accepting changes anything: between `before`
and `after` no number was taken, no slot was made, and no entry was added to the
table. -/
structure Settles (before after : Manager) : Prop where
  nextId_eq : after.nextId = before.nextId
  made_eq : after.made = before.made
  mem_active : ∀ id ∈ after.active, id ∈ before.active

theorem Settles.refl (manager : Manager) : manager.Settles manager :=
  ⟨rfl, rfl, fun _ hid => hid⟩

theorem Settles.trans
    {first second third : Manager}
    (hfirst : first.Settles second) (hsecond : second.Settles third) :
    first.Settles third :=
  { nextId_eq := hsecond.nextId_eq.trans hfirst.nextId_eq
    made_eq := hsecond.made_eq.trans hfirst.made_eq
    mem_active := fun id hid => hfirst.mem_active id (hsecond.mem_active id hid) }

theorem settles_forget (manager : Manager) (id : Nat) : manager.Settles (manager.forget id) :=
  ⟨rfl, rfl, fun _ hid => List.mem_of_mem_erase hid⟩

theorem settles_drop (manager : Manager) (connection : Connection) :
    manager.Settles (manager.drop connection).1 := by
  unfold drop
  split
  · have hforgot := manager.settles_forget connection.id
    exact ⟨rfl, rfl, hforgot.mem_active⟩
  · exact ⟨rfl, rfl, fun _ hid => hid⟩

theorem settles_unregister
    {id : Nat} {next : Manager} (hunregister : manager.unregister id = .ok next) :
    manager.Settles next := by
  unfold unregister at hunregister
  split at hunregister
  · cases hunregister
    exact manager.settles_forget id
  · cases hunregister

theorem settles_close (manager : Manager) (connection : Connection) :
    manager.Settles (manager.close connection).1 := by
  unfold close
  split
  · next hunregister => exact (settles_unregister hunregister).trans (settles_drop _ _)
  · exact settles_drop _ _

theorem settles_firstReceive (manager : Manager) (connection : Connection) :
    manager.Settles (manager.firstReceive connection).1 := by
  unfold firstReceive
  split
  · exact Settles.refl manager
  · exact Settles.refl manager
  · next fault next hreceive =>
      have hclose := manager.settles_close next
      split
      · next hclosed => rwa [hclosed] at hclose
      · next hclosed => rwa [hclosed] at hclose

/-- `after` is `manager` when a client has been accepted, whatever has become of the
client since. -/
structure Admits (manager after : Manager) : Prop where
  nextId_eq : after.nextId = manager.nextId + 1
  made_eq : after.made = manager.takeSlot.2.made
  mem_active : ∀ id ∈ after.active, id = manager.nextId ∨ id ∈ manager.active

theorem Admits.settles {after last : Manager} (h : manager.Admits after)
    (hsettles : after.Settles last) : manager.Admits last :=
  { nextId_eq := hsettles.nextId_eq.trans h.nextId_eq
    made_eq := hsettles.made_eq.trans h.made_eq
    mem_active := fun id hid => h.mem_active id (hsettles.mem_active id hid) }

theorem admits_accept (manager : Manager) (stream : Stream) :
    manager.Admits (manager.accept stream).1 := by
  have hnext := manager.nextId_takeSlot
  have hactive := manager.active_takeSlot
  unfold accept takeId register
  by_cases htaken : manager.takeSlot.2.nextId ∈ manager.takeSlot.2.active
  · simp only [htaken, if_true]
    exact ⟨congrArg (· + 1) hnext, rfl, fun id hid => .inr (hactive ▸ hid)⟩
  · simp only [htaken, if_false]
    refine ⟨congrArg (· + 1) hnext, rfl, ?_⟩
    intro id hid
    rw [hnext, hactive] at hid
    exact List.mem_cons.mp hid

theorem admits_receiveFrom (manager : Manager) (stream : Stream) :
    manager.Admits (manager.receiveFrom stream).1 := by
  have haccept := manager.admits_accept stream
  unfold receiveFrom
  split
  · next haccepted =>
      rw [haccepted] at haccept
      exact haccept.settles (settles_firstReceive _ _)
  · next haccepted =>
      rw [haccepted] at haccept
      exact haccept

theorem unregister_eq_error {id : Nat} (hid : id ∉ manager.active) :
    manager.unregister id = .error (.notRegistered id) :=
  if_neg hid

/-- A connection that has an entry can be closed, and leaves none. -/
theorem Enters.close
    (h : manager.Enters (connection.id :: entries)) :
    (manager.close connection).1.Enters entries ∧ (manager.close connection).2.1 = none := by
  have hdropped :
      ((manager.forget connection.id).drop { connection with registered := false }).1.Enters
        entries := by
    refine Enters.drop ?_
    rw [connection.entries_unregistered]
    exact h.forget
  simp only [Manager.close, h.unregister_eq]
  exact ⟨hdropped, trivial⟩

/-- A first receive leaves the connection with its entry, or closes it. -/
theorem Enters.firstReceive
    (h : manager.Enters (connection.id :: entries)) (hregistered : connection.registered = true) :
    (manager.firstReceive connection).1.Enters
        ((manager.firstReceive connection).2.1.entries ++ entries) ∧
      Opens connection (manager.firstReceive connection).2.1 := by
  have hkeeps := (connection.readsOn_receive manager.bufferSize).toKeeps
  have hentries : connection.entries = [connection.id] := if_pos hregistered
  unfold Manager.firstReceive
  generalize connection.receive manager.bufferSize = received at *
  obtain ⟨receipt, next⟩ := received
  have hnext : manager.Enters (next.entries ++ entries) := by
    rw [hkeeps.entries_eq, hentries]
    exact h
  cases receipt with
  | bytes count => exact ⟨hnext, .opened hkeeps⟩
  | pending => exact ⟨hnext, .pending hkeeps⟩
  | failed fault =>
      rw [← hkeeps.id_eq] at h
      obtain ⟨hclosed, hnone⟩ := h.close
      cases hclose : manager.close next with
      | mk rest outcome =>
          obtain ⟨crash, events⟩ := outcome
          rw [hclose] at hclosed hnone
          obtain rfl : crash = none := hnone
          simp only [hclose]
          exact ⟨hclosed, .failed⟩

/-- Whoever is accepted has taken the next number, also when the first receive
fails. -/
theorem Enters.receiveFrom (h : manager.Enters entries) (stream : Stream) :
    (manager.receiveFrom stream).1.Enters
        ((manager.receiveFrom stream).2.1.entries ++ entries) ∧
      ∃ connection : Connection,
        connection.id = manager.nextId ∧ connection.registered = true ∧
          Opens connection (manager.receiveFrom stream).2.1 := by
  have hentered := h.accept stream
  obtain ⟨next, connection, haccept, hid, hregistered⟩ :
      ∃ (next : Manager) (connection : Connection),
        manager.accept stream = (next, .ok connection) ∧ connection.id = manager.nextId ∧
          connection.registered = true :=
    ⟨_, _, accept_eq h.nextId_not_mem stream, rfl, rfl⟩
  rw [haccept, ← hid] at hentered
  obtain ⟨henters, hopens⟩ := hentered.firstReceive hregistered
  simp only [Manager.receiveFrom, haccept]
  exact ⟨henters, connection, hid, hregistered, hopens⟩

end Manager
end HttpEngine
