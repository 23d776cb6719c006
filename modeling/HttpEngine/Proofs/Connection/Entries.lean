import HttpEngine.Connection.Manager
import HttpEngine.Proofs.Pool.Accounts

/-!
# The table of the active connections

The entries of the table are those of the connections that still stand for one.
As long as this holds, and every number that has been given out is below the next
one, the books of a manager are never found wrong: a client is always accepted,
and a connection that has an entry can always be closed.
-/

namespace HttpEngine

/-- The entry of a connection, if it still has one. -/
def Connection.entries (connection : Connection) : List Nat :=
  if connection.registered then [connection.id] else []

namespace Manager

/-- The table holds these entries, each once, and no number is given out again. -/
structure Enters (manager : Manager) (entries : List Nat) : Prop where
  perm : manager.active.Perm entries
  nodup : entries.Nodup
  lt_next : ∀ id ∈ entries, id < manager.nextId

/-- Every slot is idle or held. -/
abbrev Lends (manager : Manager) (held : List Nat) : Prop :=
  Pool.Accounts Slot.number manager.slots manager.made held

variable {manager : Manager}
variable {entries : List Nat}

theorem enters_new (limits : ServerLimits) : (Manager.new limits).Enters [] :=
  ⟨List.Perm.refl _, List.nodup_nil, by simp⟩

theorem lends_new (limits : ServerLimits) : (Manager.new limits).Lends [] :=
  Pool.accounts_fill (fun _ => rfl) limits.preallocatedSlots

theorem Enters.of_perm
    {others : List Nat}
    (h : manager.Enters entries) (hentries : entries.Perm others) :
    manager.Enters others :=
  { perm := h.perm.trans hentries
    nodup := hentries.nodup_iff.mp h.nodup
    lt_next := fun id hid => h.lt_next id (hentries.mem_iff.mpr hid) }

/-- A slot that is taken is lent. -/
theorem Lends.takeSlot
    {held : List Nat} (h : manager.Lends held) :
    manager.takeSlot.2.Lends (manager.takeSlot.1.number :: held) := by
  unfold Manager.takeSlot
  split
  · next slot slots htake => exact Pool.Accounts.take h htake
  · exact Pool.Accounts.make h

/-- A slot is made only when none is idle. -/
theorem Lends.made_takeSlot
    {held : List Nat} (h : manager.Lends held) :
    manager.takeSlot.2.made = max manager.made (held.length + 1) := by
  have hall := h.idleCount_add
  have htaken := h.takeSlot.idleCount_add
  rw [List.length_cons] at htaken
  cases htake : manager.slots.take? with
  | none =>
      have hnone : manager.slots.idleCount = 0 := by
        unfold Pool.take? at htake
        split at htake
        · next hidle => rw [Pool.idleCount, hidle, List.length_nil]
        · contradiction
      simp only [Manager.takeSlot, htake]
      omega
  | some taken =>
      simp only [Manager.takeSlot, htake] at htaken ⊢
      omega

theorem active_takeSlot (manager : Manager) : manager.takeSlot.2.active = manager.active := by
  unfold takeSlot
  split <;> rfl

theorem nextId_takeSlot (manager : Manager) : manager.takeSlot.2.nextId = manager.nextId := by
  unfold takeSlot
  split <;> rfl

/-- A client is accepted where the next number is not in the table. -/
theorem accept_eq (hfresh : manager.nextId ∉ manager.active) (stream : Stream) :
    manager.accept stream =
      ({ manager.takeSlot.2 with
          nextId := manager.nextId + 1
          active := manager.nextId :: manager.active },
        .ok
          { id := manager.nextId
            stream := stream
            slot := manager.takeSlot.1.prepare
            request := none
            registered := true }) := by
  simp only [accept, takeId, register, active_takeSlot, nextId_takeSlot, if_neg hfresh]

/-- The next number is not in the table. -/
theorem Enters.nextId_not_mem (h : manager.Enters entries) : manager.nextId ∉ manager.active := by
  intro hmem
  exact Nat.lt_irrefl _ (h.lt_next _ (h.perm.mem_iff.mp hmem))

/-- The number of an accepted client is entered. -/
theorem Enters.accept (h : manager.Enters entries) (stream : Stream) :
    (manager.accept stream).1.Enters (manager.nextId :: entries) := by
  rw [accept_eq h.nextId_not_mem]
  refine ⟨h.perm.cons _, ?_, ?_⟩
  · refine List.nodup_cons.mpr ⟨?_, h.nodup⟩
    intro hmem
    exact Nat.lt_irrefl _ (h.lt_next _ hmem)
  · intro id hid
    rcases List.mem_cons.mp hid with rfl | hid
    · exact Nat.lt_succ_self _
    · exact Nat.lt_succ_of_lt (h.lt_next id hid)

theorem Enters.unregister_eq
    {id : Nat} (h : manager.Enters (id :: entries)) :
    manager.unregister id = .ok (manager.forget id) := by
  rw [unregister, if_pos (h.perm.mem_iff.mpr List.mem_cons_self)]

theorem Enters.forget
    {id : Nat} (h : manager.Enters (id :: entries)) :
    (manager.forget id).Enters entries := by
  refine ⟨?_, (List.nodup_cons.mp h.nodup).2, ?_⟩
  · have hperm := h.perm.erase id
    rwa [List.erase_cons_head] at hperm
  · intro other hother
    exact h.lt_next other (List.mem_cons_of_mem _ hother)

/-- A connection that is let go leaves no entry. -/
theorem Enters.drop
    {connection : Connection} (h : manager.Enters (connection.entries ++ entries)) :
    (manager.drop connection).1.Enters entries := by
  unfold Manager.drop
  cases hregistered : connection.registered with
  | true =>
      have hentered : manager.Enters (connection.id :: entries) := by
        rwa [Connection.entries, if_pos hregistered] at h
      have hmem := hentered.perm.mem_iff.mpr List.mem_cons_self
      rw [if_pos (by simpa using hmem)]
      have hforgot := hentered.forget
      exact ⟨hforgot.perm, hforgot.nodup, hforgot.lt_next⟩
  | false =>
      have hentered : manager.Enters entries := by
        rwa [Connection.entries, hregistered, if_neg Bool.false_ne_true, List.nil_append] at h
      rw [if_neg (by simp)]
      exact ⟨hentered.perm, hentered.nodup, hentered.lt_next⟩

/-- The slot of a connection that is let go comes back. -/
theorem Lends.drop
    {held : List Nat} {connection : Connection}
    (h : manager.Lends (connection.slot.number :: held)) :
    (manager.drop connection).1.Lends held := by
  unfold Manager.drop
  split
  · exact Pool.Accounts.release h
  · exact Pool.Accounts.release h

end Manager
end HttpEngine
