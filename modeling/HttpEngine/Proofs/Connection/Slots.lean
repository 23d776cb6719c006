import HttpEngine.Proofs.Connection.Settling

/-!
# The slots of a manager

A manager makes a slot only for a client that it accepts while it has none idle, and
gets a slot back whenever a connection goes, in whatever way. So the slots that it has
made are at every moment the idle ones and those of its connections, each once, and
there are as many as connections have ever held a slot at the same time, unless there
were more at the beginning.

Nothing of this hangs on the tables: a connection that is closed by a manager which did
not accept it gives its slot back to its home like any other.
-/

namespace HttpEngine

namespace Manager

variable {manager : Manager}
variable {held : List Nat}
variable {connection : Connection}

/-- A connection that is closed gives its slot back, whether its entry is found or
not. -/
theorem Lends.close (h : manager.Lends (connection.slot.number :: held)) :
    (manager.close connection).1.Lends held := by
  unfold Manager.close
  split
  · next next hunregister =>
      have hleft : next.Lends (connection.slot.number :: held) := by
        unfold unregister at hunregister
        split at hunregister
        · cases hunregister
          exact h
        · cases hunregister
      exact Lends.drop hleft
  · exact Lends.drop h

/-- A first receive leaves the connection its slot, or the slot has come back. -/
theorem Lends.firstReceive (h : manager.Lends (connection.slot.number :: held)) :
    (manager.firstReceive connection).1.Lends
      ((manager.firstReceive connection).2.1.share .slots ++ held) := by
  have hkeeps := (connection.readsOn_receive manager.bufferSize).toKeeps
  unfold Manager.firstReceive
  generalize connection.receive manager.bufferSize = received at *
  obtain ⟨receipt, next⟩ := received
  rw [← hkeeps.slot_eq] at h
  cases receipt with
  | bytes count => exact h
  | pending => exact h
  | failed fault =>
      have hclosed := h.close
      simp only
      split
      · next hclose => rwa [hclose] at hclosed
      · next hclose => rwa [hclose] at hclosed

theorem Lends.receiveFrom
    (h : manager.Lends held) (hfresh : manager.nextId ∉ manager.active) (stream : Stream) :
    (manager.receiveFrom stream).1.Lends
      ((manager.receiveFrom stream).2.1.share .slots ++ held) := by
  have htaken := h.takeSlot
  simp only [Manager.receiveFrom, accept_eq hfresh]
  refine Lends.firstReceive ?_
  exact ⟨htaken.queue_eq, htaken.perm⟩

end Manager

variable {ι : Type} [DecidableEq ι]

namespace Switchboard

/-- How many connections hold a slot of a manager. -/
def holders (board : Switchboard ι) (i : ι) : Nat :=
  board.held.countP fun entry => entry.2.home = i

/-- How many connections hold a slot of a manager at the same time in the course of a
step, at most. A client that is accepted has its slot before its first receive can
fail, and before another connection of its name is dropped. -/
def crowd (board : Switchboard ι) (i : ι) : SwitchboardStep ι → Nat
  | .accept j _ stream =>
      match ((board.managers j).accept stream).2 with
      | .ok _ => board.holders i + if j = i then 1 else 0
      | .error _ => board.holders i
  | _ => board.holders i

/-- How many connections have ever held a slot of a manager at the same time in the
course of a run. -/
def peak (i : ι) : Switchboard ι → List (SwitchboardStep ι) → Nat
  | board, [] => board.holders i
  | board, s :: steps => max (board.crowd i s) (peak i (board.step s).1 steps)

/-- How the slots of a manager stand after a run. -/
structure Stocks (limits : ServerLimits) (steps : List (SwitchboardStep ι)) (i : ι) : Prop where
  idle_add_holders :
    (((new limits).run steps).managers i).idleSlots + ((new limits).run steps).holders i =
      max limits.preallocatedSlots ((new limits).peak i steps)
  made_eq :
    (((new limits).run steps).managers i).made =
      max limits.preallocatedSlots ((new limits).peak i steps)
  /-- Every slot that was ever made is idle or held by one connection. -/
  each_once :
    ((((new limits).run steps).managers i).slots.idle.map Slot.number ++
        ((new limits).run steps).shares .slots i).Perm
      (List.range (((new limits).run steps).managers i).made)
  /-- A step that makes a slot reaches a new peak. -/
  made_at_peak :
    ∀ s, (((new limits).run steps).managers i).made <
        (((new limits).run (steps ++ [s])).managers i).made →
      max limits.preallocatedSlots ((new limits).peak i steps) <
        (new limits).peak i (steps ++ [s])
  idle_of_none :
    ((new limits).run steps).holders i = 0 →
      (((new limits).run steps).managers i).idleSlots =
        max limits.preallocatedSlots ((new limits).peak i steps)

/-- Every number in a table has been given out. -/
def Fresh (board : Switchboard ι) : Prop :=
  ∀ i, ∀ id ∈ (board.managers i).active, id < (board.managers i).nextId

variable {board : Switchboard ι}
variable {name : String}
variable {held : Held ι}
variable {s : SwitchboardStep ι}
variable {i : ι}

omit [DecidableEq ι] in
theorem fresh_new (limits : ServerLimits) : (new limits : Switchboard ι).Fresh :=
  fun _ _ hid => absurd hid List.not_mem_nil

omit [DecidableEq ι] in
theorem Fresh.nextId_not_mem (h : board.Fresh) (i : ι) :
    (board.managers i).nextId ∉ (board.managers i).active :=
  fun hmem => Nat.lt_irrefl _ (h i _ hmem)

theorem Fresh.step (h : board.Fresh) (s : SwitchboardStep ι) : (board.step s).1.Fresh := by
  intro i id hid
  cases haccepts : s.accepts i with
  | false =>
      have hsettles : (board.managers i).Settles ((board.step s).1.managers i) :=
        settles_step haccepts
      rw [hsettles.nextId_eq]
      exact h i id (hsettles.mem_active id hid)
  | true =>
      obtain ⟨name, stream, rfl⟩ := SwitchboardStep.eq_accept_of_accepts haccepts
      have hadmits := admits_step board i name stream
      rw [hadmits.nextId_eq]
      rcases hadmits.mem_active id hid with rfl | hold
      · exact Nat.lt_succ_self _
      · exact Nat.lt_succ_of_lt (h i id hold)

theorem slots_new (limits : ServerLimits) : (new limits : Switchboard ι).Agrees .slots :=
  { names := List.nodup_nil
    agrees := fun _ => Manager.lends_new limits }

theorem length_shares_slots (board : Switchboard ι) (i : ι) :
    (board.shares .slots i).length = board.holders i := by
  unfold shares holders
  induction board.held with
  | nil => rfl
  | cons entry entries ih =>
      rw [List.flatMap_cons, List.length_append, ih, List.countP_cons, Held.shareAt, Nat.add_comm]
      by_cases hhome : entry.2.home = i
      · simp [hhome, Book.slots]
      · simp [hhome]

/-- Striking out an entry moves no slot. -/
theorem AgreesWith.slots_unregister
    {loose : ι → List Nat} {id : Nat} {manager : Manager}
    (h : board.AgreesWith .slots loose)
    (hunregister : (board.managers i).unregister id = .ok manager) :
    (board.setManager i manager).AgreesWith .slots loose := by
  refine h.setManager (fun _ _ => rfl) ?_
  unfold Manager.unregister at hunregister
  split at hunregister
  · cases hunregister
    exact h.agrees i
  · cases hunregister

theorem AgreesWith.slots_closeAt (h : board.AgreesWith .slots (held.shareAt .slots)) (i : ι) :
    (board.closeAt i held).1.Agrees .slots := by
  unfold Switchboard.closeAt
  split
  · next manager hunregister =>
      have hgone :
          (board.setManager i manager).AgreesWith .slots
            (Held.shareAt
              { held with connection := { held.connection with registered := false } } .slots) :=
        h.slots_unregister hunregister
      exact hgone.dropHeld
  · exact h.dropHeld

theorem AgreesWith.slots_startCloseAt
    (h : board.AgreesWith .slots (held.shareAt .slots)) (hfree : board.held? name = none) (i : ι) :
    (board.startCloseAt i name held).1.Agrees .slots := by
  unfold Switchboard.startCloseAt
  split
  · next manager hunregister =>
      have hclosing :
          (board.setManager i manager).AgreesWith .slots
            (Held.shareAt
              { held with connection := { held.connection with registered := false } } .slots) :=
        h.slots_unregister hunregister
      exact hclosing.hold hfree
  · exact h.dropHeld

/-- What every manager has lent, the connections hold, whatever step is taken. -/
theorem Agrees.slots_step
    (h : board.Agrees .slots) (hfresh : board.Fresh) (s : SwitchboardStep ι) :
    (board.step s).1.Agrees .slots := by
  cases s with
  | accept i name stream =>
      have hlends := (h.agrees i).receiveFrom (hfresh.nextId_not_mem i) stream
      refine AgreesWith.takeOpening (h.setManager ?_ ?_)
      · intro j hj
        exact if_neg (Ne.symm hj)
      · rw [Opening.shareAt, if_pos rfl]
        exact hlends
  | write name bytes => exact h.withClient name _
  | finish name ending => exact h.withClient name _
  | receive name =>
      simp only [Switchboard.step]
      split
      · exact h
      · next held hopen =>
          obtain ⟨hheld, -⟩ := open?_eq_some_iff.mp hopen
          split
          · have hhand := h.remove hheld
            have hhome := hhand.agrees held.home
            rw [held.shareAt_home] at hhome
            have hlends := Manager.Lends.firstReceive hhome
            refine AgreesWith.takeOpening (hhand.setManager ?_ ?_)
            · intro j hj
              rw [Held.shareAt_of_ne _ hj]
              exact if_neg (Ne.symm hj)
            · rw [Opening.shareAt, if_pos rfl]
              exact hlends
          · have hkeeps :=
              (held.connection.readsOn_receive (board.managers held.home).bufferSize).toKeeps
            have hupdated := h.update hheld (held.shareAt_eq_of_keeps .slots hkeeps)
            split <;> exact hupdated
  | send i name =>
      simp only [Switchboard.step]
      split
      · exact h
      · next held hopen =>
          obtain ⟨hheld, -⟩ := open?_eq_some_iff.mp hopen
          exact ((h.remove hheld).of_keeps held.connection.keeps_send).slots_closeAt i
  | close i name =>
      simp only [Switchboard.step]
      split
      · exact h
      · next held hopen =>
          obtain ⟨hheld, -⟩ := open?_eq_some_iff.mp hopen
          exact (h.remove hheld).slots_closeAt i
  | sendPart name count =>
      simp only [Switchboard.step]
      split
      · exact h
      · next held hopen =>
          obtain ⟨hheld, -⟩ := open?_eq_some_iff.mp hopen
          have hkeeps := held.connection.keeps_sendPart count
          exact h.update hheld (held.shareAt_eq_of_keeps .slots hkeeps)
  | startClose i name =>
      simp only [Switchboard.step]
      split
      · exact h
      · next held hopen =>
          obtain ⟨hheld, -⟩ := open?_eq_some_iff.mp hopen
          have hclosed := (h.remove hheld).slots_startCloseAt (board.held?_remove_self name) i
          split
          · next hclose => rwa [hclose] at hclosed
          · next hclose => rwa [hclose] at hclosed
  | endClose name =>
      simp only [Switchboard.step]
      split
      · exact h
      · next held hheld =>
          split
          · exact h
          · exact (h.remove hheld).dropHeld
  | drop name => exact h.dropName name
  | beat i => exact h

theorem Agrees.slots_run
    {steps : List (SwitchboardStep ι)} (h : board.Agrees .slots) (hfresh : board.Fresh) :
    (board.run steps).Agrees .slots := by
  induction steps generalizing board with
  | nil => exact h
  | cons s steps ih => exact ih (h.slots_step hfresh s) (hfresh.step s)

theorem Agrees.lends (h : board.Agrees .slots) (i : ι) :
    (board.managers i).Lends (board.shares .slots i) :=
  h.agrees i

theorem Agrees.idleSlots_add_holders (h : board.Agrees .slots) (i : ι) :
    (board.managers i).idleSlots + board.holders i = (board.managers i).made := by
  rw [← length_shares_slots]
  exact (h.lends i).idleCount_add

/-- A client that is accepted adds to the crowd. -/
theorem Fresh.crowd_accept (h : board.Fresh) (i : ι) (name : String) (stream : Stream) :
    board.crowd i (.accept i name stream) = board.holders i + 1 := by
  simp only [crowd, Manager.accept_eq (h.nextId_not_mem i), if_true]

theorem Fresh.crowd_of_not_accepts (h : board.Fresh) (hs : s.accepts i = false) :
    board.crowd i s = board.holders i := by
  cases s with
  | accept j name stream =>
      have hne : j ≠ i := by simpa [SwitchboardStep.accepts] using hs
      simp only [crowd, Manager.accept_eq (h.nextId_not_mem j), if_neg hne, Nat.add_zero]
  | _ => rfl

/-- A step makes a slot if and only if the crowd outgrows the slots. -/
theorem Agrees.made_step
    (h : board.Agrees .slots) (hfresh : board.Fresh) (s : SwitchboardStep ι) (i : ι) :
    ((board.step s).1.managers i).made = max (board.managers i).made (board.crowd i s) := by
  have hall := h.idleSlots_add_holders i
  cases haccepts : s.accepts i with
  | false =>
      rw [(settles_step haccepts).made_eq, hfresh.crowd_of_not_accepts haccepts]
      omega
  | true =>
      obtain ⟨name, stream, rfl⟩ := SwitchboardStep.eq_accept_of_accepts haccepts
      rw [(admits_step board i name stream).made_eq, (h.lends i).made_takeSlot,
        length_shares_slots, hfresh.crowd_accept]

/-- The slots that have been made number the peak, or what there was before. -/
theorem Agrees.made_run
    {steps : List (SwitchboardStep ι)} (h : board.Agrees .slots) (hfresh : board.Fresh) (i : ι) :
    ((board.run steps).managers i).made =
      max (board.managers i).made (board.peak i steps) := by
  induction steps generalizing board with
  | nil =>
      have hall := h.idleSlots_add_holders i
      simp only [run, List.foldl_nil, peak]
      omega
  | cons s steps ih =>
      have hrun : board.run (s :: steps) = (board.step s).1.run steps := rfl
      rw [hrun, ih (h.slots_step hfresh s) (hfresh.step s), h.made_step hfresh, peak, max_assoc]

/-- Whatever happens to the connections and in whatever order: the idle slots of a
manager and the connections that hold one number the peak, or what was there from the
beginning; no slot is lost, and none is made before there is a new peak. -/
theorem stocks_run (limits : ServerLimits) (steps : List (SwitchboardStep ι)) (i : ι) :
    Stocks limits steps i := by
  have hmade : ∀ steps : List (SwitchboardStep ι),
      (((new limits).run steps).managers i).made =
        max limits.preallocatedSlots ((new limits).peak i steps) :=
    fun _ => (slots_new limits).made_run (fresh_new limits) i
  have hslots : ((new limits).run steps).Agrees .slots :=
    (slots_new limits).slots_run (fresh_new limits)
  have hall := hslots.idleSlots_add_holders i
  rw [hmade] at hall
  refine
    { idle_add_holders := hall
      made_eq := hmade steps
      each_once := (hslots.lends i).perm
      made_at_peak := ?_
      idle_of_none := fun hnone => by rwa [hnone] at hall }
  intro s hmore
  rw [hmade, hmade] at hmore
  omega

-- The second client has a slot of its own until its first receive fails.
example :
    let limits := { ServerLimits.standard 1 with preallocatedSlots := 1 }
    let steps : List (SwitchboardStep Bool) :=
      [.accept false "a" .fresh, .accept false "b" (.finish .fresh .reset), .drop "a"]
    let board := (new limits).run steps
    ((board.managers false).idleSlots, board.holders false, (new limits).peak false steps) =
      (2, 0, 2) := by
  decide

end Switchboard
end HttpEngine
