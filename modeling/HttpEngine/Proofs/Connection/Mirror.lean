import HttpEngine.Proofs.Connection.Book

/-!
# The tables mirror the connections

The connections on a switchboard that are not being closed are live, and each
stands for an entry in the table of its home. The tables have exactly these
entries, whoever sends, closes or drops, in whatever order.

One thing can upset this: a manager is asked to close a connection of another one,
and has itself an entry of that number. Then it removes the entry of its own
connection. In all other cases a manager that is asked to close what is not its own
finds no entry and stops, and the home removes the right one.
-/

namespace HttpEngine

variable {ι : Type}

namespace SwitchboardStep

/-- The manager that is asked to close, and the name of the connection. -/
def asks? : SwitchboardStep ι → Option (ι × String)
  | .send i name => some (i, name)
  | .close i name => some (i, name)
  | .startClose i name => some (i, name)
  | _ => none

theorem eq_of_asks?
    {s : SwitchboardStep ι} {i : ι} {name : String} (hasks : s.asks? = some (i, name)) :
    s = .send i name ∨ s = .close i name ∨ s = .startClose i name := by
  cases s <;> simp_all [asks?]

end SwitchboardStep

variable [DecidableEq ι]

namespace Held

/-- The entry in the table of a manager that a connection stands for. -/
def entriesAt (held : Held ι) (i : ι) : List Nat :=
  if held.home = i then held.connection.entries else []

variable {held : Held ι}
variable {i : ι}

theorem entriesAt_home (held : Held ι) : held.entriesAt held.home = held.connection.entries :=
  if_pos rfl

theorem entriesAt_of_ne (hne : i ≠ held.home) : held.entriesAt i = [] :=
  if_neg (Ne.symm hne)

/-- A connection that is being closed stands for nothing. -/
theorem entriesAt_unregistered (hregistered : held.connection.registered = false) :
    held.entriesAt i = [] := by
  rw [entriesAt, Connection.entries, hregistered]
  simp

/-- A connection that keeps its number, and whether it is being closed, stands for
the same entry. -/
theorem entriesAt_eq_of_keeps
    {next : Connection} (held : Held ι) (hkeeps : held.connection.Keeps next) :
    { held with connection := next }.entriesAt = held.entriesAt := by
  funext i
  rw [entriesAt, entriesAt, hkeeps.entries_eq]

end Held

namespace Switchboard

/-- The numbers of a manager's live connections. -/
def live (board : Switchboard ι) (i : ι) : List Nat :=
  board.held.flatMap fun entry => entry.2.entriesAt i

/-- The tables have the entries of the live connections and of what is in hand. -/
abbrev MirrorsWith (board : Switchboard ι) (loose : ι → List Nat) : Prop :=
  board.AgreesWith .entries loose

/-- The tables have the entries of the live connections. -/
abbrev Mirrors (board : Switchboard ι) : Prop :=
  board.MirrorsWith fun _ => []

/-- A manager is asked to close a connection of another one, and has itself an
entry of that number. -/
def Mixes (board : Switchboard ι) (s : SwitchboardStep ι) : Prop :=
  ∃ i name held,
    s.asks? = some (i, name) ∧ board.open? name = some held ∧
      i ≠ held.home ∧ held.connection.id ∈ (board.managers i).active

variable {board : Switchboard ι}
variable {loose : ι → List Nat}
variable {name : String}
variable {held old next : Held ι}
variable {manager : Manager}
variable {i j : ι}

theorem mirrors_new (limits : ServerLimits) : (new limits : Switchboard ι).Mirrors :=
  { names := List.nodup_nil
    agrees := fun _ => Manager.enters_new limits }

theorem MirrorsWith.enters (h : board.MirrorsWith loose) (i : ι) :
    (board.managers i).Enters (loose i ++ board.live i) :=
  h.agrees i

/-- A connection that is taken off is in hand. -/
theorem Mirrors.remove (h : board.Mirrors) (hheld : board.held? name = some held) :
    (board.remove name).MirrorsWith held.entriesAt :=
  AgreesWith.remove h hheld

/-- What a connection does to its buffer and its stream is not in the tables. -/
theorem MirrorsWith.of_keeps
    {next : Connection} (h : board.MirrorsWith held.entriesAt)
    (hkeeps : held.connection.Keeps next) :
    board.MirrorsWith { held with connection := next }.entriesAt :=
  AgreesWith.of_keeps h hkeeps

theorem live_hold (board : Switchboard ι) (name : String) (held : Held ι) (i : ι) :
    (board.hold name held).live i = held.entriesAt i ++ (board.remove name).live i :=
  List.flatMap_cons

/-- A connection and all others. -/
theorem perm_live_remove
    (hnames : (board.held.map Prod.fst).Nodup) (hheld : board.held? name = some held) (i : ι) :
    (board.live i).Perm (held.entriesAt i ++ (board.remove name).live i) :=
  (Named.perm_of_lookup hnames hheld).flatMap_right _

theorem live_closeAt (board : Switchboard ι) (i : ι) (held : Held ι) (j : ι) :
    (board.closeAt i held).1.live j = board.live j := by
  unfold closeAt
  split <;> rfl

theorem live_startCloseAt (hfree : board.held? name = none) (i : ι) (held : Held ι) (j : ι) :
    (board.startCloseAt i name held).1.live j = board.live j := by
  unfold startCloseAt
  split
  · next manager hunregister =>
      have hleft : (board.setManager i manager).held? name = none := hfree
      rw [live_hold, Held.entriesAt_unregistered rfl, List.nil_append, remove_eq_self hleft]
      rfl
  · rfl

/-- Whoever is asked to close it, a connection that is sent or closed is live no
more. -/
theorem live_step_of_asks
    {s : SwitchboardStep ι} (hasks : s.asks? = some (i, name))
    (hopen : board.open? name = some held) (j : ι) :
    (board.step s).1.live j = (board.remove name).live j := by
  obtain rfl | rfl | rfl := SwitchboardStep.eq_of_asks? hasks
  · simp only [step, hopen]
    exact live_closeAt _ _ _ _
  · simp only [step, hopen]
    exact live_closeAt _ _ _ _
  · have hlive := live_startCloseAt (board.held?_remove_self name) i held j
    simp only [step, hopen]
    split
    · next hclose => rwa [hclose] at hlive
    · next hclose => rwa [hclose] at hlive

/-- What the home of a connection finds when it is asked to close it. -/
theorem MirrorsWith.enters_home
    (h : board.MirrorsWith held.entriesAt) (hregistered : held.connection.registered = true) :
    (board.managers held.home).Enters (held.connection.id :: board.live held.home) := by
  have henters := h.enters held.home
  rwa [held.entriesAt_home, Connection.entries, if_pos hregistered] at henters

/-- The home of a connection can close it, and nothing of it is left in the table. -/
theorem MirrorsWith.unregister_home
    (h : board.MirrorsWith held.entriesAt) (hregistered : held.connection.registered = true) :
    (board.setManager held.home
      ((board.managers held.home).forget held.connection.id)).MirrorsWith
        (Held.entriesAt
          { held with connection := { held.connection with registered := false } }) := by
  have hnone :
      Held.entriesAt { held with connection := { held.connection with registered := false } } =
        fun _ => [] :=
    funext fun _ => Held.entriesAt_unregistered rfl
  rw [hnone]
  exact
    h.setManager (fun _ hj => (Held.entriesAt_of_ne hj).symm)
      (h.enters_home hregistered).forget

/-- The home of a connection never finds its books wrong. -/
theorem MirrorsWith.closeAt_home
    (h : board.MirrorsWith held.entriesAt) (hregistered : held.connection.registered = true) :
    (board.closeAt held.home held).2.1 = none := by
  simp only [Switchboard.closeAt, (h.enters_home hregistered).unregister_eq]

theorem MirrorsWith.startCloseAt_home
    (h : board.MirrorsWith held.entriesAt) (hregistered : held.connection.registered = true)
    (name : String) :
    (board.startCloseAt held.home name held).2.1 = none := by
  simp only [Switchboard.startCloseAt, (h.enters_home hregistered).unregister_eq]

/-- A connection in hand is closed by its home, or by a manager that has no entry
of its number. -/
theorem MirrorsWith.closeAt
    (h : board.MirrorsWith held.entriesAt) (hregistered : held.connection.registered = true)
    (hclean : i ≠ held.home → held.connection.id ∉ (board.managers i).active) :
    (board.closeAt i held).1.Mirrors := by
  -- the home removes the entry; another manager stops, and the connection is dropped
  by_cases hi : i = held.home
  · subst hi
    simp only [Switchboard.closeAt, (h.enters_home hregistered).unregister_eq]
    exact (h.unregister_home hregistered).dropHeld
  · simp only [Switchboard.closeAt, Manager.unregister_eq_error (hclean hi)]
    exact h.dropHeld

theorem MirrorsWith.startCloseAt
    (h : board.MirrorsWith held.entriesAt) (hfree : board.held? name = none)
    (hregistered : held.connection.registered = true)
    (hclean : i ≠ held.home → held.connection.id ∉ (board.managers i).active) :
    (board.startCloseAt i name held).1.Mirrors := by
  by_cases hi : i = held.home
  · subst hi
    simp only [Switchboard.startCloseAt, (h.enters_home hregistered).unregister_eq]
    exact (h.unregister_home hregistered).hold hfree
  · simp only [Switchboard.startCloseAt, Manager.unregister_eq_error (hclean hi)]
    exact h.dropHeld

/-- A client that is accepted is live, or its first receive has failed. -/
theorem Mirrors.accept (h : board.Mirrors) (i : ι) (name : String) (stream : Stream) :
    (board.takeOpening i name ((board.managers i).receiveFrom stream)).1.Mirrors := by
  have hreceived := (Manager.Enters.receiveFrom (h.enters i) stream).1
  refine AgreesWith.takeOpening (h.setManager ?_ ?_)
  · intro j hj
    exact if_neg (Ne.symm hj)
  · rw [Opening.shareAt, if_pos rfl]
    exact hreceived

/-- A connection whose first bytes are awaited is live, or its first receive has
failed. -/
theorem MirrorsWith.firstReceive
    (h : board.MirrorsWith held.entriesAt) (hregistered : held.connection.registered = true)
    (name : String) :
    (board.takeOpening held.home name
      ((board.managers held.home).firstReceive held.connection)).1.Mirrors := by
  have hreceived := ((h.enters_home hregistered).firstReceive hregistered).1
  refine AgreesWith.takeOpening (h.setManager ?_ ?_)
  · intro j hj
    rw [Held.entriesAt_of_ne hj]
    exact if_neg (Ne.symm hj)
  · rw [Opening.shareAt, if_pos rfl]
    exact hreceived

/-- Only a mix-up can upset the tables. -/
theorem Mirrors.step (h : board.Mirrors) {s : SwitchboardStep ι} (hs : ¬ board.Mixes s) :
    (board.step s).1.Mirrors := by
  cases s with
  | accept i name stream => exact h.accept i name stream
  | write name bytes => exact h.withClient name _
  | finish name ending => exact h.withClient name _
  | receive name =>
      simp only [Switchboard.step]
      split
      · exact h
      · next held hopen =>
          obtain ⟨hheld, hregistered⟩ := open?_eq_some_iff.mp hopen
          split
          · exact (h.remove hheld).firstReceive hregistered name
          · have hkeeps :=
              (held.connection.readsOn_receive (board.managers held.home).bufferSize).toKeeps
            have hupdated := h.update hheld (held.entriesAt_eq_of_keeps hkeeps)
            split <;> exact hupdated
  | send i name =>
      simp only [Switchboard.step]
      split
      · exact h
      · next held hopen =>
          obtain ⟨hheld, hregistered⟩ := open?_eq_some_iff.mp hopen
          -- what is closed is the connection after the transfer, under the same number
          have hkeeps := held.connection.keeps_send
          refine ((h.remove hheld).of_keeps hkeeps).closeAt ?_ ?_
          · exact hkeeps.registered_eq.trans hregistered
          · intro hi hmem
            rw [hkeeps.id_eq] at hmem
            exact hs ⟨i, name, held, rfl, hopen, hi, hmem⟩
  | close i name =>
      simp only [Switchboard.step]
      split
      · exact h
      · next held hopen =>
          obtain ⟨hheld, hregistered⟩ := open?_eq_some_iff.mp hopen
          refine (h.remove hheld).closeAt hregistered ?_
          intro hi hmem
          exact hs ⟨i, name, held, rfl, hopen, hi, hmem⟩
  | sendPart name count =>
      simp only [Switchboard.step]
      split
      · exact h
      · next held hopen =>
          obtain ⟨hheld, -⟩ := open?_eq_some_iff.mp hopen
          exact h.update hheld (held.entriesAt_eq_of_keeps (held.connection.keeps_sendPart count))
  | startClose i name =>
      simp only [Switchboard.step]
      split
      · exact h
      · next held hopen =>
          obtain ⟨hheld, hregistered⟩ := open?_eq_some_iff.mp hopen
          have hclosed :
              ((board.remove name).startCloseAt i name held).1.Mirrors := by
            refine (h.remove hheld).startCloseAt (board.held?_remove_self name) hregistered ?_
            intro hi hmem
            exact hs ⟨i, name, held, rfl, hopen, hi, hmem⟩
          split
          · next hclose => rwa [hclose] at hclosed
          · next hclose => rwa [hclose] at hclosed
  | endClose name =>
      simp only [Switchboard.step]
      split
      · exact h
      · next held hheld =>
          split
          · exact h
          · exact (h.remove hheld).dropHeld
  | drop name => exact h.dropName name
  | beat i => exact h

/-- Something is so at every step of a run. -/
def Along (p : Switchboard ι → SwitchboardStep ι → Prop) :
    Switchboard ι → List (SwitchboardStep ι) → Prop
  | _, [] => True
  | board, s :: steps => p board s ∧ Along p (board.step s).1 steps

instance decidableAlong
    (p : Switchboard ι → SwitchboardStep ι → Prop) [∀ board s, Decidable (p board s)] :
    ∀ board steps, Decidable (Along p board steps)
  | _, [] => inferInstanceAs (Decidable True)
  | board, s :: steps =>
      have := decidableAlong p (board.step s).1 steps
      inferInstanceAs (Decidable (p board s ∧ Along p (board.step s).1 steps))

/-- While no step mixes up the tables, what each step does that finds them right is
done along the whole run. -/
theorem Mirrors.along
    {p q : Switchboard ι → SwitchboardStep ι → Prop}
    (hclean : ∀ board : Switchboard ι, board.Mirrors → ∀ s, p board s → ¬ board.Mixes s)
    (hstep : ∀ board : Switchboard ι, board.Mirrors → ∀ s, p board s → q board s)
    {steps : List (SwitchboardStep ι)} (h : board.Mirrors) (hp : board.Along p steps) :
    board.Along q steps := by
  induction steps generalizing board with
  | nil => trivial
  | cons s steps ih =>
      have hnext := h.step (hclean board h s hp.1)
      exact ⟨hstep board h s hp.1, ih hnext hp.2⟩

theorem Mirrors.run
    {steps : List (SwitchboardStep ι)} (h : board.Mirrors)
    (hclean : board.Along (fun board s => ¬ board.Mixes s) steps) :
    (board.run steps).Mirrors := by
  induction steps generalizing board with
  | nil => exact h
  | cons s steps ih => exact ih (h.step hclean.1) hclean.2

end Switchboard
end HttpEngine
