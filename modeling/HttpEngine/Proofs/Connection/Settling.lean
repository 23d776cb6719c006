import HttpEngine.Proofs.Connection.Book

/-!
# What only accepting changes

Of all that happens to connections, only accepting a client takes a number, adds an
entry to a table, or has a slot made; and it does so at the manager that accepts and
at no other. Everything else leaves what every manager has given out as it is.
-/

namespace HttpEngine

variable {ι : Type} [DecidableEq ι]

/-- A client is accepted by that manager. -/
def SwitchboardStep.accepts (i : ι) : SwitchboardStep ι → Bool
  | .accept j _ _ => j = i
  | _ => false

theorem SwitchboardStep.eq_accept_of_accepts
    {s : SwitchboardStep ι} {i : ι} (haccepts : s.accepts i = true) :
    ∃ name stream, s = .accept i name stream := by
  cases s <;> simp_all [accepts]

namespace Switchboard

variable {board : Switchboard ι}
variable {s : SwitchboardStep ι}
variable {manager : Manager}
variable {i j : ι}

theorem settles_setManager
    (hsettles : (board.managers i).Settles manager) (j : ι) :
    (board.managers j).Settles ((board.setManager i manager).managers j) := by
  by_cases hj : j = i
  · subst hj
    rwa [managers_setManager_self]
  · rw [managers_setManager_of_ne hj]
    exact Manager.Settles.refl _

theorem settles_dropHeld (board : Switchboard ι) (held : Held ι) (j : ι) :
    (board.managers j).Settles ((board.dropHeld held).1.managers j) :=
  settles_setManager (Manager.settles_drop _ _) j

theorem settles_closeAt (board : Switchboard ι) (i : ι) (held : Held ι) (j : ι) :
    (board.managers j).Settles ((board.closeAt i held).1.managers j) := by
  unfold closeAt
  split
  · next hunregister =>
      exact
        (settles_setManager (Manager.settles_unregister hunregister) j).trans
          (settles_dropHeld _ _ j)
  · exact settles_dropHeld _ _ j

theorem settles_startCloseAt
    (board : Switchboard ι) (i : ι) (name : String) (held : Held ι) (j : ι) :
    (board.managers j).Settles ((board.startCloseAt i name held).1.managers j) := by
  unfold startCloseAt
  split
  · next hunregister => exact settles_setManager (Manager.settles_unregister hunregister) j
  · exact settles_dropHeld _ _ j

theorem settles_put (board : Switchboard ι) (name : String) (held : Held ι) (j : ι) :
    (board.managers j).Settles ((board.put name held).1.managers j) := by
  unfold put
  split
  · exact Manager.Settles.refl _
  · exact settles_dropHeld _ _ j

theorem settles_takeOpening
    (board : Switchboard ι) (i : ι) (name : String) (opened : Manager × Opening × List Event)
    (j : ι) :
    ((board.setManager i opened.1).managers j).Settles
      ((board.takeOpening i name opened).1.managers j) := by
  obtain ⟨manager, opening, events⟩ := opened
  cases opening with
  | opened connection => exact settles_put _ _ _ j
  | pending connection => exact settles_put _ _ _ j
  | failed fault => exact Manager.Settles.refl _
  | crashed fault => exact Manager.Settles.refl _

theorem settles_dropName (board : Switchboard ι) (name : String) (j : ι) :
    (board.managers j).Settles ((board.dropName name).1.managers j) := by
  unfold dropName
  split
  · exact Manager.Settles.refl _
  · exact settles_dropHeld _ _ j

/-- The manager that accepts a client takes one number for it. -/
theorem admits_step (board : Switchboard ι) (i : ι) (name : String) (stream : Stream) :
    (board.managers i).Admits ((board.step (.accept i name stream)).1.managers i) := by
  have hopened :=
    settles_takeOpening board i name ((board.managers i).receiveFrom stream) i
  rw [managers_setManager_self] at hopened
  exact ((board.managers i).admits_receiveFrom stream).settles hopened

/-- A step by which a manager accepts nobody leaves what it has given out. -/
theorem settles_step (hs : s.accepts i = false) :
    (board.managers i).Settles ((board.step s).1.managers i) := by
  cases s with
  | accept j name stream =>
      have hne : i ≠ j := by
        simpa [SwitchboardStep.accepts, eq_comm] using hs
      have hopened :=
        settles_takeOpening board j name ((board.managers j).receiveFrom stream) i
      rwa [managers_setManager_of_ne hne] at hopened
  | write name bytes =>
      simp only [step, withClient]
      split <;> exact Manager.Settles.refl _
  | finish name ending =>
      simp only [step, withClient]
      split <;> exact Manager.Settles.refl _
  | receive name =>
      simp only [step]
      split
      · exact Manager.Settles.refl _
      · next held hopen =>
          split
          · have hfirst :=
              settles_setManager
                ((board.managers held.home).settles_firstReceive held.connection) i
            exact hfirst.trans (settles_takeOpening (board.remove name) held.home name _ i)
          · split <;> exact Manager.Settles.refl _
  | send j name =>
      simp only [step]
      split
      · exact Manager.Settles.refl _
      · exact settles_closeAt (board.remove name) j _ i
  | close j name =>
      simp only [step]
      split
      · exact Manager.Settles.refl _
      · exact settles_closeAt (board.remove name) j _ i
  | sendPart name count =>
      simp only [step]
      split <;> exact Manager.Settles.refl _
  | startClose j name =>
      simp only [step]
      split
      · exact Manager.Settles.refl _
      · next held hopen =>
          have hsettles := settles_startCloseAt (board.remove name) j name held i
          split
          · next hclose => rwa [hclose] at hsettles
          · next hclose => rwa [hclose] at hsettles
  | endClose name =>
      simp only [step]
      split
      · exact Manager.Settles.refl _
      · split
        · exact Manager.Settles.refl _
        · exact settles_dropHeld (board.remove name) _ i
  | drop name => exact settles_dropName board name i
  | beat j => exact Manager.Settles.refl _

end Switchboard
end HttpEngine
