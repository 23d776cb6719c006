import HttpEngine.Proofs.Connection.Mirror

/-!
# Tearing down one connection

When a connection is torn down, its own entry should go, and no other. This is so
at every step but a mix-up. A mix-up gets both wrong: the entry that goes is the one
of another connection, which is still live, and the entry of the connection that
goes stays.
-/

namespace HttpEngine
namespace Switchboard

variable {ι : Type} [DecidableEq ι]

/-- A manager has a live connection of that number. -/
def Alive (board : Switchboard ι) (i : ι) (id : Nat) : Prop :=
  ∃ entry ∈ board.held,
    entry.2.home = i ∧ entry.2.connection.id = id ∧ entry.2.connection.registered = true

/-- A step leaves the entries of all connections that stay, and no entry of one
that goes. -/
structure Spares (board : Switchboard ι) (s : SwitchboardStep ι) : Prop where
  spared :
    ∀ i id, (board.step s).1.Alive i id →
      id ∈ (board.managers i).active → id ∈ ((board.step s).1.managers i).active
  cleared :
    ∀ i id, ¬ (board.step s).1.Alive i id → id ∉ ((board.step s).1.managers i).active

variable {board : Switchboard ι}
variable {s : SwitchboardStep ι}
variable {name : String}
variable {held : Held ι}
variable {i j : ι}
variable {id : Nat}

/-- Where nobody acts in between, closing and then waiting for the stream is closing
at once. -/
theorem run_startClose_endClose (hopen : board.open? name = some held) (i : ι) :
    board.run [.startClose i name, .endClose name] = (board.step (.close i name)).1 := by
  have hfree := board.held?_remove_self name
  cases hunregister : (board.managers i).unregister held.connection.id with
  | ok manager =>
      have hremoved :
          ((board.remove name).managers i).unregister held.connection.id = .ok manager :=
        hunregister
      have hleft : ((board.remove name).setManager i manager).held? name = none := hfree
      simp only [run, List.foldl_cons, List.foldl_nil, step, hopen, startCloseAt, closeAt,
        hremoved, held?_hold_self, remove_hold hleft, Bool.false_eq_true, if_false]
  | error fault =>
      have hremoved :
          ((board.remove name).managers i).unregister held.connection.id = .error fault :=
        hunregister
      have hleft : ((board.remove name).dropHeld held).1.held? name = none := hfree
      simp only [run, List.foldl_cons, List.foldl_nil, step, hopen, startCloseAt, closeAt,
        hremoved, hleft]

theorem mem_live_iff : id ∈ board.live i ↔ board.Alive i id := by
  simp only [live, List.mem_flatMap, Alive]
  refine exists_congr fun entry => and_congr_right fun _ => ?_
  by_cases hhome : entry.2.home = i
  · cases hregistered : entry.2.connection.registered with
    | true => simp [Held.entriesAt, Connection.entries, hhome, hregistered, eq_comm]
    | false => simp [Held.entriesAt, Connection.entries, hregistered]
  · simp [Held.entriesAt, hhome]

theorem Mirrors.mem_active_iff (h : board.Mirrors) :
    id ∈ (board.managers i).active ↔ board.Alive i id := by
  rw [(h.enters i).perm.mem_iff, List.nil_append, mem_live_iff]

theorem Mirrors.nodup_active (h : board.Mirrors) (i : ι) : (board.managers i).active.Nodup :=
  (h.enters i).perm.nodup_iff.mpr (h.enters i).nodup

theorem Mirrors.spares (h : board.Mirrors) (hs : ¬ board.Mixes s) : board.Spares s :=
  { spared := fun _ _ hafter _ => (h.step hs).mem_active_iff.mpr hafter
    cleared := fun _ _ hgone hmem => hgone ((h.step hs).mem_active_iff.mp hmem) }

/-- The tables of `after` lack one entry of a manager. -/
def Strikes (board after : Switchboard ι) (i : ι) (id : Nat) : Prop :=
  ∀ j, (after.managers j).active =
    if j = i then (board.managers i).active.erase id else (board.managers j).active

theorem strikes_setManager (board : Switchboard ι) (i : ι) (id : Nat) :
    board.Strikes (board.setManager i ((board.managers i).forget id)) i id := by
  intro j
  simp only [setManager]
  split <;> rfl

theorem Strikes.dropHeld
    {after : Switchboard ι}
    (h : board.Strikes after i id) (hregistered : held.connection.registered = false) :
    board.Strikes (after.dropHeld held).1 i id := by
  intro j
  rw [← h j]
  simp only [Switchboard.dropHeld, Manager.drop, hregistered, Bool.false_and, setManager]
  split
  · next hj => rw [hj]; rfl
  · rfl

/-- A manager that is asked to close and has an entry of that number removes it,
whosever it is. -/
theorem strikes_closeAt
    (board : Switchboard ι) (hmem : held.connection.id ∈ (board.managers i).active) :
    board.Strikes (board.closeAt i held).1 i held.connection.id := by
  simp only [closeAt, Manager.unregister, if_pos hmem]
  exact (board.strikes_setManager i held.connection.id).dropHeld rfl

theorem strikes_startCloseAt
    (board : Switchboard ι) (hmem : held.connection.id ∈ (board.managers i).active)
    (name : String) :
    board.Strikes (board.startCloseAt i name held).1 i held.connection.id := by
  simp only [startCloseAt, Manager.unregister, if_pos hmem]
  exact board.strikes_setManager i held.connection.id

theorem strikes_step
    (hasks : s.asks? = some (i, name)) (hopen : board.open? name = some held)
    (hmem : held.connection.id ∈ (board.managers i).active) :
    board.Strikes (board.step s).1 i held.connection.id := by
  obtain rfl | rfl | rfl := SwitchboardStep.eq_of_asks? hasks
  · have hid := held.connection.keeps_send.id_eq
    simp only [step, hopen]
    rw [← hid] at hmem ⊢
    exact strikes_closeAt (board.remove name) hmem
  · simp only [step, hopen]
    exact strikes_closeAt (board.remove name) hmem
  · have hstruck := strikes_startCloseAt (board.remove name) hmem name
    simp only [step, hopen]
    split
    · next hclose => rwa [hclose] at hstruck
    · next hclose => rwa [hclose] at hstruck

/-- A mix-up removes the entry of a connection that stays, and leaves the entry of
the one that goes. -/
theorem Mirrors.mixes (h : board.Mirrors) (hs : board.Mixes s) :
    (∃ i id, board.Alive i id ∧ (board.step s).1.Alive i id ∧
        id ∈ (board.managers i).active ∧ id ∉ ((board.step s).1.managers i).active) ∧
      ∃ i id, board.Alive i id ∧ ¬ (board.step s).1.Alive i id ∧
        id ∈ ((board.step s).1.managers i).active := by
  obtain ⟨i, name, held, hasks, hopen, hi, hmem⟩ := hs
  obtain ⟨hheld, hregistered⟩ := open?_eq_some_iff.mp hopen
  -- the entry struck out is the one at `i`; the tables being right, somebody else stands for it
  have hstruck := strikes_step hasks hopen hmem
  have hhome := (h.remove hheld).enters_home hregistered
  have hown : held.connection.id ∈ (board.managers held.home).active :=
    hhome.perm.mem_iff.mpr List.mem_cons_self
  refine ⟨⟨i, held.connection.id, ?_, ?_, hmem, ?_⟩, held.home, held.connection.id, ?_, ?_, ?_⟩
  · exact h.mem_active_iff.mp hmem
  · have hperm := perm_live_remove h.names hheld i
    rw [Held.entriesAt_of_ne hi, List.nil_append] at hperm
    rw [← mem_live_iff, live_step_of_asks hasks hopen, ← hperm.mem_iff, mem_live_iff]
    exact h.mem_active_iff.mp hmem
  · rw [hstruck i, if_pos rfl]
    exact (h.nodup_active i).not_mem_erase
  · exact h.mem_active_iff.mp hown
  · rw [← mem_live_iff, live_step_of_asks hasks hopen]
    exact (List.nodup_cons.mp hhome.nodup).1
  · rw [hstruck held.home, if_neg (Ne.symm hi)]
    exact hown

theorem Mirrors.spares_iff (h : board.Mirrors) : board.Spares s ↔ ¬ board.Mixes s := by
  constructor
  · intro hspares hmixes
    obtain ⟨⟨i, id, -, hafter, hmem, hnot⟩, -⟩ := h.mixes hmixes
    exact hnot (hspares.spared i id hafter hmem)
  · exact h.spares

/-- Tearing down a connection removes its own entry and no other, at every step of
a run, if and only if no manager is asked to close a connection of another one
while it has itself an entry of that number. -/
theorem spares_run_iff (limits : ServerLimits) (steps : List (SwitchboardStep ι)) :
    (new limits).Along Spares steps ↔
      (new limits).Along (fun board s => ¬ board.Mixes s) steps := by
  constructor
  · have hclean : ∀ board : Switchboard ι, board.Mirrors → ∀ s, board.Spares s → ¬ board.Mixes s :=
      fun _ hmirrors _ hspares => hmirrors.spares_iff.mp hspares
    exact (mirrors_new limits).along hclean hclean
  · exact
      (mirrors_new limits).along (fun _ _ _ hclean => hclean)
        fun _ hmirrors _ hclean => hmirrors.spares_iff.mpr hclean

/-- Of two managers, each with a client whose first bytes have been received, the second
is asked to close the first connection of the first: its own first connection loses its
entry. -/
theorem not_spares_of_close_elsewhere :
    ¬ ∀ (limits : ServerLimits) (steps : List (SwitchboardStep Bool)),
        (new limits).Along Spares steps := by
  intro h
  have hsteps :=
    h { ServerLimits.standard 1 with preallocatedSlots := 0 }
      [.accept false "a" (.write .fresh (Bytes.ofText "x")),
        .accept true "b" (.write .fresh (Bytes.ofText "y")), .close true "a"]
  have hentry :=
    hsteps.2.2.1.spared true 1 (mem_live_iff.mp (by decide)) (by decide)
  exact absurd hentry (by decide)

end Switchboard
end HttpEngine
