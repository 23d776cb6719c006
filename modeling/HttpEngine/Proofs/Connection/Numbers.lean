import HttpEngine.Proofs.Connection.Mirror
import HttpEngine.Proofs.Connection.Settling
import Mathlib.Algebra.Order.Group.Multiset

/-!
# Numbers along a run

A client takes the next number of the manager that accepts it, also when its first
receive fails, and no number is taken twice. A number is in the table from then
until its connection is torn down: sent, closed, dropped, replaced by another one
of its name, or given up because its first receive fails.

As long as every connection goes back to the manager that accepted it, the table
has exactly the numbers that have been taken and not been torn down, and the books
are never found wrong.
-/

namespace HttpEngine

variable {ι : Type} [DecidableEq ι]

namespace Switchboard

/-- The numbers that a step takes at a manager. -/
def taken (board : Switchboard ι) (i : ι) (s : SwitchboardStep ι) : List Nat :=
  if s.accepts i then [(board.managers i).nextId] else []

/-- The number of the connection of a name, if it is a live one of that manager. -/
def numberAt (board : Switchboard ι) (name : String) (i : ι) : List Nat :=
  (board.held? name).elim [] fun held => held.entriesAt i

/-- The numbers of a manager's connections that a step tears down. -/
def torn (board : Switchboard ι) (i : ι) (s : SwitchboardStep ι) : List Nat :=
  match s, (board.step s).2.1 with
  | .accept _ _ _, .refused _ => board.taken i s
  | .accept _ name _, _ => board.numberAt name i
  | .receive name, .refused _ => board.numberAt name i
  | .send _ name, _ => board.numberAt name i
  | .close _ name, _ => board.numberAt name i
  | .startClose _ name, _ => board.numberAt name i
  | .drop name, _ => board.numberAt name i
  | _, _ => []

/-- The numbers that a run tears down. -/
def tornDown (i : ι) : Switchboard ι → List (SwitchboardStep ι) → List Nat
  | _, [] => []
  | board, s :: steps => board.torn i s ++ tornDown i (board.step s).1 steps

/-- Only the manager that accepted a connection is asked to send or to close it. -/
def Returns (board : Switchboard ι) (s : SwitchboardStep ι) : Prop :=
  ∀ ask ∈ s.asks?, ∀ held ∈ board.open? ask.2, held.home = ask.1

instance decidableReturns (board : Switchboard ι) (s : SwitchboardStep ι) :
    Decidable (board.Returns s) :=
  inferInstanceAs (Decidable (∀ ask ∈ s.asks?, ∀ held ∈ board.open? ask.2, held.home = ask.1))

/-- A step does not find the books wrong; an accepted client is live under the next
number unless its first receive has failed; and of the table the step removes what it
tears down. -/
structure Upright (board : Switchboard ι) (s : SwitchboardStep ι) : Prop where
  uncrashed : ∀ fault, (board.step s).2.1 ≠ .crashed fault
  numbered :
    ∀ i name stream, s = .accept i name stream →
      (∃ fault, (board.step s).2.1 = .refused fault) ∨
        ∃ held, (board.step s).1.open? name = some held ∧ held.home = i ∧
          held.connection.id = (board.managers i).nextId
  moves :
    ∀ i, (((board.step s).1.managers i).active ++ board.torn i s).Perm
      (board.taken i s ++ (board.managers i).active)

/-- What the books of a manager say after a run. -/
structure Registers
    (limits : ServerLimits) (steps : List (SwitchboardStep ι)) (i : ι) : Prop where
  nextId_eq : (((new limits).run steps).managers i).nextId = steps.countP (·.accepts i) + 1
  perm_taken :
    ((((new limits).run steps).managers i).active ++ (new limits).tornDown i steps).Perm
      (List.range' 1 (steps.countP (·.accepts i)))
  perm_live : (((new limits).run steps).managers i).active.Perm (((new limits).run steps).live i)
  nodup : (((new limits).run steps).managers i).active.Nodup
  activeCount_eq :
    (((new limits).run steps).managers i).activeCount = (((new limits).run steps).live i).length

variable {board : Switchboard ι}
variable {s : SwitchboardStep ι}
variable {name : String}
variable {held : Held ι}
variable {manager : Manager}
variable {i j : ι}

omit [DecidableEq ι] in
theorem not_mixes_of_returns (hs : board.Returns s) : ¬ board.Mixes s := by
  rintro ⟨i, name, held, hasks, hopen, hi, -⟩
  exact hi (hs (i, name) hasks held hopen).symm

/-- Only accepting a client takes a number. -/
theorem nextId_step (board : Switchboard ι) (s : SwitchboardStep ι) (i : ι) :
    ((board.step s).1.managers i).nextId =
      (board.managers i).nextId + (board.taken i s).length := by
  unfold taken
  cases haccepts : s.accepts i with
  | false => exact (settles_step haccepts).nextId_eq
  | true =>
      obtain ⟨name, stream, rfl⟩ := SwitchboardStep.eq_accept_of_accepts haccepts
      exact (admits_step board i name stream).nextId_eq

section Live

theorem numberAt_eq_nil (hfree : board.held? name = none) (i : ι) :
    board.numberAt name i = [] := by
  rw [numberAt, hfree]
  rfl

theorem numberAt_eq (hheld : board.held? name = some held) (i : ι) :
    board.numberAt name i = held.entriesAt i := by
  rw [numberAt, hheld]
  rfl

theorem numberAt_eq_nil_of_open? (hopen : board.open? name = none) (i : ι) :
    board.numberAt name i = [] := by
  cases hheld : board.held? name with
  | none => exact numberAt_eq_nil hheld i
  | some held =>
      have hclosing := Option.filter_eq_none_iff.mp hopen held hheld
      rw [numberAt_eq hheld]
      exact Held.entriesAt_unregistered (by simpa using hclosing)

/-- A connection and all others, or all where the name is free. -/
theorem live_eq (hnames : (board.held.map Prod.fst).Nodup) (name : String) (i : ι) :
    (board.live i : Multiset Nat) = board.numberAt name i + (board.remove name).live i := by
  cases hheld : board.held? name with
  | none =>
      rw [numberAt_eq_nil hheld, remove_eq_self hheld]
      exact (zero_add _).symm
  | some held =>
      rw [numberAt_eq hheld]
      exact Multiset.coe_eq_coe.mpr (perm_live_remove hnames hheld i)

/-- A connection that is put under a name takes the place of another one. -/
theorem live_put
    (board : Switchboard ι) (hnames : (board.held.map Prod.fst).Nodup) (name : String)
    (held : Held ι) (i : ι) :
    ((board.put name held).1.live i : Multiset Nat) + board.numberAt name i =
      held.entriesAt i + board.live i := by
  have hput : (board.put name held).1.live i = (board.hold name held).live i := by
    unfold put
    split <;> rfl
  rw [hput, live_hold, ← Multiset.coe_add, live_eq hnames name i, add_assoc,
    add_comm ((board.remove name).live i : Multiset Nat)]

theorem live_update
    {next : Held ι} (hnames : (board.held.map Prod.fst).Nodup)
    (hheld : board.held? name = some held) (hsame : next.entriesAt = held.entriesAt) (i : ι) :
    ((board.hold name next).live i : Multiset Nat) = board.live i := by
  rw [live_hold, ← Multiset.coe_add, live_eq hnames name i, numberAt_eq hheld, hsame]

/-- Whoever is sent or closed is live no more. -/
theorem live_ask
    (hnames : (board.held.map Prod.fst).Nodup) (hasks : s.asks? = some (j, name)) (i : ι) :
    ((board.step s).1.live i : Multiset Nat) + board.numberAt name i = board.live i := by
  cases hopen : board.open? name with
  | none =>
      have hstill : (board.step s).1 = board := by
        obtain rfl | rfl | rfl := SwitchboardStep.eq_of_asks? hasks <;>
          simp only [step, hopen]
      rw [hstill, numberAt_eq_nil_of_open? hopen]
      exact add_zero _
  | some held =>
      rw [live_step_of_asks hasks hopen, live_eq hnames name i]
      exact add_comm _ _

theorem live_withClient
    (hnames : (board.held.map Prod.fst).Nodup) (name : String) (act : Stream → Stream) (i : ι) :
    ((board.withClient name act).1.live i : Multiset Nat) = board.live i := by
  unfold withClient
  split
  · rfl
  · next hheld => exact live_update hnames hheld rfl i

theorem live_dropName (board : Switchboard ι) (name : String) (i : ι) :
    (board.dropName name).1.live i = (board.remove name).live i := by
  unfold dropName
  split
  · next hfree => rw [remove_eq_self hfree]
  · rfl

/-- A connection that is taken off and put back stands for what it stood for. -/
theorem live_put_back
    {next : Connection} (hnames : (board.held.map Prod.fst).Nodup)
    (hheld : board.held? name = some held) (hkeeps : held.connection.Keeps next)
    (manager : Manager) (opening : Bool) (i : ι) :
    ((((board.remove name).setManager held.home manager).put name
        { home := held.home, opening := opening, connection := next }).1.live i :
        Multiset Nat) = board.live i := by
  have hput :=
    live_put ((board.remove name).setManager held.home manager)
      (Named.nodup_filter hnames name) name
      { home := held.home, opening := opening, connection := next } i
  have hfree : ((board.remove name).setManager held.home manager).numberAt name i = [] :=
    numberAt_eq_nil (board.held?_remove_self name) i
  have hsame :
      ({ home := held.home, opening := opening, connection := next } : Held ι).entriesAt i =
        held.entriesAt i :=
    congrFun (held.entriesAt_eq_of_keeps hkeeps) i
  rw [hfree, hsame] at hput
  rw [live_eq hnames name i, numberAt_eq hheld]
  exact (add_zero _).symm.trans hput

end Live

/-- What is live after a step, and what it tears down, has been live before or has
been accepted. -/
theorem live_step (h : board.Mirrors) (s : SwitchboardStep ι) (i : ι) :
    ((board.step s).1.live i : Multiset Nat) + board.torn i s = board.taken i s + board.live i := by
  cases s with
  | accept j name stream =>
      obtain ⟨-, connection, hid, hregistered, hopens⟩ :=
        Manager.Enters.receiveFrom (h.enters j) stream
      have htaken : ∀ {next : Connection} (opening : Bool), connection.Keeps next →
          ({ home := j, opening := opening, connection := next } : Held ι).entriesAt i =
            board.taken i (.accept j name stream) := by
        intro next opening hkeeps
        simp only [Held.entriesAt, taken, SwitchboardStep.accepts, decide_eq_true_eq]
        split
        · next hj => rw [hkeeps.entries_eq, Connection.entries, if_pos hregistered, hid, hj]
        · rfl
      simp only [torn, step]
      generalize (board.managers j).receiveFrom stream = received at *
      obtain ⟨manager, opening, events⟩ := received
      cases hopens with
      | opened hkeeps =>
          rw [← htaken false hkeeps]
          exact live_put (board.setManager j manager) h.names name _ i
      | pending hkeeps =>
          rw [← htaken true hkeeps]
          exact live_put (board.setManager j manager) h.names name _ i
      -- the number is taken and given up in one step
      | failed => exact add_comm _ _
  | write name bytes =>
      have hlive := live_withClient h.names name (fun stream => stream.write bytes) i
      exact (add_zero _).trans (hlive.trans (zero_add _).symm)
  | finish name ending =>
      have hlive := live_withClient h.names name (fun stream => stream.finish ending) i
      exact (add_zero _).trans (hlive.trans (zero_add _).symm)
  | receive name =>
      have hall := live_eq h.names name i
      refine Eq.trans ?_ (zero_add _).symm
      simp only [torn, step]
      split
      · exact add_zero _
      · next held hopen =>
          obtain ⟨hheld, hregistered⟩ := open?_eq_some_iff.mp hopen
          split
          · have hopens :=
              (((h.remove hheld).enters_home hregistered).firstReceive hregistered).2
            simp only [remove] at hopens
            generalize (board.managers held.home).firstReceive held.connection = received at *
            obtain ⟨manager, opening, events⟩ := received
            cases hopens with
            | opened hkeeps =>
                exact
                  (add_zero _).trans (live_put_back h.names hheld hkeeps manager false i)
            | pending hkeeps =>
                exact
                  (add_zero _).trans (live_put_back h.names hheld hkeeps manager true i)
            | failed =>
                rw [hall]
                exact add_comm _ _
          · have hkeeps :=
              (held.connection.readsOn_receive (board.managers held.home).bufferSize).toKeeps
            have hlive := live_update h.names hheld (held.entriesAt_eq_of_keeps hkeeps) i
            split <;> exact (add_zero _).trans hlive
  | send j name => exact (live_ask h.names rfl i).trans (zero_add _).symm
  | close j name => exact (live_ask h.names rfl i).trans (zero_add _).symm
  | sendPart name count =>
      refine Eq.trans (add_zero _) (Eq.trans ?_ (zero_add _).symm)
      simp only [step]
      split
      · rfl
      · next held hopen =>
          obtain ⟨hheld, -⟩ := open?_eq_some_iff.mp hopen
          exact
            live_update h.names hheld
              (held.entriesAt_eq_of_keeps (held.connection.keeps_sendPart count)) i
  | startClose j name => exact (live_ask h.names rfl i).trans (zero_add _).symm
  | endClose name =>
      refine Eq.trans (add_zero _) (Eq.trans ?_ (zero_add _).symm)
      have hall := live_eq h.names name i
      simp only [step]
      split
      · rfl
      · next held hheld =>
          split
          · rfl
          · next hregistered =>
              rw [hall, numberAt_eq hheld, Held.entriesAt_unregistered (by simpa using hregistered)]
              exact (zero_add _).symm
  | drop name =>
      refine Eq.trans ?_ ((live_eq h.names name i).symm.trans (zero_add _).symm)
      simp only [step, live_dropName]
      exact add_comm _ _
  | beat j => exact (add_zero _).trans (zero_add _).symm

theorem open?_put (hregistered : held.connection.registered = true) :
    (board.put name held).1.open? name = some held := by
  have hheld : (board.put name held).1.held? name = some held := by
    unfold put
    split <;> exact held?_hold_self _ _ _
  exact open?_eq_some_iff.mpr ⟨hheld, hregistered⟩

/-- Whoever is accepted is live under the next number, or is given up. -/
theorem answer_accept (h : board.Mirrors) (i : ι) (name : String) (stream : Stream) :
    (∃ fault, (board.step (.accept i name stream)).2.1 = .refused fault) ∨
      ((∃ connection, (board.step (.accept i name stream)).2.1 = .opened connection) ∨
        (board.step (.accept i name stream)).2.1 = .pending) ∧
      ∃ held, (board.step (.accept i name stream)).1.open? name = some held ∧ held.home = i ∧
        held.connection.id = (board.managers i).nextId := by
  obtain ⟨-, connection, hid, hregistered, hopens⟩ :=
    Manager.Enters.receiveFrom (h.enters i) stream
  have hheld : ∀ {next : Connection} (manager : Manager) (opening : Bool),
      connection.Keeps next →
        ∃ held, ((board.setManager i manager).put name
            { home := i, opening := opening, connection := next }).1.open? name = some held ∧
          held.home = i ∧ held.connection.id = (board.managers i).nextId := by
    intro next manager opening hkeeps
    exact
      ⟨_, open?_put (hkeeps.registered_eq.trans hregistered), rfl, hkeeps.id_eq.trans hid⟩
  simp only [step]
  generalize (board.managers i).receiveFrom stream = received at *
  obtain ⟨manager, opening, events⟩ := received
  cases hopens with
  | opened hkeeps => exact .inr ⟨.inl ⟨_, rfl⟩, hheld manager false hkeeps⟩
  | pending hkeeps => exact .inr ⟨.inr rfl, hheld manager true hkeeps⟩
  | failed => exact .inl ⟨_, rfl⟩

theorem uncrashed_step (h : board.Mirrors) (hs : board.Returns s) (fault : ManagerFault) :
    (board.step s).2.1 ≠ .crashed fault := by
  intro hcrashed
  cases s with
  | accept i name stream =>
      rcases answer_accept h i name stream with
        ⟨fault, hanswer⟩ | ⟨⟨connection, hanswer⟩ | hanswer, -⟩
      · cases hanswer.symm.trans hcrashed
      · cases hanswer.symm.trans hcrashed
      · cases hanswer.symm.trans hcrashed
  | write name bytes =>
      simp only [step, withClient] at hcrashed
      split at hcrashed <;> cases hcrashed
  | finish name ending =>
      simp only [step, withClient] at hcrashed
      split at hcrashed <;> cases hcrashed
  | receive name =>
      simp only [step] at hcrashed
      split at hcrashed
      · cases hcrashed
      · next held hopen =>
          obtain ⟨hheld, hregistered⟩ := open?_eq_some_iff.mp hopen
          split at hcrashed
          · have hopens :=
              (((h.remove hheld).enters_home hregistered).firstReceive hregistered).2
            simp only [remove] at hopens
            generalize (board.managers held.home).firstReceive held.connection = received at *
            obtain ⟨manager, opening, events⟩ := received
            cases hopens with
            | opened hkeeps => cases hcrashed
            | pending hkeeps => cases hcrashed
            | failed => cases hcrashed
          · split at hcrashed <;> cases hcrashed
  | send i name =>
      simp only [step] at hcrashed
      split at hcrashed
      · cases hcrashed
      · next held hopen =>
          obtain ⟨hheld, hregistered⟩ := open?_eq_some_iff.mp hopen
          obtain rfl : held.home = i := hs (i, name) rfl held hopen
          have hkeeps := held.connection.keeps_send
          have hnone :=
            ((h.remove hheld).of_keeps hkeeps).closeAt_home
              (hkeeps.registered_eq.trans hregistered)
          rw [hnone] at hcrashed
          cases hcrashed
  | close i name =>
      simp only [step] at hcrashed
      split at hcrashed
      · cases hcrashed
      · next held hopen =>
          obtain ⟨hheld, hregistered⟩ := open?_eq_some_iff.mp hopen
          obtain rfl : held.home = i := hs (i, name) rfl held hopen
          rw [(h.remove hheld).closeAt_home hregistered] at hcrashed
          cases hcrashed
  | sendPart name count =>
      simp only [step] at hcrashed
      split at hcrashed <;> cases hcrashed
  | startClose i name =>
      simp only [step] at hcrashed
      split at hcrashed
      · cases hcrashed
      · next held hopen =>
          obtain ⟨hheld, hregistered⟩ := open?_eq_some_iff.mp hopen
          obtain rfl : held.home = i := hs (i, name) rfl held hopen
          have hnone := (h.remove hheld).startCloseAt_home hregistered name
          split at hcrashed
          · cases hcrashed
          · next hclose =>
              rw [hclose] at hnone
              cases hnone
  | endClose name =>
      simp only [step] at hcrashed
      split at hcrashed
      · cases hcrashed
      · split at hcrashed <;> cases hcrashed
  | drop name => cases hcrashed
  | beat i => cases hcrashed

theorem Mirrors.coe_active (h : board.Mirrors) (i : ι) :
    ((board.managers i).active : Multiset Nat) = board.live i :=
  Multiset.coe_eq_coe.mpr (h.enters i).perm

theorem upright_step (h : board.Mirrors) (hs : board.Returns s) : board.Upright s := by
  have hafter := h.step (not_mixes_of_returns hs)
  refine ⟨uncrashed_step h hs, ?_, ?_⟩
  · rintro i name stream rfl
    exact (answer_accept h i name stream).imp_right And.right
  · intro i
    rw [← Multiset.coe_eq_coe, ← Multiset.coe_add, ← Multiset.coe_add, h.coe_active,
      hafter.coe_active]
    exact live_step h s i

/-- The next number counts the clients that have been accepted. -/
theorem nextId_run (board : Switchboard ι) (steps : List (SwitchboardStep ι)) (i : ι) :
    ((board.run steps).managers i).nextId =
      (board.managers i).nextId + steps.countP (·.accepts i) := by
  induction steps generalizing board with
  | nil => rfl
  | cons s steps ih =>
      have hrun : board.run (s :: steps) = (board.step s).1.run steps := rfl
      have htaken : (board.taken i s).length = if s.accepts i then 1 else 0 := by
        rw [taken]
        split <;> rfl
      rw [hrun, ih, nextId_step, htaken, List.countP_cons]
      omega

theorem range_eq_taken_append
    (board : Switchboard ι) (s : SwitchboardStep ι) (steps : List (SwitchboardStep ι)) (i : ι) :
    List.range' (board.managers i).nextId ((s :: steps).countP (·.accepts i)) =
      board.taken i s ++
        List.range' ((board.step s).1.managers i).nextId (steps.countP (·.accepts i)) := by
  rw [nextId_step, List.countP_cons, taken]
  split
  · rw [List.range'_succ]
    rfl
  · rfl

/-- What is live after a run, and what it has torn down, has been live before or is
one of the numbers taken since. -/
theorem live_run
    {steps : List (SwitchboardStep ι)} (h : board.Mirrors)
    (hclean : board.Along (fun board s => ¬ board.Mixes s) steps) (i : ι) :
    ((board.run steps).live i : Multiset Nat) + board.tornDown i steps =
      List.range' (board.managers i).nextId (steps.countP (·.accepts i)) + board.live i := by
  induction steps generalizing board with
  | nil => exact add_comm _ _
  | cons s steps ih =>
      have hrun : board.run (s :: steps) = (board.step s).1.run steps := rfl
      have htorn :
          board.tornDown i (s :: steps) = board.torn i s ++ (board.step s).1.tornDown i steps := rfl
      have hlater := ih (h.step hclean.1) hclean.2
      rw [hrun, htorn, range_eq_taken_append, ← Multiset.coe_add, ← Multiset.coe_add]
      generalize List.range' ((board.step s).1.managers i).nextId _ = later at *
      calc
        (((board.step s).1.run steps).live i : Multiset Nat) +
              (board.torn i s + (board.step s).1.tornDown i steps) =
            board.torn i s +
              (((board.step s).1.run steps).live i + (board.step s).1.tornDown i steps) :=
          add_left_comm _ _ _
        _ = board.torn i s + ((later : Multiset Nat) + (board.step s).1.live i) := by rw [hlater]
        _ = later + ((board.step s).1.live i + board.torn i s) := by
          rw [add_left_comm, add_comm (board.torn i s : Multiset Nat)]
        _ = later + (board.taken i s + board.live i) := by rw [live_step h]
        _ = board.taken i s + later + board.live i := by rw [add_left_comm, add_assoc]

/-- Where every connection goes back to the manager that accepted it, the tables
have exactly the numbers that have been taken and not been torn down, and no step
finds the books wrong. -/
theorem registers_run
    (limits : ServerLimits) (steps : List (SwitchboardStep ι))
    (hs : (new limits).Along Returns steps) :
    (∀ i, Registers limits steps i) ∧ (new limits).Along Upright steps := by
  have hnew : (new limits : Switchboard ι).Mirrors := mirrors_new limits
  have hclean : (new limits).Along (fun board s => ¬ board.Mixes s) steps :=
    hnew.along (fun _ _ _ => not_mixes_of_returns) (fun _ _ _ => not_mixes_of_returns) hs
  refine ⟨fun i => ?_, ?_⟩
  · have hrun := hnew.run hclean
    have hperm : (((new limits).run steps).managers i).active.Perm
        (((new limits).run steps).live i) :=
      (hrun.enters i).perm
    have hall := live_run hnew hclean i
    rw [← hrun.coe_active, Multiset.coe_add] at hall
    exact
      { nextId_eq := (nextId_run (new limits) steps i).trans (add_comm _ _)
        perm_taken := Multiset.coe_eq_coe.mp (hall.trans (add_zero _))
        perm_live := hperm
        nodup := hperm.nodup_iff.mpr (hrun.enters i).nodup
        activeCount_eq := hperm.length_eq }
  · exact hnew.along (fun _ _ _ => not_mixes_of_returns) (fun _ h _ => upright_step h) hs

/-- Two managers serve four clients. Two have written when they are accepted: the first is
dropped while it is being closed, the second is closed. The third breaks off before its
first bytes, and the fourth, whose first bytes are late, stays. -/
def fourClients : List (SwitchboardStep Bool) :=
  [.accept false "a" (.write .fresh (Bytes.ofText "x")),
    .accept true "b" (.write .fresh (Bytes.ofText "y")),
    .accept false "c" (.finish .fresh .reset),
    .startClose false "a", .drop "a", .close true "b",
    .accept false "d" .fresh, .write "d" (Bytes.ofText "z"), .receive "d"]

theorem registers_run_fourClients :
    (new (.standard 1)).Along Returns fourClients ∧
      (∀ i, Registers (.standard 1) fourClients i) ∧
        (new (.standard 1)).Along Upright fourClients :=
  ⟨by decide, registers_run (.standard 1) fourClients (by decide)⟩

end Switchboard
end HttpEngine
