import HttpEngine.Proofs.Pool.Orderly

/-!
# The ledger of a pool

Objects come to a desk in three ways: the factory makes them, somebody returns one
that came from elsewhere, or somebody writes a new one over the object of a handle.
They leave it in two ways: a bare handle is dropped, or its object is written over.

The ledger balances at every moment: what is idle, held or in flight, together with
what has left, is what has come, each object as often as it has come.
-/

namespace HttpEngine
namespace Desk

variable {α : Type}
variable {make : Nat → α}
variable {desk : Desk α}

/-- The objects of the handles. -/
def held (desk : Desk α) : List α :=
  Named.gather Handle.value? desk.handles

/-- The objects that were handed to tasks that have not taken them yet. -/
def inFlight (desk : Desk α) : List α :=
  Named.gather Task.inFlight? desk.tasks

/-- All objects that are idle, held or in flight. -/
def objects (desk : Desk α) : Multiset α :=
  desk.pool.idle + desk.held + desk.inFlight

/-- The objects that the factory has made. -/
def created (make : Nat → α) (desk : Desk α) : Multiset α :=
  (List.range desk.made).map make

/-- The object of a handle, if there is a handle and it has one. -/
def valueOf (handle : Option (Handle α)) : Multiset α :=
  (handle.bind Handle.value?).toList

/-- The object that is lost with a handle. -/
def bareOf : Option (Handle α) → Multiset α
  | some (.raw value) => {value}
  | _ => 0

/-- The object in flight to a task, if there is a task and it has been served. -/
def flightOf (task : Option (Task α)) : Multiset α :=
  (task.bind Task.inFlight?).toList

/-- How many objects a step has the factory make: only filling does, and acquiring
when nothing is idle. -/
def makes (desk : Desk α) : DeskStep α → Nat
  | .fill count => count
  | .acquire _ _ => if desk.pool.idle = [] then 1 else 0
  | _ => 0

/-- The objects that leave with a step: a bare object whose handle is dropped, or
replaced by another one of the same name, and an object that is written over. -/
def lostAt (desk : Desk α) : DeskStep α → DeskAnswer α → Multiset α
  | .drop name, .done => bareOf (desk.handle? name)
  | .acquire name _, .value _ => bareOf (desk.handle? name)
  | .tryAcquire name _, .value _ => bareOf (desk.handle? name)
  | .poll name, .value _ => bareOf (desk.handle? name)
  | .set name _, .done => valueOf (desk.handle? name)
  | _, _ => 0

/-- The objects that a step brings from elsewhere. -/
def broughtBy : DeskStep α → DeskAnswer α → Multiset α
  | .put value, .done => {value}
  | .set _ value, .done => {value}
  | _, _ => 0

/-- All objects that leave in the course of a run. -/
def lost (make : Nat → α) (desk : Desk α) : List (DeskStep α) → Multiset α
  | [] => 0
  | s :: steps => desk.lostAt s (desk.step make s).2 + (desk.step make s).1.lost make steps

/-- All objects that come from elsewhere in the course of a run. -/
def brought (make : Nat → α) (desk : Desk α) : List (DeskStep α) → Multiset α
  | [] => 0
  | s :: steps => broughtBy s (desk.step make s).2 + (desk.step make s).1.brought make steps

/-! ### What each operation does to the objects -/

theorem objects_new (make : Nat → α) (count : Nat) :
    (new make count).objects = (new make count).created make := by
  simp [objects, created, new, held, inFlight, Named.gather, Pool.fill, Pool.empty]

theorem objects_dropHandle (h : (desk.handles.map Prod.fst).Nodup) (name : String) :
    (desk.dropHandle name).objects + valueOf (desk.handle? name) = desk.objects := by
  have hheld :
      (desk.held : Multiset α) = valueOf (desk.handle? name) + (desk.dropHandle name).held :=
    Named.gather_eq h Handle.value? name
  rw [objects, objects, hheld]
  simp only [dropHandle, inFlight]
  abel

theorem objects_setHandle
    (h : (desk.handles.map Prod.fst).Nodup) (name : String) (handle : Handle α) :
    (desk.setHandle name handle).objects + valueOf (desk.handle? name) =
      desk.objects + valueOf (some handle) := by
  have hheld :
      ((desk.setHandle name handle).held : Multiset α) =
        valueOf (some handle) + (desk.dropHandle name).held :=
    Named.gather_cons Handle.value? name handle _
  rw [← objects_dropHandle h name, objects, objects, hheld]
  simp only [setHandle, dropHandle, inFlight]
  abel

theorem objects_dropTask (h : (desk.tasks.map Prod.fst).Nodup) (name : String) :
    (desk.dropTask name).objects + flightOf (desk.task? name) = desk.objects := by
  have hflight :
      (desk.inFlight : Multiset α) = flightOf (desk.task? name) + (desk.dropTask name).inFlight :=
    Named.gather_eq h Task.inFlight? name
  rw [objects, objects, hflight]
  simp only [dropTask, held]
  abel

theorem objects_setTask
    (h : (desk.tasks.map Prod.fst).Nodup) (name : String) (task : Task α) :
    (desk.setTask name task).objects + flightOf (desk.task? name) =
      desk.objects + flightOf (some task) := by
  have hflight :
      ((desk.setTask name task).inFlight : Multiset α) =
        flightOf (some task) + (desk.dropTask name).inFlight :=
    Named.gather_cons Task.inFlight? name task _
  rw [← objects_dropTask h name, objects, objects, hflight]
  simp only [setTask, dropTask, held]
  abel

theorem objects_take
    {value : α} {pool : Pool α} (htake : desk.pool.take? = some (value, pool)) :
    ({ desk with pool := pool } : Desk α).objects + {value} = desk.objects := by
  obtain ⟨idle, hidle, rfl⟩ := Pool.take?_eq_some_iff.mp htake
  rw [objects, objects, hidle, ← Multiset.cons_coe, ← Multiset.singleton_add]
  simp only [held, inFlight]
  abel

/-- A returned object is idle or in flight. -/
theorem objects_giveBack (h : desk.Orderly 0) (value : α) :
    (desk.giveBack value).objects = desk.objects + {value} := by
  cases hwaiting : desk.pool.waiting with
  | nil =>
      rw [giveBack_of_waiting_eq_nil hwaiting, objects, objects, ← Multiset.cons_coe,
        ← Multiset.singleton_add]
      simp only [held, inFlight]
      abel
  | cons ticket others =>
      obtain ⟨queue, heq, -⟩ := giveBack_of_waiting_eq_cons hwaiting value
      have hmem : ticket ∈ desk.tickets := by
        rw [h.mem_tickets_iff, hwaiting]
        exact List.mem_cons_self
      have hflight := (Task.filterMap_map_serve h.tickets_nodup hmem value).1
      have hserved : ((desk.giveBack value).inFlight : Multiset α) = {value} + desk.inFlight := by
        rw [heq, inFlight, Named.gather, map_snd_map_serve]
        exact Multiset.coe_eq_coe.mpr hflight
      rw [objects, objects, hserved, heq]
      simp only [held]
      abel

theorem objects_settle (h : desk.Orderly 0) (handle : Option (Handle α)) :
    (desk.settle handle).objects + bareOf handle = desk.objects + valueOf handle := by
  rcases handle with _ | ⟨value | ⟨_ | value⟩⟩
  · rfl
  · rfl
  · rfl
  · exact (add_zero _).trans (objects_giveBack h value)

/-- The object that is held has come, and what its name held before has left or is
back. -/
theorem objects_hold (h : desk.Orderly 0) (name : String) (owning : Bool) (value : α) :
    (desk.hold name owning value).objects + bareOf (desk.handle? name) =
      desk.objects + {value} := by
  have hvalue : valueOf (some (Handle.of owning value)) = {value} := by
    cases owning <;> rfl
  rw [hold, objects_settle (h.setHandle name _), objects_setHandle h.handles_nodup, hvalue]

/-- The object in flight to a task that is dropped is passed on. -/
theorem objects_withdraw
    {task : Option (Task α)} (h : desk.Orderly (ticketOf task)) :
    (desk.withdraw task).objects = desk.objects + flightOf task := by
  rcases task with _ | ⟨owning, _ | ticket | value⟩
  · exact (add_zero _).symm
  · exact (add_zero _).symm
  · exact (add_zero _).symm
  · exact objects_giveBack h value

/-! ### The ledger of a run -/

theorem made_giveBack (desk : Desk α) (value : α) : (desk.giveBack value).made = desk.made := by
  unfold giveBack
  split <;> rfl

theorem made_settle (desk : Desk α) (handle : Option (Handle α)) :
    (desk.settle handle).made = desk.made := by
  unfold settle
  split
  · exact made_giveBack desk _
  · rfl

theorem made_hold (desk : Desk α) (name : String) (owning : Bool) (value : α) :
    (desk.hold name owning value).made = desk.made :=
  made_settle _ _

theorem made_withdraw (desk : Desk α) (task : Option (Task α)) :
    (desk.withdraw task).made = desk.made := by
  unfold withdraw
  split
  · rfl
  · exact made_giveBack desk _
  · rfl

/-- The factory is asked only where a step is to make objects, and never by a task. -/
theorem made_step (h : desk.Orderly 0) (make : Nat → α) (s : DeskStep α) :
    (desk.step make s).1.made = desk.made + desk.makes s := by
  cases s with
  | acquire name owning =>
      cases htake : desk.pool.take? with
      | none =>
          have hidle := Pool.take?_eq_none_iff.mp htake
          simp only [step, htake, holdNew, makes, if_pos hidle]
          exact made_hold _ name owning _
      | some taken =>
          obtain ⟨value, pool⟩ := taken
          obtain ⟨idle, hidle, -⟩ := Pool.take?_eq_some_iff.mp htake
          simp only [step, htake, makes, hidle, if_neg (List.cons_ne_nil value idle)]
          exact made_hold _ name owning value
  | tryAcquire name owning =>
      simp only [step]
      split
      · exact made_hold _ name owning _
      · rfl
  | release name =>
      simp only [step]
      split
      · exact made_giveBack _ _
      · exact made_giveBack _ _
      · rfl
      · rfl
  | drop name =>
      simp only [step]
      split
      · exact made_settle _ _
      · rfl
  | get name =>
      simp only [step]
      split <;> rfl
  | set name value =>
      simp only [step]
      split <;> rfl
  | put value => exact made_giveBack desk value
  | fill count => rfl
  | wait name owning => exact made_withdraw _ _
  | poll name =>
      simp only [step]
      split
      · unfold begin
        split
        · exact made_hold _ name _ _
        · rfl
      · next owning ticket htask =>
          rw [if_pos (h.isQueued htask rfl)]
          rfl
      · exact made_hold _ name _ _
      · rfl
  | cancel name =>
      simp only [step]
      split
      · exact made_withdraw _ _
      · rfl

/-- The objects that the factory makes in a step. -/
def news (make : Nat → α) (desk : Desk α) (s : DeskStep α) : Multiset α :=
  (List.range (desk.makes s)).map fun i => make (desk.made + i)

theorem created_step (h : desk.Orderly 0) (make : Nat → α) (s : DeskStep α) :
    (desk.step make s).1.created make = desk.created make + news make desk s := by
  rw [created, made_step h, List.range_add, List.map_append, ← Multiset.coe_add, List.map_map]
  rfl

/-- A step moves objects about: apart from those that leave, come or are made, they
are what they were. -/
theorem objects_step (h : desk.Orderly 0) (make : Nat → α) (s : DeskStep α) :
    (desk.step make s).1.objects + desk.lostAt s (desk.step make s).2 =
      desk.objects + (broughtBy s (desk.step make s).2 + news make desk s) := by
  cases s with
  | acquire name owning =>
      cases htake : desk.pool.take? with
      | none =>
          have hidle := Pool.take?_eq_none_iff.mp htake
          have hnews : news make desk (.acquire name owning) = {make desk.made} := by
            rw [news, makes, if_pos hidle]
            rfl
          simp only [step, htake, holdNew, lostAt, broughtBy, hnews, zero_add]
          exact objects_hold (h.setMade _) name owning _
      | some taken =>
          obtain ⟨value, pool⟩ := taken
          obtain ⟨idle, hidle, -⟩ := Pool.take?_eq_some_iff.mp htake
          have hnews : news make desk (.acquire name owning) = 0 := by
            rw [news, makes, if_neg (by simp [hidle])]
            rfl
          simp only [step, htake, lostAt, broughtBy, hnews, add_zero]
          exact (objects_hold (h.take htake) name owning value).trans (objects_take htake)
  | tryAcquire name owning =>
      have hnews : news make desk (.tryAcquire name owning) = 0 := rfl
      cases htake : desk.pool.take? with
      | none => simp only [step, htake, lostAt, broughtBy, hnews, add_zero]
      | some taken =>
          obtain ⟨value, pool⟩ := taken
          simp only [step, htake, lostAt, broughtBy, hnews, add_zero]
          exact (objects_hold (h.take htake) name owning value).trans (objects_take htake)
  | release name =>
      have hnews : news make desk (.release name) = 0 := rfl
      rcases hhandle : desk.handle? name with _ | ⟨value | ⟨_ | value⟩⟩
      · simp only [step, hhandle, lostAt, broughtBy, hnews, add_zero]
      · simp only [step, hhandle, lostAt, broughtBy, hnews, add_zero]
        have hdrop := objects_dropHandle h.handles_nodup name
        rw [hhandle] at hdrop
        exact (objects_giveBack (h.dropHandle name) value).trans hdrop
      · simp only [step, hhandle, lostAt, broughtBy, hnews, add_zero]
      · simp only [step, hhandle, lostAt, broughtBy, hnews, add_zero]
        have hset := objects_setHandle h.handles_nodup name (.owned none)
        rw [hhandle] at hset
        exact (objects_giveBack (h.setHandle name _) value).trans (hset.trans (add_zero _))
  | drop name =>
      have hnews : news make desk (.drop name) = 0 := rfl
      cases hhandle : desk.handle? name with
      | none => simp only [step, hhandle, lostAt, broughtBy, hnews, add_zero]
      | some handle =>
          simp only [step, hhandle, lostAt, broughtBy, hnews, add_zero]
          have hdrop := objects_dropHandle h.handles_nodup name
          rw [hhandle] at hdrop
          exact (objects_settle (h.dropHandle name) _).trans hdrop
  | get name =>
      have hnews : news make desk (.get name) = 0 := rfl
      simp only [step, lostAt, broughtBy, hnews, add_zero]
      split <;> rfl
  | set name value =>
      have hnews : news make desk (.set name value) = 0 := rfl
      rcases hhandle : desk.handle? name with _ | ⟨old | ⟨_ | old⟩⟩
      · simp only [step, hhandle, lostAt, broughtBy, hnews, add_zero]
      · simp only [step, hhandle, lostAt, broughtBy, hnews, add_zero]
        have hset := objects_setHandle h.handles_nodup name (.raw value)
        rwa [hhandle] at hset
      · simp only [step, hhandle, lostAt, broughtBy, hnews, add_zero]
      · simp only [step, hhandle, lostAt, broughtBy, hnews, add_zero]
        have hset := objects_setHandle h.handles_nodup name (.owned (some value))
        rwa [hhandle] at hset
  | put value => exact (add_zero _).trans (objects_giveBack h value)
  | fill count =>
      simp only [step, lostAt, broughtBy, news, makes, zero_add, add_zero]
      rw [objects, objects, Pool.fill, ← Multiset.coe_add, Multiset.coe_reverse]
      simp only [held, inFlight]
      abel
  | wait name owning =>
      have hnews : news make desk (.wait name owning) = 0 := rfl
      have hpending :
          (desk.setTask name { owning := owning, stage := .fresh }).Orderly
            (ticketOf (desk.task? name) + 0) :=
        Orderly.setTask h
      rw [add_zero] at hpending
      simp only [step, lostAt, broughtBy, hnews, add_zero]
      refine (objects_withdraw hpending).trans ?_
      exact (objects_setTask h.tasks_nodup name _).trans (add_zero _)
  | poll name =>
      have hnews : news make desk (.poll name) = 0 := rfl
      have hdrop := objects_dropTask h.tasks_nodup name
      rcases htask : desk.task? name with _ | ⟨owning, _ | ticket | value⟩
      · simp only [step, htask, lostAt, broughtBy, hnews, add_zero]
      · rw [htask] at hdrop
        have hfresh : ticketOf (desk.task? name) = 0 := by
          rw [htask]
          rfl
        cases htake : desk.pool.take? with
        | none =>
            simp only [step, htask, begin, htake, lostAt, broughtBy, hnews, add_zero]
            have hnames :
                (({ desk with pool := desk.pool.enqueue.2 } : Desk α).tasks.map Prod.fst).Nodup :=
              h.tasks_nodup
            have hset :=
              objects_setTask hnames name
                { owning := owning, stage := .queued desk.pool.nextTicket }
            have hnone :
                flightOf (({ desk with pool := desk.pool.enqueue.2 } : Desk α).task? name) = 0 :=
              congrArg flightOf htask
            rw [hnone, add_zero] at hset
            exact hset.trans (add_zero _)
        | some taken =>
            obtain ⟨first, pool⟩ := taken
            simp only [step, htask, begin, htake, lostAt, broughtBy, hnews, add_zero]
            have hhold :=
              objects_hold ((h.take htake).dropTask_of_not_queued hfresh) name owning first
            have hfirst : (desk.dropTask name).pool.take? = some (first, pool) := htake
            have htaken := objects_take hfirst
            exact hhold.trans (htaken.trans ((add_zero _).symm.trans hdrop))
      · simp only [step, htask, if_pos (h.isQueued htask rfl), lostAt, broughtBy, hnews, add_zero]
      · rw [htask] at hdrop
        have hserved : ticketOf (desk.task? name) = 0 := by
          rw [htask]
          rfl
        simp only [step, htask, lostAt, broughtBy, hnews, add_zero]
        exact (objects_hold (h.dropTask_of_not_queued hserved) name owning value).trans hdrop
  | cancel name =>
      have hnews : news make desk (.cancel name) = 0 := rfl
      cases htask : desk.task? name with
      | none => simp only [step, htask, lostAt, broughtBy, hnews, add_zero]
      | some task =>
          have hpending := h.dropTask name
          rw [htask, add_zero] at hpending
          simp only [step, htask, lostAt, broughtBy, hnews, add_zero]
          refine (objects_withdraw hpending).trans ?_
          rw [← htask]
          exact objects_dropTask h.tasks_nodup name

/-- What is idle, held or in flight and what has left is what has come. -/
theorem objects_run
    {left come : Multiset α}
    (h : desk.Orderly 0) (hledger : desk.objects + left = desk.created make + come)
    (steps : List (DeskStep α)) :
    (desk.run make steps).objects + (left + desk.lost make steps) =
      (desk.run make steps).created make + (come + desk.brought make steps) := by
  induction steps generalizing desk left come with
  | nil => simpa [run, lost, brought] using hledger
  | cons s steps ih =>
      have hnext :
          (desk.step make s).1.objects + (left + desk.lostAt s (desk.step make s).2) =
            (desk.step make s).1.created make + (come + broughtBy s (desk.step make s).2) := by
        calc
          _ = (desk.step make s).1.objects + desk.lostAt s (desk.step make s).2 + left := by abel
          _ = desk.objects + left + (broughtBy s (desk.step make s).2 + news make desk s) := by
            rw [objects_step h]
            abel
          _ = _ := by
            rw [hledger, created_step h]
            abel
      have hrest := ih (h.step make s) hnext
      rwa [add_assoc left, add_assoc come] at hrest

end Desk
end HttpEngine
