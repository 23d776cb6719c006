import HttpEngine.Proofs.Pool.Conservation

/-!
# What a step does to those who wait

A step of the desk moves the queue in one of five ways:

* nobody begins or ends to wait, and no object is given back;
* an object is given back while nobody waits, and is idle from then on;
* an object is given back and handed to the task that has waited longest;
* a task begins to wait, behind all others;
* a task is cancelled and waits no longer.

`turn_step` says so once for all operations. An object is given back by who returns one
from elsewhere, releases a handle, drops or replaces an owning handle, or cancels a task
that an object was handed to.
-/

namespace HttpEngine

namespace DeskStep

variable {α : Type}

/-- The step ends the task of that name: it is dropped, or a new one takes its name. -/
def Cancels (name : String) : DeskStep α → Prop
  | .cancel other => other = name
  | .wait other _ => other = name
  | _ => False

end DeskStep

namespace Desk

variable {α : Type}
variable {make : Nat → α}
variable {desk before after : Desk α}
variable {s : DeskStep α}
variable {name other : String}

/-- The place in the queue of the task of that name. -/
def place? (desk : Desk α) (name : String) : Option Nat :=
  (desk.task? name).bind Task.ticket?

/-- The object that was handed to the task of that name and that it has not taken yet. -/
def handed? (desk : Desk α) (name : String) : Option α :=
  (desk.task? name).bind Task.inFlight?

/-- The object that an owning handle gives back when it is dropped. -/
def ownedOf : Option (Handle α) → Option α
  | some (.owned value) => value
  | _ => none

/-- The object that a step gives back to the pool. -/
def returned? (desk : Desk α) : DeskStep α → DeskAnswer α → Option α
  | .put value, .done => some value
  | .release name, .done => (desk.handle? name).bind Handle.value?
  | .drop name, .done => ownedOf (desk.handle? name)
  | .acquire name _, .value _ => ownedOf (desk.handle? name)
  | .tryAcquire name _, .value _ => ownedOf (desk.handle? name)
  | .poll name, .value _ => ownedOf (desk.handle? name)
  | .cancel name, .done => desk.handed? name
  | .wait name _, _ => desk.handed? name
  | _, _ => none

/-- All tasks but one keep their places. -/
def OthersStay (before after : Desk α) (name : String) : Prop :=
  ∀ other, other ≠ name → after.place? other = before.place? other

/-- Nobody is handed anything. -/
def HandsNothing (before after : Desk α) : Prop :=
  ∀ name value, after.handed? name = some value → before.handed? name = some value

/-- What a step does to those who wait. -/
inductive Turn (s : DeskStep α) (before after : Desk α) : Option α → Prop
  | stays
      (hwaiting : after.pool.waiting = before.pool.waiting)
      (hplaces : ∀ name, after.place? name = before.place? name)
      (hhands : HandsNothing before after) :
      Turn s before after none
  | rests {value : α} {idle : List α}
      (hnobody : before.pool.waiting = [])
      (hwaiting : after.pool.waiting = [])
      (hplaces : ∀ name, after.place? name = before.place? name)
      (hhands : HandsNothing before after)
      (hidle : after.pool.idle = value :: idle)
      (hrest : idle <:+ before.pool.idle) :
      Turn s before after (some value)
  | serves {value : α} {name : String} {ticket : Nat}
      (hfirst : before.pool.waiting = ticket :: after.pool.waiting)
      (hplace : before.place? name = some ticket)
      (hserved : after.handed? name = some value)
      (hgone : after.place? name = none)
      (hothers : OthersStay before after name)
      (hhands :
        ∀ other given, other ≠ name →
          after.handed? other = some given → before.handed? other = some given)
      (hrest : after.pool.idle <:+ before.pool.idle) :
      Turn s before after (some value)
  | joins {name : String} {ticket : Nat}
      (hfree : before.place? name = none)
      (hwaiting : after.pool.waiting = before.pool.waiting ++ [ticket])
      (hplace : after.place? name = some ticket)
      (hothers : OthersStay before after name)
      (hhands : HandsNothing before after) :
      Turn s before after none
  | leaves {name : String} {ticket : Nat}
      (hcancels : s.Cancels name)
      (hplace : before.place? name = some ticket)
      (hwaiting :
        after.pool.waiting = before.pool.waiting.filter fun waiting => waiting != ticket)
      (hgone : after.place? name = none)
      (hothers : OthersStay before after name)
      (hhands : HandsNothing before after) :
      Turn s before after none

/-! ### Places of tasks -/

theorem place?_of_task {task : Task α} (h : desk.task? name = some task) :
    desk.place? name = task.ticket? := by
  rw [place?, h, Option.bind_some]

theorem handed?_of_task {task : Task α} (h : desk.task? name = some task) :
    desk.handed? name = task.inFlight? := by
  rw [handed?, h, Option.bind_some]

theorem mem_waiting_of_place?
    {ticket : Nat} (h : desk.Orderly 0) (hplace : desk.place? name = some ticket) :
    ticket ∈ desk.pool.waiting := by
  obtain ⟨task, htask, hticket⟩ := Option.bind_eq_some_iff.mp hplace
  exact h.mem_tickets_iff.mp (mem_tickets_of_task htask hticket)

/-- No two tasks have the same place. -/
theorem eq_of_place?
    {ticket : Nat} (h : desk.Orderly 0)
    (hplace : desk.place? name = some ticket) (hsame : desk.place? other = some ticket) :
    other = name := by
  obtain ⟨task, htask, hticket⟩ := Option.bind_eq_some_iff.mp hplace
  obtain ⟨second, hsecond, hticket'⟩ := Option.bind_eq_some_iff.mp hsame
  exact h.eq_of_ticket htask hticket hsecond hticket'

theorem task?_dropTask_self (desk : Desk α) (name : String) :
    (desk.dropTask name).task? name = none :=
  Named.lookup_filter_self desk.tasks name

theorem task?_dropTask_of_ne (hne : other ≠ name) (desk : Desk α) :
    (desk.dropTask name).task? other = desk.task? other :=
  Named.lookup_filter_of_ne desk.tasks hne

theorem task?_setTask_self (desk : Desk α) (name : String) (task : Task α) :
    (desk.setTask name task).task? name = some task := by
  rw [task?, setTask, List.lookup_cons, beq_self_eq_true]

theorem task?_setTask_of_ne (hne : other ≠ name) (desk : Desk α) (task : Task α) :
    (desk.setTask name task).task? other = desk.task? other := by
  rw [task?, setTask, List.lookup_cons, beq_eq_false_iff_ne.mpr hne]
  exact task?_dropTask_of_ne hne desk

/-- Only the task of that name has changed, and it has been handed nothing. -/
structure ChangesTask (before after : Desk α) (name : String) : Prop where
  others : ∀ other, other ≠ name → after.task? other = before.task? other
  unserved : after.handed? name = none

namespace ChangesTask

theorem dropTask (desk : Desk α) (name : String) : ChangesTask desk (desk.dropTask name) name where
  others := fun _ hother => task?_dropTask_of_ne hother desk
  unserved := by
    rw [handed?, task?_dropTask_self, Option.bind_none]

theorem setTask
    (desk : Desk α) (name : String) {task : Task α} (hempty : task.inFlight? = none) :
    ChangesTask desk (desk.setTask name task) name where
  others := fun _ hother => task?_setTask_of_ne hother desk task
  unserved := (handed?_of_task (task?_setTask_self desk name task)).trans hempty

theorem othersStay (h : ChangesTask before after name) : OthersStay before after name := by
  intro other hother
  rw [place?, h.others other hother]
  rfl

theorem handsNothing (h : ChangesTask before after name) : HandsNothing before after := by
  intro other value hhanded
  by_cases hother : other = name
  · rw [hother, h.unserved] at hhanded
    contradiction
  · rw [handed?, h.others other hother] at hhanded
    exact hhanded

end ChangesTask

theorem place?_dropTask_self (desk : Desk α) (name : String) :
    (desk.dropTask name).place? name = none := by
  rw [place?, task?_dropTask_self, Option.bind_none]

/-! ### Operations that leave the queue alone -/

/-- Nobody has begun or ended to wait, and nothing has become idle. -/
structure SameLine (before after : Desk α) : Prop where
  waiting_eq : after.pool.waiting = before.pool.waiting
  place?_eq : ∀ name, after.place? name = before.place? name
  handed?_of : HandsNothing before after
  idle_suffix : after.pool.idle <:+ before.pool.idle

namespace SameLine

theorem refl (desk : Desk α) : SameLine desk desk :=
  ⟨rfl, fun _ => rfl, fun _ _ h => h, List.suffix_refl _⟩

theorem dropHandle (h : SameLine before after) (name : String) :
    SameLine before (after.dropHandle name) :=
  ⟨h.waiting_eq, h.place?_eq, h.handed?_of, h.idle_suffix⟩

theorem setHandle (h : SameLine before after) (name : String) (handle : Handle α) :
    SameLine before (after.setHandle name handle) :=
  ⟨h.waiting_eq, h.place?_eq, h.handed?_of, h.idle_suffix⟩

theorem setMade (h : SameLine before after) (made : Nat) :
    SameLine before { after with made := made } :=
  ⟨h.waiting_eq, h.place?_eq, h.handed?_of, h.idle_suffix⟩

theorem take
    {value : α} {pool : Pool α}
    (h : SameLine before after) (htake : after.pool.take? = some (value, pool)) :
    SameLine before { after with pool := pool } := by
  obtain ⟨idle, hidle, rfl⟩ := Pool.take?_eq_some_iff.mp htake
  have hsuffix : idle <:+ after.pool.idle := by
    rw [hidle]
    exact List.suffix_cons value idle
  exact ⟨h.waiting_eq, h.place?_eq, h.handed?_of, hsuffix.trans h.idle_suffix⟩

/-- A task changes that waits neither before nor afterwards. -/
theorem changeTask
    {changed : Desk α}
    (h : SameLine before after) (hchange : ChangesTask after changed name)
    (hpool : changed.pool = after.pool)
    (hfree : before.place? name = none) (hgone : changed.place? name = none) :
    SameLine before changed where
  waiting_eq := (congrArg Pool.waiting hpool).trans h.waiting_eq
  place?_eq := by
    intro other
    by_cases hother : other = name
    · rw [hother, hgone, hfree]
    · exact (hchange.othersStay other hother).trans (h.place?_eq other)
  handed?_of := by
    intro other value hhanded
    exact h.handed?_of other value (hchange.handsNothing other value hhanded)
  idle_suffix := by
    rw [hpool]
    exact h.idle_suffix

theorem dropTask (h : SameLine before after) (hfree : before.place? name = none) :
    SameLine before (after.dropTask name) :=
  h.changeTask (.dropTask after name) rfl hfree (place?_dropTask_self after name)

theorem turn (h : SameLine before after) : Turn s before after none :=
  .stays h.waiting_eq h.place?_eq h.handed?_of

/-- What is given back goes to who has waited longest, or is idle when nobody waits. -/
theorem giveBack (h : SameLine before after) (horderly : after.Orderly 0) (value : α) :
    Turn s before (after.giveBack value) (some value) := by
  cases givenBack_giveBack horderly value with
  | idle hnobody hidle hwaiting htasks hhandles =>
      refine .rests ?_ hwaiting ?_ ?_ hidle h.idle_suffix
      · rw [← h.waiting_eq]
        exact Pool.waiterCount_eq_zero_iff.mp hnobody
      · intro other
        rw [← h.place?_eq other, place?, task?, htasks]
        rfl
      · intro other given hhanded
        refine h.handed?_of other given ?_
        rw [handed?, task?, htasks] at hhanded
        exact hhanded
  | @handed name owning ticket hfirst hqueued hserved hothers hidle hhandles =>
      have hserves := handed?_of_task hserved
      have hgone := place?_of_task hserved
      have hwaiting := h.waiting_eq.symm.trans hfirst
      have hplace := (h.place?_eq name).symm.trans (place?_of_task hqueued)
      refine .serves hwaiting hplace hserves hgone ?_ ?_ ?_
      · intro other hother
        rw [← h.place?_eq other, place?, hothers other hother]
        rfl
      · intro other given hother hhanded
        refine h.handed?_of other given ?_
        rw [handed?, hothers other hother] at hhanded
        exact hhanded
      · rw [hidle]
        exact h.idle_suffix

theorem settle
    (h : SameLine before after) (horderly : after.Orderly 0) (handle : Option (Handle α)) :
    Turn s before (after.settle handle) (ownedOf handle) := by
  rcases handle with _ | ⟨value | ⟨_ | value⟩⟩
  · exact h.turn
  · exact h.turn
  · exact h.turn
  · exact h.giveBack horderly value

theorem hold
    (h : SameLine before after) (horderly : after.Orderly 0)
    (name : String) (owning : Bool) (value : α) :
    Turn s before (after.hold name owning value) (ownedOf (after.handle? name)) :=
  (h.setHandle name _).settle (horderly.setHandle name _) _

end SameLine

/-! ### Every step -/

theorem place?_eq_none_of_stage
    {task : Task α} (htask : desk.task? name = some task) (hstage : task.ticket? = none) :
    ticketOf (desk.task? name) = 0 ∧ desk.place? name = none := by
  refine ⟨?_, (place?_of_task htask).trans hstage⟩
  rw [htask, ticketOf, Option.bind_some, hstage]
  rfl

theorem turn_begin
    (h : desk.Orderly 0) {owning : Bool}
    (htask : desk.task? name = some { owning := owning, stage := .fresh }) :
    Turn s desk (desk.begin name owning).1
      (desk.returned? (.poll name) (desk.begin name owning).2) := by
  obtain ⟨hticket, hfree⟩ := place?_eq_none_of_stage htask rfl
  cases htake : desk.pool.take? with
  | some taken =>
      obtain ⟨value, pool⟩ := taken
      simp only [begin, htake, returned?]
      exact
        (((SameLine.refl desk).take htake).dropTask hfree).hold
          ((h.take htake).dropTask_of_not_queued hticket) name owning value
  | none =>
      simp only [begin, htake, returned?]
      let task : Task α := { owning := owning, stage := .queued desk.pool.enqueue.1 }
      have hqueued := task?_setTask_self { desk with pool := desk.pool.enqueue.2 } name task
      have hempty : task.inFlight? = none := rfl
      have hset := ChangesTask.setTask { desk with pool := desk.pool.enqueue.2 } name hempty
      have hchange : ChangesTask desk _ name := ⟨hset.others, hset.unserved⟩
      exact
        .joins hfree (Pool.waiting_enqueue desk.pool) (place?_of_task hqueued)
          hchange.othersStay hchange.handsNothing

/-- A task that is taken off the desk gives up its place or passes on its object. -/
theorem turn_withdraw
    {task : Task α}
    (htask : desk.task? name = some task) (hcancels : s.Cancels name)
    (horderly : after.Orderly (ticketOf (desk.task? name))) (hpool : after.pool = desk.pool)
    (hchange : ChangesTask desk after name) (hgone : after.place? name = none) :
    Turn s desk (after.withdraw (some task)) (desk.handed? name) := by
  have hline : desk.place? name = none → SameLine desk after :=
    fun hfree => (SameLine.refl desk).changeTask hchange hpool hfree hgone
  rw [handed?_of_task htask]
  obtain ⟨owning, stage⟩ := task
  cases stage with
  | fresh => exact (hline (place?_of_task htask)).turn
  | queued ticket =>
      refine
        .leaves hcancels (place?_of_task htask) ?_ hgone hchange.othersStay hchange.handsNothing
      rw [← hpool]
      exact Pool.waiting_cancel after.pool ticket
  | served value =>
      rw [(place?_eq_none_of_stage htask rfl).1] at horderly
      exact (hline (place?_of_task htask)).giveBack horderly value

/-- What a step does to those who wait, and what it gives back. -/
theorem turn_step (h : desk.Orderly 0) (make : Nat → α) (s : DeskStep α) :
    Turn s desk (desk.step make s).1 (desk.returned? s (desk.step make s).2) := by
  have hsame := SameLine.refl desk
  cases s with
  | acquire name owning =>
      cases htake : desk.pool.take? with
      | some taken =>
          obtain ⟨value, pool⟩ := taken
          simp only [step, htake, returned?]
          exact (hsame.take htake).hold (h.take htake) name owning value
      | none =>
          simp only [step, htake, holdNew, returned?]
          exact (hsame.setMade _).hold (h.setMade _) name owning _
  | tryAcquire name owning =>
      cases htake : desk.pool.take? with
      | some taken =>
          obtain ⟨value, pool⟩ := taken
          simp only [step, htake, returned?]
          exact (hsame.take htake).hold (h.take htake) name owning value
      | none =>
          simp only [step, htake, returned?]
          exact hsame.turn
  | release name =>
      rcases hhandle : desk.handle? name with _ | ⟨value | ⟨_ | value⟩⟩
      · simp only [step, hhandle, returned?]
        exact hsame.turn
      · simp only [step, hhandle, returned?]
        exact (hsame.dropHandle name).giveBack (h.dropHandle name) value
      · simp only [step, hhandle, returned?]
        exact hsame.turn
      · simp only [step, hhandle, returned?]
        exact (hsame.setHandle name _).giveBack (h.setHandle name _) value
  | drop name =>
      cases hhandle : desk.handle? name with
      | none =>
          simp only [step, hhandle, returned?]
          exact hsame.turn
      | some handle =>
          simp only [step, hhandle, returned?]
          exact (hsame.dropHandle name).settle (h.dropHandle name) _
  | get name =>
      simp only [step, returned?]
      split <;> exact hsame.turn
  | set name value =>
      simp only [step, returned?]
      split
      · exact (hsame.setHandle name _).turn
      · exact (hsame.setHandle name _).turn
      · exact hsame.turn
      · exact hsame.turn
  | put value => exact hsame.giveBack h value
  | fill count => exact .stays rfl (fun _ => rfl) fun _ _ hhanded => hhanded
  | wait name owning =>
      simp only [step, returned?]
      have hfresh := task?_setTask_self desk name { owning := owning, stage := .fresh }
      have hchange :
          ChangesTask desk (desk.setTask name { owning := owning, stage := .fresh }) name :=
        .setTask desk name rfl
      cases htask : desk.task? name with
      | none =>
          have hfree : desk.place? name = none := by
            rw [place?, htask, Option.bind_none]
          have hnothing : desk.handed? name = none := by
            rw [handed?, htask, Option.bind_none]
          rw [hnothing]
          exact (hsame.changeTask hchange rfl hfree (place?_of_task hfresh)).turn
      | some task =>
          have horderly :
              (desk.setTask name { owning := owning, stage := .fresh }).Orderly
                (ticketOf (desk.task? name) + 0) :=
            Orderly.setTask h
          rw [add_zero] at horderly
          exact turn_withdraw htask rfl horderly rfl hchange (place?_of_task hfresh)
  | poll name =>
      rcases htask : desk.task? name with _ | ⟨owning, _ | ticket | value⟩
      · simp only [step, htask, returned?]
        exact hsame.turn
      · simp only [step, htask]
        exact turn_begin h htask
      · simp only [step, htask, if_pos (h.isQueued htask rfl), returned?]
        exact hsame.turn
      · obtain ⟨hticket, hfree⟩ := place?_eq_none_of_stage htask rfl
        simp only [step, htask, returned?]
        exact
          (hsame.dropTask hfree).hold (h.dropTask_of_not_queued hticket) name owning value
  | cancel name =>
      cases htask : desk.task? name with
      | none =>
          simp only [step, htask, returned?]
          exact hsame.turn
      | some task =>
          have horderly := h.dropTask name
          rw [add_zero] at horderly
          simp only [step, htask, returned?]
          exact
            turn_withdraw htask rfl horderly rfl (.dropTask desk name)
              (place?_dropTask_self desk name)

end Desk
end HttpEngine
