import HttpEngine.Proofs.Pool.Ledger
import Mathlib.Data.List.Enum

/-!
# No object is lost and none is doubled

Where the objects that come to a desk are told apart, each of them that has not left
is in exactly one place: at one position among the idle objects, with one handle, or
in flight to one task, which has been handed it and has neither been polled nor been
cancelled since.

Who gives an object back, be it a handle or a task that is cancelled, gives it to the
task that has waited longest, or to the idle objects when nobody waits. A handle that
has given its object back has nothing left to give, however often it is released, and
the factory is asked only by those who fill the pool or find it empty.
-/

namespace HttpEngine

/-- Where an object can be. -/
inductive Place where
  /-- Among the idle objects. -/
  | idle (position : Nat)
  /-- With a handle. -/
  | held (name : String)
  /-- On its way to a task. -/
  | inFlight (name : String)

namespace DeskStep

variable {α : Type}

/-- The handle of that name is neither dropped nor replaced. -/
def LeavesHandle (name : String) : DeskStep α → Prop
  | .acquire other _ => other ≠ name
  | .tryAcquire other _ => other ≠ name
  | .drop other => other ≠ name
  | .poll other => other ≠ name
  | _ => True

end DeskStep

namespace Desk

variable {α : Type}
variable {make : Nat → α}
variable {desk : Desk α}

/-! ### Places -/

/-- An object is in a place. -/
inductive Keeps (desk : Desk α) (value : α) : Place → Prop
  | idle {position : Nat} (h : desk.pool.idle[position]? = some value) :
      Keeps desk value (.idle position)
  | held {name : String} {handle : Handle α}
      (hhandle : desk.handle? name = some handle) (hvalue : handle.value? = some value) :
      Keeps desk value (.held name)
  | inFlight {name : String} {task : Task α}
      (htask : desk.task? name = some task) (hvalue : task.inFlight? = some value) :
      Keeps desk value (.inFlight name)

/-- What named things hold, each with its place. -/
def located {β : Type} (place : String → Place) (f : β → Option α) (entries : List (String × β)) :
    List (Place × α) :=
  entries.filterMap fun entry => (f entry.2).map fun value => (place entry.1, value)

/-- All objects of a desk with their places. -/
def inventory (desk : Desk α) : List (Place × α) :=
  desk.pool.idle.zipIdx.map (fun entry => (.idle entry.2, entry.1)) ++
    located .held Handle.value? desk.handles ++ located .inFlight Task.inFlight? desk.tasks

theorem map_snd_located
    {β : Type} (place : String → Place) (f : β → Option α) (entries : List (String × β)) :
    (located place f entries).map Prod.snd = Named.gather f entries := by
  rw [located, Named.gather, List.map_filterMap, List.filterMap_map]
  refine List.filterMap_congr ?_
  intro entry _
  cases hvalue : f entry.2 <;> simp [hvalue]

theorem mem_located_iff
    {β : Type} {place : String → Place} {f : β → Option α} {entries : List (String × β)}
    (hnames : (entries.map Prod.fst).Nodup) {at_ : Place} {value : α} :
    (at_, value) ∈ located place f entries ↔
      ∃ name thing, entries.lookup name = some thing ∧ f thing = some value ∧ at_ = place name := by
  rw [located, List.mem_filterMap]
  constructor
  · rintro ⟨⟨name, thing⟩, hmem, hsome⟩
    obtain ⟨held, hheld, heq⟩ := Option.map_eq_some_iff.mp hsome
    obtain ⟨rfl, rfl⟩ := Prod.mk.inj heq
    exact ⟨name, thing, Named.lookup_of_mem hnames hmem, hheld, rfl⟩
  · rintro ⟨name, thing, hlookup, hvalue, rfl⟩
    exact ⟨(name, thing), Named.mem_of_lookup hlookup, by simp [hvalue]⟩

theorem coe_map_snd_inventory (desk : Desk α) :
    (desk.inventory.map Prod.snd : Multiset α) = desk.objects := by
  have hidle :
      (desk.pool.idle.zipIdx.map fun entry => (Place.idle entry.2, entry.1)).map Prod.snd =
        desk.pool.idle := by
    rw [List.map_map]
    exact List.zipIdx_map_fst 0 desk.pool.idle
  rw [inventory, List.map_append, List.map_append, hidle, map_snd_located, map_snd_located,
    ← Multiset.coe_add, ← Multiset.coe_add]
  rfl

theorem mem_inventory_iff (h : desk.Orderly 0) {place : Place} {value : α} :
    (place, value) ∈ desk.inventory ↔ desk.Keeps value place := by
  rw [inventory, List.mem_append, List.mem_append, mem_located_iff h.handles_nodup,
    mem_located_iff h.tasks_nodup, List.mem_map]
  constructor
  · rintro ((⟨⟨other, position⟩, hmem, heq⟩ | ⟨name, handle, hhandle, hvalue, rfl⟩) |
      ⟨name, task, htask, hvalue, rfl⟩)
    · obtain ⟨rfl, rfl⟩ := Prod.mk.inj heq
      exact .idle (List.mk_mem_zipIdx_iff_getElem?.mp hmem)
    · exact .held hhandle hvalue
    · exact .inFlight htask hvalue
  · intro hkeeps
    cases hkeeps with
    | @idle position hidle =>
        exact Or.inl (Or.inl ⟨(value, position), List.mk_mem_zipIdx_iff_getElem?.mpr hidle, rfl⟩)
    | @held name handle hhandle hvalue => exact Or.inl (Or.inr ⟨name, handle, hhandle, hvalue, rfl⟩)
    | @inFlight name task htask hvalue => exact Or.inr ⟨name, task, htask, hvalue, rfl⟩

/-- An object of a desk whose objects are told apart is in exactly one place. -/
theorem existsUnique_keeps
    (h : desk.Orderly 0) (hnodup : desk.objects.Nodup) {value : α} (hmem : value ∈ desk.objects) :
    ∃! place, desk.Keeps value place := by
  rw [← coe_map_snd_inventory] at hnodup hmem
  obtain ⟨⟨place, _⟩, hplace, rfl⟩ := List.mem_map.mp (Multiset.mem_coe.mp hmem)
  refine ⟨place, (mem_inventory_iff h).mp hplace, ?_⟩
  intro other hother
  have hsame :=
    List.inj_on_of_nodup_map (Multiset.coe_nodup.mp hnodup) ((mem_inventory_iff h).mpr hother)
      hplace rfl
  exact congrArg Prod.fst hsame

/-! ### Giving back -/

/-- An object was given back: it is idle if nobody waits, and otherwise in flight to
the task that has waited longest. Nothing else changes. -/
inductive GivenBack (value : α) (before after : Desk α) : Prop
  | idle
      (hnobody : before.pool.waiterCount = 0)
      (hidle : after.pool.idle = value :: before.pool.idle)
      (hwaiting : after.pool.waiting = [])
      (htasks : after.tasks = before.tasks)
      (hhandles : after.handles = before.handles)
  | handed {name : String} {owning : Bool} {ticket : Nat}
      (hfirst : before.pool.waiting = ticket :: after.pool.waiting)
      (hqueued : before.task? name = some { owning := owning, stage := .queued ticket })
      (hserved : after.task? name = some { owning := owning, stage := .served value })
      (hothers : ∀ other, other ≠ name → after.task? other = before.task? other)
      (hidle : after.pool.idle = before.pool.idle)
      (hhandles : after.handles = before.handles)

/-- What is given back goes to who has waited longest. -/
theorem givenBack_giveBack (h : desk.Orderly 0) (value : α) :
    GivenBack value desk (desk.giveBack value) := by
  cases hwaiting : desk.pool.waiting with
  | nil =>
      rw [giveBack_of_waiting_eq_nil hwaiting]
      exact .idle (Pool.waiterCount_eq_zero_iff.mpr hwaiting) rfl rfl rfl rfl
  | cons ticket others =>
      have hmem : ticket ∈ desk.tickets := by
        rw [h.mem_tickets_iff, hwaiting]
        exact List.mem_cons_self
      obtain ⟨task, htask, hticket⟩ := List.mem_filterMap.mp hmem
      obtain ⟨⟨name, _⟩, hentry, rfl⟩ := List.mem_map.mp htask
      have hlookup : desk.task? name = some _ := Named.lookup_of_mem h.tasks_nodup hentry
      obtain ⟨queue, heq, hothers⟩ := giveBack_of_waiting_eq_cons hwaiting value
      have hafter :
          ∀ other,
            (desk.giveBack value).task? other =
              (desk.task? other).map (Task.serve ticket value) := by
        intro other
        rw [heq]
        exact lookup_map_serve ticket value desk.tasks other
      have hqueued := hlookup.trans (congrArg some (Task.eq_of_ticket hticket))
      refine .handed ?_ hqueued ?_ ?_ ?_ ?_
      · rw [heq, hothers]
        exact hwaiting
      · rw [hafter, hlookup, Option.map_some, Task.serve_of_ticket hticket]
      · intro other hne
        rw [hafter]
        cases hother : desk.task? other with
        | none => rfl
        | some second =>
            rw [Option.map_some, Task.serve_of_ne]
            intro hsame
            exact hne (h.eq_of_ticket hlookup hticket hother hsame)
      · rw [heq]
      · rw [heq]

/-! ### Released handles -/

theorem handles_giveBack (desk : Desk α) (value : α) :
    (desk.giveBack value).handles = desk.handles := by
  unfold giveBack
  split <;> rfl

theorem handles_settle (desk : Desk α) (handle : Option (Handle α)) :
    (desk.settle handle).handles = desk.handles := by
  unfold settle
  split
  · exact handles_giveBack desk _
  · rfl

theorem handles_withdraw (desk : Desk α) (task : Option (Task α)) :
    (desk.withdraw task).handles = desk.handles := by
  unfold withdraw
  split
  · rfl
  · exact handles_giveBack desk _
  · rfl

theorem handle?_setHandle_self (desk : Desk α) (name : String) (handle : Handle α) :
    (desk.setHandle name handle).handle? name = some handle := by
  rw [handle?, setHandle, List.lookup_cons, beq_self_eq_true]

theorem handle?_setHandle_of_ne
    {name other : String} (hne : other ≠ name) (desk : Desk α) (handle : Handle α) :
    (desk.setHandle name handle).handle? other = desk.handle? other := by
  rw [handle?, setHandle, List.lookup_cons, beq_eq_false_iff_ne.mpr hne]
  exact Named.lookup_filter_of_ne desk.handles hne

theorem handle?_dropHandle_of_ne {name other : String} (hne : other ≠ name) (desk : Desk α) :
    (desk.dropHandle name).handle? other = desk.handle? other :=
  Named.lookup_filter_of_ne desk.handles hne

theorem handle?_hold_of_ne
    {name other : String} (hne : other ≠ name) (desk : Desk α) (owning : Bool) (value : α) :
    (desk.hold name owning value).handle? other = desk.handle? other := by
  rw [handle?, hold, handles_settle]
  exact handle?_setHandle_of_ne hne desk _

theorem step_release_of_released
    {name : String} (h : desk.handle? name = some (.owned none)) (make : Nat → α) :
    desk.step make (.release name) = (desk, .fault .alreadyReleased) := by
  simp only [step, h]

theorem step_drop_of_released
    {name : String} (h : desk.handle? name = some (.owned none)) (make : Nat → α) :
    desk.step make (.drop name) = (desk.dropHandle name, .done) := by
  simp only [step, h]
  rfl

/-- A released handle stays released until it is dropped or replaced. -/
theorem handle?_step_of_released
    {name : String} {s : DeskStep α}
    (h : desk.handle? name = some (.owned none)) (hs : s.LeavesHandle name) (make : Nat → α) :
    (desk.step make s).1.handle? name = some (.owned none) := by
  cases s with
  | acquire other owning =>
      simp only [step]
      split
      · exact (handle?_hold_of_ne (Ne.symm hs) _ owning _).trans h
      · exact (handle?_hold_of_ne (Ne.symm hs) _ owning _).trans h
  | tryAcquire other owning =>
      simp only [step]
      split
      · exact (handle?_hold_of_ne (Ne.symm hs) _ owning _).trans h
      · exact h
  | release other =>
      by_cases heq : name = other
      · subst heq
        rwa [step_release_of_released h]
      · simp only [step]
        split
        · rw [handle?, handles_giveBack]
          exact (handle?_dropHandle_of_ne heq desk).trans h
        · rw [handle?, handles_giveBack]
          exact (handle?_setHandle_of_ne heq desk _).trans h
        · exact h
        · exact h
  | drop other =>
      simp only [step]
      split
      · rw [handle?, handles_settle]
        exact (handle?_dropHandle_of_ne (Ne.symm hs) desk).trans h
      · exact h
  | get other =>
      simp only [step]
      split <;> exact h
  | set other value =>
      by_cases heq : name = other
      · subst heq
        simp only [step, h]
      · simp only [step]
        split
        · exact (handle?_setHandle_of_ne heq desk _).trans h
        · exact (handle?_setHandle_of_ne heq desk _).trans h
        · exact h
        · exact h
  | put value =>
      simp only [step]
      rw [handle?, handles_giveBack]
      exact h
  | fill count => exact h
  | wait other owning =>
      simp only [step]
      rw [handle?, handles_withdraw]
      exact h
  | poll other =>
      simp only [step]
      split
      · unfold begin
        split
        · exact (handle?_hold_of_ne (Ne.symm hs) _ _ _).trans h
        · exact h
      · split
        · exact h
        · exact (handle?_hold_of_ne (Ne.symm hs) _ _ _).trans h
      · exact (handle?_hold_of_ne (Ne.symm hs) _ _ _).trans h
      · exact h
  | cancel other =>
      simp only [step]
      split
      · rw [handle?, handles_withdraw]
        exact h
      · exact h

theorem handle?_run_of_released
    {name : String} {steps : List (DeskStep α)}
    (h : desk.handle? name = some (.owned none)) (hsteps : ∀ s ∈ steps, s.LeavesHandle name)
    (make : Nat → α) :
    (desk.run make steps).handle? name = some (.owned none) := by
  induction steps generalizing desk with
  | nil => exact h
  | cons s steps ih =>
      have hnext := handle?_step_of_released h (hsteps s List.mem_cons_self) make
      exact ih hnext fun later hlater => hsteps later (List.mem_cons_of_mem _ hlater)

/-- An owning handle gives its object back when it is released or dropped. Once
released it has nothing left: releasing it again is a fault and changes nothing, and
dropping it only takes the empty handle away. -/
structure ReleasesOnce (make : Nat → α) (desk : Desk α) (name : String) (value : α) : Prop where
  released :
    (desk.step make (.release name)).2 = .done ∧
      GivenBack value (desk.setHandle name (.owned none)) (desk.step make (.release name)).1
  dropped :
    (desk.step make (.drop name)).2 = .done ∧
      GivenBack value (desk.dropHandle name) (desk.step make (.drop name)).1
  again :
    ∀ steps, (∀ s ∈ steps, s.LeavesHandle name) →
      ((desk.step make (.release name)).1.run make steps).step make (.release name) =
          ((desk.step make (.release name)).1.run make steps, .fault .alreadyReleased) ∧
        ((desk.step make (.release name)).1.run make steps).step make (.drop name) =
          (((desk.step make (.release name)).1.run make steps).dropHandle name, .done)

theorem releasesOnce
    {name : String} {value : α}
    (h : desk.Orderly 0) (hhandle : desk.handle? name = some (.owned (some value)))
    (make : Nat → α) :
    desk.ReleasesOnce make name value := by
  have hreleased :
      desk.step make (.release name) =
        ((desk.setHandle name (.owned none)).giveBack value, .done) := by
    simp only [step, hhandle]
  have hdropped : desk.step make (.drop name) = ((desk.dropHandle name).giveBack value, .done) := by
    simp only [step, hhandle]
    rfl
  refine ⟨⟨congrArg Prod.snd hreleased, ?_⟩, ⟨congrArg Prod.snd hdropped, ?_⟩, ?_⟩
  · rw [hreleased]
    exact givenBack_giveBack (h.setHandle name _) value
  · rw [hdropped]
    exact givenBack_giveBack (h.dropHandle name) value
  · intro steps hsteps
    have hempty : (desk.step make (.release name)).1.handle? name = some (.owned none) := by
      rw [hreleased, handle?, handles_giveBack]
      exact handle?_setHandle_self desk name _
    have hlater := handle?_run_of_released hempty hsteps make
    exact ⟨step_release_of_released hlater make, step_drop_of_released hlater make⟩

/-! ### Every moment of a run -/

/-- How a desk stands after a run that began with another one. -/
structure Conserves
    (make : Nat → α) (start : Desk α) (steps : List (DeskStep α)) (desk : Desk α) : Prop where
  /-- What is here or has left is what was made or has come. -/
  ledger : desk.objects + start.lost make steps = desk.created make + start.brought make steps
  /-- What has not left is in exactly one place, where objects are told apart. -/
  place :
    (desk.created make + start.brought make steps).Nodup →
      ∀ value ∈ desk.created make + start.brought make steps,
        value ∉ start.lost make steps → ∃! place, desk.Keeps value place
  /-- Owning handles give their objects back once. -/
  releases :
    ∀ name value, desk.handle? name = some (.owned (some value)) →
      desk.ReleasesOnce make name value
  /-- A task that is cancelled passes on what was handed to it. -/
  passes :
    ∀ name owning value, desk.task? name = some { owning := owning, stage := .served value } →
      GivenBack value (desk.dropTask name) (desk.step make (.cancel name)).1
  /-- The factory is asked only to fill, and to acquire where nothing is idle. -/
  makes : ∀ s, (desk.step make s).1.made = desk.made + desk.makes s

/-- At every moment of every run no object is lost and none is doubled. -/
theorem conserves_run (make : Nat → α) (count : Nat) (steps : List (DeskStep α)) :
    Conserves make (new make count) steps ((new make count).run make steps) := by
  have horderly := (orderly_new make count).run make steps
  have hnew : (new make count).objects + 0 = (new make count).created make + 0 := by
    rw [objects_new]
  have hledger := objects_run (orderly_new make count) hnew steps
  rw [zero_add, zero_add] at hledger
  refine ⟨hledger, ?_, ?_, ?_, made_step horderly make⟩
  · intro hnodup value hmem hlost
    rw [← hledger] at hnodup hmem
    have hhere : value ∈ ((new make count).run make steps).objects := by
      rcases Multiset.mem_add.mp hmem with h | h
      · exact h
      · exact absurd h hlost
    have htold := Multiset.nodup_of_le (Multiset.le_add_right _ _) hnodup
    exact existsUnique_keeps horderly htold hhere
  · intro name value hhandle
    exact releasesOnce horderly hhandle make
  · intro name owning value htask
    have hserved : ticketOf (((new make count).run make steps).task? name) = 0 := by
      rw [htask]
      rfl
    have hback := givenBack_giveBack (horderly.dropTask_of_not_queued hserved) value
    simp only [step, htask]
    exact hback

end Desk
end HttpEngine
