import HttpEngine.Pool.Desk
import HttpEngine.Proofs.Pool.Queue
import Mathlib.Data.List.Induction

/-!
# Nobody waits beside an idle object

Whoever returns an object looks at the queue first, and whoever joins the queue
has looked at the idle objects. So no operation leaves somebody waiting beside an
idle object, except one: filling a pool adds idle objects without looking at the
queue, and those who wait then go on waiting.

The main statement says exactly which runs leave nobody waiting beside an idle
object: those that fill the pool only while nobody waits.
-/

namespace HttpEngine
namespace Pool

variable {α : Type}
variable {pool : Pool α}

/-- Nobody waits beside an idle object. -/
def Prompt (pool : Pool α) : Prop :=
  0 < pool.waiterCount → pool.idleCount = 0

theorem prompt_iff : pool.Prompt ↔ (pool.waiting ≠ [] → pool.idle = []) := by
  rw [Prompt, waiterCount_eq_length, idleCount, List.length_pos_iff, List.length_eq_zero_iff]

theorem Prompt.take
    {value : α} {rest : Pool α}
    (h : pool.Prompt) (htake : pool.take? = some (value, rest)) :
    rest.Prompt := by
  obtain ⟨idle, hidle, rfl⟩ := take?_eq_some_iff.mp htake
  rw [prompt_iff] at h ⊢
  intro hwaiting
  have hempty := h hwaiting
  rw [hidle] at hempty
  contradiction

/-- Whoever joins the queue has found nothing idle. -/
theorem prompt_enqueue (htake : pool.take? = none) : pool.enqueue.2.Prompt := by
  have hidle : pool.idle = [] := take?_eq_none_iff.mp htake
  rw [prompt_iff]
  exact fun _ => hidle

theorem Prompt.cancel (h : pool.Prompt) (ticket : Nat) : (pool.cancel ticket).Prompt := by
  rw [prompt_iff] at h ⊢
  rw [waiting_cancel]
  intro hsome
  refine h ?_
  intro hnone
  rw [hnone] at hsome
  exact hsome rfl

/-- A returned object is idle only when nobody waits. -/
theorem Prompt.release (h : pool.Prompt) (value : α) : (pool.release value).1.Prompt := by
  cases hwaiting : pool.waiting with
  | nil =>
      rw [release_of_waiting_eq_nil hwaiting, prompt_iff]
      intro hsome
      exact absurd rfl hsome
  | cons ticket others =>
      obtain ⟨queue, hrelease, -⟩ := release_of_waiting_eq_cons hwaiting value
      have hidle : pool.idle = [] := by
        refine prompt_iff.mp h ?_
        rw [hwaiting]
        exact List.cons_ne_nil _ _
      rw [hrelease, prompt_iff]
      exact fun _ => hidle

/-- Filling looks at nobody: those who wait go on waiting. -/
theorem prompt_fill_iff {values : List α} (hvalues : values ≠ []) :
    (pool.fill values).Prompt ↔ pool.waiterCount = 0 := by
  have hwaiting : (pool.fill values).waiting = pool.waiting := rfl
  have hidle : (pool.fill values).idle ≠ [] := by
    simp [fill, hvalues]
  rw [prompt_iff, hwaiting, waiterCount_eq_zero_iff]
  constructor
  · intro h
    by_contra hsome
    exact hidle (h hsome)
  · intro hnone hsome
    exact absurd hnone hsome

end Pool

namespace Desk

variable {α : Type}
variable {make : Nat → α}
variable {desk : Desk α}

theorem pool_giveBack (desk : Desk α) (value : α) :
    (desk.giveBack value).pool = (desk.pool.release value).1 := by
  unfold giveBack
  split
  · next hrelease => rw [hrelease]
  · next hrelease => rw [hrelease]

theorem prompt_giveBack (desk : Desk α) (h : desk.pool.Prompt) (value : α) :
    (desk.giveBack value).pool.Prompt := by
  rw [pool_giveBack]
  exact h.release value

theorem prompt_settle (desk : Desk α) (h : desk.pool.Prompt) (handle : Option (Handle α)) :
    (desk.settle handle).pool.Prompt := by
  unfold settle
  split
  · exact prompt_giveBack desk h _
  · exact h

theorem prompt_hold
    (desk : Desk α) (h : desk.pool.Prompt) (name : String) (owning : Bool) (value : α) :
    (desk.hold name owning value).pool.Prompt :=
  prompt_settle (desk.setHandle name (.of owning value)) h _

theorem prompt_withdraw (desk : Desk α) (h : desk.pool.Prompt) (task : Option (Task α)) :
    (desk.withdraw task).pool.Prompt := by
  unfold withdraw
  split
  · exact h.cancel _
  · exact prompt_giveBack desk h _
  · exact h

theorem prompt_begin (h : desk.pool.Prompt) (name : String) (owning : Bool) :
    (desk.begin name owning).1.pool.Prompt := by
  unfold begin
  split
  · next value pool htake =>
      exact
        prompt_hold ({ desk with pool := pool }.dropTask name) (h.take htake) name owning
          value
  · next htake => exact Pool.prompt_enqueue htake

/-- Only filling can leave somebody waiting beside an idle object. -/
theorem prompt_step
    (h : desk.pool.Prompt) {s : DeskStep α} (hfill : ∀ count, s ≠ .fill count) :
    (desk.step make s).1.pool.Prompt := by
  cases s with
  | acquire name owning =>
      simp only [step]
      split
      · next value pool htake =>
          exact prompt_hold { desk with pool := pool } (h.take htake) name owning value
      · exact prompt_hold { desk with made := desk.made + 1 } h name owning _
  | tryAcquire name owning =>
      simp only [step]
      split
      · next value pool htake =>
          exact prompt_hold { desk with pool := pool } (h.take htake) name owning value
      · exact h
  | release name =>
      simp only [step]
      split
      · exact prompt_giveBack (desk.dropHandle name) h _
      · exact prompt_giveBack (desk.setHandle name (.owned none)) h _
      · exact h
      · exact h
  | drop name =>
      simp only [step]
      split
      · exact prompt_settle (desk.dropHandle name) h _
      · exact h
  | get name =>
      simp only [step]
      split <;> exact h
  | set name value =>
      simp only [step]
      split <;> exact h
  | put value => exact prompt_giveBack desk h value
  | fill count => exact absurd rfl (hfill count)
  | wait name owning =>
      exact
        prompt_withdraw (desk.setTask name { owning := owning, stage := .fresh }) h _
  | poll name =>
      simp only [step]
      split
      · exact prompt_begin h name _
      · split
        · exact h
        · exact
            prompt_hold { desk.dropTask name with made := (desk.dropTask name).made + 1 } h name
              _ _
      · exact prompt_hold (desk.dropTask name) h name _ _
      · exact h
  | cancel name =>
      simp only [step]
      split
      · exact prompt_withdraw (desk.dropTask name) h _
      · exact h

/-- Objects are added one after the other: filling is a run of fillings by one, and
others may go on in between. -/
theorem step_fill_succ (make : Nat → α) (desk : Desk α) (count : Nat) :
    (desk.step make (.fill (count + 1))).1 = desk.run make [.fill count, .fill 1] := by
  simp [step, run, Pool.fill, List.range_succ, Nat.add_assoc]

/-- What filling adds is idle at once. -/
theorem prompt_step_fill_iff (count : Nat) :
    (desk.step make (.fill (count + 1))).1.pool.Prompt ↔ desk.pool.waiterCount = 0 := by
  refine Pool.prompt_fill_iff ?_
  simp [List.range_succ]

theorem run_concat (make : Nat → α) (desk : Desk α) (steps : List (DeskStep α)) (s : DeskStep α) :
    desk.run make (steps ++ [s]) = ((desk.run make steps).step make s).1 := by
  simp [run]

/-- A run leaves nobody waiting beside an idle object at any moment if and only if
it fills the pool only while nobody waits. -/
theorem prompt_run_iff (make : Nat → α) (count : Nat) (steps : List (DeskStep α)) :
    (∀ part, part <+: steps → ((new make count).run make part).pool.Prompt) ↔
      ∀ part more, part ++ [.fill (more + 1)] <+: steps →
        ((new make count).run make part).pool.waiterCount = 0 := by
  constructor
  · intro hprompt part more hpart
    have hfilled := hprompt _ hpart
    rwa [run_concat, prompt_step_fill_iff] at hfilled
  · intro hfill part
    induction part using List.reverseRecOn with
    | nil =>
        intro _ hwaits
        exact absurd hwaits (Nat.lt_irrefl 0)
    | append_singleton part s ih =>
        intro hpart
        have hbefore := ih ((List.prefix_append part [s]).trans hpart)
        rw [run_concat]
        by_cases hs : ∃ more, s = .fill more
        · obtain ⟨more, rfl⟩ := hs
          cases more with
          | zero => exact hbefore
          | succ more => exact (prompt_step_fill_iff more).mpr (hfill part more hpart)
        · exact prompt_step hbefore fun more heq => hs ⟨more, heq⟩

/-- Somebody who began to wait before the pool was filled waits beside the new
object. -/
theorem not_prompt_of_fill_behind_waiter :
    ¬ ∀ steps : List (DeskStep Nat), ((new id 0).run id steps).pool.Prompt := by
  intro h
  have hidle := h [.wait "a" false, .poll "a", .fill 1] (by decide)
  exact absurd hidle (by decide)

end Desk
end HttpEngine
