import HttpEngine.Proofs.Pool.Turns
import HttpEngine.Proofs.Pool.Wakeups
import Mathlib.Tactic.IntervalCases

/-!
# First come, first served

Who waits is known from the history of a run: a task stands in line since the step that
suspended it, until it is served or cancelled. At every moment of a run

* those who stand in line, in the order in which they were suspended, are those who wait
  in the queue, and there are `waiterCount` of them;
* an object that is given back is handed to the first of them, and is idle if there is
  nobody;
* nobody else is handed anything.

So of two tasks the one that was suspended first is served first, unless it is cancelled
while it waits.
-/

namespace HttpEngine
namespace Desk

variable {α : Type}

/-- The task of that name is suspended. -/
def Waits (desk : Desk α) (name : String) : Prop :=
  ∃ owning ticket, desk.task? name = some { owning := owning, stage := .queued ticket }

theorem waits_iff {desk : Desk α} {name : String} :
    desk.Waits name ↔ ∃ ticket, desk.place? name = some ticket := by
  constructor
  · rintro ⟨owning, ticket, htask⟩
    exact ⟨ticket, place?_of_task htask⟩
  · rintro ⟨ticket, hplace⟩
    obtain ⟨task, htask, hticket⟩ := Option.bind_eq_some_iff.mp hplace
    exact ⟨task.owning, ticket, htask.trans (congrArg some (Task.eq_of_ticket hticket))⟩

theorem not_waits_of_place? {desk : Desk α} {name : String} (h : desk.place? name = none) :
    ¬ desk.Waits name := by
  rw [waits_iff, h]
  rintro ⟨ticket, hsome⟩
  contradiction

/-- Whatever the next step is, an object that it gives back is handed to one task, or is
idle if there is none, and nobody else is handed anything. -/
structure GivesTo (make : Nat → α) (desk : Desk α) (first : Option String) : Prop where
  rests :
    first = none → ∀ s value, desk.returned? s (desk.step make s).2 = some value →
      ∃ idle, (desk.step make s).1.pool.idle = value :: idle ∧ idle <:+ desk.pool.idle
  serves :
    ∀ name, first = some name → ∀ s value, desk.returned? s (desk.step make s).2 = some value →
      (desk.step make s).1.handed? name = some value ∧
        (desk.step make s).1.pool.idle <:+ desk.pool.idle
  only :
    ∀ s name value, (desk.step make s).1.handed? name = some value →
      desk.handed? name = some value ∨
        desk.returned? s (desk.step make s).2 = some value ∧ first = some name

section Run

variable (make : Nat → α) (start : Desk α) (steps : List (DeskStep α))

/-- The desk after so many steps of a run. -/
def atMoment (moment : Nat) : Desk α :=
  start.run make (steps.take moment)

/-- The task of that name was suspended by the step that came after `since` steps, and has
waited ever since. -/
structure StandsSince (name : String) (since moment : Nat) : Prop where
  lt : since < moment
  before : ¬ (atMoment make start steps since).Waits name
  ever : ∀ later ≤ moment, since < later → (atMoment make start steps later).Waits name

/-- The next step hands an object to the task of that name, which waits. -/
def ServedAt (name : String) (moment : Nat) : Prop :=
  moment < steps.length ∧
    (atMoment make start steps moment).Waits name ∧
      ∃ value, (atMoment make start steps (moment + 1)).handed? name = some value

/-- The next step cancels the task of that name. -/
def CancelledAt (name : String) (moment : Nat) : Prop :=
  ∃ s, steps[moment]? = some s ∧ s.Cancels name

/-- At a moment of a run, those who stand in line, with the steps that suspended them, in
the order of these steps. What is given back next goes to the first of them. -/
structure InLine (moment : Nat) (line : List (String × Nat)) : Prop where
  mem_iff : ∀ name since, (name, since) ∈ line ↔ StandsSince make start steps name since moment
  sorted : line.Pairwise fun first second => first.2 < second.2
  count_eq : (atMoment make start steps moment).pool.waiterCount = line.length
  gives : GivesTo make (atMoment make start steps moment) (line.head?.map Prod.fst)

end Run

/-! ### Standing in line -/

section Standing

variable {make : Nat → α} {start : Desk α} {steps : List (DeskStep α)}
variable {name : String}
variable {since moment : Nat}

theorem atMoment_succ {s : DeskStep α} (hs : steps[moment]? = some s) :
    atMoment make start steps (moment + 1) =
      ((atMoment make start steps moment).step make s).1 := by
  rw [atMoment, List.take_add_one, hs, Option.toList_some, run_concat, atMoment]

theorem orderly_atMoment (h : start.Orderly 0) (make : Nat → α) (moment : Nat) :
    (atMoment make start steps moment).Orderly 0 :=
  h.run make _

theorem turn_atMoment
    (make : Nat → α) (h : start.Orderly 0) {s : DeskStep α} (hs : steps[moment]? = some s) :
    Turn s (atMoment make start steps moment) (atMoment make start steps (moment + 1))
      ((atMoment make start steps moment).returned? s
        ((atMoment make start steps moment).step make s).2) := by
  rw [atMoment_succ hs]
  exact turn_step (orderly_atMoment h make moment) make s

namespace StandsSince

theorem waits (h : StandsSince make start steps name since moment) :
    (atMoment make start steps moment).Waits name :=
  h.ever moment (Nat.le_refl moment) h.lt

/-- Who is suspended by a step stands in line from then on. -/
theorem of_suspended
    (hbefore : ¬ (atMoment make start steps moment).Waits name)
    (hafter : (atMoment make start steps (moment + 1)).Waits name) :
    StandsSince make start steps name moment (moment + 1) where
  lt := Nat.lt_succ_self moment
  before := hbefore
  ever := by
    intro later hlater hlt
    rw [Nat.le_antisymm hlater hlt]
    exact hafter

theorem extend
    (h : StandsSince make start steps name since moment)
    (hafter : (atMoment make start steps (moment + 1)).Waits name) :
    StandsSince make start steps name since (moment + 1) where
  lt := Nat.lt_succ_of_lt h.lt
  before := h.before
  ever := by
    intro later hlater hlt
    rcases Nat.le_succ_iff.mp hlater with hold | rfl
    · exact h.ever later hold hlt
    · exact hafter

/-- A task is suspended by one step only before it is served or cancelled. -/
theorem unique
    {other : Nat}
    (h : StandsSince make start steps name since moment)
    (hother : StandsSince make start steps name other moment) :
    since = other := by
  rcases Nat.lt_trichotomy since other with hlt | heq | hlt
  · exact absurd (h.ever other hother.lt.le hlt) hother.before
  · exact heq
  · exact absurd (hother.ever since h.lt.le hlt) h.before

end StandsSince

/-- Who waits no longer has been served or cancelled. -/
theorem served_or_cancelled
    (h : start.Orderly 0) (hmoment : moment < steps.length)
    (hwaits : (atMoment make start steps moment).Waits name)
    (hgone : ¬ (atMoment make start steps (moment + 1)).Waits name) :
    ServedAt make start steps name moment ∨ CancelledAt steps name moment := by
  obtain ⟨place, hplace⟩ := waits_iff.mp hwaits
  have hleft :
      (atMoment make start steps (moment + 1)).place? name ≠
        (atMoment make start steps moment).place? name := by
    intro hsame
    exact hgone (waits_iff.mpr ⟨place, hsame.trans hplace⟩)
  have hs := List.getElem?_eq_getElem hmoment
  have hturn := turn_atMoment make h hs
  generalize (atMoment make start steps moment).returned? _ _ = given at hturn
  cases hturn with
  | stays _ hplaces => exact absurd (hplaces name) hleft
  | rests _ _ hplaces => exact absurd (hplaces name) hleft
  | @serves value first _ _ _ hserved _ hothers =>
      by_cases hfirst : name = first
      · subst hfirst
        exact Or.inl ⟨hmoment, hwaits, value, hserved⟩
      · exact absurd (hothers name hfirst) hleft
  | @joins last _ hfree _ _ hothers =>
      have hlast : name ≠ last := by
        rintro rfl
        rw [hfree] at hplace
        contradiction
      exact absurd (hothers name hlast) hleft
  | @leaves other _ hcancels _ _ _ hothers =>
      by_cases hother : name = other
      · subst hother
        exact Or.inr ⟨_, hs, hcancels⟩
      · exact absurd (hothers name hother) hleft

end Standing

/-! ### The line and the queue -/

/-- A line in the order of suspension that stands at the places of the queue. -/
structure FillsQueue
    (make : Nat → α) (start : Desk α) (steps : List (DeskStep α)) (moment : Nat)
    (line : List (String × Nat)) : Prop where
  places_eq :
    (line.map fun entry => (atMoment make start steps moment).place? entry.1) =
      (atMoment make start steps moment).pool.waiting.map some
  stands : ∀ entry ∈ line, StandsSince make start steps entry.1 entry.2 moment
  sorted : line.Pairwise fun first second => first.2 < second.2

section Queue

variable {make : Nat → α} {start : Desk α} {steps : List (DeskStep α)}
variable {moment : Nat}
variable {line part : List (String × Nat)}

namespace FillsQueue

theorem place?_of_mem
    {entry : String × Nat}
    (h : FillsQueue make start steps moment line) (hmem : entry ∈ line) :
    ∃ ticket ∈ (atMoment make start steps moment).pool.waiting,
      (atMoment make start steps moment).place? entry.1 = some ticket := by
  have hplace :
      (atMoment make start steps moment).place? entry.1 ∈
        (atMoment make start steps moment).pool.waiting.map some := by
    rw [← h.places_eq]
    exact List.mem_map.mpr ⟨entry, hmem, rfl⟩
  obtain ⟨ticket, hticket, heq⟩ := List.mem_map.mp hplace
  exact ⟨ticket, hticket, heq.symm⟩

theorem mem_iff
    (horderly : start.Orderly 0) (h : FillsQueue make start steps moment line)
    (name : String) (since : Nat) :
    (name, since) ∈ line ↔ StandsSince make start steps name since moment := by
  constructor
  · intro hmem
    exact h.stands _ hmem
  · intro hstands
    have hnow : (atMoment make start steps moment).Orderly 0 :=
      orderly_atMoment horderly make moment
    obtain ⟨ticket, hplace⟩ := waits_iff.mp hstands.waits
    have hplaces : some ticket ∈ (atMoment make start steps moment).pool.waiting.map some :=
      List.mem_map.mpr ⟨ticket, mem_waiting_of_place? hnow hplace, rfl⟩
    rw [← h.places_eq] at hplaces
    obtain ⟨⟨other, earlier⟩, hmem, hother⟩ := List.mem_map.mp hplaces
    obtain rfl : other = name := eq_of_place? hnow hplace hother
    rwa [hstands.unique (h.stands _ hmem)]

theorem eq_nil_iff (h : FillsQueue make start steps moment line) :
    line = [] ↔ (atMoment make start steps moment).pool.waiting = [] := by
  rw [← List.map_eq_nil_iff, h.places_eq, List.map_eq_nil_iff]

/-- The task at the first place is the first in line. -/
theorem eq_cons
    {name : String} {ticket : Nat} {tickets : List Nat}
    (horderly : start.Orderly 0) (h : FillsQueue make start steps moment line)
    (hfirst : (atMoment make start steps moment).pool.waiting = ticket :: tickets)
    (hplace : (atMoment make start steps moment).place? name = some ticket) :
    ∃ since others,
      line = (name, since) :: others ∧
        (others.map fun entry => (atMoment make start steps moment).place? entry.1) =
          tickets.map some := by
  have hline := h.places_eq
  rw [hfirst, List.map_cons] at hline
  obtain ⟨⟨first, since⟩, others, rfl, hhead, htail⟩ := List.map_eq_cons_iff.mp hline
  obtain rfl : first = name := eq_of_place? (orderly_atMoment horderly make moment) hplace hhead
  exact ⟨since, others, rfl, htail⟩

/-- Those who keep their places stand in line as before. -/
theorem keep
    (h : FillsQueue make start steps moment line) (hpart : part.Sublist line)
    (hplaces :
      ∀ entry ∈ part,
        (atMoment make start steps (moment + 1)).place? entry.1 =
          (atMoment make start steps moment).place? entry.1)
    (hwaiting :
      (part.map fun entry => (atMoment make start steps moment).place? entry.1) =
        (atMoment make start steps (moment + 1)).pool.waiting.map some) :
    FillsQueue make start steps (moment + 1) part where
  places_eq := (List.map_congr_left hplaces).trans hwaiting
  stands := by
    intro entry hentry
    have hmem := hpart.subset hentry
    obtain ⟨ticket, -, hplace⟩ := h.place?_of_mem hmem
    exact (h.stands entry hmem).extend (waits_iff.mpr ⟨ticket, (hplaces entry hentry).trans hplace⟩)
  sorted := h.sorted.sublist hpart

/-- The first of the line has been served, and the others move up. -/
theorem serve
    {name : String} {ticket : Nat}
    (horderly : start.Orderly 0) (h : FillsQueue make start steps moment line)
    (hfirst :
      (atMoment make start steps moment).pool.waiting =
        ticket :: (atMoment make start steps (moment + 1)).pool.waiting)
    (hplace : (atMoment make start steps moment).place? name = some ticket)
    (hothers :
      OthersStay (atMoment make start steps moment) (atMoment make start steps (moment + 1)) name) :
    ∃ since others,
      line = (name, since) :: others ∧ FillsQueue make start steps (moment + 1) others := by
  obtain ⟨since, others, rfl, htail⟩ := h.eq_cons horderly hfirst hplace
  refine ⟨since, others, rfl, h.keep (List.sublist_cons_self _ _) ?_ htail⟩
  intro entry hentry
  refine hothers entry.1 ?_
  intro hsame
  have hagain :
      (atMoment make start steps moment).place? entry.1 ∈
        (atMoment make start steps (moment + 1)).pool.waiting.map some := by
    rw [← htail]
    exact List.mem_map.mpr ⟨entry, hentry, rfl⟩
  rw [hsame, hplace, List.mem_map_of_injective (Option.some_injective _)] at hagain
  have hnodup : (atMoment make start steps moment).pool.waiting.Nodup :=
    (orderly_atMoment horderly make moment).waiting_nodup
  rw [hfirst] at hnodup
  exact (List.nodup_cons.mp hnodup).1 hagain

/-- Who is suspended stands behind all others. -/
theorem join
    {name : String} {ticket : Nat}
    (h : FillsQueue make start steps moment line)
    (hfree : (atMoment make start steps moment).place? name = none)
    (hwaiting :
      (atMoment make start steps (moment + 1)).pool.waiting =
        (atMoment make start steps moment).pool.waiting ++ [ticket])
    (hplace : (atMoment make start steps (moment + 1)).place? name = some ticket)
    (hothers :
      OthersStay (atMoment make start steps moment) (atMoment make start steps (moment + 1)) name) :
    FillsQueue make start steps (moment + 1) (line ++ [(name, moment)]) := by
  have hkept :
      ∀ entry ∈ line,
        (atMoment make start steps (moment + 1)).place? entry.1 =
          (atMoment make start steps moment).place? entry.1 := by
    intro entry hentry
    obtain ⟨held, -, hheld⟩ := h.place?_of_mem hentry
    refine hothers entry.1 ?_
    intro hsame
    rw [hsame, hfree] at hheld
    contradiction
  refine ⟨?_, ?_, ?_⟩
  · rw [List.map_append, List.map_congr_left hkept, h.places_eq, hwaiting, List.map_append,
      List.map_singleton, List.map_singleton, hplace]
  · intro entry hentry
    rcases List.mem_append.mp hentry with hold | hnew
    · obtain ⟨held, -, hheld⟩ := h.place?_of_mem hold
      exact (h.stands entry hold).extend
        (waits_iff.mpr ⟨held, (hkept entry hold).trans hheld⟩)
    · rw [List.mem_singleton.mp hnew]
      exact .of_suspended (not_waits_of_place? hfree) (waits_iff.mpr ⟨ticket, hplace⟩)
  · rw [List.pairwise_append]
    refine ⟨h.sorted, List.pairwise_singleton _ _, ?_⟩
    intro entry hentry last hlast
    rw [List.mem_singleton.mp hlast]
    exact (h.stands entry hentry).lt

/-- Who is cancelled gives up its place in line. -/
theorem leave
    {name : String} {ticket : Nat}
    (h : FillsQueue make start steps moment line)
    (hplace : (atMoment make start steps moment).place? name = some ticket)
    (hwaiting :
      (atMoment make start steps (moment + 1)).pool.waiting =
        (atMoment make start steps moment).pool.waiting.filter fun waiting => waiting != ticket)
    (hothers :
      OthersStay (atMoment make start steps moment) (atMoment make start steps (moment + 1)) name) :
    FillsQueue make start steps (moment + 1)
      (line.filter fun entry =>
        (atMoment make start steps moment).place? entry.1 != some ticket) := by
  refine h.keep List.filter_sublist ?_ ?_
  · intro entry hentry
    refine hothers entry.1 ?_
    intro hsame
    have hstays := (List.mem_filter.mp hentry).2
    rw [hsame, hplace, bne_self_eq_false] at hstays
    contradiction
  · have hfilter :
        (line.filter fun entry =>
            (atMoment make start steps moment).place? entry.1 != some ticket).map
            (fun entry => (atMoment make start steps moment).place? entry.1) =
          (line.map fun entry => (atMoment make start steps moment).place? entry.1).filter
            fun place => place != some ticket := by
      rw [List.filter_map]
      rfl
    rw [hfilter, h.places_eq, List.filter_map, hwaiting]
    rfl

end FillsQueue

/-- At every moment of a run the queue is filled by a line in the order of suspension. -/
theorem exists_fillsQueue
    (make : Nat → α) (horderly : start.Orderly 0) (hnobody : start.pool.waiting = [])
    (hmoment : moment ≤ steps.length) :
    ∃ line, FillsQueue make start steps moment line := by
  induction moment with
  | zero =>
      refine ⟨[], ?_, ?_, List.Pairwise.nil⟩
      · rw [atMoment, List.take_zero]
        exact (congrArg (List.map some) hnobody).symm
      · intro entry hentry
        exact absurd hentry List.not_mem_nil
  | succ moment ih =>
      obtain ⟨line, hline⟩ := ih (Nat.le_of_succ_le hmoment)
      have hturn := turn_atMoment make horderly (List.getElem?_eq_getElem hmoment)
      generalize (atMoment make start steps moment).returned? _ _ = given at hturn
      cases hturn with
      | stays hwaiting hplaces =>
          refine ⟨line, hline.keep (List.Sublist.refl line) (fun entry _ => hplaces entry.1) ?_⟩
          rw [hwaiting]
          exact hline.places_eq
      | rests hbefore hwaiting hplaces =>
          refine ⟨line, hline.keep (List.Sublist.refl line) (fun entry _ => hplaces entry.1) ?_⟩
          rw [hwaiting, ← hbefore]
          exact hline.places_eq
      | serves hfirst hplace _ _ hothers =>
          obtain ⟨since, others, -, hfills⟩ := hline.serve horderly hfirst hplace hothers
          exact ⟨others, hfills⟩
      | joins hfree hwaiting hplace hothers =>
          exact ⟨_, hline.join hfree hwaiting hplace hothers⟩
      | leaves _ hplace hwaiting _ hothers =>
          exact ⟨_, hline.leave hplace hwaiting hothers⟩

/-! ### Who is served -/

/-- What is given back goes to the first in line. -/
theorem FillsQueue.givesTo
    (horderly : start.Orderly 0) (h : FillsQueue make start steps moment line) :
    GivesTo make (atMoment make start steps moment) (line.head?.map Prod.fst) := by
  have hnow : (atMoment make start steps moment).Orderly 0 := orderly_atMoment horderly make moment
  refine ⟨?_, ?_, ?_⟩
  · intro hnone s value hreturned
    have hempty : line = [] := List.head?_eq_none_iff.mp (Option.map_eq_none_iff.mp hnone)
    have hgiven := turn_step hnow make s
    rw [hreturned] at hgiven
    cases hgiven with
    | rests _ _ _ _ hidle hrest => exact ⟨_, hidle, hrest⟩
    | serves hfirst =>
        rw [h.eq_nil_iff.mp hempty] at hfirst
        contradiction
  · intro name hfirst s value hreturned
    have hgiven := turn_step hnow make s
    rw [hreturned] at hgiven
    cases hgiven with
    | rests hnobody =>
        rw [h.eq_nil_iff.mpr hnobody] at hfirst
        contradiction
    | serves hwaiting hplace hserved _ _ _ hrest =>
        obtain ⟨since, others, rfl, -⟩ := h.eq_cons horderly hwaiting hplace
        obtain rfl := Option.some.inj hfirst
        exact ⟨hserved, hrest⟩
  · intro s name value hhanded
    have hgiven := turn_step hnow make s
    generalize (atMoment make start steps moment).returned? _ _ = given at hgiven ⊢
    cases hgiven with
    | stays _ _ hhands => exact Or.inl (hhands name value hhanded)
    | rests _ _ _ hhands => exact Or.inl (hhands name value hhanded)
    | @serves given first ticket hwaiting hplace hserved _ _ hhands =>
        by_cases hname : name = first
        · subst hname
          rw [hserved] at hhanded
          obtain ⟨since, others, rfl, -⟩ := h.eq_cons horderly hwaiting hplace
          exact Or.inr ⟨hhanded, rfl⟩
        · exact Or.inl (hhands name value hname hhanded)
    | joins _ _ _ _ hhands => exact Or.inl (hhands name value hhanded)
    | leaves _ _ _ _ _ hhands => exact Or.inl (hhands name value hhanded)

/-- Those who stand in line are those who wait in the queue. -/
theorem FillsQueue.inLine
    (horderly : start.Orderly 0) (h : FillsQueue make start steps moment line) :
    InLine make start steps moment line := by
  have hlength := congrArg List.length h.places_eq
  rw [List.length_map, List.length_map] at hlength
  refine ⟨h.mem_iff horderly, h.sorted, ?_, h.givesTo horderly⟩
  rw [Pool.waiterCount_eq_length, hlength]

/-- Whoever is served was the first in line. -/
theorem InLine.first_of_servedAt
    {name : String}
    (h : InLine make start steps moment line) (hserved : ServedAt make start steps name moment) :
    line.head?.map Prod.fst = some name := by
  obtain ⟨hmoment, ⟨owning, ticket, htask⟩, value, hhanded⟩ := hserved
  rw [atMoment_succ (List.getElem?_eq_getElem hmoment)] at hhanded
  rcases h.gives.only _ name value hhanded with hbefore | ⟨-, hfirst⟩
  · rw [handed?_of_task htask] at hbefore
    contradiction
  · exact hfirst

/-- Who was suspended earlier stands in line no longer when somebody else is served. -/
theorem InLine.not_standsSince_of_servedAt
    (first : String) {second : String} {since later : Nat}
    (h : InLine make start steps moment line) (hlt : since < later)
    (hsecond : StandsSince make start steps second later moment)
    (hserved : ServedAt make start steps second moment) :
    ¬ StandsSince make start steps first since moment := by
  intro hfirst
  obtain ⟨⟨head, began⟩, hhead, hname⟩ := Option.map_eq_some_iff.mp (h.first_of_servedAt hserved)
  obtain rfl : head = second := hname
  obtain ⟨others, rfl⟩ := List.head?_eq_some_iff.mp hhead
  have hbegan : began = later :=
    ((h.mem_iff head began).mp List.mem_cons_self).unique hsecond
  have hsorted := h.sorted
  rw [List.pairwise_cons] at hsorted
  rcases List.mem_cons.mp ((h.mem_iff first since).mpr hfirst) with heq | hothers
  · have hsame : since = began := congrArg Prod.snd heq
    exact absurd (hsame.trans hbegan) hlt.ne
  · have hbehind : began < since := hsorted.1 (first, since) hothers
    rw [hbegan] at hbehind
    exact absurd hlt hbehind.asymm

/-- Who stands in line and later does not has been served or cancelled in between. -/
theorem exists_served_or_cancelled
    {name : String} {since suspended : Nat}
    (horderly : start.Orderly 0) (hle : suspended ≤ moment) (hmoment : moment ≤ steps.length)
    (hstands : StandsSince make start steps name since suspended)
    (hgone : ¬ StandsSince make start steps name since moment) :
    ∃ between < moment, StandsSince make start steps name since between ∧
      (ServedAt make start steps name between ∨ CancelledAt steps name between) := by
  induction moment, hle using Nat.le_induction with
  | base => exact absurd hstands hgone
  | succ moment _ ih =>
      by_cases hnow : StandsSince make start steps name since moment
      · have hleft : ¬ (atMoment make start steps (moment + 1)).Waits name :=
          fun hwaits => hgone (hnow.extend hwaits)
        exact ⟨moment, Nat.lt_succ_self moment, hnow,
          served_or_cancelled horderly hmoment hnow.waits hleft⟩
      · obtain ⟨between, hlt, hfound⟩ := ih (Nat.le_of_succ_le hmoment) hnow
        exact ⟨between, Nat.lt_succ_of_lt hlt, hfound⟩

end Queue

/-- At every moment of every run those who wait stand in line in the order in which they
were suspended, and what is given back goes to the first of them. So who was suspended
first is served first, unless it is cancelled before the other one is served. -/
theorem served_in_order_of_suspension
    (make : Nat → α) (count : Nat) (steps : List (DeskStep α)) :
    (∀ moment ≤ steps.length, ∃ line, InLine make (new make count) steps moment line) ∧
      ∀ first second since later moment,
        since < later →
          StandsSince make (new make count) steps first since (since + 1) →
          StandsSince make (new make count) steps second later moment →
          ServedAt make (new make count) steps second moment →
          (∀ between < moment, StandsSince make (new make count) steps first since between →
            ¬ CancelledAt steps first between) →
          ∃ between < moment,
            StandsSince make (new make count) steps first since between ∧
              ServedAt make (new make count) steps first between := by
  have horderly := orderly_new make count
  have hline :
      ∀ moment ≤ steps.length, ∃ line, InLine make (new make count) steps moment line := by
    intro moment hmoment
    obtain ⟨line, hfills⟩ := exists_fillsQueue make horderly rfl hmoment
    exact ⟨line, hfills.inLine horderly⟩
  refine ⟨hline, ?_⟩
  intro first second since later moment hlt hfirst hsecond hserved hkept
  have hmoment : moment ≤ steps.length := hserved.1.le
  obtain ⟨line, hinline⟩ := hline moment hmoment
  have hgone := hinline.not_standsSince_of_servedAt first hlt hsecond hserved
  obtain ⟨between, hbetween, hstood, hleft⟩ :=
    exists_served_or_cancelled horderly (hlt.trans hsecond.lt) hmoment hfirst hgone
  rcases hleft with hserved | hcancelled
  · exact ⟨between, hbetween, hstood, hserved⟩
  · exact absurd hcancelled (hkept between hbetween hstood)

/-- Two tasks are suspended, one after the other, and then two objects come. -/
def twoInLine : List (DeskStep Nat) :=
  [.wait "a" false, .poll "a", .wait "b" false, .poll "b", .put 7, .put 8]

theorem first_of_two_served_first :
    ∃ between < 5,
      StandsSince id (new id 0) twoInLine "a" 1 between ∧
        ServedAt id (new id 0) twoInLine "a" between := by
  have hfirst : StandsSince id (new id 0) twoInLine "a" 1 2 :=
    .of_suspended (not_waits_of_place? rfl) ⟨false, 0, rfl⟩
  have hsecond : StandsSince id (new id 0) twoInLine "b" 3 5 :=
    StandsSince.extend (.of_suspended (not_waits_of_place? rfl) ⟨false, 1, rfl⟩) ⟨false, 1, rfl⟩
  have hserved : ServedAt id (new id 0) twoInLine "b" 5 := ⟨by decide, ⟨false, 1, rfl⟩, 8, rfl⟩
  refine
    (served_in_order_of_suspension id 0 twoInLine).2 "a" "b" 1 3 5 (by decide) hfirst hsecond
      hserved ?_
  rintro between hlt hstood ⟨s, hs, hcancels⟩
  have hlow := hstood.lt
  interval_cases between <;>
    · obtain rfl := Option.some.inj hs
      simp [DeskStep.Cancels] at hcancels

end Desk
end HttpEngine
