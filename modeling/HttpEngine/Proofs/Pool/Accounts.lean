import HttpEngine.Pool

/-!
# Every object is accounted for

Where the users of a pool have objects made only when they find it empty, and
nobody waits, every object that has been made is either idle or held, once. The
objects are known by their numbers, which are given in the order of making.
-/

namespace HttpEngine
namespace Pool

variable {α : Type}

/-- Nobody waits, and the numbers of the idle objects and of those that are held
are the numbers of all that have been made, each once. -/
structure Accounts
    (number : α → Nat) (pool : Pool α) (made : Nat) (held : List Nat) : Prop where
  queue_eq : pool.queue = []
  perm : (pool.idle.map number ++ held).Perm (List.range made)

section Accounts

variable {number : α → Nat}
variable {pool : Pool α}
variable {made : Nat}
variable {held : List Nat}

/-- All objects of a pool that has just been filled are idle. -/
theorem accounts_fill
    {make : Nat → α} (hmake : ∀ i, number (make i) = i) (count : Nat) :
    Accounts number (Pool.empty.fill ((List.range count).map make)) count [] := by
  refine ⟨rfl, ?_⟩
  have hnumbers : ((List.range count).map make).map number = List.range count := by
    rw [List.map_map]
    exact List.map_id'' hmake _
  rw [List.append_nil, fill, Pool.empty, List.append_nil, List.map_reverse, hnumbers]
  exact List.reverse_perm _

theorem Accounts.of_perm
    {others : List Nat}
    (h : Accounts number pool made held) (hheld : held.Perm others) :
    Accounts number pool made others :=
  ⟨h.queue_eq, (List.Perm.append_left _ hheld.symm).trans h.perm⟩

/-- An object that is taken is held. -/
theorem Accounts.take
    {rest : Pool α} {value : α}
    (h : Accounts number pool made held) (htake : pool.take? = some (value, rest)) :
    Accounts number rest made (number value :: held) := by
  have hperm := h.perm
  unfold take? at htake
  split at htake
  · contradiction
  · next first others hidle =>
      simp only [Option.some.injEq, Prod.mk.injEq] at htake
      obtain ⟨rfl, rfl⟩ := htake
      rw [hidle, List.map_cons, List.cons_append] at hperm
      exact ⟨h.queue_eq, List.perm_middle.trans hperm⟩

/-- An object that is made for somebody is held. -/
theorem Accounts.make (h : Accounts number pool made held) :
    Accounts number pool (made + 1) (made :: held) := by
  refine ⟨h.queue_eq, ?_⟩
  rw [List.range_succ]
  exact List.perm_middle.trans ((h.perm.cons made).trans (List.perm_append_singleton _ _).symm)

/-- An object that is returned is idle. -/
theorem Accounts.release
    {value : α} (h : Accounts number pool made (number value :: held)) :
    Accounts number (pool.release value).1 made held := by
  unfold Pool.release
  rw [h.queue_eq]
  exact ⟨rfl, List.perm_middle.symm.trans h.perm⟩

theorem Accounts.nodup_held (h : Accounts number pool made held) : held.Nodup := by
  have hnodup := h.perm.nodup_iff.mpr List.nodup_range
  exact (List.nodup_append.mp hnodup).2.1

/-- What is idle and what is held are together what has been made. -/
theorem Accounts.idleCount_add (h : Accounts number pool made held) :
    pool.idleCount + held.length = made := by
  have hlength := h.perm.length_eq
  rwa [List.length_append, List.length_map, List.length_range] at hlength

theorem Accounts.idle_perm (h : Accounts number pool made []) :
    (pool.idle.map number).Perm (List.range made) := by
  have hperm := h.perm
  rwa [List.append_nil] at hperm

end Accounts

end Pool
end HttpEngine
