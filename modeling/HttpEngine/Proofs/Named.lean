import Mathlib.Algebra.Order.Group.Multiset
import Mathlib.Data.List.Nodup

/-!
# Things under names

The users of a pool and the connections on a switchboard are kept in lists, each
under a name. Where no name is used twice, the entry of a name is the only one,
and taking it off leaves all others as they are.
-/

namespace HttpEngine
namespace Named

variable {β γ : Type}
variable {entries : List (String × β)}
variable {name other : String}
variable {thing : β}

theorem mem_of_lookup (h : entries.lookup name = some thing) : (name, thing) ∈ entries := by
  obtain ⟨before, after, rfl, -⟩ := List.lookup_eq_some_iff.mp h
  simp

theorem lookup_of_mem
    (hnames : (entries.map Prod.fst).Nodup) (hmem : (name, thing) ∈ entries) :
    entries.lookup name = some thing := by
  cases hlookup : entries.lookup name with
  | none =>
      have hne := List.lookup_eq_none_iff.mp hlookup _ hmem
      simp at hne
  | some found =>
      have hfound := mem_of_lookup hlookup
      have heq := List.inj_on_of_nodup_map hnames hfound hmem rfl
      exact congrArg (fun entry => some entry.2) heq

/-- A name that nobody has can be taken off. -/
theorem filter_eq_self_of_lookup_eq_none (h : entries.lookup name = none) :
    (entries.filter fun entry => entry.1 != name) = entries := by
  rw [List.filter_eq_self]
  intro entry hentry
  simpa [bne_comm] using List.lookup_eq_none_iff.mp h entry hentry

/-- The entry of a name and all others. -/
theorem perm_of_lookup
    (hnames : (entries.map Prod.fst).Nodup) (h : entries.lookup name = some thing) :
    entries.Perm ((name, thing) :: entries.filter fun entry => entry.1 != name) := by
  obtain ⟨before, after, rfl, hbefore⟩ := List.lookup_eq_some_iff.mp h
  have hafter : ∀ entry ∈ after, entry.1 ≠ name := by
    intro entry hentry heq
    rw [List.map_append, List.nodup_append] at hnames
    have hnot := (List.nodup_cons.mp hnames.2.1).1
    exact hnot (List.mem_map.mpr ⟨entry, hentry, heq⟩)
  have hfilter :
      ((before ++ (name, thing) :: after).filter fun entry => entry.1 != name) =
        before ++ after := by
    rw [List.filter_append, List.filter_cons_of_neg (by simp)]
    congr 1
    · rw [List.filter_eq_self]
      intro entry hentry
      simpa [bne_comm] using hbefore entry hentry
    · rw [List.filter_eq_self]
      intro entry hentry
      simpa using hafter entry hentry
  rw [hfilter]
  exact List.perm_middle

theorem nodup_filter (hnames : (entries.map Prod.fst).Nodup) (name : String) :
    ((entries.filter fun entry => entry.1 != name).map Prod.fst).Nodup :=
  hnames.sublist (List.filter_sublist.map _)

/-- A name that has been taken off can be used again. -/
theorem nodup_cons_filter
    (hnames : (entries.map Prod.fst).Nodup) (name : String) (thing : β) :
    (((name, thing) :: entries.filter fun entry => entry.1 != name).map Prod.fst).Nodup := by
  rw [List.map_cons, List.nodup_cons]
  refine ⟨?_, nodup_filter hnames name⟩
  simp

theorem lookup_filter_self (entries : List (String × β)) (name : String) :
    (entries.filter fun entry => entry.1 != name).lookup name = none := by
  rw [List.lookup_eq_none_iff]
  intro entry hentry
  rw [List.mem_filter] at hentry
  simpa [bne_comm] using hentry.2

theorem lookup_filter_of_ne (entries : List (String × β)) (hne : other ≠ name) :
    (entries.filter fun entry => entry.1 != name).lookup other = entries.lookup other := by
  induction entries with
  | nil => rfl
  | cons entry entries ih =>
      obtain ⟨key, thing⟩ := entry
      by_cases hkey : key = name
      · subst hkey
        rw [List.filter_cons_of_neg (by simp), ih, List.lookup_cons,
          beq_eq_false_iff_ne.mpr hne]
      · rw [List.filter_cons_of_pos (by simpa using hkey), List.lookup_cons, List.lookup_cons, ih]

/-- What the entries hold of something that each may hold. -/
def gather (f : β → Option γ) (entries : List (String × β)) : List γ :=
  (entries.map Prod.snd).filterMap f

theorem gather_cons (f : β → Option γ) (name : String) (thing : β) (entries : List (String × β)) :
    (gather f ((name, thing) :: entries) : Multiset γ) = (f thing).toList + gather f entries := by
  rw [gather, List.map_cons]
  cases hthing : f thing with
  | none =>
      rw [List.filterMap_cons_none hthing]
      exact (zero_add _).symm
  | some value =>
      rw [List.filterMap_cons_some hthing]
      rfl

/-- What the entry of a name holds, and what all others hold. -/
theorem gather_eq (hnames : (entries.map Prod.fst).Nodup) (f : β → Option γ) (name : String) :
    (gather f entries : Multiset γ) =
      ((entries.lookup name).bind f).toList +
        gather f (entries.filter fun entry => entry.1 != name) := by
  cases hlookup : entries.lookup name with
  | none =>
      rw [filter_eq_self_of_lookup_eq_none hlookup]
      exact (zero_add _).symm
  | some thing =>
      have hperm := ((perm_of_lookup hnames hlookup).map Prod.snd).filterMap f
      rw [gather, Multiset.coe_eq_coe.mpr hperm, ← gather, gather_cons, Option.bind_some]

end Named
end HttpEngine
