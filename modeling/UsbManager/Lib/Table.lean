import Mathlib

/-!
# The entries of a map

A map lists its entries in the order of their keys, each key once.  Picking from
the list the entries with one key gives what a lookup of this key gives.
-/

namespace Table

/-- Every entry is there to be read. -/
theorem mapM_eq_map {α β : Type} {list : List α} {f : α → Option β} {g : α → β}
    (found : ∀ a ∈ list, f a = some (g a)) : list.mapM f = some (list.map g) := by
  induction list with
  | nil => rfl
  | cons a list ih =>
    rw [List.mapM_cons, found a List.mem_cons_self,
      ih fun b inside => found b (List.mem_cons_of_mem a inside)]
    rfl

section

variable {α β γ : Type} [DecidableEq α] {entries : List (α × β)} {k : α}

/-- Of entries with distinct keys one is found by its key. -/
theorem filter_of_mem (distinct : entries.Pairwise fun e f => e.1 ≠ f.1) {v : β}
    (there : (k, v) ∈ entries) : entries.filter (fun e => e.1 = k) = [(k, v)] := by
  induction entries with
  | nil => cases there
  | cons e entries ih =>
    obtain ⟨others, distinct⟩ := List.pairwise_cons.mp distinct
    rcases List.mem_cons.mp there with rfl | later
    · rw [List.filter_cons_of_pos (by simp), List.filter_eq_nil_iff.mpr]
      intro f inside
      have other := others f inside
      simpa using fun same => other same.symm
    · rw [List.filter_cons_of_neg (by simpa using others _ later)]
      exact ih distinct later

/-- No entry is found by a key none of them has. -/
theorem filter_of_absent (absent : ∀ v, (k, v) ∉ entries) :
    entries.filter (fun e => e.1 = k) = [] := by
  rw [List.filter_eq_nil_iff]
  intro e inside
  have other : e.1 ≠ k := by
    intro same
    subst same
    exact absent e.2 inside
  simpa using other

variable [Ord α] [Std.TransOrd α] [Std.LawfulEqOrd α]

theorem getElem?_insert (t : Std.TreeMap α β) (k k' : α) (v : β) :
    (t.insert k v)[k']? = if k' = k then some v else t[k']? := by
  rw [Std.TreeMap.getElem?_insert]
  by_cases same : k' = k
  · subst same
    rw [if_pos Std.ReflOrd.compare_self, if_pos rfl]
  · rw [if_neg same, if_neg fun eq => same (Std.LawfulEqCmp.compare_eq_iff_eq.mp eq).symm]

theorem getElem?_erase (t : Std.TreeMap α β) (k k' : α) :
    (t.erase k)[k']? = if k' = k then none else t[k']? := by
  rw [Std.TreeMap.getElem?_erase]
  by_cases same : k' = k
  · subst same
    rw [if_pos Std.ReflOrd.compare_self, if_pos rfl]
  · rw [if_neg same, if_neg fun eq => same (Std.LawfulEqCmp.compare_eq_iff_eq.mp eq).symm]

/-- An insertion that does not replace keeps the entry there was. -/
theorem getElem?_insertIfNew (t : Std.TreeMap α β) (k k' : α) (v : β) :
    (t.insertIfNew k v)[k']? = if k' = k then some (t[k]?.getD v) else t[k']? := by
  rw [Std.TreeMap.getElem?_insertIfNew]
  by_cases same : k' = k
  · subst same
    rw [if_pos rfl]
    cases found : t[k']? with
    | none =>
      have absent : k' ∉ t := by
        rw [Std.TreeMap.mem_iff_isSome_getElem?, found]
        simp
      rw [if_pos ⟨Std.ReflOrd.compare_self, absent⟩]
      rfl
    | some v' =>
      have present : k' ∈ t := by
        rw [Std.TreeMap.mem_iff_isSome_getElem?, found]
        rfl
      rw [if_neg fun both => both.2 present]
      rfl
  · rw [if_neg same, if_neg]
    exact fun both => same (Std.LawfulEqCmp.compare_eq_iff_eq.mp both.1).symm

/-- The entries with one key are what a lookup of the key gives. -/
theorem filter_toList (t : Std.TreeMap α β) (k : α) :
    t.toList.filter (fun e => e.1 = k) = t[k]?.toList.map fun v => (k, v) := by
  cases found : t[k]? with
  | none =>
    refine filter_of_absent fun v there => ?_
    rw [Std.TreeMap.mem_toList_iff_getElem?_eq_some, found] at there
    cases there
  | some v =>
    refine filter_of_mem ?_ (Std.TreeMap.mem_toList_iff_getElem?_eq_some.mpr found)
    refine Std.TreeMap.distinct_keys_toList.imp fun distinct same => ?_
    rw [same] at distinct
    exact distinct (Std.LawfulEqCmp.compare_eq_iff_eq.mpr rfl)

/-- The same of a list that is computed from the entries, where the key can be told
from what is computed. -/
theorem filter_map_toList (t : Std.TreeMap α β) (f : α × β → γ) (p : γ → Bool) (k : α)
    (told : ∀ e ∈ t.toList, p (f e) = decide (e.1 = k)) :
    (t.toList.map f).filter p = t[k]?.toList.map fun v => f (k, v) := by
  have picked : t.toList.filter (p ∘ f) = t.toList.filter fun e => e.1 = k :=
    List.filter_congr told
  rw [List.filter_map, picked, filter_toList, List.map_map]
  rfl

omit [DecidableEq α] in
/-- Two tables where one looks up what is computed from what the other does list the same
in the same order. -/
theorem toList_of_lookup {t : Std.TreeMap α β} {t' : Std.TreeMap α γ} {f : β → γ}
    (lookup : ∀ k : α, t'[k]? = t[k]?.map f) :
    t'.toList = t.toList.map fun e => (e.1, f e.2) := by
  have same : t'.Equiv (t.map fun _ v => f v) := by
    refine .of_forall_constGet?_eq fun k => ?_
    rw [lookup, Std.TreeMap.getElem?_map]
  rw [same.toList_eq, Std.TreeMap.toList_map]

end

end Table
