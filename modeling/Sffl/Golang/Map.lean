import Mathlib.Data.Fintype.Basic
import Mathlib.Data.List.Nodup
import Mathlib.Data.List.Perm.Basic
import Mathlib.Logic.Function.Basic

/-! Go maps.

A map is a partial function with finitely many keys. A `range` loop over it
visits every entry once, in an order that the language does not fix: the order
is an argument of the loop, and any list of the map's keys without repetition may
be that order.
-/

set_option autoImplicit false

namespace Sffl.Golang

variable {K V : Type}

abbrev Map (K V : Type) := K → Option V

namespace Map

def empty : Map K V := fun _ => none

def insert [DecidableEq K] (map : Map K V) (key : K) (value : V) : Map K V :=
  Function.update map key (some value)

def delete [DecidableEq K] (map : Map K V) (key : K) : Map K V := Function.update map key none

@[simp] theorem insert_self [DecidableEq K] (map : Map K V) (key : K) (value : V) :
    map.insert key value key = some value :=
  Function.update_self ..

theorem insert_of_ne [DecidableEq K] (map : Map K V) {key other : K} (value : V) (different : other ≠ key) :
    map.insert key value other = map other :=
  Function.update_of_ne different ..

theorem insert_empty_eq_some [DecidableEq K] {key other : K} {value found : V} :
    (Map.empty.insert key value : Map K V) other = some found ↔ other = key ∧ found = value := by
  by_cases same : other = key
  · subst same
    simp [eq_comm]
  · simp [insert_of_ne _ _ same, same, Map.empty]

@[simp] theorem delete_self [DecidableEq K] (map : Map K V) (key : K) : map.delete key key = none :=
  Function.update_self ..

theorem delete_of_ne [DecidableEq K] (map : Map K V) {key other : K} (different : other ≠ key) :
    map.delete key other = map other :=
  Function.update_of_ne different ..

/-- The entries in the order of a `range` loop. -/
def range (map : Map K V) (order : List K) : List (K × V) :=
  order.filterMap fun key => (map key).map (Prod.mk key)

structure Visits (map : Map K V) (order : List K) : Prop where
  once : order.Nodup
  all : ∀ key, key ∈ order ↔ (map key).isSome

variable {map : Map K V} {order : List K}

theorem mem_range {entry : K × V} : entry ∈ range map order ↔ entry.1 ∈ order ∧ map entry.1 = some entry.2 := by
  simp only [range, List.mem_filterMap, Option.map_eq_some_iff]
  constructor
  · rintro ⟨key, member, value, found, rfl⟩
    exact ⟨member, found⟩
  · rintro ⟨member, found⟩
    exact ⟨entry.1, member, entry.2, found, rfl⟩

theorem Visits.mem_range (visits : Visits map order) {entry : K × V} :
    entry ∈ range map order ↔ map entry.1 = some entry.2 := by
  rw [Map.mem_range, visits.all, and_iff_right_iff_imp]
  intro found
  simp [found]

theorem keys_of_range (present : ∀ key ∈ order, (map key).isSome) : (range map order).map Prod.fst = order := by
  induction order with
  | nil => rfl
  | cons key order ih =>
    simp only [List.mem_cons, forall_eq_or_imp] at present
    obtain ⟨value, found⟩ := Option.isSome_iff_exists.mp present.1
    have rest := ih present.2
    simp only [range] at rest
    simp [range, found, rest]

theorem Visits.of_fintype [Fintype K] (map : Map K V) : ∃ order, Visits map order := by
  refine ⟨Finset.univ.toList.filter fun key => (map key).isSome, (Finset.nodup_toList _).filter _, fun key => ?_⟩
  simp [List.mem_filter]

theorem Visits.keys (visits : Visits map order) : (range map order).map Prod.fst = order :=
  keys_of_range fun key member => (visits.all key).mp member

theorem Visits.range_nodup (visits : Visits map order) : (range map order).Nodup := by
  apply List.Nodup.of_map Prod.fst
  rw [visits.keys]
  exact visits.once

theorem Visits.perm {other : List K} (visits : Visits map order) (otherVisits : Visits map other) :
    (range map order).Perm (range map other) := by
  rw [List.perm_ext_iff_of_nodup visits.range_nodup otherVisits.range_nodup]
  intro entry
  rw [visits.mem_range, otherVisits.mem_range]

theorem exists_perm_filterMap {A B : Type} {select : A → Option B} {items : List A} {selected : List B}
    (same : selected.Perm (items.filterMap select)) :
    ∃ rearranged : List A, rearranged.Perm items ∧ rearranged.filterMap select = selected := by
  induction selected generalizing items with
  | nil => exact ⟨items, List.Perm.refl items, same.nil_eq.symm⟩
  | cons first selected ih =>
    obtain ⟨item, member, chosen⟩ := List.mem_filterMap.mp (same.mem_iff.mp List.mem_cons_self)
    obtain ⟨before, after, rfl⟩ := List.append_of_mem member
    have middle : (before ++ item :: after).Perm (item :: (before ++ after)) := List.perm_middle
    have rest := same.trans (middle.filterMap select)
    rw [List.filterMap_cons_some chosen, List.perm_cons] at rest
    obtain ⟨rearranged, perm, eq⟩ := ih rest
    exact ⟨item :: rearranged, (perm.cons item).trans middle.symm, by rw [List.filterMap_cons_some chosen, eq]⟩

/-- Every arrangement of the entries is what some order visits. -/
theorem Visits.rearrange (visits : Visits map order) {entries : List (K × V)}
    (same : entries.Perm (range map order)) :
    Visits map (entries.map Prod.fst) ∧ range map (entries.map Prod.fst) = entries := by
  have keys := same.map Prod.fst
  rw [visits.keys] at keys
  refine ⟨⟨keys.nodup_iff.mpr visits.once, fun key => keys.mem_iff.trans (visits.all key)⟩, ?_⟩
  have found : ∀ entry ∈ entries, map entry.1 = some entry.2 := fun entry member =>
    visits.mem_range.mp (same.mem_iff.mp member)
  clear keys same
  induction entries with
  | nil => rfl
  | cons entry entries ih =>
    simp only [List.mem_cons, forall_eq_or_imp] at found
    have rest := ih found.2
    simp only [range] at rest
    simp [range, found.1, rest]

/-! ## The entries of a map as a list -/

section Lists
variable {entries : List (K × V)}

structure Lists (map : Map K V) (entries : List (K × V)) : Prop where
  once : (entries.map Prod.fst).Nodup
  all : ∀ entry, entry ∈ entries ↔ map entry.1 = some entry.2

theorem Lists.perm {other : List (K × V)} (lists : Lists map entries) (same : entries.Perm other) :
    Lists map other :=
  ⟨(same.map Prod.fst).nodup_iff.mp lists.once, fun entry => same.mem_iff.symm.trans (lists.all entry)⟩

theorem Lists.empty : Lists (Map.empty : Map K V) [] :=
  ⟨List.nodup_nil, fun _ => iff_of_false List.not_mem_nil nofun⟩

variable [DecidableEq K]

theorem Lists.insert (lists : Lists map entries) {key : K} (absent : map key = none) (value : V) :
    Lists (map.insert key value) ((key, value) :: entries) := by
  have unlisted : key ∉ entries.map Prod.fst := by
    intro member
    obtain ⟨entry, listed, rfl⟩ := List.mem_map.mp member
    rw [(lists.all entry).mp listed] at absent
    cases absent
  refine ⟨List.nodup_cons.mpr ⟨unlisted, lists.once⟩, fun entry => ?_⟩
  obtain ⟨other, found⟩ := entry
  by_cases same : other = key
  · subst same
    have only : (other, found) ∉ entries := fun listed => unlisted (List.mem_map.mpr ⟨_, listed, rfl⟩)
    simp [only, eq_comm]
  · simp [same, lists.all, insert_of_ne _ _ same]

theorem Lists.delete {key : K} {value : V} (lists : Lists map ((key, value) :: entries)) :
    Lists (map.delete key) entries := by
  obtain ⟨unlisted, once⟩ := List.nodup_cons.mp lists.once
  refine ⟨once, fun entry => ?_⟩
  obtain ⟨other, found⟩ := entry
  by_cases same : other = key
  · subst same
    have only : (other, found) ∉ entries := fun listed => unlisted (List.mem_map.mpr ⟨_, listed, rfl⟩)
    simp [only]
  · have here := lists.all (other, found)
    simpa [same, delete_of_ne _ same] using here

theorem Lists.filter_eq (lists : Lists map entries) (key : K) :
    entries.filter (fun entry => entry.1 = key) = ((map key).map (Prod.mk key)).toList := by
  have distinct : (entries.filter fun entry => entry.1 = key).Nodup := (lists.once.of_map Prod.fst).filter _
  have expected : ((map key).map (Prod.mk key)).toList.Nodup := by
    cases map key <;> simp
  have same : (entries.filter fun entry => entry.1 = key).Perm ((map key).map (Prod.mk key)).toList := by
    refine (List.perm_ext_iff_of_nodup distinct expected).mpr fun entry => ?_
    rw [List.mem_filter, lists.all, Option.mem_toList, Option.map_eq_some_iff, decide_eq_true_iff]
    constructor
    · rintro ⟨found, rfl⟩
      exact ⟨entry.2, found, rfl⟩
    · rintro ⟨value, found, rfl⟩
      exact ⟨found, rfl⟩
  cases found : map key with
  | none =>
    rw [found] at same
    exact same.eq_nil
  | some value =>
    rw [found] at same
    exact same.eq_singleton

end Lists

end Map

end Sffl.Golang
