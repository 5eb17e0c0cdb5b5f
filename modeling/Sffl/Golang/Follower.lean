import Mathlib.Data.List.Induction
import Sffl.Golang.Map

/-! A map that follows a log.

An entry of the log writes one key, and a later entry for the key replaces an
earlier one. A follower subscribes to the log first and loads a snapshot of it
after that, so that it reads the entries in between for a second time. Once it has
read as far as the log goes, the map is what the whole log writes.
-/

set_option autoImplicit false

namespace Sffl.Golang.Map

variable {K V : Type} [DecidableEq K]

def replay (map : Map K V) (log : List (K × V)) : Map K V :=
  log.foldl (fun map entry => map.insert entry.1 entry.2) map

variable {map first second : Map K V} {log more window : List (K × V)} {key : K} {value : V}

theorem replay_append : map.replay (log ++ more) = (map.replay log).replay more := List.foldl_append

theorem replay_concat (entry : K × V) : map.replay (log ++ [entry]) = (map.replay log).insert entry.1 entry.2 := by
  rw [replay_append]
  rfl

theorem replay_of_not_mem (unwritten : key ∉ log.map Prod.fst) : map.replay log key = map key := by
  induction log generalizing map with
  | nil => rfl
  | cons entry log ih =>
    rw [List.map_cons, List.mem_cons, not_or] at unwritten
    calc (map.insert entry.1 entry.2).replay log key
      _ = map.insert entry.1 entry.2 key := ih unwritten.2
      _ = map key := insert_of_ne _ _ unwritten.1

theorem replay_of_mem (written : key ∈ log.map Prod.fst) : first.replay log key = second.replay log key := by
  induction log generalizing first second with
  | nil => cases written
  | cons entry log ih =>
    by_cases again : key ∈ log.map Prod.fst
    · exact ih again
    · have same : key = entry.1 := by
        rw [List.map_cons, List.mem_cons] at written
        exact written.resolve_right again
      calc (first.insert entry.1 entry.2).replay log key
        _ = first.insert entry.1 entry.2 key := replay_of_not_mem again
        _ = some entry.2 := by rw [same, insert_self]
        _ = second.insert entry.1 entry.2 key := by rw [same, insert_self]
        _ = (second.insert entry.1 entry.2).replay log key := (replay_of_not_mem again).symm

theorem mem_of_replay (found : map.replay log key = some value) : (key, value) ∈ log ∨ map key = some value := by
  induction log generalizing map with
  | nil => exact .inr found
  | cons entry log ih =>
    have rest : (map.insert entry.1 entry.2).replay log key = some value := found
    rcases ih rest with later | now
    · exact .inl (List.mem_cons_of_mem _ later)
    · by_cases same : key = entry.1
      · rw [same, insert_self] at now
        cases now
        rw [same]
        exact .inl List.mem_cons_self
      · rw [insert_of_ne _ _ same] at now
        exact .inr now

theorem replay_isSome : (empty.replay log key).isSome ↔ key ∈ log.map Prod.fst := by
  constructor
  · intro found
    by_contra unwritten
    rw [replay_of_not_mem unwritten] at found
    cases found
  · intro written
    induction log using List.reverseRecOn with
    | nil => cases written
    | append_singleton log entry ih =>
      rw [replay_concat]
      by_cases same : key = entry.1
      · rw [same, insert_self]
        rfl
      · rw [insert_of_ne _ _ same]
        rw [List.map_append, List.mem_append, List.map_singleton, List.mem_singleton] at written
        exact ih (written.resolve_right same)

theorem replay_eq_find : empty.replay log key = (log.reverse.find? fun entry => entry.1 = key).map Prod.snd := by
  induction log using List.reverseRecOn with
  | nil => rfl
  | append_singleton log entry ih =>
    rw [replay_concat, List.reverse_concat, List.find?_cons]
    by_cases same : entry.1 = key
    · rw [← same, insert_self, decide_eq_true rfl]
      rfl
    · rw [insert_of_ne _ _ (Ne.symm same), decide_eq_false same]
      exact ih

/-! ## Entries of a log -/

def WrittenBy (log : List (K × V)) (map : Map K V) : Prop := ∀ key value, map key = some value → (key, value) ∈ log

omit [DecidableEq K] in
theorem WrittenBy.append (written : WrittenBy log map) (more : List (K × V)) : WrittenBy (log ++ more) map :=
  fun key value found => List.mem_append_left _ (written key value found)

theorem WrittenBy.replay (written : WrittenBy log map) (among : window ⊆ log) : WrittenBy log (map.replay window) := by
  intro key value found
  rcases mem_of_replay found with replayed | before
  · exact among replayed
  · exact written key value before

theorem WrittenBy.insert (written : WrittenBy log map) {entry : K × V} (among : entry ∈ log) :
    WrittenBy log (map.insert entry.1 entry.2) :=
  written.replay (List.cons_subset.mpr ⟨among, List.nil_subset _⟩)

/-! ## Following -/

/-- A key's value in the snapshot may be as of any moment after the subscription. -/
def Loaded (log : List (K × V)) (start : Nat) (base : Map K V) (key : K) : Prop :=
  ∃ snapshot, start ≤ snapshot ∧ snapshot ≤ log.length ∧ base key = empty.replay (log.take snapshot) key

structure Follows (log : List (K × V)) (position : Nat) (map : Map K V) : Prop where
  inLog : position ≤ log.length
  loaded : ∃ base start, start ≤ position ∧ (∀ key, Loaded log start base key) ∧
    map = base.replay ((log.take position).drop start)

theorem Loaded.append {start : Nat} {base : Map K V} (loaded : Loaded log start base key) (more : List (K × V)) :
    Loaded (log ++ more) start base key := by
  obtain ⟨snapshot, after, inLog, value⟩ := loaded
  refine ⟨snapshot, after, ?_, ?_⟩
  · rw [List.length_append]
    exact Nat.le_add_right_of_le inLog
  · rw [List.take_append_of_le_length inLog]
    exact value

theorem Follows.of_loaded {start : Nat} {base : Map K V} (inLog : start ≤ log.length)
    (loaded : ∀ key, Loaded log start base key) : Follows log start base := by
  refine ⟨inLog, base, start, Nat.le_refl _, loaded, ?_⟩
  rw [List.drop_eq_nil_of_le (List.length_take_le _ _)]
  rfl

theorem Follows.append {position : Nat} (follows : Follows log position map) (more : List (K × V)) :
    Follows (log ++ more) position map := by
  obtain ⟨inLog, base, start, early, loaded, rfl⟩ := follows
  refine ⟨?_, base, start, early, fun key => (loaded key).append more, ?_⟩
  · rw [List.length_append]
    exact Nat.le_add_right_of_le inLog
  · rw [List.take_append_of_le_length inLog]

theorem Follows.read {position : Nat} {entry : K × V} (follows : Follows log position map)
    (next : log[position]? = some entry) : Follows log (position + 1) (map.insert entry.1 entry.2) := by
  obtain ⟨_, base, start, early, loaded, rfl⟩ := follows
  obtain ⟨inLog, found⟩ := List.getElem?_eq_some_iff.mp next
  refine ⟨inLog, base, start, Nat.le_succ_of_le early, loaded, ?_⟩
  have begun : start ≤ (log.take position).length := by
    rw [List.length_take_of_le (Nat.le_of_lt inLog)]
    exact early
  rw [← List.take_concat_get' _ _ inLog, found, List.drop_append_of_le_length begun, replay_concat]

theorem Follows.current (follows : Follows log log.length map) : map = empty.replay log := by
  -- what the follower reads twice does no harm
  obtain ⟨_, base, start, early, loaded, rfl⟩ := follows
  rw [List.take_length]
  funext key
  obtain ⟨snapshot, after, _, value⟩ := loaded key
  have whole : empty.replay log key = (empty.replay (log.take start)).replay (log.drop start) key := by
    rw [← replay_append, List.take_append_drop]
  by_cases written : key ∈ (log.drop start).map Prod.fst
  · rw [whole]
    exact replay_of_mem written
  · have before : log.take snapshot = log.take start ++ (log.drop start).take (snapshot - start) := by
      rw [← List.take_add, Nat.add_sub_cancel' after]
    have unwritten : key ∉ ((log.drop start).take (snapshot - start)).map Prod.fst :=
      fun among => written (List.map_subset _ (List.take_subset _ _) among)
    rw [whole, replay_of_not_mem written, replay_of_not_mem written, value, before, replay_append,
      replay_of_not_mem unwritten]

end Sffl.Golang.Map
