import Mathlib.Data.List.Nodup

/-! A bounded cache that is only asked with `ContainsOrAdd`.

Such a question does not count as a use of a key, so the key that has to go is
the one that was added first.
-/

set_option autoImplicit false

namespace Sffl.Golang

/-- The keys, last added first. -/
structure Lru (K : Type) (size : Nat) where
  keys : List K
  bounded : keys.length ≤ size
  distinct : keys.Nodup

namespace Lru
variable {K : Type} {size : Nat}

def empty : Lru K size where
  keys := []
  bounded := Nat.zero_le size
  distinct := List.nodup_nil

def add (cache : Lru K size) (key : K) (absent : key ∉ cache.keys) : Lru K size where
  keys := (key :: cache.keys).take size
  bounded := List.length_take_le size _
  distinct := (List.nodup_cons.mpr ⟨absent, cache.distinct⟩).sublist (List.take_sublist size _)

/-- The cache holds the last keys that were added. -/
def Remembers (cache : Lru K size) (added : List K) : Prop := cache.keys = added.take size

section Remembers
variable {cache : Lru K size} {key : K} {added : List K}

theorem remembers_empty : (empty : Lru K size).Remembers [] := List.take_nil.symm

theorem Remembers.add (remembers : cache.Remembers added) (absent : key ∉ cache.keys) :
    (cache.add key absent).Remembers (key :: added) := by
  have keys : (cache.add key absent).keys = (key :: added.take size).take size := by
    rw [← (remembers : cache.keys = added.take size)]
    rfl
  rw [Remembers, keys]
  cases size with
  | zero => rfl
  | succ size => rw [List.take_succ_cons, List.take_succ_cons, List.take_take, Nat.min_eq_left (Nat.le_succ size)]

theorem Remembers.mem (remembers : cache.Remembers added) (present : key ∈ cache.keys) : key ∈ added := by
  rw [remembers] at present
  exact List.mem_of_mem_take present

end Remembers

variable [DecidableEq K]

def containsOrAdd (cache : Lru K size) (key : K) : Bool × Lru K size :=
  if present : key ∈ cache.keys then (true, cache) else (false, cache.add key present)

theorem containsOrAdd_of_mem {cache : Lru K size} {key : K} (present : key ∈ cache.keys) :
    cache.containsOrAdd key = (true, cache) :=
  dif_pos present

theorem containsOrAdd_of_not_mem {cache : Lru K size} {key : K} (absent : key ∉ cache.keys) :
    cache.containsOrAdd key = (false, cache.add key absent) :=
  dif_neg absent

end Lru

end Sffl.Golang
