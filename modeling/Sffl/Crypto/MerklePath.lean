/-! Paths in a binary hash tree.

A path is the list of its levels from the root down: the side on which the path
goes on, and the node on the other side. The root of a path is computed from a
leaf upwards. If the nodes are hashes without collisions and no leaf is such a
hash, then a root and a direction determine the leaf, and the depth.
-/

set_option autoImplicit false

namespace Sffl.Crypto

variable {N : Type}

def children (level : Bool × N) (below : N) : N × N :=
  if level.1 then (level.2, below) else (below, level.2)

def rootOf (node : N → N → N) (leaf : N) : List (Bool × N) → N
  | [] => leaf
  | level :: levels =>
    let pair := children level (rootOf node leaf levels)
    node pair.1 pair.2

def hashedPairs (node : N → N → N) (leaf : N) : List (Bool × N) → List (N × N)
  | [] => []
  | level :: levels => children level (rootOf node leaf levels) :: hashedPairs node leaf levels

theorem children_inj {bit : Bool} {side side' below below' : N}
    (same : children (bit, side) below = children (bit, side') below') : below = below' := by
  cases bit with
  | false => exact congrArg Prod.fst same
  | true => exact congrArg Prod.snd same

section Unique
variable {node : N → N → N} (used : N × N → Prop)
  (injective : ∀ first second, used first → used second → node first.1 first.2 = node second.1 second.2 → first = second)
include injective

/-- Two paths that take the same turns as far as they both go, from one root,
end in the same leaf, unless one of them ends in a hash of two nodes. -/
theorem leaf_unique {leaf leaf' : N} {levels levels' : List (Bool × N)}
    (proper : ∀ pair, used pair → leaf ≠ node pair.1 pair.2) (proper' : ∀ pair, used pair → leaf' ≠ node pair.1 pair.2)
    (turns : ∀ (k : Nat) (level level' : Bool × N), levels[k]? = some level → levels'[k]? = some level' → level.1 = level'.1)
    (hashed : ∀ pair ∈ hashedPairs node leaf levels, used pair)
    (hashed' : ∀ pair ∈ hashedPairs node leaf' levels', used pair)
    (root : rootOf node leaf levels = rootOf node leaf' levels') : leaf = leaf' := by
  induction levels generalizing levels' with
  | nil =>
    cases levels' with
    | nil => exact root
    -- the first path has ended where the second one still hashes two nodes
    | cons level' levels' => exact absurd root (proper _ (hashed' _ List.mem_cons_self))
  | cons level levels ih =>
    cases levels' with
    | nil => exact absurd root.symm (proper' _ (hashed _ List.mem_cons_self))
    | cons level' levels' =>
      obtain ⟨bit, side⟩ := level
      obtain ⟨bit', side'⟩ := level'
      have turn : bit = bit' := turns 0 _ _ rfl rfl
      subst turn
      -- equal hashes have equal children, and the turn says which child goes on
      have pairs := injective _ _ (hashed _ List.mem_cons_self) (hashed' _ List.mem_cons_self) root
      exact ih (fun k first second here there => turns (k + 1) first second here there)
        (fun pair member => hashed pair (List.mem_cons_of_mem _ member))
        (fun pair member => hashed' pair (List.mem_cons_of_mem _ member)) (children_inj pairs)

end Unique

end Sffl.Crypto
