import Mathlib.Data.Int.ConditionallyCompleteOrder
import Mathlib.Data.List.Chain
import Mathlib.Data.Set.Lattice
import Mathlib.Order.CompletePartialOrder
import Mathlib.Order.ConditionallyCompleteLattice.Basic
import Mathlib.Order.Interval.Set.Disjoint

/-! Intervals that tile an interval.

The tiles are closed, none is empty, and each one starts right after the one
before it, so that they cover the whole interval without touching twice.
-/

set_option autoImplicit false

namespace Sffl.Algebra

/-- The list covers the integers from `first` to `last`, which may be none. -/
inductive Tiles (last : Int) : Int → List (Int × Int) → Prop where
  | done {first : Int} : last < first → Tiles last first []
  | tile {first stop : Int} {tiles : List (Int × Int)} : first ≤ stop → stop ≤ last → Tiles last (stop + 1) tiles →
      Tiles last first ((first, stop) :: tiles)

namespace Tiles
variable {first last : Int} {tiles : List (Int × Int)}

theorem of_lt (tiled : Tiles last first tiles) (beyond : last < first) {other : Int} (beyond' : last < other) :
    Tiles last other tiles := by
  cases tiled with
  | done => exact .done beyond'
  | tile proper inside => omega

theorem nonempty (tiled : Tiles last first tiles) : ∀ tile ∈ tiles, tile.1 ≤ tile.2 := by
  induction tiled with
  | done => simp
  | tile proper _ _ ih => exact List.forall_mem_cons.mpr ⟨proper, ih⟩

theorem first_le (tiled : Tiles last first tiles) : ∀ tile ∈ tiles, first ≤ tile.1 := by
  induction tiled with
  | done => simp
  | tile proper _ _ ih =>
    refine List.forall_mem_cons.mpr ⟨le_rfl, ?_⟩
    intro tile member
    have after := ih tile member
    omega

theorem consecutive (tiled : Tiles last first tiles) : tiles.IsChain fun tile next => next.1 = tile.2 + 1 := by
  induction tiled with
  | done => exact .nil
  | tile _ _ rest ih =>
    cases rest with
    | done => exact .singleton _
    | tile _ _ _ => exact .cons_cons rfl ih

theorem disjoint (tiled : Tiles last first tiles) :
    tiles.Pairwise fun tile other => Disjoint (Set.Icc tile.1 tile.2) (Set.Icc other.1 other.2) := by
  induction tiled with
  | done => exact .nil
  | tile _ _ rest ih =>
    refine .cons ?_ ih
    intro other member
    have after := rest.first_le other member
    apply Set.disjoint_left.mpr
    rintro point ⟨_, inside⟩ ⟨outside, _⟩
    omega

theorem union (tiled : Tiles last first tiles) : ⋃ tile ∈ tiles, Set.Icc tile.1 tile.2 = Set.Icc first last := by
  ext point
  simp only [Set.mem_iUnion, Set.mem_Icc, exists_prop]
  induction tiled with
  | done empty =>
    simp only [List.not_mem_nil, false_and, exists_false, false_iff]
    omega
  | @tile first stop tiles proper inside _ ih =>
    simp only [List.mem_cons, or_and_right, exists_or, exists_eq_left, ih]
    omega

end Tiles

end Sffl.Algebra
