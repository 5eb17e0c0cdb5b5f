import Sffl.Algebra.Tiling
import Sffl.Safeclient.Logs

/-! The queries that follow a resubscription, in the words of the source.

The block numbers are `uint64`, and the start of the range is computed before it
is guarded against wrap-around. The loop is bounded by fuel here: that it ends is
a theorem.
-/

set_option autoImplicit false

namespace Sffl.Safeclient

open Sffl.Evm Sffl.Algebra

structure CatchUp where
  queries : List FilterQuery
  missedLogs : Option (List Log)
  deriving DecidableEq

namespace LogFilteringParams
variable (params : LogFilteringParams)

/-- The loop, with the answers of `FilterLogs` to the queries made so far. Nothing means that the fuel is used up. -/
def filterLoop (filterLogs : List FilterQuery → Option (List Log)) (currentBlock : Uint 64) :
    (fuel : Nat) → (fromBlock : Uint 64) → (queries : List FilterQuery) → (missedLogs : List Log) → Option CatchUp
  | 0, _, _, _ => none
  | fuel + 1, fromBlock, queries, missedLogs =>
    if fromBlock ≤ currentBlock then
      let queries := queries ++ [params.query fromBlock currentBlock]
      match filterLogs queries with
      | none => some ⟨queries, none⟩
      | some logs =>
        filterLoop filterLogs currentBlock fuel (fromBlock + params.blockChunkSize) queries (missedLogs ++ logs)
    else some ⟨queries, some missedLogs⟩

def resubFilterLogs (filterLogs : List FilterQuery → Option (List Log)) (lastBlock : Uint 64) (fuel : Nat) :
    (blockNumber : Option (Uint 64)) → Option CatchUp
  | none => some ⟨[], none⟩
  | some currentBlock =>
    if lastBlock ≥ currentBlock then some ⟨[], some []⟩
    else params.filterLoop filterLogs currentBlock fuel (params.firstBlock lastBlock currentBlock) [] []

end LogFilteringParams

/-! ## The same numbers without a bound -/

section Words
variable (params : LogFilteringParams) {lastBlock currentBlock : Uint 64}

theorem firstBlock_toNat (small : currentBlock.toNat < 2 ^ 63) :
    (params.firstBlock lastBlock currentBlock).toNat =
      max lastBlock.toNat (currentBlock.toNat - params.blockMaxRange.toNat + 1) := by
  -- the wrapped start is never used: the guard replaces it exactly if it has wrapped
  unfold LogFilteringParams.firstBlock
  simp only [maxBlock_toNat, gt_iff_lt, BitVec.lt_def]
  congr 1
  split
  · next wrapped =>
    rw [Nat.sub_eq_zero_of_le (Nat.le_of_lt wrapped)]
    rfl
  · next inside =>
    have difference : (currentBlock - params.blockMaxRange).toNat = currentBlock.toNat - params.blockMaxRange.toNat :=
      BitVec.toNat_sub_of_le (Nat.not_lt.mp inside)
    rw [BitVec.toNat_add, difference]
    apply Nat.mod_eq_of_lt
    have one : (1 : Uint 64).toNat = 1 := rfl
    omega

section Inside
variable {params} {fromBlock : Uint 64} (inside : fromBlock ≤ currentBlock)
  (fits : currentBlock.toNat + params.blockChunkSize.toNat < 2 ^ 64)
include inside fits

theorem nextBlock_toNat :
    (fromBlock + params.blockChunkSize).toNat = fromBlock.toNat + params.blockChunkSize.toNat := by
  have below := BitVec.le_def.mp inside
  rw [BitVec.toNat_add]
  apply Nat.mod_eq_of_lt
  omega

theorem toBlock_toNat (positive : 1 ≤ params.blockChunkSize.toNat) :
    (params.toBlock fromBlock currentBlock).toNat =
      min (fromBlock.toNat + params.blockChunkSize.toNat - 1) currentBlock.toNat := by
  have sum := nextBlock_toNat inside fits
  have one : (1 : Uint 64).toNat = 1 := rfl
  rw [LogFilteringParams.toBlock, minBlock_toNat, BitVec.toNat_sub_of_le, sum, one]
  rw [BitVec.le_def, sum, one]
  omega

end Inside

variable {params} in
theorem query_eq {fromBlock : Uint 64} (small : currentBlock.toNat < 2 ^ 63) (inside : fromBlock ≤ currentBlock) :
    params.query fromBlock currentBlock = ⟨fromBlock.toNat, (params.toBlock fromBlock currentBlock).toNat⟩ := by
  have below := BitVec.le_def.mp inside
  have stop : (params.toBlock fromBlock currentBlock).toNat =
      min (fromBlock + params.blockChunkSize - 1).toNat currentBlock.toNat := minBlock_toNat _ _
  -- the numbers are below `2 ^ 63`, so the conversion to `int64` keeps them
  have signed : fromBlock.toInt = fromBlock.toNat := BitVec.toInt_eq_toNat_of_lt (by omega)
  have signedStop : (params.toBlock fromBlock currentBlock).toInt = (params.toBlock fromBlock currentBlock).toNat :=
    BitVec.toInt_eq_toNat_of_lt (by omega)
  rw [LogFilteringParams.query, signed, signedStop]

end Words

/-! ## The ranges -/

/-- The ranges are those of consecutive, disjoint queries of a bounded length that together ask for the blocks from
`first` to `last`. -/
structure AsksExactly (blockChunkSize first last : Int) (ranges : List (Int × Int)) : Prop where
  nonempty : ∀ range ∈ ranges, range.1 ≤ range.2
  consecutive : ranges.IsChain fun range next => next.1 = range.2 + 1
  disjoint : ranges.Pairwise fun range other => Disjoint (Set.Icc range.1 range.2) (Set.Icc other.1 other.2)
  short : ∀ range ∈ ranges, range.2 - range.1 + 1 ≤ blockChunkSize
  union : ⋃ range ∈ ranges, Set.Icc range.1 range.2 = Set.Icc first last

section Loop
variable {params : LogFilteringParams} {currentBlock : Uint 64} (small : currentBlock.toNat < 2 ^ 63)
  (positive : 1 ≤ params.blockChunkSize.toNat) (fits : currentBlock.toNat + params.blockChunkSize.toNat < 2 ^ 64)

structure Asked (params : LogFilteringParams) (currentBlock fromBlock : Uint 64) (query : FilterQuery) : Prop where
  start : query.fromBlock = fromBlock.toNat
  proper : query.fromBlock ≤ query.toBlock
  inside : query.toBlock ≤ currentBlock.toNat
  short : query.toBlock - query.fromBlock + 1 ≤ params.blockChunkSize.toNat
  advances : fromBlock.toNat < (fromBlock + params.blockChunkSize).toNat
  /-- Either the next iteration starts right after this query, or there is none. -/
  next : ((fromBlock + params.blockChunkSize).toNat : Int) = query.toBlock + 1 ∨
    query.toBlock = currentBlock.toNat ∧ currentBlock.toNat < (fromBlock + params.blockChunkSize).toNat

include small positive fits in
theorem asked_of_iteration {fromBlock : Uint 64} (inside : fromBlock ≤ currentBlock) :
    Asked params currentBlock fromBlock (params.query fromBlock currentBlock) := by
  have below := BitVec.le_def.mp inside
  have stop := toBlock_toNat inside fits positive
  have sum := nextBlock_toNat inside fits
  rw [query_eq small inside]
  constructor <;> simp only [sum] <;> omega

theorem Asked.tiles {fromBlock : Uint 64} {query : FilterQuery} (iteration : Asked params currentBlock fromBlock query)
    {ranges : List (Int × Int)}
    (tiled : Tiles currentBlock.toNat (fromBlock + params.blockChunkSize).toNat ranges) :
    Tiles currentBlock.toNat fromBlock.toNat (query.range :: ranges) := by
  have covered : Tiles currentBlock.toNat (query.toBlock + 1) ranges := by
    rcases iteration.next with following | ⟨last, beyond⟩
    · rw [← following]
      exact tiled
    · exact tiled.of_lt (by omega) (by omega)
  rw [FilterQuery.range, ← iteration.start]
  exact .tile iteration.proper iteration.inside covered

include small positive fits in
theorem filterLoop_ends (filterLogs : List FilterQuery → Option (List Log)) {fuel : Nat} {fromBlock : Uint 64}
    (queries : List FilterQuery) (missedLogs : List Log) (enough : currentBlock.toNat + 1 - fromBlock.toNat < fuel) :
    ∃ outcome, (∀ more, params.filterLoop filterLogs currentBlock (fuel + more) fromBlock queries missedLogs =
        some outcome) ∧
      ((∀ asked, (filterLogs asked).isSome) → outcome.missedLogs.isSome) ∧
      (outcome.missedLogs.isSome → ∃ asked, outcome.queries = queries ++ asked ∧
        Tiles currentBlock.toNat fromBlock.toNat (asked.map FilterQuery.range) ∧
        ∀ query ∈ asked, query.toBlock - query.fromBlock + 1 ≤ params.blockChunkSize.toNat) := by
  -- by induction on the fuel, of which every iteration needs one
  induction fuel generalizing fromBlock queries missedLogs with
  | zero => omega
  | succ fuel ih =>
    simp only [Nat.succ_add, LogFilteringParams.filterLoop]
    by_cases inside : fromBlock ≤ currentBlock
    · have iteration := asked_of_iteration small positive fits inside
      simp only [if_pos inside]
      generalize params.query fromBlock currentBlock = query at iteration
      cases answer : filterLogs (queries ++ [query]) with
      | none =>
        refine ⟨_, fun _ => rfl, ?_, by simp⟩
        intro answered
        have answers := answered (queries ++ [query])
        simp [answer] at answers
      | some logs =>
        have below := BitVec.le_def.mp inside
        have advances := iteration.advances
        have left : currentBlock.toNat + 1 - (fromBlock + params.blockChunkSize).toNat < fuel := by omega
        obtain ⟨outcome, ends, succeeds, covers⟩ := ih (queries ++ [query]) (missedLogs ++ logs) left
        refine ⟨outcome, ends, succeeds, ?_⟩
        intro success
        obtain ⟨asked, same, tiled, short⟩ := covers success
        exact ⟨query :: asked, by simp [same], iteration.tiles tiled,
          List.forall_mem_cons.mpr ⟨iteration.short, short⟩⟩
    · have beyond : (currentBlock.toNat : Int) < fromBlock.toNat :=
        Int.ofNat_lt.mpr (Nat.not_le.mp fun le => inside (BitVec.le_def.mpr le))
      simp only [if_neg inside]
      exact ⟨_, fun _ => rfl, by simp, fun _ => ⟨[], by simp, .done beyond, by simp⟩⟩

end Loop

/-- The queries after a resubscription end, and they ask for exactly the blocks that were missed, as far back as the
client may ask. -/
theorem catchUp_exact (params : LogFilteringParams) (lastBlock currentBlock : Uint 64)
    (filterLogs : List FilterQuery → Option (List Log)) (behind : lastBlock < currentBlock)
    (small : currentBlock.toNat < 2 ^ 63) (positive : 1 ≤ params.blockChunkSize.toNat)
    (fits : currentBlock.toNat + params.blockChunkSize.toNat < 2 ^ 64) :
    ∃ fuel outcome,
      (∀ more, params.resubFilterLogs filterLogs lastBlock (fuel + more) (some currentBlock) = some outcome) ∧
      ((∀ asked, (filterLogs asked).isSome) → outcome.missedLogs.isSome) ∧
      (outcome.missedLogs.isSome →
        AsksExactly params.blockChunkSize.toNat
          (max (lastBlock.toNat : Int) (max ((currentBlock.toNat : Int) - params.blockMaxRange.toNat) 0 + 1))
          currentBlock.toNat (outcome.queries.map FilterQuery.range)) := by
  have entered : ¬lastBlock ≥ currentBlock := by
    rw [ge_iff_le, BitVec.le_def]
    exact Nat.not_le.mpr (BitVec.lt_def.mp behind)
  have start : ((params.firstBlock lastBlock currentBlock).toNat : Int) =
      max (lastBlock.toNat : Int) (max ((currentBlock.toNat : Int) - params.blockMaxRange.toNat) 0 + 1) := by
    rw [firstBlock_toNat params small]
    omega
  obtain ⟨fuel, enough⟩ : ∃ fuel, currentBlock.toNat + 1 - (params.firstBlock lastBlock currentBlock).toNat < fuel :=
    ⟨_, Nat.lt_succ_self _⟩
  obtain ⟨outcome, ends, succeeds, covers⟩ := filterLoop_ends small positive fits filterLogs [] [] enough
  refine ⟨fuel, outcome, fun more => ?_, succeeds, fun success => ?_⟩
  · simp only [LogFilteringParams.resubFilterLogs, if_neg entered]
    exact ends more
  · obtain ⟨asked, same, tiled, short⟩ := covers success
    rw [same, List.nil_append, ← start]
    refine ⟨tiled.nonempty, tiled.consecutive, tiled.disjoint, ?_, tiled.union⟩
    intro range member
    obtain ⟨query, listed, rfl⟩ := List.mem_map.mp member
    exact short query listed

theorem catchUp_exact_short_chain :
    ∃ fuel outcome,
      (∀ more, LogFilteringParams.resubFilterLogs ⟨3, 100⟩ (fun _ => some []) 5 (fuel + more) (some 12) =
        some outcome) ∧
      ((∀ asked : List FilterQuery, ((fun _ => some []) asked : Option (List Log)).isSome) →
        outcome.missedLogs.isSome) ∧
      (outcome.missedLogs.isSome →
        AsksExactly (3 : Uint 64).toNat
          (max ((5 : Uint 64).toNat : Int) (max (((12 : Uint 64).toNat : Int) - (100 : Uint 64).toNat) 0 + 1))
          (12 : Uint 64).toNat (outcome.queries.map FilterQuery.range)) :=
  catchUp_exact ⟨3, 100⟩ 5 12 (fun _ => some []) (by decide) (by decide) (by decide) (by decide)

example : (LogFilteringParams.resubFilterLogs ⟨3, 100⟩ (fun _ => some []) 5 4 (some 12)).map CatchUp.queries =
    some [⟨5, 7⟩, ⟨8, 10⟩, ⟨11, 12⟩] := by
  decide

end Sffl.Safeclient
