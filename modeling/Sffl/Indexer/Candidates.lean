import Sffl.Evm.Bytes

/-! The candidates that the indexer finds in a block.

A transaction to one of the watched contracts is a candidate if it calls `submit`
at least once. The calls' arguments are its payloads.
-/

set_option autoImplicit false

namespace Sffl.Indexer

open Sffl.Evm

abbrev AccountId := String

abbrev CryptoHash := Bytes32

inductive ActionView where
  | functionCall (methodName : String) (args : Bytes)
  | other
  deriving DecidableEq, Repr

structure SignedTransactionView where
  signerId : AccountId
  receiverId : AccountId
  actions : List ActionView
  hash : CryptoHash
  deriving DecidableEq, Repr

inductive ExecutionStatusView where
  | unknown
  | failure
  | successValue
  | successReceiptId
  deriving DecidableEq, Repr

structure ExecutionOutcomeWithIdView where
  blockHash : CryptoHash
  status : ExecutionStatusView
  deriving DecidableEq, Repr

structure IndexerTransactionWithOutcome where
  transaction : SignedTransactionView
  executionOutcome : ExecutionOutcomeWithIdView
  deriving DecidableEq, Repr

structure IndexerChunkView where
  transactions : List IndexerTransactionWithOutcome

structure IndexerShard where
  chunk : Option IndexerChunkView

structure StreamerMessage where
  shards : List IndexerShard

structure CandidateData where
  rollupId : UInt32
  transaction : IndexerTransactionWithOutcome
  payloads : List Bytes
  deriving DecidableEq, Repr

structure TransactionWithRollupId where
  rollupId : UInt32
  transaction : IndexerTransactionWithOutcome

def extractArgs : ActionView → Option Bytes
  | .functionCall methodName args => if methodName = "submit" then some args else none
  | .other => none

def transactionFilterMap (transaction : TransactionWithRollupId) : Option CandidateData :=
  let payloads := transaction.transaction.transaction.actions.filterMap extractArgs
  if payloads.isEmpty then none else some ⟨transaction.rollupId, transaction.transaction, payloads⟩

def extractCandidates (addressesToRollupIds : AccountId → Option UInt32) (message : StreamerMessage) : List CandidateData :=
  ((message.shards.filterMap IndexerShard.chunk).flatMap fun chunk =>
    chunk.transactions.filterMap fun transaction =>
      (addressesToRollupIds transaction.transaction.receiverId).map (⟨·, transaction⟩)).filterMap transactionFilterMap

theorem transactionFilterMap_eq_some {transaction : TransactionWithRollupId} {candidate : CandidateData} :
    transactionFilterMap transaction = some candidate ↔
      transaction = ⟨candidate.rollupId, candidate.transaction⟩ ∧
      candidate.payloads = candidate.transaction.transaction.actions.filterMap extractArgs ∧ candidate.payloads ≠ [] := by
  obtain ⟨rollupId, found⟩ := transaction
  obtain ⟨candidateId, inner, payloads⟩ := candidate
  simp only [transactionFilterMap, List.isEmpty_iff, TransactionWithRollupId.mk.injEq]
  split
  next empty =>
    constructor
    · intro found
      cases found
    · rintro ⟨⟨_, rfl⟩, rfl, nonempty⟩
      exact absurd empty nonempty
  next nonempty =>
    constructor
    · intro same
      cases same
      exact ⟨⟨rfl, rfl⟩, rfl, nonempty⟩
    · rintro ⟨⟨rfl, rfl⟩, rfl, _⟩
      rfl

/-- A candidate is a transaction to a watched address, with the arguments of its `submit` calls. -/
theorem mem_extractCandidates {addressesToRollupIds : AccountId → Option UInt32} {message : StreamerMessage}
    {candidate : CandidateData} :
    candidate ∈ extractCandidates addressesToRollupIds message ↔
      (∃ shard ∈ message.shards, ∃ chunk, shard.chunk = some chunk ∧ candidate.transaction ∈ chunk.transactions) ∧
      addressesToRollupIds candidate.transaction.transaction.receiverId = some candidate.rollupId ∧
      candidate.payloads = candidate.transaction.transaction.actions.filterMap extractArgs ∧ candidate.payloads ≠ [] := by
  simp only [extractCandidates, List.mem_filterMap, List.mem_flatMap, transactionFilterMap_eq_some, Option.map_eq_some_iff]
  constructor
  · rintro ⟨_, ⟨chunk, ⟨shard, inMessage, here⟩, transaction, inChunk, rollupId, watched, same⟩, rfl, payloads, nonempty⟩
    cases same
    exact ⟨⟨shard, inMessage, chunk, here, inChunk⟩, watched, payloads, nonempty⟩
  · rintro ⟨⟨shard, inMessage, chunk, here, inChunk⟩, watched, payloads, nonempty⟩
    exact ⟨_, ⟨chunk, ⟨shard, inMessage, here⟩, _, inChunk, _, watched, rfl⟩, rfl, payloads, nonempty⟩

end Sffl.Indexer
