import Sffl.Evm.Call
import Sffl.Evm.Transition
import Sffl.Evm.Bytes
import Sffl.Evm.Bn254
import Sffl.Evm.SmallCurve
import Sffl.Semantics.Run
import Sffl.Semantics.Trace
import Sffl.Semantics.Parallel
import Sffl.Semantics.Prefixes
import Sffl.Semantics.Timeline
import Sffl.Semantics.Conveyor
import Sffl.Algebra.WeightedSet
import Sffl.Algebra.Tiling
import Sffl.Golang.Map
import Sffl.Golang.Follower
import Sffl.Golang.Routine
import Sffl.Golang.Sort
import Sffl.Golang.SortQuestions
import Sffl.Golang.FixedKeys
import Sffl.Golang.Lru
import Sffl.Golang.Bits
import Sffl.Borsh.Format
import Sffl.Rollup.Operators
import Sffl.Rollup.Representation
import Sffl.Rollup.Attestation
import Sffl.Rollup.Messages
import Sffl.Rollup.Registry
import Sffl.Base.RegistryBase
import Sffl.Rollup.StateRoots
import Sffl.Eth.OperatorSetUpdateRegistry
import Sffl.Eth.RegistryCoordinator
import Sffl.Eth.OperatorSetHistory
import Sffl.Rollup.Initialization
import Sffl.Rollup.Replay
import Sffl.Crypto.MerklePath
import Sffl.Crypto.SparseTrie
import Sffl.Eth.SparseMerkleTree
import Sffl.Eth.TaskManager
import Sffl.Eth.Checkpoint
import Sffl.Eth.CheckpointRuns
import Sffl.Eth.CheckpointRanges
import Sffl.Core.Smt
import Sffl.Core.Digest
import Sffl.Core.CheckpointTree
import Sffl.Core.SparseTries
import Sffl.Core.CheckpointInclusion
import Sffl.Chainio.OperatorSetDelta
import Sffl.Chainio.DeltaAgreement
import Sffl.Rollup.Simulation
import Sffl.Aggregator.Validation
import Sffl.Aggregator.Round
import Sffl.Aggregator.RoundSteps
import Sffl.Aggregator.Soundness
import Sffl.Aggregator.QuorumTests
import Sffl.Aggregator.Status
import Sffl.Aggregator.Submission
import Sffl.Aggregator.Service
import Sffl.Aggregator.Readers
import Sffl.Aggregator.Digests
import Sffl.Aggregator.Responses
import Sffl.Aggregator.Expiry
import Sffl.Aggregator.Submitters
import Sffl.Aggregator.Database
import Sffl.Aggregator.StoredPairs
import Sffl.Aggregator.Broadcast
import Sffl.Aggregator.UpdateOrder
import Sffl.Aggregator.CheckpointTasks
import Sffl.Aggregator.Collection
import Sffl.Aggregator.FrozenCheckpoints
import Sffl.Aggregator.CheckpointContents
import Sffl.Aggregator.OperatorRegistrations
import Sffl.Aggregator.ServiceSteps
import Sffl.Aggregator.TaskResponses
import Sffl.Operator.Resend
import Sffl.Operator.RpcClient
import Sffl.Operator.RpcSteps
import Sffl.Operator.Connections
import Sffl.Operator.SendQueue
import Sffl.Safeclient.Subscription
import Sffl.Safeclient.Logs
import Sffl.Safeclient.Duplicates
import Sffl.Safeclient.Cursor
import Sffl.Safeclient.CatchUp
import Sffl.Operator.Attestor
import Sffl.Operator.Attestations
import Sffl.Operator.QueuesListener
import Sffl.Operator.Notifier
import Sffl.Operator.Consumer
import Sffl.Relayer.Ticker
import Sffl.Relayer.Batches
import Sffl.Indexer.Candidates
import Sffl.Indexer.BlockListener
import Sffl.Indexer.CandidatesValidator
import Sffl.Indexer.ValidatorRuns
import Sffl.Indexer.RmqPublisher
import Sffl.Indexer.Publications
import Sffl.Indexer.Pipeline
import Sffl.Operator.Provenance
import Sffl.Protocol.CanonicalRoots
import Sffl.Protocol.OperatorSets
