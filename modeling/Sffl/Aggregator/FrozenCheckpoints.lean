import Sffl.Aggregator.CheckpointTasks
import Sffl.Aggregator.Collection
import Sffl.Aggregator.StoredPairs
import Sffl.Aggregator.Submitters
import Sffl.Core.CheckpointTree
import Sffl.Semantics.Run

/-! The contents of a created checkpoint.

One clock runs through the aggregator. A row is made by the response for a
signature that has just been accepted, at most the submission timeout after the
message's timestamp; what a timer sends later only replaces the aggregation of a
row. A task's range ends both timeouts before a block that is not ahead of the
clock, so no row is made in it any more.
-/

set_option autoImplicit false

namespace Sffl.Aggregator

open Sffl.Core Sffl.Evm Sffl.Eth Sffl.Golang Sffl.Rollup Sffl.Semantics

/-! ## The aggregator and its clock -/

/-- A call of `sendNewCheckpointTask` that has read a block and, maybe, the end of the last range. -/
structure SendingTask where
  blockTime : Uint 64
  lastCheckpointToTimestamp : Option (Uint 64)

/-- A task that `sendNewCheckpointTask` created, with every database from then on. -/
structure CreatedTask (Sig Key : Type) where
  taskIndex : Uint 32
  task : Task
  moments : List (Database Sig Key)

def stateRootUpdateMessages (keccak256 : Bytes → Bytes32) : MessageInterface StateRootUpdate :=
  ⟨stateRootUpdateDigest keccak256, fun message => (Message.stateRootUpdate message).key⟩

def operatorSetUpdateMessages (keccak256 : Bytes → Bytes32) : MessageInterface OperatorSetUpdateMessage :=
  ⟨operatorSetUpdateDigest keccak256, fun message => (Message.operatorSetUpdate message).key⟩

structure TimedAggregator (keccak256 : Bytes → Bytes32) (Sig Key : Type) where
  clock : Nat
  stateRootUpdates : Collector (stateRootUpdateMessages keccak256) Sig Key
  operatorSetUpdates : Collector (operatorSetUpdateMessages keccak256) Sig Key
  database : Database Sig Key
  sending : List SendingTask
  manager : TaskManager
  created : List (CreatedTask Sig Key)

/-- What happens next. Any other transaction may come between those of the aggregator. -/
inductive TimedEvent (Evidence Sig Key : Type) where
  | tick (clock : Nat)
  | stateRootUpdate (action : Action StateRootUpdate Sig Key)
  | operatorSetUpdate (action : Action OperatorSetUpdateMessage Sig Key)
  | readBlock (blockTime : Uint 64)
  | readLastCheckpoint (position : Nat)
  | createTask (position : Nat) (environment : Environment Evidence)
  | transact (call : Environment Evidence × TaskInvocation Evidence)

section Definitions
variable {Evidence Sig Key : Type} {keccak256 : Bytes → Bytes32}

def TimedAggregator.store (state : TimedAggregator keccak256 Sig Key) (arrival : Writes → Arrival Sig Key) :
    Option (TimedAggregator keccak256 Sig Key) := do
  -- both writes succeed, and the database may be read after each of them
  let between ← handleArrival state.database (arrival ⟨true, false⟩)
  let database ← handleArrival state.database (arrival ⟨true, true⟩)
  return { state with
    database
    created := state.created.map fun record => { record with moments := record.moments ++ [between, database] } }

variable (window : Uint 32) (checkpointInterval : Uint 32)

def TimedAggregator.createTask (state : TimedAggregator keccak256 Sig Key) (sending : SendingTask)
    (environment : Environment Evidence) : Option (TimedAggregator keccak256 Sig Key) := do
  let lastCheckpointToTimestamp ← sending.lastCheckpointToTimestamp
  match sendNewCheckpointTask keccak256 checkpointInterval sending.blockTime lastCheckpointToTimestamp state.manager
      environment with
  | .error _ => return state
  | .ok (manager, events) =>
    let tasks := events.filterMap fun event => match event with
      | .created taskIndex task => some ⟨taskIndex, task, [state.database]⟩
      | _ => none
    return { state with manager, created := tasks ++ state.created }

variable [AddCommGroup Sig] [AddCommGroup Key] (scheme : SignatureScheme Sig Key)

def TimedAggregator.advance (state : TimedAggregator keccak256 Sig Key) :
    TimedEvent Evidence Sig Key → Option (TimedAggregator keccak256 Sig Key)
  | .tick clock => if state.clock ≤ clock then some { state with clock } else none
  -- a timer may fire at any time after its loop has begun, so later than the source lets it
  | .stateRootUpdate action => do
    let (stateRootUpdates, response) ←
      state.stateRootUpdates.advance StateRootUpdate.timestamp scheme state.clock action
    match response with
    | none => return { state with stateRootUpdates }
    | some response => TimedAggregator.store { state with stateRootUpdates } (.stateRootUpdate response)
  | .operatorSetUpdate action => do
    let (operatorSetUpdates, response) ←
      state.operatorSetUpdates.advance OperatorSetUpdateMessage.timestamp scheme state.clock action
    match response with
    | none => return { state with operatorSetUpdates }
    | some response => TimedAggregator.store { state with operatorSetUpdates } (.operatorSetUpdate response)
  | .readBlock blockTime =>
    if 90 ≤ blockTime.toNat ∧ blockTime.toNat ≤ state.clock then
      some { state with sending := ⟨blockTime, none⟩ :: state.sending }
    else none
  | .readLastCheckpoint position => do
    let sending ← state.sending[position]?
    let read := { sending with lastCheckpointToTimestamp := some state.manager.lastCheckpointToTimestamp }
    return { state with sending := state.sending.set position read }
  | .createTask position environment => do
    let sending ← state.sending[position]?
    TimedAggregator.createTask checkpointInterval { state with sending := state.sending.eraseIdx position } sending
      environment
  | .transact call => some { state with manager := (Eth.transact keccak256 window (state.manager, []) call).1 }

def TableFull {M : Type} (table : Table M Sig Key) : Prop := ∀ row ∈ table, row.aggregation.isSome = true

structure Database.Full (database : Database Sig Key) : Prop where
  stateRootUpdates : TableFull database.stateRootUpdates
  operatorSetUpdates : TableFull database.operatorSetUpdates

variable (keccak256) in
/-- The aggregator may start over on a database that it filled before. -/
def timedAggregators (Evidence : Type) :
    System (TimedAggregator keccak256 Sig Key) (TimedEvent Evidence Sig Key) where
  initial state := state.stateRootUpdates = ⟨newMessageBlsAggregatorService, []⟩ ∧
    state.operatorSetUpdates = ⟨newMessageBlsAggregatorService, []⟩ ∧ state.database.Full ∧ state.sending = [] ∧
    state.created = []
  step state event after := state.advance window checkpointInterval scheme event = some after

end Definitions

/-! ## What operators answer with -/

section Answers
variable {Sig Key : Type}

def CheckpointMessages.contents (messages : CheckpointMessages Sig Key) :
    List StateRootUpdate × List OperatorSetUpdateMessage :=
  (messages.stateRootUpdateMessages, messages.operatorSetUpdateMessages)

def entries (keccak256 : Bytes → Bytes32) (messages : List Message) : Option (List (Bytes32 × Bytes32)) :=
  messages.mapM fun message => (message.digest keccak256).map (Prod.mk message.key)

/-- The tree is built by one update after the other; `smt` is its root, unless an update fails. -/
def newCheckpointTaskResponseFromMessages (keccak256 : Bytes → Bytes32)
    (smt : List (Bytes32 × Bytes32) → Option Bytes32) (taskIndex : Uint 32)
    (checkpointMessages : List StateRootUpdate × List OperatorSetUpdateMessage) : Option TaskResponse := do
  let stateRootUpdates ← entries keccak256 (checkpointMessages.1.map .stateRootUpdate)
  let stateRootUpdatesRoot ← smt stateRootUpdates
  let operatorSetUpdates ← entries keccak256 (checkpointMessages.2.map .operatorSetUpdate)
  let operatorSetUpdatesRoot ← smt operatorSetUpdates
  return ⟨taskIndex, stateRootUpdatesRoot, operatorSetUpdatesRoot⟩

/-- `ProcessCheckpointTask`, up to the signature; it gives up on any error. -/
def processCheckpointTask (keccak256 : Bytes → Bytes32) (smt : List (Bytes32 × Bytes32) → Option Bytes32)
    (first second : Database Sig Key) (taskIndex : Uint 32) (task : Task) : Option TaskResponse := do
  let checkpointMessages ← (taskMessages first second task).toOption
  newCheckpointTaskResponseFromMessages keccak256 smt taskIndex checkpointMessages.contents

def CreatedTask.fetched (record : CreatedTask Sig Key) (first second : Database Sig Key) :
    Except DatabaseError (List StateRootUpdate × List OperatorSetUpdateMessage) :=
  (fetchCheckpointMessages first second record.task.fromTimestamp record.task.toTimestamp).map
    CheckpointMessages.contents

end Answers

/-! ## One response -/

section Tables
variable {K M Sig Key : Type} [DecidableEq K] {key : M → K} {table : Table M Sig Key}

def messagesBetween (timestamp : M → Uint 64) (table : Table M Sig Key) (fromTimestamp toTimestamp : Uint 64) : List M :=
  (fetchBetween timestamp table fromTimestamp toTimestamp).map Prod.fst

theorem messagesBetween_full (full : TableFull table) (timestamp : M → Uint 64) (fromTimestamp toTimestamp : Uint 64) :
    messagesBetween timestamp table fromTimestamp toTimestamp =
      (table.map Row.message).filter fun message => fromTimestamp ≤ timestamp message ∧ timestamp message ≤ toTimestamp := by
  induction table with
  | nil => rfl
  | cons row rows ih =>
    obtain ⟨filled, rest⟩ := List.forall_mem_cons.mp full
    obtain ⟨aggregation, stored⟩ := Option.isSome_iff_exists.mp filled
    have tail := ih rest
    unfold messagesBetween fetchBetween at tail ⊢
    rw [List.map_cons, List.filter_cons, List.filter_cons]
    by_cases within : fromTimestamp ≤ timestamp row.message ∧ timestamp row.message ≤ toTimestamp
    · rw [if_pos (decide_eq_true within), if_pos (decide_eq_true within), ← tail]
      simp [stored]
    · rw [if_neg (by simpa using within), if_neg (by simpa using within), tail]

theorem messagesBetween_firstOrCreate (timestamp : M → Uint 64) (table : Table M Sig Key) (message : M)
    (fromTimestamp toTimestamp : Uint 64) :
    messagesBetween timestamp (firstOrCreate key table message).1 fromTimestamp toTimestamp =
      messagesBetween timestamp table fromTimestamp toTimestamp := by
  unfold firstOrCreate
  split
  · rfl
  · unfold messagesBetween fetchBetween
    rw [List.filter_append, List.filterMap_append, List.map_append, List.append_right_eq_self, List.map_eq_nil_iff,
      List.filterMap_eq_nil_iff]
    intro row member
    rw [List.mem_singleton.mp (List.mem_of_mem_filter member)]
    rfl

variable (key) in
def HasRow (table : Table M Sig Key) (message : M) : Prop := (findRow key table (key message)).isSome = true

theorem hasRow_iff {message : M} : HasRow key table message ↔ key message ∈ (table.map Row.message).map key := by
  unfold HasRow findRow
  simp [List.find?_isSome]

theorem replaceAggregation_full {position : Nat}
    (others : ∀ index row, table[index]? = some row → position ≠ index → row.aggregation.isSome = true)
    (aggregation : MessageBlsAggregation Sig Key) : TableFull (replaceAggregation table position aggregation) := by
  -- the row that gets an aggregation may have had none before
  intro row member
  obtain ⟨index, found⟩ := List.mem_iff_getElem?.mp member
  rw [replaceAggregation, List.getElem?_modify] at found
  obtain ⟨old, oldAt, rfl⟩ := Option.map_eq_some_iff.mp found
  by_cases same : position = index
  · simp [same]
  · simp only [same, if_false]
    exact others index old oldAt same

variable (key) in
/-- A response adds its message, unless there is a row with its key. -/
theorem handleReachedQuorum_rows (full : TableFull table) {response : Response M Sig Key} {message : M}
    (noError : response.err = none) (carried : response.message = some message) :
    ∃ after, handleReachedQuorum (firstOrCreate key) replaceAggregation table response ⟨true, true⟩ = some after ∧
      TableFull after ∧ after.map Row.message =
        table.map Row.message ++ if (findRow key table (key message)).isSome then [] else [message] := by
  unfold handleReachedQuorum
  simp only [noError, Option.isSome_none, Bool.false_eq_true, if_false, carried, if_true]
  refine ⟨_, rfl, ?_⟩
  rw [replaceAggregation_messages]
  rcases firstOrCreate_cases key table message with ⟨position, row, created, _, found⟩ | ⟨created, absent⟩
  · rw [created, found]
    refine ⟨replaceAggregation_full (fun _ old at_ _ => full old (List.mem_of_getElem? at_)) _, ?_⟩
    exact (List.append_nil _).symm
  · rw [created, absent]
    refine ⟨replaceAggregation_full (fun index old at_ other => ?_) _, by simp⟩
    -- the new row is the last one, and it is the one that gets the aggregation
    have inside := (List.getElem?_eq_some_iff.mp at_).1
    rw [List.length_append, List.length_singleton] at inside
    rw [List.getElem?_append_left (by omega)] at at_
    exact full old (List.mem_of_getElem? at_)

structure Stores (key : M → K) (timestamp : M → Uint 64) (table between after : Table M Sig Key) (collected : Option M) :
    Prop where
  full : TableFull after
  keyed : ((table.map Row.message).map key).Nodup → ((after.map Row.message).map key).Nodup
  kept : ∀ message, HasRow key table message → HasRow key after message
  stored : ∀ message, collected = some message → HasRow key after message
  unfinished : ∀ fromTimestamp toTimestamp, messagesBetween timestamp between fromTimestamp toTimestamp =
    messagesBetween timestamp table fromTimestamp toTimestamp
  unchanged : ∀ fromTimestamp toTimestamp,
    (∀ message, collected = some message → HasRow key table message ∨ toTimestamp < timestamp message) →
      messagesBetween timestamp after fromTimestamp toTimestamp =
        messagesBetween timestamp table fromTimestamp toTimestamp

theorem Stores.refl (full : TableFull table) (timestamp : M → Uint 64) : Stores key timestamp table table table none :=
  ⟨full, id, fun _ has => has, nofun, fun _ _ => rfl, fun _ _ _ => rfl⟩

section Rows
variable {between after : Table M Sig Key} {message : M} (timestamp : M → Uint 64) (full : TableFull table)
  (fullAfter : TableFull after)
  (unfinished : ∀ fromTimestamp toTimestamp, messagesBetween timestamp between fromTimestamp toTimestamp =
    messagesBetween timestamp table fromTimestamp toTimestamp)
include full fullAfter unfinished

theorem Stores.of_present (present : HasRow key table message) (rows : after.map Row.message = table.map Row.message) :
    Stores key timestamp table between after (some message) := by
  have kept (other : M) (has : HasRow key table other) : HasRow key after other := by
    rw [hasRow_iff, rows]
    exact hasRow_iff.mp has
  refine ⟨fullAfter, fun once => rows ▸ once, kept, ?_, unfinished, fun fromTimestamp toTimestamp _ => ?_⟩
  · rintro _ ⟨⟩
    exact kept message present
  · rw [messagesBetween_full fullAfter, messagesBetween_full full, rows]

theorem Stores.of_absent (absent : ¬ HasRow key table message)
    (rows : after.map Row.message = table.map Row.message ++ [message]) :
    Stores key timestamp table between after (some message) := by
  refine ⟨fullAfter, fun once => ?_, fun other has => ?_, ?_, unfinished, fun fromTimestamp toTimestamp outside => ?_⟩
  · rw [rows, List.map_append, List.map_singleton, ← List.concat_eq_append]
    exact once.concat fun has => absent (hasRow_iff.mpr has)
  · rw [hasRow_iff, rows, List.map_append]
    exact List.mem_append_left _ (hasRow_iff.mp has)
  · rintro _ ⟨⟩
    rw [hasRow_iff, rows, List.map_append]
    exact List.mem_append_right _ (List.mem_singleton_self _)
  · have late := (outside message rfl).resolve_left absent
    rw [messagesBetween_full fullAfter, messagesBetween_full full, rows, List.filter_append, List.append_right_eq_self,
      List.filter_singleton]
    simp [BitVec.not_le.mpr late]

end Rows

theorem handleReachedQuorum_stores (full : TableFull table) (timestamp : M → Uint 64) {response : Response M Sig Key}
    {between after : Table M Sig Key}
    (first : handleReachedQuorum (firstOrCreate key) replaceAggregation table response ⟨true, false⟩ = some between)
    (second : handleReachedQuorum (firstOrCreate key) replaceAggregation table response ⟨true, true⟩ = some after) :
    Stores key timestamp table between after response.collected := by
  cases failed : response.err with
  | some err =>
    simp only [handleReachedQuorum, failed, Option.isSome_some, if_true, Option.some.injEq] at first second
    subst first second
    simp only [Response.collected, failed, Option.isSome_some, if_true]
    exact .refl full timestamp
  | none =>
    cases carried : response.message with
    | none => simp [handleReachedQuorum, failed, carried] at first
    | some message =>
      obtain ⟨_, again, fullAfter, rows⟩ := handleReachedQuorum_rows key full failed carried
      cases again.symm.trans second
      simp only [handleReachedQuorum, failed, carried, Option.isSome_none, Bool.false_eq_true, if_false, if_true,
        Option.some.injEq] at first
      subst first
      have unfinished := @messagesBetween_firstOrCreate _ _ _ _ _ key timestamp table message
      rw [Response.collected_eq_some.mpr ⟨failed, carried⟩]
      by_cases present : (findRow key table (key message)).isSome = true
      · rw [if_pos present, List.append_nil] at rows
        exact .of_present timestamp full fullAfter unfinished present rows
      · rw [if_neg present] at rows
        exact .of_absent timestamp full fullAfter unfinished present rows

end Tables

section Databases
variable {Sig Key : Type} {database between after : Database Sig Key}

def Database.contents (database : Database Sig Key) (task : Task) : List StateRootUpdate × List OperatorSetUpdateMessage :=
  (messagesBetween StateRootUpdate.timestamp database.stateRootUpdates task.fromTimestamp task.toTimestamp,
    messagesBetween OperatorSetUpdateMessage.timestamp database.operatorSetUpdates task.fromTimestamp task.toTimestamp)

theorem CreatedTask.fetched_congr (record : CreatedTask Sig Key) {first second third fourth : Database Sig Key}
    (same : first.contents record.task = third.contents record.task)
    (same' : second.contents record.task = fourth.contents record.task) :
    record.fetched first second = record.fetched third fourth := by
  have stateRoots := congrArg Prod.fst same
  have operatorSets := congrArg Prod.snd same'
  simp only [Database.contents, messagesBetween] at stateRoots operatorSets
  unfold CreatedTask.fetched fetchCheckpointMessages
  split
  · rfl
  · split
    · rfl
    · simp only [Except.map, CheckpointMessages.contents, stateRoots, operatorSets]

structure Database.Keyed (database : Database Sig Key) : Prop where
  stateRootUpdates : ((database.stateRootUpdates.map Row.message).map stateRootKey).Nodup
  operatorSetUpdates : ((database.operatorSetUpdates.map Row.message).map OperatorSetUpdateMessage.id).Nodup

structure Database.Stores (database between after : Database Sig Key) (stateRootUpdate : Option StateRootUpdate)
    (operatorSetUpdate : Option OperatorSetUpdateMessage) : Prop where
  stateRootUpdates : Aggregator.Stores stateRootKey StateRootUpdate.timestamp database.stateRootUpdates
    between.stateRootUpdates after.stateRootUpdates stateRootUpdate
  operatorSetUpdates : Aggregator.Stores OperatorSetUpdateMessage.id OperatorSetUpdateMessage.timestamp
    database.operatorSetUpdates between.operatorSetUpdates after.operatorSetUpdates operatorSetUpdate

theorem handleArrival_stateRootUpdate {response : Response StateRootUpdate Sig Key} (full : database.Full)
    (first : handleArrival database (.stateRootUpdate response ⟨true, false⟩) = some between)
    (second : handleArrival database (.stateRootUpdate response ⟨true, true⟩) = some after) :
    database.Stores between after response.collected none := by
  obtain ⟨table, stored, rfl⟩ := Option.map_eq_some_iff.mp first
  obtain ⟨table', stored', rfl⟩ := Option.map_eq_some_iff.mp second
  exact ⟨handleReachedQuorum_stores full.stateRootUpdates _ stored stored', .refl full.operatorSetUpdates _⟩

theorem handleArrival_operatorSetUpdate {response : Response OperatorSetUpdateMessage Sig Key} (full : database.Full)
    (first : handleArrival database (.operatorSetUpdate response ⟨true, false⟩) = some between)
    (second : handleArrival database (.operatorSetUpdate response ⟨true, true⟩) = some after) :
    database.Stores between after none response.collected := by
  obtain ⟨_, returned, rfl⟩ := Option.map_eq_some_iff.mp first
  obtain ⟨table, stored, rfl⟩ := Option.map_eq_some_iff.mp returned
  obtain ⟨_, returned', rfl⟩ := Option.map_eq_some_iff.mp second
  obtain ⟨table', stored', rfl⟩ := Option.map_eq_some_iff.mp returned'
  exact ⟨.refl full.stateRootUpdates _, handleReachedQuorum_stores full.operatorSetUpdates _ stored stored'⟩

/-- An answer depends on the fetched messages and on the range. -/
theorem processCheckpointTask_eq (keccak256 : Bytes → Bytes32)
    (smt : List (Bytes32 × Bytes32) → Option Bytes32)
    (record : CreatedTask Sig Key) (first second : Database Sig Key) :
    processCheckpointTask keccak256 smt first second record.taskIndex record.task =
      match GetAggregatedCheckpointMessagesArgs.isValid (some ⟨record.task.fromTimestamp, record.task.toTimestamp⟩) with
      | .error _ => none
      | .ok () => (record.fetched first second).toOption.bind fun contents =>
          newCheckpointTaskResponseFromMessages keccak256 smt record.taskIndex contents := by
  unfold processCheckpointTask taskMessages getAggregatedCheckpointMessages CreatedTask.fetched
  cases GetAggregatedCheckpointMessagesArgs.isValid (some ⟨record.task.fromTimestamp, record.task.toTimestamp⟩) with
  | error text => rfl
  | ok =>
    cases fetchCheckpointMessages first second record.task.fromTimestamp record.task.toTimestamp with
    | error error => rfl
    | ok messages => rfl

end Databases

/-! ## Created tasks and the clock -/

/-- The range has ended for every message that is accepted now, and its contents have not changed. -/
structure CreatedTask.Ended {Sig Key : Type} (record : CreatedTask Sig Key) (clock : Nat) (database : Database Sig Key) :
    Prop where
  ended : record.task.toTimestamp.toNat + 90 ≤ clock
  current : database ∈ record.moments
  same : ∀ moment ∈ record.moments, moment.contents record.task = database.contents record.task

theorem CreatedTask.Ended.see {Sig Key : Type} {record : CreatedTask Sig Key} {clock : Nat}
    {database between after : Database Sig Key} (ended : record.Ended clock database)
    (unfinished : between.contents record.task = database.contents record.task)
    (unchanged : after.contents record.task = database.contents record.task) :
    { record with moments := record.moments ++ [between, after] }.Ended clock after := by
  refine ⟨ended.ended, List.mem_append_right _ (by simp), fun moment seen => ?_⟩
  simp only [List.mem_append, List.mem_cons, List.not_mem_nil, or_false] at seen
  rw [unchanged]
  rcases seen with earlier | rfl | rfl
  · exact ended.same moment earlier
  · exact unfinished
  · exact unchanged

/-- What the clock says about everything that was accepted, read or created. -/
structure Timed {keccak256 : Bytes → Bytes32} {Sig Key : Type} (state : TimedAggregator keccak256 Sig Key) : Prop where
  stateRootUpdates : state.stateRootUpdates.Sound StateRootUpdate.timestamp
    (HasRow stateRootKey state.database.stateRootUpdates)
  operatorSetUpdates : state.operatorSetUpdates.Sound OperatorSetUpdateMessage.timestamp
    (HasRow OperatorSetUpdateMessage.id state.database.operatorSetUpdates)
  full : state.database.Full
  sending : ∀ sending ∈ state.sending, 90 ≤ sending.blockTime.toNat ∧ sending.blockTime.toNat ≤ state.clock
  created : ∀ record ∈ state.created, record.Ended state.clock state.database

section Steps
variable {Evidence Sig Key : Type} {keccak256 : Bytes → Bytes32} {window checkpointInterval : Uint 32}
  {state after : TimedAggregator keccak256 Sig Key} {event : TimedEvent Evidence Sig Key}

/-- What has a timestamp of the last minute is after the end of every created range. -/
theorem CreatedTask.Ended.lt {record : CreatedTask Sig Key} {clock : Nat} {database : Database Sig Key}
    (ended : record.Ended clock database) {timestamp : Uint 64} (recent : clock ≤ timestamp.toNat + 60) :
    record.task.toTimestamp < timestamp := by
  have := ended.ended
  rw [BitVec.lt_def]
  omega

variable [AddCommGroup Sig] [AddCommGroup Key] {scheme : SignatureScheme Sig Key}

/-- One of the services takes a step, and its response may be for a message. -/
inductive ServicesStep (scheme : SignatureScheme Sig Key) (state : TimedAggregator keccak256 Sig Key) :
    Collector (stateRootUpdateMessages keccak256) Sig Key → Collector (operatorSetUpdateMessages keccak256) Sig Key →
    Option StateRootUpdate → Option OperatorSetUpdateMessage → Prop where
  | stateRootUpdate {action : Action StateRootUpdate Sig Key}
      {stateRootUpdates : Collector (stateRootUpdateMessages keccak256) Sig Key}
      {response : Option (Response StateRootUpdate Sig Key)}
      (advanced : state.stateRootUpdates.advance StateRootUpdate.timestamp scheme state.clock action =
        some (stateRootUpdates, response)) :
      ServicesStep scheme state stateRootUpdates state.operatorSetUpdates (response.bind Response.collected) none
  | operatorSetUpdate {action : Action OperatorSetUpdateMessage Sig Key}
      {operatorSetUpdates : Collector (operatorSetUpdateMessages keccak256) Sig Key}
      {response : Option (Response OperatorSetUpdateMessage Sig Key)}
      (advanced : state.operatorSetUpdates.advance OperatorSetUpdateMessage.timestamp scheme state.clock action =
        some (operatorSetUpdates, response)) :
      ServicesStep scheme state state.stateRootUpdates operatorSetUpdates none (response.bind Response.collected)

inductive TimedStep (scheme : SignatureScheme Sig Key) (state : TimedAggregator keccak256 Sig Key) :
    TimedAggregator keccak256 Sig Key → Prop where
  | tick {clock : Nat} (later : state.clock ≤ clock) : TimedStep scheme state { state with clock }
  | collect {stateRootUpdates : Collector (stateRootUpdateMessages keccak256) Sig Key}
      {operatorSetUpdates : Collector (operatorSetUpdateMessages keccak256) Sig Key}
      (services : ServicesStep scheme state stateRootUpdates operatorSetUpdates none none) :
      TimedStep scheme state { state with stateRootUpdates, operatorSetUpdates }
  | store {stateRootUpdates : Collector (stateRootUpdateMessages keccak256) Sig Key}
      {operatorSetUpdates : Collector (operatorSetUpdateMessages keccak256) Sig Key}
      {between database : Database Sig Key} {stateRootUpdate : Option StateRootUpdate}
      {operatorSetUpdate : Option OperatorSetUpdateMessage}
      (services : ServicesStep scheme state stateRootUpdates operatorSetUpdates stateRootUpdate operatorSetUpdate)
      (stores : state.database.Full → state.database.Stores between database stateRootUpdate operatorSetUpdate) :
      TimedStep scheme state { state with
        stateRootUpdates, operatorSetUpdates, database
        created := state.created.map fun record => { record with moments := record.moments ++ [between, database] } }
  | readBlock {blockTime : Uint 64} (range : 90 ≤ blockTime.toNat ∧ blockTime.toNat ≤ state.clock) :
      TimedStep scheme state { state with sending := ⟨blockTime, none⟩ :: state.sending }
  | readLastCheckpoint {position : Nat} {sending : SendingTask} (lastCheckpointToTimestamp : Option (Uint 64))
      (found : state.sending[position]? = some sending) :
      TimedStep scheme state
        { state with sending := state.sending.set position { sending with lastCheckpointToTimestamp } }
  | rejectTask (position : Nat) : TimedStep scheme state { state with sending := state.sending.eraseIdx position }
  | createTask {position : Nat} {sending : SendingTask} {taskIndex : Uint 32} {task : Task} (manager : TaskManager)
      (found : state.sending[position]? = some sending)
      (range : task.toTimestamp = checkpointToTimestamp sending.blockTime) :
      TimedStep scheme state { state with
        sending := state.sending.eraseIdx position, manager
        created := ⟨taskIndex, task, [state.database]⟩ :: state.created }
  | transact (manager : TaskManager) : TimedStep scheme state { state with manager }

theorem timedStep_of_advance (one : state.advance window checkpointInterval scheme event = some after) :
    TimedStep scheme state after := by
  cases event with
  | tick clock =>
    simp only [TimedAggregator.advance, Option.ite_none_right_eq_some, Option.some.injEq] at one
    obtain ⟨later, rfl⟩ := one
    exact .tick later
  | stateRootUpdate action =>
    obtain ⟨⟨collector, response⟩, advanced, one⟩ := Option.bind_eq_some_iff.mp one
    have services := ServicesStep.stateRootUpdate advanced
    cases response with
    | none =>
      cases one
      exact .collect services
    | some response =>
      obtain ⟨between, first, one⟩ := Option.bind_eq_some_iff.mp one
      obtain ⟨database, second, one⟩ := Option.bind_eq_some_iff.mp one
      cases one
      exact .store services fun full => handleArrival_stateRootUpdate full first second
  | operatorSetUpdate action =>
    obtain ⟨⟨collector, response⟩, advanced, one⟩ := Option.bind_eq_some_iff.mp one
    have services := ServicesStep.operatorSetUpdate advanced
    cases response with
    | none =>
      cases one
      exact .collect services
    | some response =>
      obtain ⟨between, first, one⟩ := Option.bind_eq_some_iff.mp one
      obtain ⟨database, second, one⟩ := Option.bind_eq_some_iff.mp one
      cases one
      exact .store services fun full => handleArrival_operatorSetUpdate full first second
  | readBlock blockTime =>
    simp only [TimedAggregator.advance, Option.ite_none_right_eq_some, Option.some.injEq] at one
    obtain ⟨range, rfl⟩ := one
    exact .readBlock range
  | readLastCheckpoint position =>
    obtain ⟨sending, found, result⟩ := Option.bind_eq_some_iff.mp one
    cases result
    exact .readLastCheckpoint _ found
  | createTask position environment =>
    obtain ⟨sending, found, one⟩ := Option.bind_eq_some_iff.mp one
    obtain ⟨last, _, one⟩ := Option.bind_eq_some_iff.mp one
    split at one
    · cases one
      exact .rejectTask position
    · next manager events accepted =>
      obtain ⟨_, emitted⟩ := sendNewCheckpointTask_created accepted
      subst emitted
      cases one
      exact .createTask manager found rfl
  | transact call =>
    cases one
    exact .transact _

section Services
variable {stateRootUpdates : Collector (stateRootUpdateMessages keccak256) Sig Key}
  {operatorSetUpdates : Collector (operatorSetUpdateMessages keccak256) Sig Key} {between database : Database Sig Key}
  {stateRootUpdate : Option StateRootUpdate} {operatorSetUpdate : Option OperatorSetUpdateMessage}
  (timed : Timed state)
  (services : ServicesStep scheme state stateRootUpdates operatorSetUpdates stateRootUpdate operatorSetUpdate)
include timed services

theorem Timed.sound (stores : state.database.Stores between database stateRootUpdate operatorSetUpdate) :
    stateRootUpdates.Sound StateRootUpdate.timestamp (HasRow stateRootKey database.stateRootUpdates) ∧
    operatorSetUpdates.Sound OperatorSetUpdateMessage.timestamp
      (HasRow OperatorSetUpdateMessage.id database.operatorSetUpdates) := by
  cases services with
  | stateRootUpdate advanced =>
    exact ⟨(timed.stateRootUpdates.advance advanced).2 _ stores.stateRootUpdates.kept stores.stateRootUpdates.stored,
      timed.operatorSetUpdates.mono stores.operatorSetUpdates.kept⟩
  | operatorSetUpdate advanced =>
    exact ⟨timed.stateRootUpdates.mono stores.stateRootUpdates.kept,
      (timed.operatorSetUpdates.advance advanced).2 _ stores.operatorSetUpdates.kept stores.operatorSetUpdates.stored⟩

theorem Timed.recent :
    (∀ message, stateRootUpdate = some message →
      HasRow stateRootKey state.database.stateRootUpdates message ∨ state.clock ≤ message.timestamp.toNat + 60) ∧
    ∀ message, operatorSetUpdate = some message →
      HasRow OperatorSetUpdateMessage.id state.database.operatorSetUpdates message ∨
        state.clock ≤ message.timestamp.toNat + 60 := by
  cases services with
  | stateRootUpdate advanced => exact ⟨(timed.stateRootUpdates.advance advanced).1, nofun⟩
  | operatorSetUpdate advanced => exact ⟨nofun, (timed.operatorSetUpdates.advance advanced).1⟩

/-- No created task sees a difference when a response is stored: a message without a row was accepted just now, after
the end of the task's range. -/
theorem Timed.created_stored (stores : state.database.Stores between database stateRootUpdate operatorSetUpdate) :
    ∀ record ∈ state.created.map fun record => { record with moments := record.moments ++ [between, database] },
      record.Ended state.clock database := by
  obtain ⟨recent, recent'⟩ := timed.recent services
  refine List.forall_mem_map.mpr fun record created => ?_
  have ended := timed.created record created
  apply ended.see
  · simp only [Database.contents, stores.stateRootUpdates.unfinished, stores.operatorSetUpdates.unfinished]
  · simp only [Database.contents]
    rw [stores.stateRootUpdates.unchanged, stores.operatorSetUpdates.unchanged]
    · exact fun message collected => (recent' message collected).imp_right ended.lt
    · exact fun message collected => (recent message collected).imp_right ended.lt

end Services

theorem Timed.step (timed : Timed state) (step : TimedStep scheme state after) : Timed after := by
  cases step with
  | tick later =>
    refine { timed with sending := fun sending member => ?_, created := fun record created => ?_ }
    · exact ⟨(timed.sending sending member).1, (timed.sending sending member).2.trans later⟩
    · exact { timed.created record created with ended := (timed.created record created).ended.trans later }
  | collect services =>
    obtain ⟨stateRootUpdates, operatorSetUpdates⟩ :=
      timed.sound services ⟨.refl timed.full.stateRootUpdates _, .refl timed.full.operatorSetUpdates _⟩
    exact { timed with stateRootUpdates, operatorSetUpdates }
  | store services stores =>
    have stores := stores timed.full
    obtain ⟨stateRootUpdates, operatorSetUpdates⟩ := timed.sound services stores
    exact ⟨stateRootUpdates, operatorSetUpdates, ⟨stores.stateRootUpdates.full, stores.operatorSetUpdates.full⟩,
      timed.sending, timed.created_stored services stores⟩
  | readBlock range => exact { timed with sending := List.forall_mem_cons.mpr ⟨range, timed.sending⟩ }
  | @readLastCheckpoint position sending _ found =>
    refine { timed with sending := fun other member => ?_ }
    rcases List.mem_or_eq_of_mem_set member with old | rfl
    · exact timed.sending other old
    · exact timed.sending sending (List.mem_of_getElem? found)
  | rejectTask position =>
    exact { timed with sending := fun other member => timed.sending other (List.mem_of_mem_eraseIdx member) }
  | @createTask position sending taskIndex task manager found range =>
    have inside := timed.sending sending (List.mem_of_getElem? found)
    have to_eq := checkpointToTimestamp_toNat sending.blockTime
    have bound := sending.blockTime.isLt
    refine { timed with
      sending := fun other member => timed.sending other (List.mem_of_mem_eraseIdx member)
      created := List.forall_mem_cons.mpr ⟨⟨?_, List.mem_singleton_self _, ?_⟩, timed.created⟩ }
    · dsimp only
      rw [range]
      omega
    · intro moment seen
      rw [List.mem_singleton.mp seen]
  | transact => exact { timed with }

theorem Database.Keyed.step (keyed : state.database.Keyed) (full : state.database.Full)
    (step : TimedStep scheme state after) : after.database.Keyed := by
  cases step with
  | store services stores =>
    have stores := stores full
    exact ⟨stores.stateRootUpdates.keyed keyed.stateRootUpdates,
      stores.operatorSetUpdates.keyed keyed.operatorSetUpdates⟩
  | _ => exact keyed

end Steps

/-! ## Whole runs -/

section Runs
variable {Evidence Sig Key : Type} [AddCommGroup Sig] [AddCommGroup Key] {keccak256 : Bytes → Bytes32}
  {window checkpointInterval : Uint 32} {scheme : SignatureScheme Sig Key}
  {state : TimedAggregator keccak256 Sig Key} {history : List (TimedEvent Evidence Sig Key)}

theorem timed_of_run (run : (timedAggregators keccak256 window checkpointInterval scheme Evidence).Run history state) :
    Timed state := by
  refine run.invariant (fun _ => Timed) ?_ ?_
  · rintro state ⟨stateRootUpdates, operatorSetUpdates, full, sending, created⟩
    refine ⟨?_, ?_, full, ?_, ?_⟩
    · rw [stateRootUpdates]
      exact ⟨nofun, nofun⟩
    · rw [operatorSetUpdates]
      exact ⟨nofun, nofun⟩
    · rw [sending]
      nofun
    · rw [created]
      nofun
  · intro history state event after timed _ one
    exact timed.step (timedStep_of_advance one)

/-- Whenever the tables are read after a task was created, its messages are the same, and so is every operator's
answer. -/
theorem checkpoints_frozen
    (run : (timedAggregators keccak256 window checkpointInterval scheme Evidence).Run history state)
    {record : CreatedTask Sig Key} (created : record ∈ state.created) :
    state.database ∈ record.moments ∧
    ∀ first ∈ record.moments, ∀ second ∈ record.moments, ∀ third ∈ record.moments, ∀ fourth ∈ record.moments,
      record.fetched first second = record.fetched third fourth ∧
      ∀ smt, processCheckpointTask keccak256 smt first second record.taskIndex record.task =
        processCheckpointTask keccak256 smt third fourth record.taskIndex record.task := by
  have ended := (timed_of_run run).created record created
  refine ⟨ended.current, fun first inFirst second inSecond third inThird fourth inFourth => ?_⟩
  have same : record.fetched first second = record.fetched third fourth :=
    record.fetched_congr ((ended.same first inFirst).trans (ended.same third inThird).symm)
      ((ended.same second inSecond).trans (ended.same fourth inFourth).symm)
  refine ⟨same, fun smt => ?_⟩
  rw [processCheckpointTask_eq, processCheckpointTask_eq, same]

end Runs

/-! ## A block after the range -/

def stampedBlock (blockHeight timestamp : Uint 64) : StateRootUpdate := { firstBlock 5 with blockHeight, timestamp }

def loneResults : RegistryResults (ZMod 7) :=
  ⟨none, some (smallTable [(1, 40)]), some (Map.empty.insert 0 ⟨40, generatorMultiple 1⟩)⟩

def loneInfo : ValidationInfo (ZMod 7) where
  operatorsAvsStateDict := smallTable [(1, 40)]
  totalStakePerQuorum quorumNum :=
    ((Map.empty.insert 0 ⟨40, generatorMultiple 1⟩ : Map QuorumNum QuorumAvsState) quorumNum).map (·.totalStake)
  quorumApksG1 := [some (generatorMultiple 1)]
  quorumThresholdPercentagesMap := Map.empty.insert 0 66
  quorumNumbers := [0]
  ethBlockNumber := 1
  percentages_valid _ _ found := (Map.insert_empty_eq_some.mp found).2 ▸ twoThirds_valid

def loneOrders : Orders loneInfo :=
  let orders := smallOrders [(1, 40)] 66 twoThirds_valid (List.nodup_singleton _)
  ⟨orders.operators, orders.thresholds, orders.signed, orders.operators_visits, orders.thresholds_visits,
    orders.signed_visits⟩

def laterMessage : SignedMessage (stateRootUpdateMessages foldedBytes) (ZMod 7) :=
  ⟨stampedBlock 2 130, _, smallScheme.sign 1 ((stampedBlock 2 130).hash foldedBytes), multipleHash 1, rfl⟩

def waitingService : Service (stateRootUpdateMessages foldedBytes) (ZMod 7) (ZMod 7) where
  signedMessageCs := Map.empty.insert (stampedBlock 2 130).index 0
  nextChannel := 1
  initializations := []
  readers := [⟨(stampedBlock 2 130).index, 0, loneInfo, Round.initial loneInfo⟩]
  submitters := [⟨0, laterMessage⟩]

def aggregation90 : MessageBlsAggregation (ZMod 7) (ZMod 7) :=
  ⟨1, (stampedBlock 1 90).hash foldedBytes, [], [], some 1, some 1, .empty⟩

def storedDatabase : Database (ZMod 7) (ZMod 7) := ⟨[⟨stampedBlock 1 90, some aggregation90⟩], []⟩

def aggregatorAt180 : TimedAggregator foldedBytes (ZMod 7) (ZMod 7) :=
  ⟨180, ⟨newMessageBlsAggregatorService, []⟩, ⟨newMessageBlsAggregatorService, []⟩, storedDatabase, [],
    initializeTaskManager 1 2 3, []⟩

def waitingAggregator (manager : TaskManager) (record : CreatedTask (ZMod 7) (ZMod 7)) :
    TimedAggregator foldedBytes (ZMod 7) (ZMod 7) :=
  ⟨180, ⟨waitingService, [(stampedBlock 2 130, 180)]⟩, ⟨newMessageBlsAggregatorService, []⟩, storedDatabase, [], manager,
    [record]⟩

def createThenSign : List (TimedEvent Unit (ZMod 7) (ZMod 7)) :=
  [.readBlock 180, .readLastCheckpoint 0, .createTask 0 (generatorAt 200),
    .stateRootUpdate (.initializeMessage ⟨(stampedBlock 2 130).index, [0], [66], 1⟩),
    .stateRootUpdate (.readRegistry 0 loneResults),
    .stateRootUpdate (.processNewSignature laterMessage.message laterMessage.blsSignature laterMessage.operatorId)]

theorem aggregatorAt180_initial : (timedAggregators foldedBytes 30 60000 smallScheme Unit).initial aggregatorAt180 := by
  refine ⟨rfl, rfl, ⟨fun row member => ?_, nofun⟩, rfl, rfl⟩
  rw [List.mem_singleton.mp member]
  rfl

theorem createThenSign_run : ∃ manager record,
    ((timedAggregators foldedBytes 30 60000 smallScheme Unit).startingAt aggregatorAt180).Run createThenSign
      (waitingAggregator manager record) ∧
    record.moments = [storedDatabase] ∧ record.task.fromTimestamp = 30 ∧ record.task.toTimestamp = 90 := by
  have sound : ∀ state event after, state.advance 30 60000 smallScheme event = some after →
      ((timedAggregators foldedBytes 30 60000 smallScheme Unit).startingAt aggregatorAt180).step state event after :=
    fun _ _ _ one => one
  exact ⟨_, _, .of_steps sound rfl rfl, rfl, rfl, rfl⟩

theorem Orders.exists_extension {Key : Type} {info : ValidationInfo Key} (orders : Orders info) :
    ∃ all : (other : ValidationInfo Key) → Orders other, all info = orders := by
  classical
  refine ⟨fun other => if same : other = info then same ▸ orders else Classical.choice (Orders.nonempty other), ?_⟩
  exact dif_pos rfl

theorem checkpoints_frozen_later_block :
    ∃ history state record first between last,
      (timedAggregators foldedBytes 30 60000 smallScheme Unit).Run history state ∧
      state.created = [record] ∧ record.moments = [first, between, last] ∧ last.stateRootUpdates.length = 2 ∧
      record.fetched first first = .ok ([stampedBlock 1 90], []) ∧
      record.fetched last last = .ok ([stampedBlock 1 90], []) := by
  obtain ⟨manager, record, started, moments, starts, ends⟩ := createThenSign_run
  have run := started.of_startingAt aggregatorAt180_initial
  obtain ⟨orders, loneOrders_eq⟩ := Orders.exists_extension loneOrders
  let effect := signedPreThreshold smallScheme loneInfo (Round.initial loneInfo) laterMessage
    (some CheckSignaturesIndices.empty) loneOrders
  have responded : effect.read.bind Response.collected = some (stampedBlock 2 130) := by
    decide +kernel
  obtain ⟨response, read, collected⟩ := Option.bind_eq_some_iff.mp responded
  obtain ⟨_, sent, _⟩ := Option.map_eq_some_iff.mp read
  obtain ⟨noError, carried⟩ := Response.collected_eq_some.mp collected
  have taken : (Round.initial loneInfo).step smallScheme loneInfo (stampedBlock 2 130).index
      (.signed laterMessage (some CheckSignaturesIndices.empty) loneOrders) = some effect := rfl
  have collects : ∃ after, (waitingAggregator manager record).stateRootUpdates.advance StateRootUpdate.timestamp smallScheme
      180 (.receive 0 0 (some CheckSignaturesIndices.empty) orders) = some (after, effect.read) := by
    refine Collector.advance_receive rfl rfl rfl (List.mem_singleton_self _) ?_ (step_running taken sent)
    rw [loneOrders_eq]
    exact taken
  obtain ⟨after, collects⟩ := collects
  have stored : ∃ between last : Database (ZMod 7) (ZMod 7), last.stateRootUpdates.length = 2 ∧
      handleArrival storedDatabase (.stateRootUpdate response ⟨true, false⟩) = some between ∧
      handleArrival storedDatabase (.stateRootUpdate response ⟨true, true⟩) = some last := by
    simp only [handleArrival, handleStateRootUpdateReachedQuorum, handleReachedQuorum, noError, carried]
    exact ⟨_, _, rfl, rfl, rfl⟩
  obtain ⟨between, last, rows, first, second⟩ := stored
  have one : (waitingAggregator manager record).advance 30 60000 smallScheme
      (.stateRootUpdate (.receive 0 0 (some CheckSignaturesIndices.empty) orders) : TimedEvent Unit _ _) =
        some { waitingAggregator manager record with
          stateRootUpdates := after
          database := last
          created := [{ record with moments := record.moments ++ [between, last] }] } := by
    simp only [TimedAggregator.advance, waitingAggregator, Option.bind_eq_bind, TimedAggregator.store] at collects ⊢
    simp only [collects, read, Option.bind_some, first, second]
    rfl
  have frozen := (checkpoints_frozen (run.next trivial one) (List.mem_singleton_self _)).2
  rw [moments] at frozen
  have same := (frozen storedDatabase (by simp) storedDatabase (by simp) last (by simp) last (by simp)).1
  have contents : record.fetched storedDatabase storedDatabase = .ok ([stampedBlock 1 90], []) := by
    simp only [CreatedTask.fetched, starts, ends]
    rfl
  refine ⟨_, _, _, storedDatabase, between, last, run.next trivial one, rfl, ?_, rows, contents, same.symm.trans contents⟩
  rw [moments]
  rfl

end Sffl.Aggregator
