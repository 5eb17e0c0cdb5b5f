import Sffl.Aggregator.FrozenCheckpoints
import Sffl.Aggregator.ServiceSteps
import Sffl.Core.Digest

/-! A checkpoint task in the aggregator, from its creation to the response on the chain.

`sendNewCheckpointTask` keeps the task that it has created in a map and starts the
aggregation of responses. `sendAggregatedResponseToContract` looks the task up when
the aggregation has finished, and deletes it from the map when it returns. Both run
as goroutines of their own, and any number of them at a time.
-/

set_option autoImplicit false

namespace Sffl.Aggregator

open Sffl.Evm Sffl.Eth Sffl.Golang Sffl.Semantics

def TASK_AGGREGATION_QUORUM_THRESHOLD : QuorumThresholdPercentage := 66

/-- The last four bytes of the key are the task's index. -/
def taskKey (taskIndex : Uint 32) : MessageKey := word taskIndex

def checkpointTaskResponseKeyToTaskIndex (messageKey : MessageKey) : Uint 32 := messageKey.setWidth 32

theorem checkpointTaskResponseKeyToTaskIndex_taskKey (taskIndex : Uint 32) :
    checkpointTaskResponseKeyToTaskIndex (taskKey taskIndex) = taskIndex := by
  unfold checkpointTaskResponseKeyToTaskIndex taskKey word
  rw [BitVec.setWidth_setWidth_of_le _ (by decide), BitVec.setWidth_eq]

theorem taskKey_injective : Function.Injective taskKey :=
  Function.LeftInverse.injective checkpointTaskResponseKeyToTaskIndex_taskKey

def taskResponseMessages (keccak256 : Bytes → Bytes32) : MessageInterface TaskResponse :=
  ⟨fun message => (Core.Message.checkpointTaskResponse message).digest keccak256,
    fun message => taskKey message.referenceTaskIndex⟩

/-! ## The goroutines -/

structure TaskCreation where
  taskIndex : Uint 32
  task : Task
  stored : Bool

inductive SendingStage where
  | started
  | read (task : Task)
  | sent

structure SendingResponse (Sig Key : Type) where
  response : Response TaskResponse Sig Key
  stage : SendingStage

structure TaskAggregator (keccak256 : Bytes → Bytes32) (Sig Key : Type) where
  chain : TaskManager × List CheckpointEvent
  creations : List TaskCreation
  tasks : Map (Uint 32) Task
  taskBlsAggregationService : Service (taskResponseMessages keccak256) Sig Key
  sending : List (SendingResponse Sig Key)
  /-- What was given to `SendAggregatedResponse`. -/
  sent : List (Task × TaskResponse)

inductive TaskEvent (Evidence Sig Key : Type) where
  | transact (call : Environment Evidence × TaskInvocation Evidence)
  | createTask (blockTime lastCheckpointToTimestamp : Uint 64) (environment : Environment Evidence)
  | storeTask (position : Nat)
  | initializeTask (position : Nat)
  | aggregate (action : Action TaskResponse Sig Key)
  | readTask (position : Nat)
  | sendResponse (position : Nat) (environment : Environment Evidence) (nonSignerStakesAndSignature : Evidence)
  | deleteTask (position : Nat)

section Machine
variable {Evidence Sig Key : Type} {keccak256 : Bytes → Bytes32}

def TaskCreation.request (creation : TaskCreation) : MessageRequest where
  messageKey := taskKey creation.taskIndex
  quorumNumbers := creation.task.quorumNumbers
  quorumThresholdPercentages := creation.task.quorumNumbers.map fun _ => TASK_AGGREGATION_QUORUM_THRESHOLD
  ethBlockNumber := creation.task.taskCreatedBlock.setWidth 64

def createdTasks (events : List CheckpointEvent) : List TaskCreation :=
  events.filterMap fun event => match event with
    | .created taskIndex task => some ⟨taskIndex, task, false⟩
    | _ => none

/-- Go reads a missing task as a zero one. -/
def zeroTask : Task := ⟨0, 0, 0, 0, []⟩

def startSending (response : Option (Response TaskResponse Sig Key)) (sending : List (SendingResponse Sig Key)) :
    List (SendingResponse Sig Key) :=
  -- a goroutine is started for a response that is finished
  match response with
  | some response => if response.finished then ⟨response, .started⟩ :: sending else sending
  | none => sending

variable [AddCommGroup Sig] [AddCommGroup Key] (window checkpointInterval : Uint 32) (scheme : SignatureScheme Sig Key)

def TaskAggregator.step (state : TaskAggregator keccak256 Sig Key) :
    TaskEvent Evidence Sig Key → Option (TaskAggregator keccak256 Sig Key)
  | .transact call => some { state with chain := transact keccak256 window state.chain call }
  | .createTask blockTime lastCheckpointToTimestamp environment =>
    match sendNewCheckpointTask keccak256 checkpointInterval blockTime lastCheckpointToTimestamp state.chain.1 environment with
    | .error _ => some state
    | .ok (manager, events) => some { state with
        chain := (manager, state.chain.2 ++ events)
        creations := createdTasks events ++ state.creations }
  | .storeTask position => do
    let creation ← state.creations[position]?
    if creation.stored then none
    else some { state with
      creations := state.creations.set position { creation with stored := true }
      tasks := state.tasks.insert creation.taskIndex creation.task }
  | .initializeTask position => do
    let creation ← state.creations[position]?
    if creation.stored then
      match state.taskBlsAggregationService.act scheme (.initializeMessage creation.request) with
      | some (.continues taskBlsAggregationService _) => some { state with
          creations := state.creations.eraseIdx position
          taskBlsAggregationService }
      | _ => none
    else none
  | .aggregate (.initializeMessage _) => none
  | .aggregate action =>
    match state.taskBlsAggregationService.act scheme action with
    | some (.continues taskBlsAggregationService _) => some { state with
        taskBlsAggregationService
        sending := startSending (state.taskBlsAggregationService.response scheme action) state.sending }
    | _ => none
  | .readTask position => do
    let call ← state.sending[position]?
    match call.stage, call.response.err, call.response.message with
    | .started, none, some taskResponse =>
      let task := (state.tasks taskResponse.referenceTaskIndex).getD zeroTask
      some { state with sending := state.sending.set position { call with stage := .read task } }
    | _, _, _ => none
  | .sendResponse position environment nonSignerStakesAndSignature => do
    let call ← state.sending[position]?
    match call.stage, call.response.message with
    | .read task, some taskResponse => some { state with
        chain := transact keccak256 window state.chain
          (environment, .respondToCheckpointTask task taskResponse nonSignerStakesAndSignature)
        sending := state.sending.set position { call with stage := .sent }
        sent := state.sent ++ [(task, taskResponse)] }
    | _, _ => none
  | .deleteTask position => do
    let call ← state.sending[position]?
    -- the deferred call runs on every return, but without an error the task is read first
    match call.stage, call.response.err with
    | .started, none => none
    | _, _ => some { state with
        tasks := state.tasks.delete (checkpointTaskResponseKeyToTaskIndex call.response.messageKey)
        sending := state.sending.eraseIdx position }

/-- The aggregator starts on a contract that may have a history. -/
def taskAggregators (keccak256 : Bytes → Bytes32) (Evidence : Type) :
    System (TaskAggregator keccak256 Sig Key) (TaskEvent Evidence Sig Key) where
  initial state := ∃ initialOwner aggregator generator,
    state = ⟨(initializeTaskManager initialOwner aggregator generator, []), [], Map.empty, newMessageBlsAggregatorService, [], []⟩
  step state event after := state.step window checkpointInterval scheme event = some after

end Machine

/-! ## Tasks on the chain -/

/-- An index is never used twice, and a task's hash stays where it is. -/
structure Logged (keccak256 : Bytes → Bytes32) (chain : TaskManager × List CheckpointEvent) : Prop where
  known : ∀ taskIndex task, .created taskIndex task ∈ chain.2 → taskIndex < chain.1.nextCheckpointTaskNum ∧
    chain.1.allCheckpointTaskHashes taskIndex = task.hash keccak256
  unique : ∀ taskIndex task other, .created taskIndex task ∈ chain.2 → .created taskIndex other ∈ chain.2 → task = other

section Chain
variable {Evidence : Type} {keccak256 : Bytes → Bytes32} {window : Uint 32} {chain : TaskManager × List CheckpointEvent}
  {environment : Environment Evidence} {invocation : TaskInvocation Evidence} {manager : TaskManager}
  {events : List CheckpointEvent}

theorem Logged.create (logged : Logged keccak256 chain) {task : Task}
    (next : manager.nextCheckpointTaskNum.toNat = chain.1.nextCheckpointTaskNum.toNat + 1)
    (hashes : manager.allCheckpointTaskHashes =
      Function.update chain.1.allCheckpointTaskHashes chain.1.nextCheckpointTaskNum (task.hash keccak256)) :
    Logged keccak256 (manager, chain.2 ++ [.created chain.1.nextCheckpointTaskNum task]) := by
  have cases {taskIndex : Uint 32} {other : Task}
      (listed : .created taskIndex other ∈ chain.2 ++ [.created chain.1.nextCheckpointTaskNum task]) :
      .created taskIndex other ∈ chain.2 ∨ taskIndex = chain.1.nextCheckpointTaskNum ∧ other = task := by
    rcases List.mem_append.mp listed with old | new
    · exact .inl old
    · cases List.mem_singleton.mp new
      exact .inr ⟨rfl, rfl⟩
  constructor
  · intro taskIndex other listed
    rw [lt_next_iff next, hashes]
    rcases cases listed with old | ⟨rfl, rfl⟩
    · obtain ⟨below, hash⟩ := logged.known taskIndex other old
      rw [Function.update_of_ne (BitVec.ne_of_lt below)]
      exact ⟨.inl below, hash⟩
    · rw [Function.update_self]
      exact ⟨.inr rfl, rfl⟩
  · intro taskIndex first second listed listed'
    rcases cases listed with old | ⟨same, rfl⟩
    · rcases cases listed' with old' | ⟨same, _⟩
      · exact logged.unique taskIndex first second old old'
      · have below := (logged.known taskIndex first old).1
        exact absurd same (BitVec.ne_of_lt below)
    · rcases cases listed' with old' | ⟨_, rfl⟩
      · have below := (logged.known taskIndex second old').1
        exact absurd same (BitVec.ne_of_lt below)
      · rfl

theorem Logged.keep (logged : Logged keccak256 chain) (next : manager.nextCheckpointTaskNum = chain.1.nextCheckpointTaskNum)
    (hashes : manager.allCheckpointTaskHashes = chain.1.allCheckpointTaskHashes)
    (emitted : ∀ taskIndex task, .created taskIndex task ∉ events) : Logged keccak256 (manager, chain.2 ++ events) := by
  have old {taskIndex : Uint 32} {task : Task} (listed : .created taskIndex task ∈ chain.2 ++ events) :
      .created taskIndex task ∈ chain.2 :=
    (List.mem_append.mp listed).resolve_right (emitted taskIndex task)
  constructor
  · intro taskIndex task listed
    rw [next, hashes]
    exact logged.known taskIndex task (old listed)
  · intro taskIndex first second listed listed'
    exact logged.unique taskIndex first second (old listed) (old listed')

theorem Logged.execute (logged : Logged keccak256 chain)
    (executed : chain.1.execute keccak256 window environment invocation = .ok (manager, events)) :
    Logged keccak256 (manager, chain.2 ++ events) := by
  cases execute_change executed with
  | created _ _ _ _ _ _ _ next _ hashes _ emitted =>
    rw [emitted]
    exact logged.create next hashes
  | responded _ _ _ _ _ _ _ _ _ _ _ _ _ next _ hashes _ emitted =>
    rw [emitted]
    exact logged.keep next hashes (by simp)
  | kept _ next _ hashes _ emitted => exact logged.keep next hashes emitted

theorem Logged.transact (logged : Logged keccak256 chain) (call : Environment Evidence × TaskInvocation Evidence) :
    Logged keccak256 (Eth.transact keccak256 window chain call) := by
  unfold Eth.transact
  split
  next => exact logged
  next executed => exact logged.execute executed

theorem log_subset_transact (call : Environment Evidence × TaskInvocation Evidence) :
    chain.2 ⊆ (Eth.transact keccak256 window chain call).2 := by
  unfold Eth.transact
  split
  next => exact List.Subset.refl _
  next => exact List.subset_append_left _ _

end Chain

/-! ## What a step does -/

section Steps
variable {Evidence Sig Key : Type} [AddCommGroup Sig] [AddCommGroup Key] {keccak256 : Bytes → Bytes32}

inductive TaskStep (Evidence : Type) (window : Uint 32) (scheme : SignatureScheme Sig Key)
    (state : TaskAggregator keccak256 Sig Key) : TaskAggregator keccak256 Sig Key → Prop where
  | transacted (call : Environment Evidence × TaskInvocation Evidence) :
      TaskStep Evidence window scheme state { state with chain := transact keccak256 window state.chain call }
  | uncreated : TaskStep Evidence window scheme state state
  | created {manager : TaskManager} {task : Task}
      (logged : Logged keccak256 state.chain →
        Logged keccak256 (manager, state.chain.2 ++ [.created state.chain.1.nextCheckpointTaskNum task])) :
      TaskStep Evidence window scheme state { state with
        chain := (manager, state.chain.2 ++ [.created state.chain.1.nextCheckpointTaskNum task])
        creations := ⟨state.chain.1.nextCheckpointTaskNum, task, false⟩ :: state.creations }
  | stored {position : Nat} {creation : TaskCreation} (found : state.creations[position]? = some creation) :
      TaskStep Evidence window scheme state { state with
        creations := state.creations.set position { creation with stored := true }
        tasks := state.tasks.insert creation.taskIndex creation.task }
  | initialized {position : Nat} {creation : TaskCreation} {service : Service (taskResponseMessages keccak256) Sig Key}
      (found : state.creations[position]? = some creation) (stored : creation.stored = true)
      (step : ActionStep scheme state.taskBlsAggregationService (.initializeMessage creation.request) service none) :
      TaskStep Evidence window scheme state { state with
        creations := state.creations.eraseIdx position
        taskBlsAggregationService := service }
  | aggregated {action : Action TaskResponse Sig Key} {service : Service (taskResponseMessages keccak256) Sig Key}
      {response : Option (Response TaskResponse Sig Key)} (other : ∀ request, action ≠ .initializeMessage request)
      (step : ActionStep scheme state.taskBlsAggregationService action service response) :
      TaskStep Evidence window scheme state { state with
        taskBlsAggregationService := service
        sending := startSending response state.sending }
  | read {position : Nat} {call : SendingResponse Sig Key} {taskResponse : TaskResponse}
      (found : state.sending[position]? = some call) (started : call.stage = .started)
      (carried : call.response.message = some taskResponse) : TaskStep Evidence window scheme state { state with
        sending := state.sending.set position
          { call with stage := .read ((state.tasks taskResponse.referenceTaskIndex).getD zeroTask) } }
  | sent {position : Nat} {call : SendingResponse Sig Key} {task : Task} {taskResponse : TaskResponse}
      (transaction : Environment Evidence × TaskInvocation Evidence) (found : state.sending[position]? = some call)
      (read : call.stage = .read task) (carried : call.response.message = some taskResponse) :
      TaskStep Evidence window scheme state { state with
        chain := transact keccak256 window state.chain transaction
        sending := state.sending.set position { call with stage := .sent }
        sent := state.sent ++ [(task, taskResponse)] }
  | deleted {position : Nat} {call : SendingResponse Sig Key} (found : state.sending[position]? = some call) :
      TaskStep Evidence window scheme state { state with
        tasks := state.tasks.delete (checkpointTaskResponseKeyToTaskIndex call.response.messageKey)
        sending := state.sending.eraseIdx position }

variable {window checkpointInterval : Uint 32} {scheme : SignatureScheme Sig Key}
  {state after : TaskAggregator keccak256 Sig Key} {event : TaskEvent Evidence Sig Key}

theorem taskStep_of_createTask {blockTime lastCheckpointToTimestamp : Uint 64} {environment : Environment Evidence}
    (one : state.step window checkpointInterval scheme
      (.createTask blockTime lastCheckpointToTimestamp environment) = some after) :
    TaskStep Evidence window scheme state after := by
  simp only [TaskAggregator.step] at one
  split at one
  next =>
    cases one
    exact .uncreated
  next manager events sent =>
    cases one
    have change : CheckpointChange keccak256 window state.chain.1 manager environment _ events := createCheckpointTask_change sent
    cases change with
    | created _ _ _ _ _ _ _ next _ hashes _ emitted =>
      subst emitted
      exact .created fun logged => logged.create next hashes
    | responded _ _ _ _ _ call => cases call
    | kept other => exact absurd rfl (other _ _ _ _)

theorem taskStep_of_aggregate {action : Action TaskResponse Sig Key}
    (one : state.step window checkpointInterval scheme (.aggregate action : TaskEvent Evidence Sig Key) = some after) :
    TaskStep Evidence window scheme state after := by
  cases action with
  | initializeMessage => cases one
  | _ =>
    simp only [TaskAggregator.step] at one
    split at one
    next done =>
      cases one
      exact .aggregated (by simp) (actionStep_of_act done)
    next => cases one

theorem taskStep_of_step (one : state.step window checkpointInterval scheme event = some after) :
    TaskStep Evidence window scheme state after := by
  cases event with
  | transact call =>
    cases one
    exact .transacted call
  | createTask => exact taskStep_of_createTask one
  | storeTask position =>
    obtain ⟨creation, found, rest⟩ := Option.bind_eq_some_iff.mp one
    split at rest
    next => cases rest
    next =>
      cases rest
      exact .stored found
  | initializeTask position =>
    obtain ⟨creation, found, rest⟩ := Option.bind_eq_some_iff.mp one
    split at rest
    next stored =>
      split at rest
      next done =>
        cases rest
        exact .initialized found stored (actionStep_of_act done)
      next => cases rest
    next => cases rest
  | aggregate action => exact taskStep_of_aggregate one
  | readTask position =>
    obtain ⟨call, found, rest⟩ := Option.bind_eq_some_iff.mp one
    split at rest
    next started _ carried =>
      cases rest
      exact .read found started carried
    next => cases rest
  | sendResponse position environment evidence =>
    obtain ⟨call, found, rest⟩ := Option.bind_eq_some_iff.mp one
    split at rest
    next read carried =>
      cases rest
      exact .sent _ found read carried
    next => cases rest
  | deleteTask position =>
    obtain ⟨call, found, rest⟩ := Option.bind_eq_some_iff.mp one
    split at rest
    next => cases rest
    next =>
      cases rest
      exact .deleted found

end Steps

/-! ## One task, one response -/

section Sound
variable {Sig Key : Type} {keccak256 : Bytes → Bytes32}

def SendingResponse.unsent (call : SendingResponse Sig Key) : Bool :=
  match call.stage with
  | .sent => false
  | _ => true

namespace TaskAggregator

/-! Of the calls for a task: those that create it, those of its aggregation, and those that send and delete. -/

def creating (state : TaskAggregator keccak256 Sig Key) (messageKey : MessageKey) : Nat :=
  state.creations.countP fun creation => taskKey creation.taskIndex = messageKey

def responding (state : TaskAggregator keccak256 Sig Key) (messageKey : MessageKey) : Nat :=
  state.sending.countP fun call => call.response.messageKey = messageKey

def unsent (state : TaskAggregator keccak256 Sig Key) (messageKey : MessageKey) : Nat :=
  state.sending.countP fun call => call.response.messageKey = messageKey && call.unsent

def responses (state : TaskAggregator keccak256 Sig Key) (messageKey : MessageKey) : Nat :=
  state.sent.countP fun response => taskKey response.2.referenceTaskIndex = messageKey

end TaskAggregator

structure TaskAggregator.Sound (state : TaskAggregator keccak256 Sig Key) : Prop where
  owned : ∃ keyOf, state.taskBlsAggregationService.Owned keyOf
  logged : Logged keccak256 state.chain
  created : ∀ creation ∈ state.creations, .created creation.taskIndex creation.task ∈ state.chain.2
  stored : ∀ creation ∈ state.creations, creation.stored = true →
    state.tasks creation.taskIndex = some creation.task
  tasks : ∀ taskIndex task, state.tasks taskIndex = some task → .created taskIndex task ∈ state.chain.2
  /-- While a task is aggregated or answered, it is in the map. -/
  known : ∀ messageKey, 0 < state.taskBlsAggregationService.pending messageKey + state.responding messageKey →
    ∃ taskIndex task, messageKey = taskKey taskIndex ∧ state.tasks taskIndex = some task
  alone : ∀ messageKey, state.creating messageKey + state.taskBlsAggregationService.pending messageKey +
    state.responding messageKey ≤ 1
  once : ∀ messageKey, state.creating messageKey + state.taskBlsAggregationService.pending messageKey +
    state.unsent messageKey + state.responses messageKey ≤ 1
  carries : ∀ call ∈ state.sending, ∀ taskResponse, call.response.message = some taskResponse →
    taskKey taskResponse.referenceTaskIndex = call.response.messageKey
  reads : ∀ call ∈ state.sending, ∀ task taskResponse, call.stage = .read task →
    call.response.message = some taskResponse → .created taskResponse.referenceTaskIndex task ∈ state.chain.2
  sent : ∀ response ∈ state.sent, .created response.2.referenceTaskIndex response.1 ∈ state.chain.2

variable {state after : TaskAggregator keccak256 Sig Key}

theorem TaskAggregator.Sound.grow (sound : state.Sound) {chain : TaskManager × List CheckpointEvent}
    (logged : Logged keccak256 chain) (grows : state.chain.2 ⊆ chain.2) :
    TaskAggregator.Sound { state with chain } where
  owned := sound.owned
  logged
  created := fun creation member => grows (sound.created creation member)
  stored := sound.stored
  tasks := fun taskIndex task found => grows (sound.tasks taskIndex task found)
  known := sound.known
  alone := sound.alone
  once := sound.once
  carries := sound.carries
  reads := fun call member task taskResponse stage carried => grows (sound.reads call member task taskResponse stage carried)
  sent := fun response member => grows (sound.sent response member)

theorem TaskAggregator.Sound.fresh (sound : state.Sound) {taskIndex : Uint 32}
    (new : ∀ task, .created taskIndex task ∉ state.chain.2) :
    state.creating (taskKey taskIndex) = 0 ∧ state.taskBlsAggregationService.pending (taskKey taskIndex) = 0 ∧
      state.responding (taskKey taskIndex) = 0 ∧ state.responses (taskKey taskIndex) = 0 := by
  have quiet : state.taskBlsAggregationService.pending (taskKey taskIndex) + state.responding (taskKey taskIndex) = 0 := by
    by_contra busy
    obtain ⟨other, task, same, found⟩ := sound.known _ (Nat.pos_of_ne_zero busy)
    cases taskKey_injective same
    exact new task (sound.tasks _ _ found)
  refine ⟨?_, by omega, by omega, ?_⟩
  · refine List.countP_eq_zero.mpr fun creation member same => ?_
    have index := taskKey_injective (of_decide_eq_true same)
    exact new creation.task (index ▸ sound.created creation member)
  · refine List.countP_eq_zero.mpr fun response member same => ?_
    have index := taskKey_injective (of_decide_eq_true same)
    exact new response.1 (index ▸ sound.sent response member)

theorem unsent_le_responding (state : TaskAggregator keccak256 Sig Key) (messageKey : MessageKey) :
    state.unsent messageKey ≤ state.responding messageKey := by
  apply List.countP_mono_left
  intro call _ both
  exact (Bool.and_eq_true_iff.mp both).1

theorem TaskAggregator.Sound.create (sound : state.Sound) {manager : TaskManager} {task : Task}
    (logged : Logged keccak256 (manager, state.chain.2 ++ [.created state.chain.1.nextCheckpointTaskNum task])) :
    TaskAggregator.Sound { state with
      chain := (manager, state.chain.2 ++ [.created state.chain.1.nextCheckpointTaskNum task])
      creations := ⟨state.chain.1.nextCheckpointTaskNum, task, false⟩ :: state.creations } := by
  have new : ∀ other, .created state.chain.1.nextCheckpointTaskNum other ∉ state.chain.2 := fun other listed =>
    BitVec.lt_irrefl _ (sound.logged.known _ other listed).1
  have grown := sound.grow logged (List.subset_append_left _ _)
  have counts (messageKey : MessageKey) : (⟨state.chain.1.nextCheckpointTaskNum, task, false⟩ :: state.creations).countP
      (fun creation => taskKey creation.taskIndex = messageKey) = state.creating messageKey +
        if taskKey state.chain.1.nextCheckpointTaskNum = messageKey then 1 else 0 := by
    rw [List.countP_cons]
    simp [TaskAggregator.creating]
  obtain ⟨creating, pending, responding, responses⟩ := sound.fresh new
  refine ⟨grown.owned, logged, ?_, ?_, grown.tasks, grown.known, ?_, ?_, grown.carries, grown.reads, grown.sent⟩
  · exact List.forall_mem_cons.mpr ⟨List.mem_append_right _ (List.mem_singleton_self _), grown.created⟩
  · exact List.forall_mem_cons.mpr ⟨nofun, grown.stored⟩
  · intro messageKey
    have before := sound.alone messageKey
    show List.countP _ (_ :: _) + state.taskBlsAggregationService.pending messageKey + state.responding messageKey ≤ 1
    rw [counts]
    split
    next same =>
      subst same
      omega
    next => omega
  · intro messageKey
    have before := sound.once messageKey
    have fewer := unsent_le_responding state messageKey
    show List.countP _ (_ :: _) + state.taskBlsAggregationService.pending messageKey + state.unsent messageKey +
      state.responses messageKey ≤ 1
    rw [counts]
    split
    next same =>
      subst same
      omega
    next => omega

theorem TaskAggregator.Sound.store (sound : state.Sound) {position : Nat} {creation : TaskCreation}
    (found : state.creations[position]? = some creation) : TaskAggregator.Sound { state with
      creations := state.creations.set position { creation with stored := true }
      tasks := state.tasks.insert creation.taskIndex creation.task } := by
  have listed := sound.created creation (List.mem_of_getElem? found)
  have counts (messageKey : MessageKey) : (state.creations.set position { creation with stored := true }).countP
      (fun creation => taskKey creation.taskIndex = messageKey) = state.creating messageKey := by
    exact Nat.add_right_cancel (countP_set _ found _)
  refine ⟨sound.owned, sound.logged, ?_, ?_, ?_, ?_, ?_, ?_, sound.carries, sound.reads, sound.sent⟩
  · intro other among
    rcases List.mem_or_eq_of_mem_set among with old | rfl
    · exact sound.created other old
    · exact listed
  · intro other among stored
    show state.tasks.insert creation.taskIndex creation.task other.taskIndex = some other.task
    have logged : .created other.taskIndex other.task ∈ state.chain.2 := by
      rcases List.mem_or_eq_of_mem_set among with old | rfl
      · exact sound.created other old
      · exact listed
    by_cases same : other.taskIndex = creation.taskIndex
    · rw [same] at logged ⊢
      rw [Map.insert_self, sound.logged.unique _ _ _ listed logged]
    · rw [Map.insert_of_ne _ _ same]
      rcases List.mem_or_eq_of_mem_set among with old | rfl
      · exact sound.stored other old stored
      · exact absurd rfl same
  · intro taskIndex task held
    replace held : state.tasks.insert creation.taskIndex creation.task taskIndex = some task := held
    by_cases same : taskIndex = creation.taskIndex
    · rw [same, Map.insert_self] at held
      cases held
      rw [same]
      exact listed
    · rw [Map.insert_of_ne _ _ same] at held
      exact sound.tasks taskIndex task held
  · intro messageKey busy
    obtain ⟨taskIndex, task, key, held⟩ := sound.known messageKey busy
    by_cases same : taskIndex = creation.taskIndex
    · refine ⟨taskIndex, creation.task, key, ?_⟩
      rw [same]
      exact Map.insert_self ..
    · exact ⟨taskIndex, task, key, (Map.insert_of_ne _ _ same).trans held⟩
  · intro messageKey
    show List.countP _ _ + state.taskBlsAggregationService.pending messageKey + state.responding messageKey ≤ 1
    rw [counts]
    exact sound.alone messageKey
  · intro messageKey
    show List.countP _ _ + state.taskBlsAggregationService.pending messageKey + state.unsent messageKey +
      state.responses messageKey ≤ 1
    rw [counts]
    exact sound.once messageKey

theorem TaskAggregator.Sound.initialize [AddCommGroup Sig] [AddCommGroup Key] {scheme : SignatureScheme Sig Key}
    (sound : state.Sound) {position : Nat} {creation : TaskCreation}
    {service : Service (taskResponseMessages keccak256) Sig Key} (found : state.creations[position]? = some creation)
    (stored : creation.stored = true)
    (step : ActionStep scheme state.taskBlsAggregationService (.initializeMessage creation.request) service none) :
    TaskAggregator.Sound { state with
      creations := state.creations.eraseIdx position
      taskBlsAggregationService := service } := by
  obtain ⟨keyOf, owned⟩ := sound.owned
  have held := sound.stored creation (List.mem_of_getElem? found) stored
  have counts (messageKey : MessageKey) : (state.creations.eraseIdx position).countP
      (fun creation => taskKey creation.taskIndex = messageKey) +
        (decide (taskKey creation.taskIndex = messageKey)).toNat = state.creating messageKey := countP_eraseIdx _ found
  have pending (messageKey : MessageKey) : service.pending messageKey ≤ state.taskBlsAggregationService.pending messageKey +
      (decide (taskKey creation.taskIndex = messageKey)).toNat := pending_step owned step messageKey
  have kept {other : TaskCreation} (among : other ∈ state.creations.eraseIdx position) : other ∈ state.creations :=
    List.mem_of_mem_eraseIdx among
  refine ⟨owned.step step, sound.logged, fun other among => sound.created other (kept among),
    fun other among => sound.stored other (kept among), sound.tasks, ?_, ?_, ?_, sound.carries, sound.reads, sound.sent⟩
  · intro messageKey busy
    replace busy : 0 < service.pending messageKey + state.responding messageKey := busy
    have more := pending messageKey
    by_cases same : taskKey creation.taskIndex = messageKey
    · exact ⟨creation.taskIndex, creation.task, same.symm, held⟩
    · rw [decide_eq_false same, Bool.toNat_false] at more
      exact sound.known messageKey (by omega)
  · intro messageKey
    have before := sound.alone messageKey
    have fewer := counts messageKey
    have more := pending messageKey
    show (state.creations.eraseIdx position).countP _ + service.pending messageKey + state.responding messageKey ≤ 1
    omega
  · intro messageKey
    have before := sound.once messageKey
    have fewer := counts messageKey
    have more := pending messageKey
    show (state.creations.eraseIdx position).countP _ + service.pending messageKey + state.unsent messageKey +
      state.responses messageKey ≤ 1
    omega

/-- A goroutine is started exactly for a response that is its aggregation's last. -/
theorem countP_startSending (response : Option (Response TaskResponse Sig Key))
    (sending : List (SendingResponse Sig Key)) (messageKey : MessageKey) (p : SendingResponse Sig Key → Bool)
    (counted : ∀ response, p ⟨response, .started⟩ = decide (response.messageKey = messageKey)) :
    (startSending response sending).countP p = sending.countP p + (finishes response messageKey).toNat := by
  cases response with
  | none => rfl
  | some response =>
    simp only [startSending, finishes]
    cases response.finished with
    | false => rfl
    | true =>
      simp only [if_true, List.countP_cons, counted, Bool.true_and]
      cases decide (response.messageKey = messageKey) <;> rfl

theorem mem_startSending {response : Option (Response TaskResponse Sig Key)} {sending : List (SendingResponse Sig Key)}
    {call : SendingResponse Sig Key} (member : call ∈ startSending response sending) :
    call ∈ sending ∨ call.stage = .started ∧ response = some call.response := by
  unfold startSending at member
  split at member
  · split at member
    · rcases List.mem_cons.mp member with rfl | old
      · exact .inr ⟨rfl, rfl⟩
      · exact .inl old
    · exact .inl member
  · exact .inl member

theorem TaskAggregator.Sound.aggregate [AddCommGroup Sig] [AddCommGroup Key] {scheme : SignatureScheme Sig Key}
    (sound : state.Sound) {action : Action TaskResponse Sig Key} {service : Service (taskResponseMessages keccak256) Sig Key}
    {response : Option (Response TaskResponse Sig Key)} (other : ∀ request, action ≠ .initializeMessage request)
    (step : ActionStep scheme state.taskBlsAggregationService action service response) : TaskAggregator.Sound { state with
      taskBlsAggregationService := service
      sending := startSending response state.sending } := by
  obtain ⟨keyOf, owned⟩ := sound.owned
  have pending (messageKey : MessageKey) : service.pending messageKey + (finishes response messageKey).toNat ≤
      state.taskBlsAggregationService.pending messageKey := by
    have moved := pending_step owned step messageKey
    cases action with
    | initializeMessage request => exact absurd rfl (other request)
    | _ => exact moved
  have responding (messageKey : MessageKey) : (startSending response state.sending).countP
      (fun call => call.response.messageKey = messageKey) =
        state.responding messageKey + (finishes response messageKey).toNat :=
    countP_startSending response state.sending messageKey _ fun _ => rfl
  have unsent (messageKey : MessageKey) : (startSending response state.sending).countP
      (fun call => call.response.messageKey = messageKey && call.unsent) =
        state.unsent messageKey + (finishes response messageKey).toNat :=
    countP_startSending response state.sending messageKey _ fun _ => Bool.and_true _
  refine ⟨owned.step step, sound.logged, sound.created, sound.stored, sound.tasks, ?_, ?_, ?_, ?_, ?_, sound.sent⟩
  · intro messageKey busy
    replace busy : 0 < service.pending messageKey + (startSending response state.sending).countP _ := busy
    rw [responding] at busy
    have fewer := pending messageKey
    exact sound.known messageKey (by omega)
  · intro messageKey
    have before := sound.alone messageKey
    have fewer := pending messageKey
    show state.creating messageKey + service.pending messageKey + (startSending response state.sending).countP _ ≤ 1
    rw [responding]
    omega
  · intro messageKey
    have before := sound.once messageKey
    have fewer := pending messageKey
    show state.creating messageKey + service.pending messageKey + (startSending response state.sending).countP _ +
      state.responses messageKey ≤ 1
    rw [unsent]
    omega
  · intro call member taskResponse carried
    rcases mem_startSending member with old | ⟨_, sent⟩
    · exact sound.carries call old taskResponse carried
    · exact owned.message_key step sent carried
  · intro call member task taskResponse read carried
    rcases mem_startSending member with old | ⟨started, _⟩
    · exact sound.reads call old task taskResponse read carried
    · cases started.symm.trans read

theorem TaskAggregator.Sound.call_task (sound : state.Sound) {call : SendingResponse Sig Key} (member : call ∈ state.sending) :
    ∃ taskIndex task, call.response.messageKey = taskKey taskIndex ∧ state.tasks taskIndex = some task := by
  apply sound.known
  have counted : 0 < state.responding call.response.messageKey :=
    List.countP_pos_iff.mpr ⟨call, member, decide_eq_true rfl⟩
  omega

theorem TaskAggregator.responding_set {position : Nat} {call : SendingResponse Sig Key}
    (found : state.sending[position]? = some call) (stage : SendingStage) (messageKey : MessageKey) :
    (state.sending.set position { call with stage }).countP (fun call => call.response.messageKey = messageKey) =
      state.responding messageKey :=
  Nat.add_right_cancel (countP_set _ found _)

theorem TaskAggregator.Sound.read (sound : state.Sound) {position : Nat} {call : SendingResponse Sig Key}
    {taskResponse : TaskResponse} (found : state.sending[position]? = some call) (started : call.stage = .started)
    (carried : call.response.message = some taskResponse) : TaskAggregator.Sound { state with
      sending := state.sending.set position
        { call with stage := .read ((state.tasks taskResponse.referenceTaskIndex).getD zeroTask) } } := by
  have member := List.mem_of_getElem? found
  obtain ⟨taskIndex, task, key, held⟩ := sound.call_task member
  have index : taskResponse.referenceTaskIndex = taskIndex :=
    taskKey_injective ((sound.carries call member taskResponse carried).trans key)
  have unsent (messageKey : MessageKey) : (state.sending.set position
      { call with stage := .read ((state.tasks taskResponse.referenceTaskIndex).getD zeroTask) }).countP
        (fun call => call.response.messageKey = messageKey && call.unsent) = state.unsent messageKey := by
    have counted := countP_set (fun call => decide (call.response.messageKey = messageKey) && call.unsent) found
      { call with stage := .read ((state.tasks taskResponse.referenceTaskIndex).getD zeroTask) }
    simp only [SendingResponse.unsent, started] at counted
    exact Nat.add_right_cancel counted
  refine ⟨sound.owned, sound.logged, sound.created, sound.stored, sound.tasks, ?_, ?_, ?_, ?_, ?_, sound.sent⟩
  · intro messageKey busy
    apply sound.known
    rw [← responding_set found]
    exact busy
  · intro messageKey
    show state.creating messageKey + state.taskBlsAggregationService.pending messageKey +
      (state.sending.set position _).countP _ ≤ 1
    rw [responding_set found]
    exact sound.alone messageKey
  · intro messageKey
    show state.creating messageKey + state.taskBlsAggregationService.pending messageKey +
      (state.sending.set position _).countP _ + state.responses messageKey ≤ 1
    rw [unsent]
    exact sound.once messageKey
  · intro other among
    rcases List.mem_or_eq_of_mem_set among with old | rfl
    · exact sound.carries other old
    · exact sound.carries call member
  · intro other among task' taskResponse' read carried'
    rcases List.mem_or_eq_of_mem_set among with old | rfl
    · exact sound.reads other old task' taskResponse' read carried'
    · cases carried.symm.trans carried'
      cases read
      rw [index, held]
      exact sound.tasks taskIndex task held

theorem TaskAggregator.Sound.send (sound : state.Sound) {position : Nat} {call : SendingResponse Sig Key} {task : Task}
    {taskResponse : TaskResponse} (found : state.sending[position]? = some call) (read : call.stage = .read task)
    (carried : call.response.message = some taskResponse) : TaskAggregator.Sound { state with
      sending := state.sending.set position { call with stage := .sent }
      sent := state.sent ++ [(task, taskResponse)] } := by
  have member := List.mem_of_getElem? found
  have key := sound.carries call member taskResponse carried
  have responses (messageKey : MessageKey) : (state.sent ++ [(task, taskResponse)]).countP
      (fun response => taskKey response.2.referenceTaskIndex = messageKey) =
        state.responses messageKey + (decide (call.response.messageKey = messageKey)).toNat := by
    rw [List.countP_append, List.countP_singleton, key, Bool.toNat]
    cases decide (call.response.messageKey = messageKey) <;> rfl
  have unsent (messageKey : MessageKey) : (state.sending.set position { call with stage := .sent }).countP
      (fun call => call.response.messageKey = messageKey && call.unsent) +
        (decide (call.response.messageKey = messageKey)).toNat = state.unsent messageKey := by
    have counted := countP_set (fun call => decide (call.response.messageKey = messageKey) && call.unsent) found
      { call with stage := .sent }
    simp only [SendingResponse.unsent, read, Bool.and_true, Bool.and_false] at counted
    exact counted
  refine ⟨sound.owned, sound.logged, sound.created, sound.stored, sound.tasks, ?_, ?_, ?_, ?_, ?_, ?_⟩
  · intro messageKey busy
    apply sound.known
    rw [← responding_set found]
    exact busy
  · intro messageKey
    show state.creating messageKey + state.taskBlsAggregationService.pending messageKey +
      (state.sending.set position _).countP _ ≤ 1
    rw [responding_set found]
    exact sound.alone messageKey
  · intro messageKey
    have before := sound.once messageKey
    have fewer := unsent messageKey
    show state.creating messageKey + state.taskBlsAggregationService.pending messageKey +
      (state.sending.set position _).countP _ + (state.sent ++ [(task, taskResponse)]).countP _ ≤ 1
    rw [responses]
    omega
  · intro other among
    rcases List.mem_or_eq_of_mem_set among with old | rfl
    · exact sound.carries other old
    · exact sound.carries call member
  · intro other among task' taskResponse' read' carried'
    rcases List.mem_or_eq_of_mem_set among with old | rfl
    · exact sound.reads other old task' taskResponse' read' carried'
    · cases read'
  · intro response among
    rcases List.mem_append.mp among with old | new
    · exact sound.sent response old
    · cases List.mem_singleton.mp new
      exact sound.reads call member task taskResponse read carried

theorem TaskAggregator.Sound.delete (sound : state.Sound) {position : Nat} {call : SendingResponse Sig Key}
    (found : state.sending[position]? = some call) : TaskAggregator.Sound { state with
      tasks := state.tasks.delete (checkpointTaskResponseKeyToTaskIndex call.response.messageKey)
      sending := state.sending.eraseIdx position } := by
  -- no other call needs the task
  have member := List.mem_of_getElem? found
  have kept {other : SendingResponse Sig Key} (among : other ∈ state.sending.eraseIdx position) : other ∈ state.sending :=
    List.mem_of_mem_eraseIdx among
  obtain ⟨taskIndex, task, key, held⟩ := sound.call_task member
  rw [key, checkpointTaskResponseKeyToTaskIndex_taskKey]
  have responding (messageKey : MessageKey) : (state.sending.eraseIdx position).countP
      (fun call => call.response.messageKey = messageKey) + (decide (taskKey taskIndex = messageKey)).toNat =
        state.responding messageKey := by
    rw [← key]
    exact countP_eraseIdx _ found
  have unsent (messageKey : MessageKey) : (state.sending.eraseIdx position).countP
      (fun call => call.response.messageKey = messageKey && call.unsent) ≤ state.unsent messageKey :=
    Nat.le.intro (countP_eraseIdx _ found)
  have last := sound.alone (taskKey taskIndex)
  have mine := responding (taskKey taskIndex)
  rw [decide_eq_true rfl, Bool.toNat_true] at mine
  refine ⟨sound.owned, sound.logged, sound.created, ?_, ?_, ?_, ?_, ?_, fun other among => sound.carries other (kept among),
    fun other among => sound.reads other (kept among), sound.sent⟩
  · intro creation among stored
    have creating : 0 < state.creating (taskKey creation.taskIndex) :=
      List.countP_pos_iff.mpr ⟨creation, among, decide_eq_true rfl⟩
    have different : creation.taskIndex ≠ taskIndex := by
      intro same
      rw [same] at creating
      omega
    exact (Map.delete_of_ne _ different).trans (sound.stored creation among stored)
  · intro other task' held'
    replace held' : state.tasks.delete taskIndex other = some task' := held'
    by_cases same : other = taskIndex
    · rw [same, Map.delete_self] at held'
      cases held'
    · rw [Map.delete_of_ne _ same] at held'
      exact sound.tasks other task' held'
  · intro messageKey busy
    replace busy : 0 < state.taskBlsAggregationService.pending messageKey + (state.sending.eraseIdx position).countP _ := busy
    have before := responding messageKey
    have different : messageKey ≠ taskKey taskIndex := by
      rintro rfl
      omega
    obtain ⟨other, task', key', held'⟩ := sound.known messageKey (by omega)
    refine ⟨other, task', key', (Map.delete_of_ne _ ?_).trans held'⟩
    rintro rfl
    exact different key'
  · intro messageKey
    have before := sound.alone messageKey
    have fewer := responding messageKey
    show state.creating messageKey + state.taskBlsAggregationService.pending messageKey +
      (state.sending.eraseIdx position).countP _ ≤ 1
    omega
  · intro messageKey
    have before := sound.once messageKey
    have fewer := unsent messageKey
    show state.creating messageKey + state.taskBlsAggregationService.pending messageKey +
      (state.sending.eraseIdx position).countP _ + state.responses messageKey ≤ 1
    omega

section Runs
variable {Evidence : Type} [AddCommGroup Sig] [AddCommGroup Key] {window checkpointInterval : Uint 32}
  {scheme : SignatureScheme Sig Key}

theorem TaskAggregator.Sound.step (sound : state.Sound) (step : TaskStep Evidence window scheme state after) :
    after.Sound := by
  cases step with
  | transacted call => exact sound.grow (sound.logged.transact call) (log_subset_transact call)
  | uncreated => exact sound
  | created logged => exact sound.create (logged sound.logged)
  | stored found => exact sound.store found
  | initialized found stored step => exact sound.initialize found stored step
  | aggregated other step => exact sound.aggregate other step
  | read found started carried => exact sound.read found started carried
  | sent transaction found read carried =>
    exact (sound.send found read carried).grow (sound.logged.transact transaction) (log_subset_transact transaction)
  | deleted found => exact sound.delete found

theorem taskAggregators_sound (reached : (taskAggregators window checkpointInterval scheme keccak256 Evidence).Reachable state) :
    state.Sound := by
  refine System.Reachable.invariant ?_ ?_ reached
  · rintro _ ⟨initialOwner, aggregator, generator, rfl⟩
    exact {
      owned := ⟨fun _ => 0, fun _ _ listed => (nomatch listed), List.forall_mem_nil _, List.forall_mem_nil _,
        List.forall_mem_nil _, List.forall_mem_nil _⟩
      logged := ⟨fun _ _ listed => (nomatch listed), fun _ _ _ listed => (nomatch listed)⟩
      created := List.forall_mem_nil _
      stored := List.forall_mem_nil _
      tasks := fun _ _ held => nomatch held
      known := fun _ busy => absurd busy (Nat.lt_irrefl 0)
      alone := fun _ => Nat.zero_le 1
      once := fun _ => Nat.zero_le 1
      carries := List.forall_mem_nil _
      reads := List.forall_mem_nil _
      sent := List.forall_mem_nil _ }
  · intro state event after sound one
    exact sound.step (taskStep_of_step one)

/-- A response goes to the contract with the task that has its index, and a task gets at most one. -/
theorem aggregated_responses_name_task
    (reached : (taskAggregators window checkpointInterval scheme keccak256 Evidence).Reachable state) :
    (∀ response ∈ state.sent, .created response.2.referenceTaskIndex response.1 ∈ state.chain.2 ∧
      state.chain.1.allCheckpointTaskHashes response.2.referenceTaskIndex = response.1.hash keccak256) ∧
    (state.sent.map (·.2.referenceTaskIndex)).Nodup := by
  have sound := taskAggregators_sound reached
  constructor
  · intro response member
    have listed := sound.sent response member
    exact ⟨listed, (sound.logged.known _ _ listed).2⟩
  · rw [List.nodup_iff_count_le_one]
    intro taskIndex
    have single := sound.once (taskKey taskIndex)
    have counted : (state.sent.map (·.2.referenceTaskIndex)).count taskIndex = state.responses (taskKey taskIndex) := by
      rw [List.count, List.countP_map]
      apply List.countP_congr
      intro response _
      simp [taskKey_injective.eq_iff]
    omega

end Runs

end Sound

/-! ### One task from its creation to its response -/

def loneTask : Task := newTask (generatorAt 200) 30 90 TASK_QUORUM_THRESHOLD QUORUM_NUMBERS

def loneTaskInfo : ValidationInfo (ZMod 7) := { loneInfo with ethBlockNumber := 200 }

def loneTaskOrders : Orders loneTaskInfo :=
  ⟨loneOrders.operators, loneOrders.thresholds, loneOrders.signed, loneOrders.operators_visits,
    loneOrders.thresholds_visits, loneOrders.signed_visits⟩

def loneTaskResponse : SignedMessage (taskResponseMessages foldedBytes) (ZMod 7) :=
  ⟨⟨0, 7, 8⟩, _, smallScheme.sign 1 (TaskResponse.hash foldedBytes ⟨0, 7, 8⟩), multipleHash 1, rfl⟩

def createTaskThenSign : List (TaskEvent Unit (ZMod 7) (ZMod 7)) :=
  [.createTask 180 0 (generatorAt 200), .storeTask 0, .initializeTask 0, .aggregate (.readRegistry 0 loneResults),
    .aggregate (.processNewSignature loneTaskResponse.message loneTaskResponse.blsSignature loneTaskResponse.operatorId)]

def signedTaskService : Service (taskResponseMessages foldedBytes) (ZMod 7) (ZMod 7) where
  signedMessageCs := Map.empty.insert (taskKey 0) 0
  nextChannel := 1
  initializations := []
  readers := [⟨taskKey 0, 0, loneTaskInfo, Round.initial loneTaskInfo⟩]
  submitters := [⟨0, loneTaskResponse⟩]

def signedTaskAggregator (manager : TaskManager) : TaskAggregator foldedBytes (ZMod 7) (ZMod 7) :=
  ⟨(manager, [.created 0 loneTask]), [], Map.empty.insert 0 loneTask, signedTaskService, [], []⟩

theorem createTaskThenSign_run : ∃ manager,
    (taskAggregators 30 60000 smallScheme foldedBytes Unit).Run createTaskThenSign (signedTaskAggregator manager) := by
  have sound : ∀ (state : TaskAggregator foldedBytes (ZMod 7) (ZMod 7)) (event : TaskEvent Unit (ZMod 7) (ZMod 7)) after,
      state.step 30 60000 smallScheme event = some after →
        (taskAggregators 30 60000 smallScheme foldedBytes Unit).step state event after := fun _ _ _ one => one
  exact ⟨_, System.Run.of_steps sound ⟨1, 2, 3, rfl⟩ rfl⟩

theorem aggregated_responses_name_task_lone : ∃ state : TaskAggregator foldedBytes (ZMod 7) (ZMod 7),
    (taskAggregators 30 60000 smallScheme foldedBytes Unit).Reachable state ∧ state.tasks 0 = none ∧
    state.sent = [(loneTask, ⟨0, 7, 8⟩)] ∧ state.chain.1.allCheckpointTaskHashes 0 = loneTask.hash foldedBytes := by
  obtain ⟨manager, run⟩ := createTaskThenSign_run
  obtain ⟨orders, loneTaskOrders_eq⟩ := Orders.exists_extension loneTaskOrders
  let effect := signedPreThreshold smallScheme loneTaskInfo (Round.initial loneTaskInfo) loneTaskResponse
    (some CheckSignaturesIndices.empty) loneTaskOrders
  have responded : effect.read.bind (fun response => if response.finished then response.collected else none) =
      some ⟨0, 7, 8⟩ := by
    decide +kernel
  obtain ⟨response, sent, last⟩ := Option.bind_eq_some_iff.mp responded
  obtain ⟨finished, collected⟩ := Option.ite_none_right_eq_some.mp last
  obtain ⟨noError, carried⟩ := Response.collected_eq_some.mp collected
  have taken : (Round.initial loneTaskInfo).step smallScheme loneTaskInfo (taskKey 0)
      (.signed loneTaskResponse (some CheckSignaturesIndices.empty) loneTaskOrders) = some effect := rfl
  have ended : effect.round.phase = .finished := step_finished taken sent finished
  have received : ∃ service, (signedTaskAggregator manager).step 30 60000 smallScheme
      (.aggregate (.receive 0 0 (some CheckSignaturesIndices.empty) orders) : TaskEvent Unit _ _) =
        some { signedTaskAggregator manager with
          taskBlsAggregationService := service
          sending := [⟨response, .started⟩] } := by
    simp only [TaskAggregator.step, signedTaskAggregator, signedTaskService, Service.act, receive, readerStep,
      List.getElem?_cons_zero, Option.bind_eq_bind, Option.bind_some, loneTaskOrders_eq, taken, if_true, ended,
      Service.response, sent, startSending, finished]
    exact ⟨_, rfl⟩
  obtain ⟨service, received⟩ := received
  have run := run.next trivial received
  have key : taskKey 0 = response.messageKey :=
    (taskAggregators_sound ⟨_, run⟩).carries _ (List.mem_singleton_self _) _ carried
  have rest : ∃ chain, [.readTask 0, .sendResponse 0 (seventyAtBlock 2 210) (), .deleteTask 0].foldlM
      (TaskAggregator.step 30 60000 smallScheme) { signedTaskAggregator manager with
        taskBlsAggregationService := service
        sending := [⟨response, .started⟩] } =
      some ⟨chain, [], (Map.empty.insert 0 loneTask).delete 0, service, [], [(loneTask, ⟨0, 7, 8⟩)]⟩ := by
    simp only [List.foldlM_cons, TaskAggregator.step, List.getElem?_cons_zero, Option.bind_eq_bind, Option.bind_some,
      noError, carried, List.set_cons_zero, ← key, checkpointTaskResponseKeyToTaskIndex_taskKey]
    exact ⟨_, rfl⟩
  obtain ⟨chain, rest⟩ := rest
  have reached := run.of_foldlM (fun _ _ _ one => ⟨trivial, one⟩) rest
  have named := (aggregated_responses_name_task ⟨_, reached⟩).1 _ (List.mem_singleton_self _)
  exact ⟨_, ⟨_, reached⟩, Map.delete_self (Map.empty.insert 0 loneTask) 0, rfl, named.2⟩

end Sffl.Aggregator
