import Sffl.Aggregator.Service

/-! Who reads the channels of the aggregator service.

A task is a channel together with the party that will read it: a call that is
still reading the registry, or a goroutine. As long as no registry read fails,
the map of channels lists exactly the tasks. A read that fails ends its task and
leaves the key behind.
-/

set_option autoImplicit false

namespace Sffl.Aggregator

open Sffl.Evm Sffl.Golang Sffl.Semantics

variable {M Sig Key : Type} {interface : MessageInterface M}

def Initialization.task (call : Initialization) : MessageKey × Channel :=
  (call.request.messageKey, call.signedMessageC)

def Reader.task (reader : Reader M Sig Key) : MessageKey × Channel :=
  (reader.messageKey, reader.signedMessageC)

def Service.tasks (service : Service interface Sig Key) : List (MessageKey × Channel) :=
  service.initializations.map Initialization.task ++ service.readers.map Reader.task

def RegistryAnswers (action : Action M Sig Key) : Prop :=
  ∀ position results, action = .readRegistry position results → results.operators.isSome ∧ results.quorums.isSome

inductive TaskChange (service after : Service interface Sig Key) (action : Action M Sig Key) : Prop where
  | kept (same : after.signedMessageCs = service.signedMessageCs) (tasks : after.tasks.Perm service.tasks)
  | opened (messageKey : MessageKey) (channel : Channel) (absent : service.signedMessageCs messageKey = none)
      (inserted : after.signedMessageCs = service.signedMessageCs.insert messageKey channel)
      (tasks : after.tasks.Perm ((messageKey, channel) :: service.tasks))
  | closed (messageKey : MessageKey) (channel : Channel)
      (deleted : after.signedMessageCs = service.signedMessageCs.delete messageKey)
      (tasks : service.tasks.Perm ((messageKey, channel) :: after.tasks))
  | dropped (unanswered : ¬ RegistryAnswers action)

theorem perm_cons_eraseIdx {A : Type} {items : List A} {position : Nat} {item : A} (found : items[position]? = some item) :
    items.Perm (item :: items.eraseIdx position) := by
  obtain ⟨bound, rfl⟩ := List.getElem?_eq_some_iff.mp found
  exact (List.getElem_cons_eraseIdx_perm bound).symm

variable {service after : Service interface Sig Key} {returned : Option (Option ServiceError)}

theorem TaskChange.lists {action : Action M Sig Key} (change : TaskChange service after action)
    (answered : RegistryAnswers action) (lists : service.signedMessageCs.Lists service.tasks) :
    after.signedMessageCs.Lists after.tasks := by
  cases change with
  | kept same tasks =>
    rw [same]
    exact lists.perm tasks.symm
  | opened messageKey channel absent inserted tasks =>
    rw [inserted]
    exact (lists.insert absent channel).perm tasks.symm
  | closed messageKey channel deleted tasks =>
    rw [deleted]
    exact (lists.perm tasks).delete
  | dropped unanswered => exact absurd answered unanswered

/-! ## What each action does -/

theorem initializeMessageIfNotExists_tasks {request : MessageRequest}
    (done : initializeMessageIfNotExists service request = .continues after returned) :
    (after = service ∧ returned.isSome) ∨
    returned = none ∧ service.signedMessageCs request.messageKey = none ∧
      after.signedMessageCs = service.signedMessageCs.insert request.messageKey service.nextChannel ∧
      after.tasks = (request.messageKey, service.nextChannel) :: service.tasks := by
  unfold initializeMessageIfNotExists at done
  split at done
  · cases done
    exact Or.inl ⟨rfl, rfl⟩
  · cases done
  · unfold initializeMessageChan at done
    cases absent : service.signedMessageCs request.messageKey with
    | some channel =>
      simp only [absent] at done
      cases done
      exact Or.inl ⟨rfl, rfl⟩
    | none =>
      simp only [absent] at done
      cases done
      exact Or.inr ⟨rfl, rfl, rfl, rfl⟩

theorem currentBlock_not_failed (ethBlockNumber : Uint 64) (blockNumber : Option (Uint 64)) (err : ServiceError) :
    currentBlock ethBlockNumber blockNumber ≠ .error (.failed err) := by
  unfold currentBlock
  split
  · cases blockNumber <;> simp
  · simp

theorem percentagesMap_not_failed (map : Map QuorumNum QuorumThresholdPercentage) (quorumNumbers : List QuorumNum)
    (percentages : List QuorumThresholdPercentage) (err : ServiceError) :
    percentagesMap map quorumNumbers percentages ≠ .error (.failed err) := by
  induction quorumNumbers generalizing map percentages with
  | nil => simp [percentagesMap]
  | cons quorumNumber quorumNumbers ih =>
    cases percentages with
    | nil => simp [percentagesMap]
    | cons percentage percentages => exact ih _ _

theorem fetchValidationInfo_answered {quorumNumbers : List QuorumNum} {percentages : List QuorumThresholdPercentage}
    {valid : ∀ percentage ∈ percentages, ValidPercentage percentage} {ethBlockNumber : Uint 64}
    {results : RegistryResults Key} (operators : results.operators.isSome) (quorums : results.quorums.isSome)
    (err : ServiceError) :
    fetchValidationInfo quorumNumbers percentages valid ethBlockNumber results ≠ .error (.failed err) := by
  obtain ⟨operators, operatorsRead⟩ := Option.isSome_iff_exists.mp operators
  obtain ⟨quorums, quorumsRead⟩ := Option.isSome_iff_exists.mp quorums
  unfold fetchValidationInfo
  cases block : currentBlock ethBlockNumber results.blockNumber with
  | error fault =>
    intro failed
    cases failed
    exact currentBlock_not_failed _ _ _ block
  | ok ethBlockNumber =>
    simp only [ok_bind, operatorsRead, quorumsRead, registryCall]
    split
    next fault built =>
      intro failed
      cases failed
      exact percentagesMap_not_failed _ _ _ _ built
    · exact nofun

theorem startMessage_tasks [AddCommGroup Sig] [AddCommGroup Key] {position : Nat} {results : RegistryResults Key}
    (done : startMessage service position results = some (.continues after returned)) :
    after.signedMessageCs = service.signedMessageCs ∧
    ((returned = some none ∧ after.tasks.Perm service.tasks) ∨
      (∃ err, returned = some (some err)) ∧ ¬ (results.operators.isSome ∧ results.quorums.isSome)) := by
  obtain ⟨call, found, rest⟩ := Option.bind_eq_some_iff.mp done
  simp only at rest
  split at rest
  · cases rest
  next err failed =>
    cases rest
    refine ⟨rfl, Or.inr ⟨⟨err, rfl⟩, fun answered => ?_⟩⟩
    exact fetchValidationInfo_answered answered.1 answered.2 err failed
  next info fetched =>
    cases rest
    refine ⟨rfl, Or.inl ⟨rfl, ?_⟩⟩
    -- the channel passes from the call to its new goroutine
    have moved := ((perm_cons_eraseIdx found).map Initialization.task).append_right (service.readers.map Reader.task)
    exact List.perm_middle.trans moved.symm

theorem processNewSignature_tasks {message : M} {blsSignature : Sig} {operatorId : OperatorId}
    (done : processNewSignature service message blsSignature operatorId = .continues after returned) :
    after.signedMessageCs = service.signedMessageCs ∧ after.tasks = service.tasks := by
  unfold processNewSignature at done
  split at done
  · cases done
    exact ⟨rfl, rfl⟩
  · split at done <;> (cases done; exact ⟨rfl, rfl⟩)

theorem tasks_perm_cons_eraseIdx {position : Nat} {reader : Reader M Sig Key}
    (found : service.readers[position]? = some reader) :
    service.tasks.Perm (reader.task :: (service.initializations.map Initialization.task ++
      (service.readers.eraseIdx position).map Reader.task)) := by
  have moved := ((perm_cons_eraseIdx found).map Reader.task).append_left
    (service.initializations.map Initialization.task)
  exact moved.trans List.perm_middle

theorem closeMessageGoroutine_tasks {position : Nat}
    (done : closeMessageGoroutine service position = some (.continues after returned)) :
    ∃ reader : Reader M Sig Key, after.signedMessageCs = service.signedMessageCs.delete reader.messageKey ∧
      service.tasks.Perm (reader.task :: after.tasks) := by
  obtain ⟨reader, found, rest⟩ := Option.bind_eq_some_iff.mp done
  split at rest
  next =>
    cases rest
    exact ⟨reader, rfl, tasks_perm_cons_eraseIdx found⟩
  · cases rest

section Rounds
variable [AddCommGroup Sig] [AddCommGroup Key] {scheme : SignatureScheme Sig Key}

theorem readerStep_tasks {position : Nat} {reader : Reader M Sig Key} {event : Event interface Sig reader.info}
    (done : readerStep scheme service position reader event = some (.continues after returned))
    (found : service.readers[position]? = some reader) :
    after.signedMessageCs = service.signedMessageCs ∧ after.tasks = service.tasks := by
  obtain ⟨effect, _, rest⟩ := Option.bind_eq_some_iff.mp done
  split at rest
  · cases rest
  · cases rest
    -- a round's step replaces the round and leaves the goroutine's key and channel
    exact ⟨rfl, congrArg (service.initializations.map Initialization.task ++ ·) (map_set_same found rfl)⟩

theorem receive_tasks {reader submitter : Nat} {indices : Option CheckSignaturesIndices}
    {orders : (info : ValidationInfo Key) → Orders info}
    (done : receive scheme service reader submitter indices orders = some (.continues after returned)) :
    after.signedMessageCs = service.signedMessageCs ∧ after.tasks = service.tasks := by
  obtain ⟨goroutine, found, rest⟩ := Option.bind_eq_some_iff.mp done
  obtain ⟨call, _, rest⟩ := Option.bind_eq_some_iff.mp rest
  split at rest
  · obtain ⟨same, tasks⟩ := readerStep_tasks rest found
    exact ⟨same, tasks⟩
  · cases rest

theorem act_tasks {action : Action M Sig Key} (done : service.act scheme action = some (.continues after returned)) :
    TaskChange service after action := by
  cases action with
  | initializeMessage request =>
    rcases initializeMessageIfNotExists_tasks (Option.some.inj done) with ⟨rfl, _⟩ | ⟨_, absent, inserted, tasks⟩
    · exact .kept rfl (.refl _)
    · exact .opened _ _ absent inserted (.of_eq tasks)
  | readRegistry position results =>
    obtain ⟨same, ⟨_, tasks⟩ | ⟨_, unanswered⟩⟩ := startMessage_tasks done
    · exact .kept same tasks
    -- the one change that leaves a key without a task
    · exact .dropped fun answered => unanswered (answered position results rfl)
  | processNewSignature message blsSignature operatorId =>
    obtain ⟨same, tasks⟩ := processNewSignature_tasks (Option.some.inj done)
    exact .kept same (.of_eq tasks)
  | receive reader submitter indices orders =>
    obtain ⟨same, tasks⟩ := receive_tasks done
    exact .kept same (.of_eq tasks)
  | timer reader indices orders =>
    obtain ⟨goroutine, found, rest⟩ := Option.bind_eq_some_iff.mp done
    obtain ⟨same, tasks⟩ := readerStep_tasks rest found
    exact .kept same (.of_eq tasks)
  | cancel submitter =>
    rw [Service.act] at done
    split at done
    · cases done
      exact .kept rfl (.refl _)
    · cases done
  | close reader =>
    obtain ⟨goroutine, deleted, tasks⟩ := closeMessageGoroutine_tasks done
    exact .closed _ _ deleted tasks

/-! ## Runs -/

theorem tasks_listed {history : List (Action M Sig Key)}
    (run : (services scheme interface).GuardedRun (fun _ action => RegistryAnswers action) history service) :
    service.signedMessageCs.Lists service.tasks := by
  refine run.invariant (fun _ service => service.signedMessageCs.Lists service.tasks) (fun state initial => ?_)
    fun history state action after lists answered one => ?_
  · rw [initial]
    exact Map.Lists.empty
  · obtain ⟨returned, done⟩ := one
    exact (act_tasks done).lists answered lists

/-- In every run in which the registry answers, a key is in the map exactly if one party reads or will read its channel,
and a call that returns an error to initialize a message has changed nothing. -/
theorem every_key_has_reader {history : List (Action M Sig Key)}
    (run : (services scheme interface).GuardedRun (fun _ action => RegistryAnswers action) history service) :
    (∀ messageKey, service.tasks.filter (fun task => task.1 = messageKey) =
      ((service.signedMessageCs messageKey).map (Prod.mk messageKey)).toList) ∧
    (∀ request after err, service.act scheme (.initializeMessage request) = some (.continues after (some (some err))) →
      after = service) ∧
    ∀ position results after err, RegistryAnswers (.readRegistry position results : Action M Sig Key) →
      service.act scheme (.readRegistry position results) ≠ some (.continues after (some (some err))) := by
  refine ⟨(tasks_listed run).filter_eq, fun request after err done => ?_,
    fun position results after err answered done => ?_⟩
  · rcases initializeMessageIfNotExists_tasks (Option.some.inj done) with ⟨same, _⟩ | ⟨pending, _⟩
    · exact same
    · cases pending
  · obtain ⟨_, ⟨succeeded, _⟩ | ⟨_, unanswered⟩⟩ := startMessage_tasks done
    · cases succeeded
    · exact unanswered (answered position results rfl)

end Rounds

/-! ## A message whose registry read fails -/

def plainRequest : MessageRequest := ⟨5, [0], [66], 1⟩

theorem every_key_has_reader_started :
    ∃ service : Service plainMessages (ZMod 7) (ZMod 7), service.readers.length = 1 ∧
      service.tasks.filter (fun task => task.1 = 5) = [(5, 0)] := by
  have started : ∃ service : Service plainMessages (ZMod 7) (ZMod 7),
      (services smallScheme plainMessages).GuardedRun (fun _ action => RegistryAnswers action)
        ([] ++ [.initializeMessage plainRequest] ++
          [.readRegistry 0 ⟨none, some (smallTable [(1, 40)]), some Map.empty⟩]) service ∧
      service.readers.length = 1 ∧ service.signedMessageCs 5 = some 0 := by
    refine ⟨_, .next (.next (.start rfl) (fun _ _ => nofun) ⟨none, rfl⟩) ?_ ⟨some none, rfl⟩, rfl, rfl⟩
    intro position results same
    cases same
    exact ⟨rfl, rfl⟩
  obtain ⟨service, run, readers, key⟩ := started
  have listed := (every_key_has_reader run).1 5
  rw [key] at listed
  exact ⟨service, readers, listed⟩

/-- The call returns an error, and its key stays in the map without anybody to read the channel. The next call for the
key returns at once and starts nothing. -/
theorem unanswered_key_has_no_reader :
    ∃ pending service : Service plainMessages (ZMod 7) (ZMod 7),
      newMessageBlsAggregatorService.act smallScheme (.initializeMessage plainRequest) =
        some (.continues pending none) ∧
      pending.act smallScheme (.readRegistry 0 ⟨none, none, none⟩) =
        some (.continues service (some (some .registryCall))) ∧
      service.signedMessageCs 5 = some 0 ∧ service.tasks = [] ∧
      service.act smallScheme (.initializeMessage plainRequest) = some (.continues service (some none)) := by
  exact ⟨_, _, rfl, rfl, rfl, rfl, rfl⟩

end Sffl.Aggregator
