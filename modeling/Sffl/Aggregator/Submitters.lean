import Sffl.Aggregator.Readers

/-! Who waits on the channels of the aggregator service.

`ProcessNewSignature` looks its channel up under the lock and sends after it has
given the lock back. In between, the goroutine that reads the channel may end.
Nobody reads that channel again, since a later round for the same key makes a
channel of its own.
-/

set_option autoImplicit false

namespace Sffl.Aggregator

open Sffl.Evm Sffl.Golang Sffl.Semantics

variable {M Sig Key : Type} {interface : MessageInterface M}

def Service.channels (service : Service interface Sig Key) : List Channel := service.tasks.map Prod.snd

/-- Every waiting call has somebody who reads its channel or is about to. -/
def Attended (service : Service interface Sig Key) : Prop :=
  ∀ submitter ∈ service.submitters, submitter.messageC ∈ service.channels

/-- A goroutine closes its message only when no call waits on its channel. -/
def ClosesUnwaited (service : Service interface Sig Key) (action : Action M Sig Key) : Prop :=
  ∀ position reader, action = .close position → service.readers[position]? = some reader →
    ∀ submitter ∈ service.submitters, submitter.messageC ≠ reader.signedMessageC

structure FreshChannels (service : Service interface Sig Key) : Prop where
  once : service.channels.Nodup
  made : ∀ channel ∈ service.channels, channel < service.nextChannel

inductive SubmitterChange (service after : Service interface Sig Key) (action : Action M Sig Key) : Prop where
  | kept (stays : ∀ position, action ≠ .close position) (submitters : after.submitters ⊆ service.submitters)
      (tasks : after.tasks.Perm service.tasks) (next : after.nextChannel = service.nextChannel)
  | opened (stays : ∀ position, action ≠ .close position) (messageKey : MessageKey)
      (submitters : after.submitters = service.submitters)
      (tasks : after.tasks = (messageKey, service.nextChannel) :: service.tasks)
      (next : after.nextChannel = service.nextChannel + 1)
  | called (stays : ∀ position, action ≠ .close position) (messageKey : MessageKey)
      (submitter : Submitter interface Sig) (listed : service.signedMessageCs messageKey = some submitter.messageC)
      (submitters : after.submitters = submitter :: service.submitters)
      (tasks : after.tasks = service.tasks) (next : after.nextChannel = service.nextChannel)
  | closed (position : Nat) (reader : Reader M Sig Key) (closes : action = .close position)
      (found : service.readers[position]? = some reader) (submitters : after.submitters = service.submitters)
      (tasks : service.tasks.Perm (reader.task :: after.tasks)) (next : after.nextChannel = service.nextChannel)
  | dropped (unanswered : ¬ RegistryAnswers action)

/-! ## What each action does -/

section Actions
variable {service after : Service interface Sig Key} {returned : Option (Option ServiceError)}

theorem initializeMessageIfNotExists_submitters {request : MessageRequest}
    (done : initializeMessageIfNotExists service request = .continues after returned) :
    SubmitterChange service after (.initializeMessage request) := by
  rcases initializeMessageIfNotExists_tasks done with ⟨rfl, _⟩ | ⟨_, absent, _, tasks⟩
  · exact .kept nofun (List.Subset.refl _) (.refl _) rfl
  · have rest : after.submitters = service.submitters ∧ after.nextChannel = service.nextChannel + 1 := by
      unfold initializeMessageIfNotExists initializeMessageChan at done
      split at done
      · cases done
        exact absurd tasks (List.ne_cons_self)
      · cases done
      · simp only [absent] at done
        cases done
        exact ⟨rfl, rfl⟩
    exact .opened nofun _ rest.1 tasks rest.2

theorem processNewSignature_submitters {message : M} {blsSignature : Sig} {operatorId : OperatorId}
    (done : processNewSignature service message blsSignature operatorId = .continues after returned) :
    SubmitterChange service after (.processNewSignature message blsSignature operatorId) := by
  unfold processNewSignature at done
  split at done
  · cases done
    exact .kept nofun (List.Subset.refl _) (.refl _) rfl
  next messageC listed =>
    split at done
    · cases done
      exact .kept nofun (List.Subset.refl _) (.refl _) rfl
    · cases done
      exact .called nofun _ _ listed rfl rfl rfl

theorem closeMessageGoroutine_submitters {position : Nat}
    (done : closeMessageGoroutine service position = some (.continues after returned)) :
    SubmitterChange service after (.close position) := by
  obtain ⟨reader, found, rest⟩ := Option.bind_eq_some_iff.mp done
  split at rest
  next =>
    cases rest
    exact .closed position reader rfl found rfl (tasks_perm_cons_eraseIdx found) rfl
  · cases rest

variable [AddCommGroup Sig] [AddCommGroup Key] {scheme : SignatureScheme Sig Key}

theorem startMessage_submitters {position : Nat} {results : RegistryResults Key}
    (done : startMessage service position results = some (.continues after returned)) :
    after.submitters = service.submitters ∧ after.nextChannel = service.nextChannel := by
  obtain ⟨call, found, rest⟩ := Option.bind_eq_some_iff.mp done
  simp only at rest
  split at rest <;> cases rest <;> exact ⟨rfl, rfl⟩

theorem readerStep_submitters {position : Nat} {reader : Reader M Sig Key} {event : Event interface Sig reader.info}
    (done : readerStep scheme service position reader event = some (.continues after returned)) :
    after.submitters = service.submitters ∧ after.nextChannel = service.nextChannel := by
  obtain ⟨effect, _, rest⟩ := Option.bind_eq_some_iff.mp done
  split at rest
  · cases rest
  · cases rest
    exact ⟨rfl, rfl⟩

theorem act_submitters {action : Action M Sig Key}
    (done : service.act scheme action = some (.continues after returned)) : SubmitterChange service after action := by
  cases action with
  | initializeMessage request => exact initializeMessageIfNotExists_submitters (Option.some.inj done)
  | readRegistry position results =>
    obtain ⟨submitters, next⟩ := startMessage_submitters done
    obtain ⟨_, ⟨_, tasks⟩ | ⟨_, unanswered⟩⟩ := startMessage_tasks done
    · exact .kept (by simp) (submitters ▸ List.Subset.refl _) tasks next
    · exact .dropped fun answered => unanswered (answered position results rfl)
  | processNewSignature message blsSignature operatorId =>
    exact processNewSignature_submitters (Option.some.inj done)
  | receive reader submitter indices orders =>
    obtain ⟨_, tasks⟩ := receive_tasks done
    obtain ⟨goroutine, _, rest⟩ := Option.bind_eq_some_iff.mp done
    obtain ⟨call, _, rest⟩ := Option.bind_eq_some_iff.mp rest
    split at rest
    · obtain ⟨submitters, next⟩ := readerStep_submitters rest
      -- the call whose message is received no longer waits
      exact .kept (by simp) (submitters ▸ List.eraseIdx_subset) (.of_eq tasks) next
    · cases rest
  | timer reader indices orders =>
    obtain ⟨goroutine, found, rest⟩ := Option.bind_eq_some_iff.mp done
    obtain ⟨submitters, next⟩ := readerStep_submitters rest
    exact .kept (by simp) (submitters ▸ List.Subset.refl _) (.of_eq (readerStep_tasks rest found).2) next
  | cancel submitter =>
    rw [Service.act] at done
    split at done
    · cases done
      exact .kept (by simp) List.eraseIdx_subset (.refl _) rfl
    · cases done
  | close reader => exact closeMessageGoroutine_submitters done

end Actions

/-! ## One action -/

section Step
variable {service after : Service interface Sig Key} {action : Action M Sig Key}

theorem FreshChannels.step (fresh : FreshChannels service) (answered : RegistryAnswers action)
    (change : SubmitterChange service after action) : FreshChannels after := by
  cases change with
  | kept _ _ tasks next =>
    have same : after.channels.Perm service.channels := tasks.map Prod.snd
    exact ⟨same.nodup_iff.mpr fresh.once, fun channel member => next ▸ fresh.made channel (same.mem_iff.mp member)⟩
  | opened _ messageKey _ tasks next =>
    have opened : after.channels = service.nextChannel :: service.channels := congrArg (List.map Prod.snd) tasks
    refine ⟨?_, fun channel member => ?_⟩
    · rw [opened]
      exact List.nodup_cons.mpr ⟨fun member => (fresh.made _ member).false, fresh.once⟩
    · rw [opened] at member
      rw [next]
      rcases List.mem_cons.mp member with rfl | old
      · exact Nat.lt_succ_self _
      · exact Nat.lt_succ_of_lt (fresh.made channel old)
  | called _ _ _ _ _ tasks next =>
    have same : after.channels = service.channels := congrArg (List.map Prod.snd) tasks
    exact ⟨same ▸ fresh.once, fun channel member => next ▸ fresh.made channel (same ▸ member)⟩
  | closed _ reader _ _ _ tasks next =>
    have remaining : service.channels.Perm (reader.signedMessageC :: after.channels) := tasks.map Prod.snd
    refine ⟨(List.nodup_cons.mp (remaining.nodup_iff.mp fresh.once)).2, fun channel member => ?_⟩
    exact next ▸ fresh.made channel (remaining.mem_iff.mpr (List.mem_cons_of_mem _ member))
  | dropped unanswered => exact absurd answered unanswered

/-- After an action, every waiting call is attended to unless a goroutine has just left one behind. -/
theorem Attended.step_iff (attended : Attended service) (lists : service.signedMessageCs.Lists service.tasks)
    (fresh : FreshChannels service) (answered : RegistryAnswers action)
    (change : SubmitterChange service after action) : Attended after ↔ ClosesUnwaited service action := by
  have open_ : (∀ position, action ≠ .close position) → ClosesUnwaited service action :=
    fun stays position _ closes => absurd closes (stays position)
  cases change with
  | kept stays submitters tasks _ =>
    refine iff_of_true (fun submitter member => ?_) (open_ stays)
    exact (tasks.map Prod.snd).mem_iff.mpr (attended submitter (submitters member))
  | opened stays messageKey submitters tasks _ =>
    refine iff_of_true (fun submitter member => ?_) (open_ stays)
    rw [Service.channels, tasks]
    exact List.mem_cons_of_mem _ (attended submitter (submitters ▸ member))
  | called stays messageKey submitter listed submitters tasks _ =>
    refine iff_of_true (fun other member => ?_) (open_ stays)
    rw [Service.channels, tasks]
    rw [submitters] at member
    rcases List.mem_cons.mp member with rfl | old
    · exact List.mem_map.mpr ⟨(messageKey, other.messageC), (lists.all _).mpr listed, rfl⟩
    · exact attended other old
  | closed position reader closes found submitters tasks _ =>
    have remaining : service.channels.Perm (reader.signedMessageC :: after.channels) := tasks.map Prod.snd
    constructor
    · intro still other goroutine same here submitter member left
      cases closes.symm.trans same
      cases found.symm.trans here
      -- the channel is nobody else's, so its reader was the only one
      have gone := (List.nodup_cons.mp (remaining.nodup_iff.mp fresh.once)).1
      exact gone (left ▸ still submitter (submitters ▸ member))
    · intro unwaited submitter member
      rw [submitters] at member
      rcases List.mem_cons.mp (remaining.mem_iff.mp (attended submitter member)) with own | other
      · exact absurd own (unwaited position reader closes found submitter member)
      · exact other
  | dropped unanswered => exact absurd answered unanswered

end Step

/-! ## Runs -/

section Runs
variable [AddCommGroup Sig] [AddCommGroup Key] {scheme : SignatureScheme Sig Key} {service : Service interface Sig Key}
  {history : List (Action M Sig Key)}

theorem channels_fresh
    (run : (services scheme interface).GuardedRun (fun _ action => RegistryAnswers action) history service) :
    FreshChannels service := by
  refine run.invariant (fun _ service => FreshChannels service) (fun state initial => ?_)
    fun history state action after fresh answered one => ?_
  · rw [initial]
    exact ⟨List.nodup_nil, nofun⟩
  · obtain ⟨returned, done⟩ := one
    exact fresh.step answered (act_submitters done)

theorem attended_step_iff {action : Action M Sig Key} {after : Service interface Sig Key}
    (run : (services scheme interface).GuardedRun (fun _ action => RegistryAnswers action) history service)
    (attended : Attended service) (answered : RegistryAnswers action)
    (one : (services scheme interface).step service action after) :
    Attended after ↔ ClosesUnwaited service action := by
  obtain ⟨returned, done⟩ := one
  exact attended.step_iff (tasks_listed run) (channels_fresh run) answered (act_submitters done)

/-- A run in which the registry answers goes through attended states only, its last one included, exactly if no
goroutine closes its message while a call waits on its channel. -/
theorem submitters_attended_iff :
    (services scheme interface).GuardedRun (fun service action => RegistryAnswers action ∧ Attended service) history
        service ∧ Attended service ↔
      (services scheme interface).GuardedRun
        (fun service action => RegistryAnswers action ∧ ClosesUnwaited service action) history service := by
  refine System.guardedRun_iff (fun _ action => RegistryAnswers action) Attended ?_ ?_ ?_ ?_
  · rintro service rfl
    exact nofun
  · exact fun _ _ both => both
  · exact fun _ _ both => both.1
  · intro history service action after run attended one
    rw [and_assoc, and_iff_right attended]
    exact and_congr_right fun answered => attended_step_iff run attended answered one

end Runs

/-! ## A call that is left behind -/

theorem Orders.nonempty (info : ValidationInfo Key) : Nonempty (Orders info) := by
  obtain ⟨operators, operatorsVisits⟩ := Map.Visits.of_fintype info.operatorsAvsStateDict.states
  obtain ⟨thresholds, thresholdsVisits⟩ := Map.Visits.of_fintype info.quorumThresholdPercentagesMap
  choose signed signedVisits using fun map : Map QuorumNum Nat => Map.Visits.of_fintype map
  exact ⟨⟨operators, thresholds, signed, operatorsVisits, thresholdsVisits, signedVisits⟩⟩

/-- A call looks up the channel of a round, the round expires and closes, and the call waits on a channel that nobody
reads. No context is cancelled and the registry answers. -/
theorem closed_round_leaves_submitter :
    ∃ (history : List (Action MessageDigest (ZMod 7) (ZMod 7))) (service : Service plainMessages (ZMod 7) (ZMod 7)),
      (services smallScheme plainMessages).GuardedRun
        (fun _ action => RegistryAnswers action ∧ ∀ submitter, action ≠ .cancel submitter) history service ∧
      service.submitters.map Submitter.messageC = [0] ∧ service.channels = [] ∧ ¬ Attended service := by
  let orders : (info : ValidationInfo (ZMod 7)) → Orders info := fun info => Classical.choice (Orders.nonempty info)
  have answered : RegistryAnswers (.readRegistry 0 ⟨none, some (smallTable [(1, 40)]), some Map.empty⟩ :
      Action MessageDigest (ZMod 7) (ZMod 7)) := by
    intro position results same
    cases same
    exact ⟨rfl, rfl⟩
  have unread : ∀ action : Action MessageDigest (ZMod 7) (ZMod 7), (∀ position results,
      action ≠ .readRegistry position results) → RegistryAnswers action :=
    fun _ other position results same => absurd same (other position results)
  refine ⟨[] ++ [.initializeMessage plainRequest] ++
      [.readRegistry 0 ⟨none, some (smallTable [(1, 40)]), some Map.empty⟩] ++
      [.processNewSignature 5 (smallScheme.sign 1 5) (multipleHash 1)] ++ [.timer 0 none orders] ++ [.close 0], _,
    .next (.next (.next (.next (.next (.start rfl)
      ⟨unread _ nofun, nofun⟩ ⟨none, rfl⟩) ⟨answered, nofun⟩ ⟨some none, rfl⟩) ⟨unread _ nofun, nofun⟩ ⟨none, rfl⟩)
      ⟨unread _ nofun, nofun⟩ ⟨none, rfl⟩) ⟨unread _ nofun, nofun⟩ ⟨none, rfl⟩, rfl, rfl, fun attended => ?_⟩
  exact absurd (attended _ (List.mem_singleton_self _)) List.not_mem_nil

end Sffl.Aggregator
