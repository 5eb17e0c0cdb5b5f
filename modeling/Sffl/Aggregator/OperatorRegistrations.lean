import Sffl.Aggregator.Round
import Sffl.Core.Digest
import Sffl.Golang.Follower

/-! The aggregator's table of the registered operators.

The service subscribes to the registrations of keys and to the updates of sockets,
queries what has been registered so far and then reads the subscriptions. The
chain goes on in the meantime, so that the two queries see different moments and
overlap with what the subscriptions hand over. Of the chain it is assumed that
registering a key also sets a socket, and that only a registered operator updates
its socket.
-/

set_option autoImplicit false

namespace Sffl.Aggregator

open Sffl.Evm Sffl.Golang Sffl.Semantics

structure OperatorPubkeys (Key : Type) where
  G1Pubkey : G1Point
  G2Pubkey : Key
  deriving DecidableEq

/-- `NewPubkeyRegistration` -/
structure PubkeyRegistration (Key : Type) where
  operator : Address
  pubkeys : OperatorPubkeys Key
  deriving DecidableEq

/-- The pointers of an unknown operator's keys are nil. -/
structure OperatorInfo (Key : Type) where
  pubkeys : Option (OperatorPubkeys Key)
  socket : String
  deriving DecidableEq

structure RegistrationChain (Key : Type) where
  pubkeyRegistrations : List (PubkeyRegistration Key)
  socketUpdates : List (OperatorId × String)

inductive RegistrationsStage (Key : Type) where
  | subscribingPubkeys
  | subscribingSockets
  | queryingPubkeys
  | queryingSockets (alreadyRegistered : List (PubkeyRegistration Key))
  | serving
  | returned

/-- A subscription is the position of the next event that it hands over. -/
structure OperatorRegistrationsServiceInMemory (Key : Type) where
  stage : RegistrationsStage Key
  newPubkeyRegistrationC : Option Nat
  newSocketRegistrationC : Option Nat
  idToAddr : Map OperatorId Address
  addrToId : Map Address OperatorId
  pubkeysById : Map OperatorId (OperatorPubkeys Key)
  socketById : Map OperatorId String

structure Registrations (Key : Type) where
  chain : RegistrationChain Key
  service : OperatorRegistrationsServiceInMemory Key

inductive RegistrationEvent (Key : Type) where
  /-- An operator registers a key, and its socket in the same transaction. -/
  | register (registration : PubkeyRegistration Key) (socket : String)
  | updateSocket (operatorId : OperatorId) (socket : String)
  | subscribePubkeys (ok : Bool)
  | subscribeSockets (ok : Bool)
  | queryPubkeys (ok : Bool)
  | querySockets (ok : Bool)
  | newPubkeyRegistration
  | newSocketRegistration
  | pubkeySubscriptionError
  | socketSubscriptionError
  | contextDone

section Service
variable {Key : Type} (operatorIdFromG1Pubkey : G1Point → OperatorId)

def PubkeyRegistration.operatorId (registration : PubkeyRegistration Key) : OperatorId :=
  operatorIdFromG1Pubkey registration.pubkeys.G1Pubkey

def newOperatorRegistrationsService (Key : Type) : OperatorRegistrationsServiceInMemory Key where
  stage := .subscribingPubkeys
  newPubkeyRegistrationC := none
  newSocketRegistrationC := none
  idToAddr := Map.empty
  addrToId := Map.empty
  pubkeysById := Map.empty
  socketById := Map.empty

namespace OperatorRegistrationsServiceInMemory

def addPubkeys (service : OperatorRegistrationsServiceInMemory Key) (registration : PubkeyRegistration Key) :
    OperatorRegistrationsServiceInMemory Key :=
  let operatorId := registration.operatorId operatorIdFromG1Pubkey
  { service with
    idToAddr := service.idToAddr.insert operatorId registration.operator
    addrToId := service.addrToId.insert registration.operator operatorId
    pubkeysById := service.pubkeysById.insert operatorId registration.pubkeys }

def addOperator (socketById : Map OperatorId String) (service : OperatorRegistrationsServiceInMemory Key)
    (registration : PubkeyRegistration Key) : OperatorRegistrationsServiceInMemory Key :=
  -- Go reads a missing socket as an empty one
  let operatorId := registration.operatorId operatorIdFromG1Pubkey
  { service.addPubkeys operatorIdFromG1Pubkey registration with
    socketById := service.socketById.insert operatorId ((socketById operatorId).getD "") }

def addOperators (service : OperatorRegistrationsServiceInMemory Key) (alreadyRegistered : List (PubkeyRegistration Key))
    (socketById : Map OperatorId String) : OperatorRegistrationsServiceInMemory Key :=
  alreadyRegistered.foldl (addOperator operatorIdFromG1Pubkey socketById) service

def queryById (service : OperatorRegistrationsServiceInMemory Key) (operatorId : OperatorId) : OperatorInfo Key × Bool :=
  let pubkeys := service.pubkeysById operatorId
  let socket := service.socketById operatorId
  (⟨pubkeys, socket.getD ""⟩, pubkeys.isSome && socket.isSome)

def queryByAddr (service : OperatorRegistrationsServiceInMemory Key) (operatorAddr : Address) : OperatorInfo Key × Bool :=
  -- for an unknown address the other maps are read at the zero id
  let operatorId := service.addrToId operatorAddr
  let answer := service.queryById (operatorId.getD 0)
  (answer.1, operatorId.isSome && answer.2)

end OperatorRegistrationsServiceInMemory

def Registrations.step (state : Registrations Key) : RegistrationEvent Key → Option (Registrations Key)
  | .register registration socket => some { state with chain := {
      pubkeyRegistrations := state.chain.pubkeyRegistrations ++ [registration]
      socketUpdates := state.chain.socketUpdates ++ [(registration.operatorId operatorIdFromG1Pubkey, socket)] } }
  | .updateSocket operatorId socket =>
    if (state.chain.pubkeyRegistrations.map (PubkeyRegistration.operatorId operatorIdFromG1Pubkey)).contains operatorId then
      some { state with chain := { state.chain with socketUpdates := state.chain.socketUpdates ++ [(operatorId, socket)] } }
    else none
  | .subscribePubkeys ok =>
    match state.service.stage with
    | .subscribingPubkeys => some { state with service := if ok then { state.service with
        newPubkeyRegistrationC := some state.chain.pubkeyRegistrations.length
        stage := .subscribingSockets } else { state.service with stage := .returned } }
    | _ => none
  | .subscribeSockets ok =>
    match state.service.stage with
    | .subscribingSockets => some { state with service := if ok then { state.service with
        newSocketRegistrationC := some state.chain.socketUpdates.length
        stage := .queryingPubkeys } else { state.service with stage := .returned } }
    | _ => none
  | .queryPubkeys ok =>
    match state.service.stage with
    | .queryingPubkeys => some { state with service := { state.service with
        stage := if ok then .queryingSockets state.chain.pubkeyRegistrations else .returned } }
    | _ => none
  | .querySockets ok =>
    match state.service.stage with
    | .queryingSockets alreadyRegistered => some { state with service := if ok then
        { state.service.addOperators operatorIdFromG1Pubkey alreadyRegistered (Map.empty.replay state.chain.socketUpdates) with
          stage := .serving }
        else { state.service with stage := .returned } }
    | _ => none
  | .newPubkeyRegistration =>
    match state.service.stage, state.service.newPubkeyRegistrationC with
    | .serving, some position =>
      match state.chain.pubkeyRegistrations[position]? with
      | some registration => some { state with service :=
          { state.service.addPubkeys operatorIdFromG1Pubkey registration with newPubkeyRegistrationC := some (position + 1) } }
      | none => none
    | _, _ => none
  | .newSocketRegistration =>
    match state.service.stage, state.service.newSocketRegistrationC with
    | .serving, some position =>
      match state.chain.socketUpdates[position]? with
      | some (operatorId, socket) => some { state with service := { state.service with
          socketById := state.service.socketById.insert operatorId socket
          newSocketRegistrationC := some (position + 1) } }
      | none => none
    | _, _ => none
  | .pubkeySubscriptionError =>
    match state.service.stage with
    | .serving => some { state with service := { state.service with newPubkeyRegistrationC := none } }
    | _ => none
  | .socketSubscriptionError =>
    match state.service.stage with
    | .serving => some { state with service := { state.service with newSocketRegistrationC := none } }
    | _ => none
  | .contextDone =>
    match state.service.stage with
    | .serving => some { state with service := { state.service with stage := .returned } }
    | _ => none

/-- Operators may register before the service is started. -/
def registrations (Key : Type) : System (Registrations Key) (RegistrationEvent Key) where
  initial state := state = ⟨⟨[], []⟩, newOperatorRegistrationsService Key⟩
  step state event after := state.step operatorIdFromG1Pubkey event = some after

end Service

/-! ## What a step does -/

section Steps
variable {Key : Type} {operatorIdFromG1Pubkey : G1Point → OperatorId} {state after : Registrations Key}
  {event : RegistrationEvent Key}

inductive ServiceStep (operatorIdFromG1Pubkey : G1Point → OperatorId) (chain : RegistrationChain Key)
    (service : OperatorRegistrationsServiceInMemory Key) : OperatorRegistrationsServiceInMemory Key → Prop where
  | subscribePubkeys (stage : service.stage = .subscribingPubkeys) : ServiceStep operatorIdFromG1Pubkey chain service
      { service with newPubkeyRegistrationC := some chain.pubkeyRegistrations.length, stage := .subscribingSockets }
  | subscribeSockets (stage : service.stage = .subscribingSockets) : ServiceStep operatorIdFromG1Pubkey chain service
      { service with newSocketRegistrationC := some chain.socketUpdates.length, stage := .queryingPubkeys }
  | queryPubkeys (stage : service.stage = .queryingPubkeys) : ServiceStep operatorIdFromG1Pubkey chain service
      { service with stage := .queryingSockets chain.pubkeyRegistrations }
  | querySockets {alreadyRegistered : List (PubkeyRegistration Key)} (stage : service.stage = .queryingSockets alreadyRegistered) :
      ServiceStep operatorIdFromG1Pubkey chain service
        { service.addOperators operatorIdFromG1Pubkey alreadyRegistered (Map.empty.replay chain.socketUpdates) with
          stage := .serving }
  | newPubkeyRegistration {position : Nat} {registration : PubkeyRegistration Key} (stage : service.stage = .serving)
      (subscribed : service.newPubkeyRegistrationC = some position)
      (next : chain.pubkeyRegistrations[position]? = some registration) : ServiceStep operatorIdFromG1Pubkey chain service
        { service.addPubkeys operatorIdFromG1Pubkey registration with newPubkeyRegistrationC := some (position + 1) }
  | newSocketRegistration {position : Nat} {update : OperatorId × String} (stage : service.stage = .serving)
      (subscribed : service.newSocketRegistrationC = some position) (next : chain.socketUpdates[position]? = some update) :
      ServiceStep operatorIdFromG1Pubkey chain service { service with
        socketById := service.socketById.insert update.1 update.2
        newSocketRegistrationC := some (position + 1) }
  | pubkeySubscriptionError (stage : service.stage = .serving) : ServiceStep operatorIdFromG1Pubkey chain service
      { service with newPubkeyRegistrationC := none }
  | socketSubscriptionError (stage : service.stage = .serving) : ServiceStep operatorIdFromG1Pubkey chain service
      { service with newSocketRegistrationC := none }
  | returns : ServiceStep operatorIdFromG1Pubkey chain service { service with stage := .returned }

inductive RegistrationStep (operatorIdFromG1Pubkey : G1Point → OperatorId) (state : Registrations Key) :
    Registrations Key → Prop where
  | register (registration : PubkeyRegistration Key) (socket : String) :
      RegistrationStep operatorIdFromG1Pubkey state { state with chain := {
        pubkeyRegistrations := state.chain.pubkeyRegistrations ++ [registration]
        socketUpdates := state.chain.socketUpdates ++ [(registration.operatorId operatorIdFromG1Pubkey, socket)] } }
  | updateSocket {operatorId : OperatorId} {socket : String}
      (registered : operatorId ∈ state.chain.pubkeyRegistrations.map (PubkeyRegistration.operatorId operatorIdFromG1Pubkey)) :
      RegistrationStep operatorIdFromG1Pubkey state { state with chain := { state.chain with
        socketUpdates := state.chain.socketUpdates ++ [(operatorId, socket)] } }
  | serves {service : OperatorRegistrationsServiceInMemory Key}
      (step : ServiceStep operatorIdFromG1Pubkey state.chain state.service service) :
      RegistrationStep operatorIdFromG1Pubkey state { state with service }

theorem registrationStep_of_step (one : state.step operatorIdFromG1Pubkey event = some after) :
    RegistrationStep operatorIdFromG1Pubkey state after := by
  cases event with
  | register registration socket =>
    cases one
    exact .register registration socket
  | updateSocket operatorId socket =>
    obtain ⟨registered, done⟩ := Option.ite_none_right_eq_some.mp one
    cases done
    exact .updateSocket (List.contains_iff_mem.mp registered)
  | subscribePubkeys ok =>
    simp only [Registrations.step] at one
    split at one
    next stage =>
      cases one
      cases ok with
      | true => exact .serves (.subscribePubkeys stage)
      | false => exact .serves .returns
    next => cases one
  | subscribeSockets ok =>
    simp only [Registrations.step] at one
    split at one
    next stage =>
      cases one
      cases ok with
      | true => exact .serves (.subscribeSockets stage)
      | false => exact .serves .returns
    next => cases one
  | queryPubkeys ok =>
    simp only [Registrations.step] at one
    split at one
    next stage =>
      cases one
      cases ok with
      | true => exact .serves (.queryPubkeys stage)
      | false => exact .serves .returns
    next => cases one
  | querySockets ok =>
    simp only [Registrations.step] at one
    split at one
    next stage =>
      cases one
      cases ok with
      | true => exact .serves (.querySockets stage)
      | false => exact .serves .returns
    next => cases one
  | newPubkeyRegistration =>
    simp only [Registrations.step] at one
    split at one
    next stage subscribed =>
      split at one
      next next =>
        cases one
        exact .serves (.newPubkeyRegistration stage subscribed next)
      next => cases one
    next => cases one
  | newSocketRegistration =>
    simp only [Registrations.step] at one
    split at one
    next stage subscribed =>
      split at one
      next next =>
        cases one
        exact .serves (.newSocketRegistration stage subscribed next)
      next => cases one
    next => cases one
  | pubkeySubscriptionError =>
    simp only [Registrations.step] at one
    split at one
    next stage =>
      cases one
      exact .serves (.pubkeySubscriptionError stage)
    next => cases one
  | socketSubscriptionError =>
    simp only [Registrations.step] at one
    split at one
    next stage =>
      cases one
      exact .serves (.socketSubscriptionError stage)
    next => cases one
  | contextDone =>
    simp only [Registrations.step] at one
    split at one
    next =>
      cases one
      exact .serves .returns
    next => cases one

end Steps

/-! ## The maps and the chain -/

section Entries
variable {Key : Type} (operatorIdFromG1Pubkey : G1Point → OperatorId)

/-! A registration is one entry in each of three maps. -/

def PubkeyRegistration.idEntry (registration : PubkeyRegistration Key) : OperatorId × Address :=
  (registration.operatorId operatorIdFromG1Pubkey, registration.operator)

def PubkeyRegistration.addrEntry (registration : PubkeyRegistration Key) : Address × OperatorId :=
  (registration.operator, registration.operatorId operatorIdFromG1Pubkey)

def PubkeyRegistration.pubkeysEntry (registration : PubkeyRegistration Key) : OperatorId × OperatorPubkeys Key :=
  (registration.operatorId operatorIdFromG1Pubkey, registration.pubkeys)

def RegistrationChain.ids (chain : RegistrationChain Key) : List OperatorId :=
  chain.pubkeyRegistrations.map (PubkeyRegistration.operatorId operatorIdFromG1Pubkey)

/-- An operator has a socket exactly if it has registered its key. -/
def RegistrationChain.Lawful (chain : RegistrationChain Key) : Prop :=
  ∀ operatorId, operatorId ∈ chain.socketUpdates.map Prod.fst ↔ operatorId ∈ chain.ids operatorIdFromG1Pubkey

open OperatorRegistrationsServiceInMemory in
theorem addOperators_eq (service : OperatorRegistrationsServiceInMemory Key)
    (alreadyRegistered : List (PubkeyRegistration Key)) (socketById : Map OperatorId String) :
    service.addOperators operatorIdFromG1Pubkey alreadyRegistered socketById = { service with
      idToAddr := service.idToAddr.replay (alreadyRegistered.map (PubkeyRegistration.idEntry operatorIdFromG1Pubkey))
      addrToId := service.addrToId.replay (alreadyRegistered.map (PubkeyRegistration.addrEntry operatorIdFromG1Pubkey))
      pubkeysById := service.pubkeysById.replay
        (alreadyRegistered.map (PubkeyRegistration.pubkeysEntry operatorIdFromG1Pubkey))
      socketById := service.socketById.replay (alreadyRegistered.map fun registration =>
        (registration.operatorId operatorIdFromG1Pubkey,
          (socketById (registration.operatorId operatorIdFromG1Pubkey)).getD "")) } := by
  induction alreadyRegistered generalizing service with
  | nil => rfl
  | cons registration alreadyRegistered ih => exact ih _

end Entries

/-! ## Loading and following -/

section Invariant
variable {Key : Type} (operatorIdFromG1Pubkey : G1Point → OperatorId)

structure OperatorRegistrationsServiceInMemory.Unloaded (service : OperatorRegistrationsServiceInMemory Key) : Prop where
  idToAddr : service.idToAddr = Map.empty
  addrToId : service.addrToId = Map.empty
  pubkeysById : service.pubkeysById = Map.empty
  socketById : service.socketById = Map.empty

structure RegistrationChain.Followed (chain : RegistrationChain Key) (service : OperatorRegistrationsServiceInMemory Key) :
    Prop where
  idToAddr : ∀ position ∈ service.newPubkeyRegistrationC,
    Map.Follows (chain.pubkeyRegistrations.map (PubkeyRegistration.idEntry operatorIdFromG1Pubkey)) position service.idToAddr
  addrToId : ∀ position ∈ service.newPubkeyRegistrationC,
    Map.Follows (chain.pubkeyRegistrations.map (PubkeyRegistration.addrEntry operatorIdFromG1Pubkey)) position service.addrToId
  pubkeysById : ∀ position ∈ service.newPubkeyRegistrationC,
    Map.Follows (chain.pubkeyRegistrations.map (PubkeyRegistration.pubkeysEntry operatorIdFromG1Pubkey)) position
      service.pubkeysById
  socketById : ∀ position ∈ service.newSocketRegistrationC, Map.Follows chain.socketUpdates position service.socketById

/-- The service subscribes before it queries. An operator that the first query does not see has no socket before the
second subscription. -/
inductive RegistrationChain.Tracked (chain : RegistrationChain Key) :
    OperatorRegistrationsServiceInMemory Key → Prop where
  | subscribingPubkeys {service : OperatorRegistrationsServiceInMemory Key} (stage : service.stage = .subscribingPubkeys)
      (unloaded : service.Unloaded) : Tracked chain service
  | subscribingSockets {service : OperatorRegistrationsServiceInMemory Key} {pubkeys : Nat}
      (stage : service.stage = .subscribingSockets) (unloaded : service.Unloaded)
      (pubkeysC : service.newPubkeyRegistrationC = some pubkeys) (begun : pubkeys ≤ chain.pubkeyRegistrations.length) :
      Tracked chain service
  | queryingPubkeys {service : OperatorRegistrationsServiceInMemory Key} {pubkeys sockets : Nat}
      (stage : service.stage = .queryingPubkeys) (unloaded : service.Unloaded)
      (pubkeysC : service.newPubkeyRegistrationC = some pubkeys) (begun : pubkeys ≤ chain.pubkeyRegistrations.length)
      (socketsC : service.newSocketRegistrationC = some sockets) (socketsBegun : sockets ≤ chain.socketUpdates.length) :
      Tracked chain service
  | queryingSockets {service : OperatorRegistrationsServiceInMemory Key} {pubkeys sockets snapshot : Nat}
      (stage : service.stage = .queryingSockets (chain.pubkeyRegistrations.take snapshot)) (unloaded : service.Unloaded)
      (pubkeysC : service.newPubkeyRegistrationC = some pubkeys) (begun : pubkeys ≤ snapshot)
      (queried : snapshot ≤ chain.pubkeyRegistrations.length)
      (socketsC : service.newSocketRegistrationC = some sockets) (socketsBegun : sockets ≤ chain.socketUpdates.length)
      (seen : ∀ operatorId ∈ (chain.socketUpdates.take sockets).map Prod.fst,
        operatorId ∈ (chain.pubkeyRegistrations.take snapshot).map (PubkeyRegistration.operatorId operatorIdFromG1Pubkey)) :
      Tracked chain service
  | serving {service : OperatorRegistrationsServiceInMemory Key} (stage : service.stage = .serving)
      (followed : chain.Followed operatorIdFromG1Pubkey service) : Tracked chain service
  | returned {service : OperatorRegistrationsServiceInMemory Key} (stage : service.stage = .returned) : Tracked chain service

structure RegistrationChain.Sourced (chain : RegistrationChain Key) (service : OperatorRegistrationsServiceInMemory Key) :
    Prop where
  addrToId : Map.WrittenBy (chain.pubkeyRegistrations.map (PubkeyRegistration.addrEntry operatorIdFromG1Pubkey))
    service.addrToId
  pubkeysById : Map.WrittenBy (chain.pubkeyRegistrations.map (PubkeyRegistration.pubkeysEntry operatorIdFromG1Pubkey))
    service.pubkeysById
  socketById : Map.WrittenBy chain.socketUpdates service.socketById

variable {operatorIdFromG1Pubkey : G1Point → OperatorId} {chain : RegistrationChain Key}
  {service next : OperatorRegistrationsServiceInMemory Key}

/-! The chain goes on. -/

section Growth
variable (moreRegistrations : List (PubkeyRegistration Key)) (moreUpdates : List (OperatorId × String))

theorem RegistrationChain.Followed.grow (followed : chain.Followed operatorIdFromG1Pubkey service) :
    RegistrationChain.Followed operatorIdFromG1Pubkey
      ⟨chain.pubkeyRegistrations ++ moreRegistrations, chain.socketUpdates ++ moreUpdates⟩ service := by
  constructor
  · intro position subscribed
    rw [List.map_append]
    exact (followed.idToAddr position subscribed).append _
  · intro position subscribed
    rw [List.map_append]
    exact (followed.addrToId position subscribed).append _
  · intro position subscribed
    rw [List.map_append]
    exact (followed.pubkeysById position subscribed).append _
  · intro position subscribed
    exact (followed.socketById position subscribed).append _

theorem RegistrationChain.Sourced.grow (sourced : chain.Sourced operatorIdFromG1Pubkey service) :
    RegistrationChain.Sourced operatorIdFromG1Pubkey
      ⟨chain.pubkeyRegistrations ++ moreRegistrations, chain.socketUpdates ++ moreUpdates⟩ service := by
  constructor
  · rw [List.map_append]
    exact sourced.addrToId.append _
  · rw [List.map_append]
    exact sourced.pubkeysById.append _
  · exact sourced.socketById.append _

theorem RegistrationChain.Tracked.grow (tracked : chain.Tracked operatorIdFromG1Pubkey service) :
    RegistrationChain.Tracked operatorIdFromG1Pubkey
      ⟨chain.pubkeyRegistrations ++ moreRegistrations, chain.socketUpdates ++ moreUpdates⟩ service := by
  have longer {α : Type} {position : Nat} {log : List α} (more : List α) (inLog : position ≤ log.length) :
      position ≤ (log ++ more).length := by
    rw [List.length_append]
    exact Nat.le_add_right_of_le inLog
  cases tracked with
  | subscribingPubkeys stage unloaded => exact .subscribingPubkeys stage unloaded
  | subscribingSockets stage unloaded pubkeysC begun => exact .subscribingSockets stage unloaded pubkeysC (longer _ begun)
  | queryingPubkeys stage unloaded pubkeysC begun socketsC socketsBegun =>
    exact .queryingPubkeys stage unloaded pubkeysC (longer _ begun) socketsC (longer _ socketsBegun)
  | queryingSockets stage unloaded pubkeysC begun queried socketsC socketsBegun seen =>
    refine .queryingSockets ?_ unloaded pubkeysC begun (longer _ queried) socketsC (longer _ socketsBegun) ?_
    · rw [List.take_append_of_le_length queried]
      exact stage
    · rw [List.take_append_of_le_length socketsBegun, List.take_append_of_le_length queried]
      exact seen
  | serving stage followed => exact .serving stage (followed.grow _ _)
  | returned stage => exact .returned stage

end Growth

theorem RegistrationChain.Lawful.register (lawful : chain.Lawful operatorIdFromG1Pubkey)
    (registration : PubkeyRegistration Key) (socket : String) :
    RegistrationChain.Lawful operatorIdFromG1Pubkey ⟨chain.pubkeyRegistrations ++ [registration],
      chain.socketUpdates ++ [(registration.operatorId operatorIdFromG1Pubkey, socket)]⟩ := by
  intro operatorId
  have before := lawful operatorId
  rw [RegistrationChain.ids] at before ⊢
  rw [List.map_append, List.mem_append, List.map_append, List.mem_append, before]
  rfl

theorem RegistrationChain.Lawful.updateSocket (lawful : chain.Lawful operatorIdFromG1Pubkey) {operatorId : OperatorId}
    (registered : operatorId ∈ chain.ids operatorIdFromG1Pubkey) (socket : String) :
    RegistrationChain.Lawful operatorIdFromG1Pubkey
      { chain with socketUpdates := chain.socketUpdates ++ [(operatorId, socket)] } := by
  intro other
  show other ∈ (chain.socketUpdates ++ [(operatorId, socket)]).map Prod.fst ↔ other ∈ chain.ids operatorIdFromG1Pubkey
  rw [List.map_append, List.mem_append, lawful other]
  constructor
  · rintro (known | same)
    · exact known
    · rw [List.map_singleton, List.mem_singleton] at same
      rw [same]
      exact registered
  · exact .inl

/-! The service goes on. -/

/-- A map that is loaded from the registrations up to a moment after the subscription. -/
theorem follows_of_snapshot {K V : Type} [DecidableEq K] {entry : PubkeyRegistration Key → K × V}
    {registrations : List (PubkeyRegistration Key)} {start snapshot : Nat} (begun : start ≤ snapshot)
    (queried : snapshot ≤ registrations.length) :
    Map.Follows (registrations.map entry) start (Map.empty.replay ((registrations.take snapshot).map entry)) := by
  have inLog : snapshot ≤ (registrations.map entry).length := by
    rw [List.length_map]
    exact queried
  apply Map.Follows.of_loaded (begun.trans inLog)
  intro key
  refine ⟨snapshot, begun, inLog, ?_⟩
  rw [List.map_take]

section Sockets
variable {registered : List (PubkeyRegistration Key)}

theorem replay_sockets (socketById : Map OperatorId String) (operatorId : OperatorId) :
    Map.empty.replay (registered.map fun registration => (registration.operatorId operatorIdFromG1Pubkey,
      (socketById (registration.operatorId operatorIdFromG1Pubkey)).getD "")) operatorId =
    if operatorId ∈ registered.map (PubkeyRegistration.operatorId operatorIdFromG1Pubkey) then
      some ((socketById operatorId).getD "")
    else none := by
  induction registered using List.reverseRecOn with
  | nil => rfl
  | append_singleton registered registration ih =>
    rw [List.map_append, List.map_singleton, Map.replay_concat]
    by_cases same : operatorId = registration.operatorId operatorIdFromG1Pubkey
    · rw [same, Map.insert_self, if_pos]
      simp
    · rw [Map.insert_of_ne _ _ same, ih]
      simp [same]

variable (lawful : chain.Lawful operatorIdFromG1Pubkey) (known : registered ⊆ chain.pubkeyRegistrations)
include lawful known

theorem socket_of_registered {operatorId : OperatorId}
    (loaded : operatorId ∈ registered.map (PubkeyRegistration.operatorId operatorIdFromG1Pubkey)) :
    some ((Map.empty.replay chain.socketUpdates operatorId).getD "") = Map.empty.replay chain.socketUpdates operatorId := by
  have present : operatorId ∈ chain.socketUpdates.map Prod.fst := (lawful operatorId).mpr (List.map_subset _ known loaded)
  obtain ⟨socket, found⟩ := Option.isSome_iff_exists.mp (Map.replay_isSome.mpr present)
  rw [found]
  rfl

theorem follows_of_sockets {start : Nat} (begun : start ≤ chain.socketUpdates.length)
    (seen : ∀ operatorId ∈ (chain.socketUpdates.take start).map Prod.fst,
      operatorId ∈ registered.map (PubkeyRegistration.operatorId operatorIdFromG1Pubkey)) :
    Map.Follows chain.socketUpdates start (Map.empty.replay (registered.map fun registration =>
      (registration.operatorId operatorIdFromG1Pubkey,
        (Map.empty.replay chain.socketUpdates (registration.operatorId operatorIdFromG1Pubkey)).getD ""))) := by
  apply Map.Follows.of_loaded begun
  intro operatorId
  rw [Map.Loaded, replay_sockets]
  by_cases loaded : operatorId ∈ registered.map (PubkeyRegistration.operatorId operatorIdFromG1Pubkey)
  · refine ⟨chain.socketUpdates.length, begun, Nat.le_refl _, ?_⟩
    rw [if_pos loaded, List.take_length]
    exact socket_of_registered lawful known loaded
  -- an operator that is not loaded has all its sockets after the subscription
  · refine ⟨start, Nat.le_refl _, begun, ?_⟩
    rw [if_neg loaded, Map.replay_of_not_mem fun early => loaded (seen operatorId early)]
    rfl

theorem writtenBy_sockets : Map.WrittenBy chain.socketUpdates (Map.empty.replay (registered.map fun registration =>
    (registration.operatorId operatorIdFromG1Pubkey,
      (Map.empty.replay chain.socketUpdates (registration.operatorId operatorIdFromG1Pubkey)).getD ""))) := by
  intro operatorId socket found
  rw [replay_sockets] at found
  split at found
  next loaded =>
    rw [socket_of_registered lawful known loaded] at found
    exact (Map.mem_of_replay found).resolve_right nofun
  next => cases found

end Sockets

theorem RegistrationChain.Sourced.of_unloaded (unloaded : service.Unloaded) : chain.Sourced operatorIdFromG1Pubkey service := by
  constructor
  · rw [unloaded.addrToId]
    exact nofun
  · rw [unloaded.pubkeysById]
    exact nofun
  · rw [unloaded.socketById]
    exact nofun

theorem RegistrationChain.Followed.readPubkeys {position : Nat} {registration : PubkeyRegistration Key}
    (followed : chain.Followed operatorIdFromG1Pubkey service) (subscribed : service.newPubkeyRegistrationC = some position)
    (read : chain.pubkeyRegistrations[position]? = some registration) :
    chain.Followed operatorIdFromG1Pubkey
      { service.addPubkeys operatorIdFromG1Pubkey registration with newPubkeyRegistrationC := some (position + 1) } := by
  have entry {α : Type} (f : PubkeyRegistration Key → α) :
      (chain.pubkeyRegistrations.map f)[position]? = some (f registration) := by
    rw [List.getElem?_map, read]
    rfl
  constructor
  · rintro _ ⟨⟩
    exact (followed.idToAddr position subscribed).read (entry _)
  · rintro _ ⟨⟩
    exact (followed.addrToId position subscribed).read (entry _)
  · rintro _ ⟨⟩
    exact (followed.pubkeysById position subscribed).read (entry _)
  · exact followed.socketById

theorem RegistrationChain.Tracked.step (tracked : chain.Tracked operatorIdFromG1Pubkey service)
    (lawful : chain.Lawful operatorIdFromG1Pubkey) (step : ServiceStep operatorIdFromG1Pubkey chain service next) :
    chain.Tracked operatorIdFromG1Pubkey next := by
  cases step with
  | subscribePubkeys stage =>
    cases tracked with
    | subscribingPubkeys _ unloaded =>
      obtain ⟨idToAddr, addrToId, pubkeysById, socketById⟩ := unloaded
      exact .subscribingSockets rfl ⟨idToAddr, addrToId, pubkeysById, socketById⟩ rfl (Nat.le_refl _)
    | _ other => exact absurd (stage.symm.trans other) nofun
  | subscribeSockets stage =>
    cases tracked with
    | subscribingSockets _ unloaded pubkeysC begun =>
      obtain ⟨idToAddr, addrToId, pubkeysById, socketById⟩ := unloaded
      exact .queryingPubkeys rfl ⟨idToAddr, addrToId, pubkeysById, socketById⟩ pubkeysC begun rfl (Nat.le_refl _)
    | _ other => exact absurd (stage.symm.trans other) nofun
  | queryPubkeys stage =>
    cases tracked with
    | queryingPubkeys _ unloaded pubkeysC begun socketsC socketsBegun =>
      obtain ⟨idToAddr, addrToId, pubkeysById, socketById⟩ := unloaded
      refine .queryingSockets ?_ ⟨idToAddr, addrToId, pubkeysById, socketById⟩ pubkeysC begun (Nat.le_refl _) socketsC
        socketsBegun ?_
      · rw [List.take_length]
      · rw [List.take_length]
        intro operatorId early
        exact (lawful operatorId).mp (List.map_subset _ (List.take_subset _ _) early)
    | _ other => exact absurd (stage.symm.trans other) nofun
  | querySockets stage =>
    cases tracked with
    | queryingSockets other unloaded pubkeysC begun queried socketsC socketsBegun seen =>
      cases stage.symm.trans other
      refine .serving rfl ?_
      rw [addOperators_eq, unloaded.idToAddr, unloaded.addrToId, unloaded.pubkeysById, unloaded.socketById]
      constructor
      · intro position subscribed
        cases pubkeysC.symm.trans subscribed
        exact follows_of_snapshot begun queried
      · intro position subscribed
        cases pubkeysC.symm.trans subscribed
        exact follows_of_snapshot begun queried
      · intro position subscribed
        cases pubkeysC.symm.trans subscribed
        exact follows_of_snapshot begun queried
      · intro position subscribed
        cases socketsC.symm.trans subscribed
        exact follows_of_sockets lawful (List.take_subset _ _) socketsBegun seen
    | _ other => exact absurd (stage.symm.trans other) nofun
  | newPubkeyRegistration stage subscribed read =>
    cases tracked with
    | serving _ followed => exact .serving stage (followed.readPubkeys subscribed read)
    | _ other => exact absurd (stage.symm.trans other) nofun
  | newSocketRegistration stage subscribed read =>
    cases tracked with
    | serving _ followed =>
      refine .serving stage ⟨followed.idToAddr, followed.addrToId, followed.pubkeysById, ?_⟩
      rintro _ ⟨⟩
      exact (followed.socketById _ subscribed).read read
    | _ other => exact absurd (stage.symm.trans other) nofun
  | pubkeySubscriptionError stage =>
    cases tracked with
    | serving _ followed => exact .serving stage ⟨nofun, nofun, nofun, followed.socketById⟩
    | _ other => exact absurd (stage.symm.trans other) nofun
  | socketSubscriptionError stage =>
    cases tracked with
    | serving _ followed => exact .serving stage ⟨followed.idToAddr, followed.addrToId, followed.pubkeysById, nofun⟩
    | _ other => exact absurd (stage.symm.trans other) nofun
  | returns => exact .returned rfl

theorem RegistrationChain.Sourced.step (sourced : chain.Sourced operatorIdFromG1Pubkey service)
    (tracked : chain.Tracked operatorIdFromG1Pubkey service) (lawful : chain.Lawful operatorIdFromG1Pubkey)
    (step : ServiceStep operatorIdFromG1Pubkey chain service next) : chain.Sourced operatorIdFromG1Pubkey next := by
  cases step with
  | querySockets stage =>
    cases tracked with
    | queryingSockets other unloaded =>
      cases stage.symm.trans other
      rw [addOperators_eq, unloaded.socketById]
      constructor
      · exact sourced.addrToId.replay (List.map_subset _ (List.take_subset _ _))
      · exact sourced.pubkeysById.replay (List.map_subset _ (List.take_subset _ _))
      · exact writtenBy_sockets lawful (List.take_subset _ _)
    | _ other => exact absurd (stage.symm.trans other) nofun
  | newPubkeyRegistration _ _ read =>
    have among := List.mem_of_getElem? read
    constructor
    · exact sourced.addrToId.insert (List.mem_map_of_mem among)
    · exact sourced.pubkeysById.insert (List.mem_map_of_mem among)
    · exact sourced.socketById
  | newSocketRegistration _ _ read =>
    refine ⟨sourced.addrToId, sourced.pubkeysById, ?_⟩
    exact sourced.socketById.insert (List.mem_of_getElem? read)
  | _ => exact ⟨sourced.addrToId, sourced.pubkeysById, sourced.socketById⟩

structure Registrations.Sound (operatorIdFromG1Pubkey : G1Point → OperatorId) (state : Registrations Key) : Prop where
  lawful : state.chain.Lawful operatorIdFromG1Pubkey
  tracked : state.chain.Tracked operatorIdFromG1Pubkey state.service
  sourced : state.chain.Sourced operatorIdFromG1Pubkey state.service

theorem Registrations.Sound.step {state after : Registrations Key} (sound : state.Sound operatorIdFromG1Pubkey)
    (step : RegistrationStep operatorIdFromG1Pubkey state after) : after.Sound operatorIdFromG1Pubkey := by
  obtain ⟨lawful, tracked, sourced⟩ := sound
  cases step with
  | register registration socket => exact ⟨lawful.register registration socket, tracked.grow _ _, sourced.grow _ _⟩
  | @updateSocket operatorId socket registered =>
    refine ⟨lawful.updateSocket registered socket, ?_, ?_⟩
    · have grown := tracked.grow [] [(operatorId, socket)]
      rw [List.append_nil] at grown
      exact grown
    · have grown := sourced.grow [] [(operatorId, socket)]
      rw [List.append_nil] at grown
      exact grown
  | serves step => exact ⟨lawful, tracked.step lawful step, sourced.step tracked lawful step⟩

theorem Registrations.Sound.of_reachable {state : Registrations Key}
    (reachable : (registrations operatorIdFromG1Pubkey Key).Reachable state) : state.Sound operatorIdFromG1Pubkey := by
  apply reachable.invariant
  · rintro _ rfl
    have unloaded : (newOperatorRegistrationsService Key).Unloaded := ⟨rfl, rfl, rfl, rfl⟩
    exact ⟨fun _ => Iff.rfl, .subscribingPubkeys rfl unloaded, .of_unloaded unloaded⟩
  · intro state event after sound one
    exact sound.step (registrationStep_of_step one)

end Invariant

/-! ## Answers -/

section Answers
variable {Key : Type} (operatorIdFromG1Pubkey : G1Point → OperatorId)

/-! What the chain says about an operator. -/

def RegistrationChain.registrationById (chain : RegistrationChain Key) (operatorId : OperatorId) :
    Option (PubkeyRegistration Key) :=
  chain.pubkeyRegistrations.reverse.find? fun registration => registration.operatorId operatorIdFromG1Pubkey = operatorId

def RegistrationChain.registrationByAddr (chain : RegistrationChain Key) (operatorAddr : Address) :
    Option (PubkeyRegistration Key) :=
  chain.pubkeyRegistrations.reverse.find? fun registration => registration.operator = operatorAddr

def RegistrationChain.socketOf (chain : RegistrationChain Key) (operatorId : OperatorId) : Option String :=
  (chain.socketUpdates.reverse.find? fun update => update.1 = operatorId).map Prod.snd

def RegistrationChain.infoById (chain : RegistrationChain Key) (operatorId : OperatorId) : OperatorInfo Key × Bool :=
  match chain.registrationById operatorIdFromG1Pubkey operatorId with
  | none => (⟨none, ""⟩, false)
  | some registration => (⟨some registration.pubkeys, (chain.socketOf operatorId).getD ""⟩, true)

def RegistrationChain.infoByAddr (chain : RegistrationChain Key) (operatorAddr : Address) : OperatorInfo Key × Bool :=
  match chain.registrationByAddr operatorAddr with
  | none => ((chain.infoById operatorIdFromG1Pubkey 0).1, false)
  | some registration => chain.infoById operatorIdFromG1Pubkey (registration.operatorId operatorIdFromG1Pubkey)

structure Registrations.UpToDate (state : Registrations Key) : Prop where
  serving : state.service.stage = .serving
  pubkeys : state.service.newPubkeyRegistrationC = some state.chain.pubkeyRegistrations.length
  sockets : state.service.newSocketRegistrationC = some state.chain.socketUpdates.length

variable {operatorIdFromG1Pubkey : G1Point → OperatorId} {chain : RegistrationChain Key}

theorem replay_registrations {K V : Type} [DecidableEq K] (entry : PubkeyRegistration Key → K × V) (key : K) :
    Map.empty.replay (chain.pubkeyRegistrations.map entry) key =
      (chain.pubkeyRegistrations.reverse.find? fun registration => (entry registration).1 = key).map
        fun registration => (entry registration).2 := by
  rw [Map.replay_eq_find, ← List.map_reverse, List.find?_map, Option.map_map]
  rfl

theorem socketOf_isSome (lawful : chain.Lawful operatorIdFromG1Pubkey) (operatorId : OperatorId) :
    (chain.socketOf operatorId).isSome = (chain.registrationById operatorIdFromG1Pubkey operatorId).isSome := by
  rw [Bool.eq_iff_iff, RegistrationChain.socketOf, ← Map.replay_eq_find, Map.replay_isSome, lawful operatorId,
    RegistrationChain.registrationById, List.find?_isSome, RegistrationChain.ids, List.mem_map]
  simp

variable {state : Registrations Key} (sound : state.Sound operatorIdFromG1Pubkey) (upToDate : state.UpToDate)
include sound upToDate

theorem Registrations.Sound.followed : state.chain.Followed operatorIdFromG1Pubkey state.service := by
  cases sound.tracked with
  | serving _ followed => exact followed
  | _ other => exact absurd (upToDate.serving.symm.trans other) nofun

theorem pubkeysById_upToDate (operatorId : OperatorId) : state.service.pubkeysById operatorId =
    (state.chain.registrationById operatorIdFromG1Pubkey operatorId).map PubkeyRegistration.pubkeys := by
  have follows := (sound.followed upToDate).pubkeysById _ upToDate.pubkeys
  rw [← List.length_map (PubkeyRegistration.pubkeysEntry operatorIdFromG1Pubkey)] at follows
  rw [follows.current, replay_registrations]
  rfl

theorem addrToId_upToDate (operatorAddr : Address) : state.service.addrToId operatorAddr =
    (state.chain.registrationByAddr operatorAddr).map (PubkeyRegistration.operatorId operatorIdFromG1Pubkey) := by
  have follows := (sound.followed upToDate).addrToId _ upToDate.pubkeys
  rw [← List.length_map (PubkeyRegistration.addrEntry operatorIdFromG1Pubkey)] at follows
  rw [follows.current, replay_registrations]
  rfl

theorem socketById_upToDate (operatorId : OperatorId) :
    state.service.socketById operatorId = state.chain.socketOf operatorId := by
  rw [((sound.followed upToDate).socketById _ upToDate.sockets).current, Map.replay_eq_find]
  rfl

theorem queryById_upToDate (operatorId : OperatorId) :
    state.service.queryById operatorId = state.chain.infoById operatorIdFromG1Pubkey operatorId := by
  have socketed := socketOf_isSome sound.lawful operatorId
  rw [OperatorRegistrationsServiceInMemory.queryById, RegistrationChain.infoById, pubkeysById_upToDate sound upToDate,
    socketById_upToDate sound upToDate]
  cases found : state.chain.registrationById operatorIdFromG1Pubkey operatorId with
  | none =>
    rw [found] at socketed
    rw [Option.isNone_iff_eq_none.mp (Option.isSome_eq_false_iff.mp socketed)]
    rfl
  | some registration =>
    rw [found] at socketed
    simp only [Option.map_some, Option.isSome_some, socketed, Bool.and_self]

end Answers

/-- However the registrations fall between the subscriptions, the two queries and the loop: once the service has read its
subscriptions it answers with the latest registration and socket of every operator. -/
theorem operator_infos_upToDate {Key : Type} {operatorIdFromG1Pubkey : G1Point → OperatorId} {state : Registrations Key}
    (reachable : (registrations operatorIdFromG1Pubkey Key).Reachable state) (upToDate : state.UpToDate) :
    (∀ operatorId, state.service.queryById operatorId = state.chain.infoById operatorIdFromG1Pubkey operatorId) ∧
    ∀ operatorAddr, state.service.queryByAddr operatorAddr = state.chain.infoByAddr operatorIdFromG1Pubkey operatorAddr := by
  have sound := Registrations.Sound.of_reachable reachable
  refine ⟨queryById_upToDate sound upToDate, ?_⟩
  intro operatorAddr
  rw [OperatorRegistrationsServiceInMemory.queryByAddr, RegistrationChain.infoByAddr, addrToId_upToDate sound upToDate]
  cases state.chain.registrationByAddr operatorAddr with
  | none =>
    rw [queryById_upToDate sound upToDate]
    rfl
  | some registration =>
    rw [queryById_upToDate sound upToDate]
    simp only [Option.map_some, Option.getD_some, Option.isSome_some, Bool.true_and]

/-! Registrations before, between and after the queries. The first coordinate of a key is its id. -/

def firstCoordinate (pubkey : G1Point) : OperatorId := pubkey.X

def keyed (operator : Address) (key : Bytes32) : PubkeyRegistration Nat := ⟨operator, ⟨⟨key, 0⟩, key.toNat⟩⟩

def overlappingRegistrations : List (RegistrationEvent Nat) :=
  [.register (keyed 1 11) "a", .subscribePubkeys true, .register (keyed 2 12) "b", .subscribeSockets true,
    .updateSocket 11 "c", .queryPubkeys true, .register (keyed 3 13) "d", .updateSocket 12 "e", .querySockets true,
    .newSocketRegistration, .newPubkeyRegistration, .newSocketRegistration, .newPubkeyRegistration, .newSocketRegistration]

theorem operator_infos_upToDate_overlapping :
    ∃ state, (registrations firstCoordinate Nat).Reachable state ∧ state.UpToDate ∧
      state.service.queryById 12 = (⟨some ⟨⟨12, 0⟩, 12⟩, "e"⟩, true) ∧
      state.service.queryByAddr 3 = (⟨some ⟨⟨13, 0⟩, 13⟩, "d"⟩, true) := by
  have computed : ∃ state, overlappingRegistrations.foldlM (Registrations.step firstCoordinate)
      ⟨⟨[], []⟩, newOperatorRegistrationsService Nat⟩ = some state ∧ state.UpToDate ∧
      state.chain.infoById firstCoordinate 12 = (⟨some ⟨⟨12, 0⟩, 12⟩, "e"⟩, true) ∧
      state.chain.infoByAddr firstCoordinate 3 = (⟨some ⟨⟨13, 0⟩, 13⟩, "d"⟩, true) :=
    ⟨_, rfl, ⟨rfl, rfl, rfl⟩, rfl, rfl⟩
  obtain ⟨state, computed, upToDate, byId, byAddr⟩ := computed
  have reachable : (registrations firstCoordinate Nat).Reachable state :=
    ⟨_, System.Run.of_steps (fun _ _ _ one => one) rfl computed⟩
  have answers := operator_infos_upToDate reachable upToDate
  exact ⟨state, reachable, upToDate, (answers.1 12).trans byId, (answers.2 3).trans byAddr⟩

/-! ## Verifying a signature -/

inductive AggregatorError where
  | digest
  | taskResponseDigest
  | operatorNotFound
  | invalidSignature
  deriving DecidableEq, Repr

section Verifying
variable {Key Sig : Type} (keccak256 : Bytes → Bytes32) (scheme : SignatureScheme Sig Key)

/-- The aggregator's `verifySignature`, before a message reaches a service. -/
def OperatorRegistrationsServiceInMemory.verifySignature (service : OperatorRegistrationsServiceInMemory Key)
    (message : Core.Message) (blsSignature : Sig) (operatorId : OperatorId) : Except AggregatorError Unit :=
  match message.digest keccak256 with
  | none =>
    match message with
    | .checkpointTaskResponse _ => .error .taskResponseDigest
    | _ => .error .digest
  | some digest =>
    match service.queryById operatorId with
    | (⟨some pubkeys, _⟩, true) =>
      match scheme.verify blsSignature pubkeys.G2Pubkey digest with
      | some true => .ok ()
      | _ => .error .invalidSignature
    | _ => .error .operatorNotFound

variable {keccak256 : Bytes → Bytes32} {scheme : SignatureScheme Sig Key} {operatorIdFromG1Pubkey : G1Point → OperatorId}
  {service : OperatorRegistrationsServiceInMemory Key} {message : Core.Message} {blsSignature : Sig} {operatorId : OperatorId}

theorem verifySignature_eq_ok : service.verifySignature keccak256 scheme message blsSignature operatorId = .ok () ↔
    ∃ digest pubkeys socket, message.digest keccak256 = some digest ∧
      service.queryById operatorId = (⟨some pubkeys, socket⟩, true) ∧
      scheme.verify blsSignature pubkeys.G2Pubkey digest = some true := by
  unfold OperatorRegistrationsServiceInMemory.verifySignature
  constructor
  · intro accepted
    split at accepted
    next =>
      split at accepted
      next => cases accepted
      next => cases accepted
    next digest computed =>
      split at accepted
      next pubkeys socket known =>
        split at accepted
        next valid => exact ⟨digest, pubkeys, socket, computed, known, valid⟩
        next => cases accepted
      next => cases accepted
  · rintro ⟨digest, pubkeys, socket, computed, known, valid⟩
    rw [computed, known]
    simp only [valid]

/-- A signature that the aggregator lets through is one under a key that is registered on the chain with the operator's id,
whatever the service has missed. Once it has read its subscriptions, it lets through exactly the signatures under the
operators' latest keys. -/
theorem verified_signatures_registered (keccak256 : Bytes → Bytes32) (scheme : SignatureScheme Sig Key)
    {state : Registrations Key} (reachable : (registrations operatorIdFromG1Pubkey Key).Reachable state)
    (message : Core.Message) (blsSignature : Sig) (operatorId : OperatorId) :
    (state.service.verifySignature keccak256 scheme message blsSignature operatorId = .ok () →
      ∃ registration ∈ state.chain.pubkeyRegistrations, registration.operatorId operatorIdFromG1Pubkey = operatorId ∧
        ∃ digest, message.digest keccak256 = some digest ∧ blsSignature = scheme.sign registration.pubkeys.G2Pubkey digest) ∧
    (state.UpToDate → (state.service.verifySignature keccak256 scheme message blsSignature operatorId = .ok () ↔
      ∃ registration, state.chain.registrationById operatorIdFromG1Pubkey operatorId = some registration ∧
        ∃ digest, message.digest keccak256 = some digest ∧
          scheme.verify blsSignature registration.pubkeys.G2Pubkey digest = some true)) := by
  have sound := Registrations.Sound.of_reachable reachable
  constructor
  · intro accepted
    obtain ⟨digest, pubkeys, socket, computed, known, valid⟩ := verifySignature_eq_ok.mp accepted
    have found : state.service.pubkeysById operatorId = some pubkeys :=
      congrArg (fun answer : OperatorInfo Key × Bool => answer.1.pubkeys) known
    obtain ⟨registration, registered, entry⟩ := List.mem_map.mp (sound.sourced.pubkeysById _ _ found)
    cases entry
    exact ⟨registration, registered, rfl, digest, computed, scheme.verify_unique _ _ _ valid⟩
  · intro upToDate
    rw [verifySignature_eq_ok, queryById_upToDate sound upToDate, RegistrationChain.infoById]
    cases state.chain.registrationById operatorIdFromG1Pubkey operatorId with
    | none => simp
    | some registration => simp

end Verifying

def sumScheme : SignatureScheme Nat Nat where
  verify signature key messageDigest := some (signature = key + messageDigest.toNat)
  sign key messageDigest := key + messageDigest.toNat
  verify_unique := by simp

theorem verified_signatures_registered_overlapping :
    ∃ state, (registrations firstCoordinate Nat).Reachable state ∧ state.UpToDate ∧
      state.service.verifySignature (fun _ => 5) sumScheme (.checkpointTaskResponse ⟨1, 2, 3⟩) 17 12 = .ok () ∧
      ∃ registration ∈ state.chain.pubkeyRegistrations, registration.operatorId firstCoordinate = 12 := by
  have computed : ∃ state, overlappingRegistrations.foldlM (Registrations.step firstCoordinate)
      ⟨⟨[], []⟩, newOperatorRegistrationsService Nat⟩ = some state ∧ state.UpToDate ∧
      state.chain.registrationById firstCoordinate 12 = some (keyed 2 12) :=
    ⟨_, rfl, ⟨rfl, rfl, rfl⟩, rfl⟩
  obtain ⟨state, computed, upToDate, registered⟩ := computed
  have reachable : (registrations firstCoordinate Nat).Reachable state :=
    ⟨_, System.Run.of_steps (fun _ _ _ one => one) rfl computed⟩
  have verified := verified_signatures_registered (fun _ => 5) sumScheme reachable (.checkpointTaskResponse ⟨1, 2, 3⟩) 17 12
  have accepted := (verified.2 upToDate).mpr ⟨keyed 2 12, registered, 5, rfl, rfl⟩
  obtain ⟨registration, among, same, _⟩ := verified.1 accepted
  exact ⟨state, reachable, upToDate, accepted, registration, among, same⟩

end Sffl.Aggregator
