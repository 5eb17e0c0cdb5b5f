import Sffl.Aggregator.Collection
import Sffl.Aggregator.Readers

/-! Which goroutine answers for which message.

A channel is made for one key and never handed on, so that a goroutine gets only
messages with its own key, and all of its responses are for that key. A response
that finishes a message is its goroutine's last one.
-/

set_option autoImplicit false

namespace Sffl.Aggregator

open Sffl.Evm Sffl.Golang Sffl.Semantics

variable {M Sig Key : Type} [AddCommGroup Sig] [AddCommGroup Key] {interface : MessageInterface M}
  {scheme : SignatureScheme Sig Key}

/-! ## The responses of a round -/

section Rounds
variable {info : ValidationInfo Key} {messageKey : MessageKey} {round : Round M Sig Key} {event : Event interface Sig info}
  {effect : Effect M Sig Key} {response : Response M Sig Key}

omit [AddCommGroup Sig] [AddCommGroup Key] in
theorem response_key {aggregation : Aggregation Sig Key} {message : M} {messageDigest : MessageDigest} {forceFinished : Bool}
    {indices : Option CheckSignaturesIndices} {orders : Orders info} {response : SharedResponse M Sig Key}
    (built : getMessageBlsAggregationResponse info interface aggregation message messageDigest forceFinished indices orders =
      .ok response) : response.messageKey = interface.key message := by
  unfold getMessageBlsAggregationResponse at built
  split at built
  · cases built
    rfl
  · split at built
    · cases built
    · cases built
      rfl
    · split at built
      · cases built
        rfl
      · cases built
        rfl

omit [AddCommGroup Sig] [AddCommGroup Key] in
theorem of_timer_eq_signed {signedMessage : SignedMessage interface Sig} {indices other : Option CheckSignaturesIndices}
    {orders orders' : Orders info} {P : Prop}
    (same : (.timer indices orders : Event interface Sig info) = .signed signedMessage other orders') : P := by
  cases same

variable (taken : round.step scheme info messageKey event = some effect)
include taken

theorem step_unfinished : round.phase ≠ .finished := by
  intro finished
  unfold Round.step at taken
  rw [finished] at taken
  cases event <;> cases taken

theorem step_finished (read : effect.read = some response) (last : response.finished = true) :
    effect.round.phase = .finished := by
  obtain ⟨shared, sent, rfl⟩ := Option.map_eq_some_iff.mp read
  rw [Response.read_finished] at last
  cases step_answer taken with
  | silent nothing => exact absurd (nothing.symm.trans sent) nofun
  | expired _ _ ended => exact ended
  | first _ _ _ other _ _ same built _ next =>
    cases same.symm.trans sent
    have full := response_finished built
    rw [last, Bool.or_false] at full
    rw [next, of_decide_eq_true full.symm]
    rfl
  | later _ _ _ _ _ _ other _ same built next =>
    cases same.symm.trans sent
    have full := response_finished built
    rw [last] at full
    rw [next, if_pos]
    simpa using full.symm

theorem step_key (read : effect.read = some response)
    (signed : ∀ signedMessage indices orders, event = .signed signedMessage indices orders →
      interface.key signedMessage.message = messageKey)
    (reached : ∀ message messageDigest, round.phase = .thresholdReached message messageDigest →
      interface.key message = messageKey) :
    response.messageKey = messageKey ∧
      ∀ message, response.message = some message → interface.key message = messageKey := by
  obtain ⟨shared, sent, rfl⟩ := Option.map_eq_some_iff.mp read
  -- every response but the one of an expired round is for a message at hand
  suffices given : shared = expiredResponse info messageKey ∨ ∃ message, interface.key message = messageKey ∧
      shared.messageKey = interface.key message ∧ shared.message = some message by
    rcases given with rfl | ⟨message, same, key, carried⟩
    · exact ⟨rfl, nofun⟩
    · refine ⟨key.trans same, fun other found => ?_⟩
      cases carried.symm.trans found
      exact same
  unfold Round.step at taken
  split at taken
  next signedMessage indices orders _ =>
    cases taken
    rcases signedPreThreshold_cases scheme round signedMessage indices orders with ⟨_, silent, _⟩ | ⟨⟨_, built⟩, _⟩
    · exact absurd (silent.symm.trans sent) nofun
    · exact .inr ⟨_, signed _ _ _ rfl, response_key (built shared sent), response_message (built shared sent)⟩
  next =>
    cases taken
    cases sent
    exact .inl rfl
  next majority messageDigest signedMessage indices orders _ =>
    cases taken
    rcases (signedThresholdReached_cases scheme round messageDigest signedMessage indices orders).2 with
      ⟨_, silent, _⟩ | ⟨_, _, built⟩
    · exact absurd (silent.symm.trans sent) nofun
    · exact .inr ⟨_, signed _ _ _ rfl, response_key (built shared sent), response_message (built shared sent)⟩
  next majority messageDigest indices orders phase =>
    cases taken
    unfold timerThresholdReached at sent
    split at sent
    · cases sent
    next built =>
      cases sent
      exact .inr ⟨_, reached _ _ phase, response_key built, response_message built⟩
  · cases taken
  · cases taken

end Rounds

/-! ## What an action does -/

section Actions
variable {service after : Service interface Sig Key} {action : Action M Sig Key} {returned : Option (Option ServiceError)}

variable (scheme) in
/-- All that an action can do to a service that goes on, and the response it sends. -/
inductive ActionStep (service : Service interface Sig Key) :
    Action M Sig Key → Service interface Sig Key → Option (Response M Sig Key) → Prop where
  | refused (request : MessageRequest) : ActionStep service (.initializeMessage request) service none
  | opened (call : Initialization) (absent : service.signedMessageCs call.request.messageKey = none)
      (made : call.signedMessageC = service.nextChannel) :
      ActionStep service (.initializeMessage call.request) { service with
        signedMessageCs := service.signedMessageCs.insert call.request.messageKey service.nextChannel
        nextChannel := service.nextChannel + 1
        initializations := call :: service.initializations } none
  | failed {position : Nat} {results : RegistryResults Key} {call : Initialization}
      (found : service.initializations[position]? = some call) :
      ActionStep service (.readRegistry position results)
        { service with initializations := service.initializations.eraseIdx position } none
  | started {position : Nat} {results : RegistryResults Key} {call : Initialization} {info : ValidationInfo Key}
      (found : service.initializations[position]? = some call) :
      ActionStep service (.readRegistry position results) { service with
        initializations := service.initializations.eraseIdx position
        readers := ⟨call.request.messageKey, call.signedMessageC, info, Round.initial info⟩ :: service.readers } none
  | rejected (message : M) (blsSignature : Sig) (operatorId : OperatorId) :
      ActionStep service (.processNewSignature message blsSignature operatorId) service none
  | submitted {message : M} {blsSignature : Sig} {operatorId : OperatorId} {submitter : Submitter interface Sig}
      (listed : service.signedMessageCs (interface.key message) = some submitter.messageC)
      (carries : submitter.signedMessage.message = message) :
      ActionStep service (.processNewSignature message blsSignature operatorId)
        { service with submitters := submitter :: service.submitters } none
  | received {position submitter : Nat} {indices : Option CheckSignaturesIndices}
      {orders : (info : ValidationInfo Key) → Orders info} {reader : Reader M Sig Key} {call : Submitter interface Sig}
      {effect : Effect M Sig Key} (found : service.readers[position]? = some reader)
      (waiting : service.submitters[submitter]? = some call) (met : call.messageC = reader.signedMessageC)
      (taken : reader.round.step scheme reader.info reader.messageKey
        (.signed call.signedMessage indices (orders reader.info)) = some effect) :
      ActionStep service (.receive position submitter indices orders) { service with
        submitters := service.submitters.eraseIdx submitter
        readers := service.readers.set position { reader with round := effect.round } } effect.read
  | expired {position : Nat} {indices : Option CheckSignaturesIndices}
      {orders : (info : ValidationInfo Key) → Orders info} {reader : Reader M Sig Key} {effect : Effect M Sig Key}
      (found : service.readers[position]? = some reader)
      (taken : reader.round.step scheme reader.info reader.messageKey
        (.timer indices (orders reader.info) : Event interface Sig reader.info) = some effect) :
      ActionStep service (.timer position indices orders)
        { service with readers := service.readers.set position { reader with round := effect.round } } effect.read
  | cancelled (submitter : Nat) : ActionStep service (.cancel submitter)
      { service with submitters := service.submitters.eraseIdx submitter } none
  | closed {position : Nat} {reader : Reader M Sig Key} (found : service.readers[position]? = some reader)
      (finished : reader.round.phase = .finished) : ActionStep service (.close position) { service with
        signedMessageCs := service.signedMessageCs.delete reader.messageKey
        readers := service.readers.eraseIdx position } none

omit [AddCommGroup Sig] [AddCommGroup Key] in
theorem initializeMessageIfNotExists_step {request : MessageRequest}
    (done : initializeMessageIfNotExists service request = .continues after returned) :
    after = service ∨ ∃ call : Initialization, call.request = request ∧ call.signedMessageC = service.nextChannel ∧
      service.signedMessageCs request.messageKey = none ∧ after = { service with
        signedMessageCs := service.signedMessageCs.insert request.messageKey service.nextChannel
        nextChannel := service.nextChannel + 1
        initializations := call :: service.initializations } := by
  unfold initializeMessageIfNotExists at done
  split at done
  next =>
    cases done
    exact .inl rfl
  next => cases done
  next =>
    split at done
    next =>
      cases done
      exact .inl rfl
    next made =>
      unfold initializeMessageChan at made
      split at made
      next => cases made
      next absent =>
        cases made
        cases done
        exact .inr ⟨_, rfl, rfl, absent, rfl⟩

theorem startMessage_step {position : Nat} {results : RegistryResults Key}
    (done : startMessage service position results = some (.continues after returned)) :
    ActionStep scheme service (.readRegistry position results) after none := by
  obtain ⟨call, found, rest⟩ := Option.bind_eq_some_iff.mp done
  split at rest
  next => cases rest
  next =>
    cases rest
    exact .failed found
  next =>
    cases rest
    exact .started found

theorem processNewSignature_step {message : M} {blsSignature : Sig} {operatorId : OperatorId}
    (done : processNewSignature service message blsSignature operatorId = .continues after returned) :
    ActionStep scheme service (.processNewSignature message blsSignature operatorId) after none := by
  unfold processNewSignature at done
  split at done
  next =>
    cases done
    exact .rejected message blsSignature operatorId
  next listed =>
    split at done
    next =>
      cases done
      exact .rejected message blsSignature operatorId
    next =>
      cases done
      exact .submitted listed rfl

theorem readerStep_step {position : Nat} {reader : Reader M Sig Key} {event : Event interface Sig reader.info}
    (done : readerStep scheme service position reader event = some (.continues after returned)) :
    ∃ effect, reader.round.step scheme reader.info reader.messageKey event = some effect ∧
      after = { service with readers := service.readers.set position { reader with round := effect.round } } := by
  obtain ⟨effect, taken, rest⟩ := Option.bind_eq_some_iff.mp done
  split at rest
  next => cases rest
  next =>
    cases rest
    exact ⟨effect, taken, rfl⟩

theorem actionStep_of_act (done : service.act scheme action = some (.continues after returned)) :
    ActionStep scheme service action after (service.response scheme action) := by
  cases action with
  | initializeMessage request =>
    rcases initializeMessageIfNotExists_step (Option.some.inj done) with rfl | ⟨call, rfl, made, absent, rfl⟩
    · exact .refused request
    · exact .opened call absent made
  | readRegistry position results => exact startMessage_step done
  | processNewSignature message blsSignature operatorId => exact processNewSignature_step (Option.some.inj done)
  | receive position submitter indices orders =>
    obtain ⟨reader, found, rest⟩ := Option.bind_eq_some_iff.mp done
    obtain ⟨call, waiting, rest⟩ := Option.bind_eq_some_iff.mp rest
    split at rest
    next met =>
      obtain ⟨effect, taken, rfl⟩ := readerStep_step rest
      have sent : service.response scheme (.receive position submitter indices orders) = effect.read := by
        simp only [Service.response, found, waiting, Option.bind_eq_bind, Option.bind_some, taken]
      rw [sent]
      exact .received found waiting met taken
    next => cases rest
  | timer position indices orders =>
    obtain ⟨reader, found, rest⟩ := Option.bind_eq_some_iff.mp done
    obtain ⟨effect, taken, rfl⟩ := readerStep_step rest
    have sent : service.response scheme (.timer position indices orders) = effect.read := by
      simp only [Service.response, found, Option.bind_eq_bind, Option.bind_some, taken]
    rw [sent]
    exact .expired found taken
  | cancel submitter =>
    obtain ⟨_, same⟩ := Option.ite_none_right_eq_some.mp done
    cases same
    exact .cancelled submitter
  | close position =>
    obtain ⟨reader, found, rest⟩ := Option.bind_eq_some_iff.mp done
    split at rest
    next finished =>
      cases rest
      exact .closed found finished
    next => cases rest

end Actions

/-! ## Channels and keys -/

structure Service.Owned (keyOf : Channel → MessageKey) (service : Service interface Sig Key) : Prop where
  listed : ∀ messageKey channel, service.signedMessageCs messageKey = some channel →
    channel < service.nextChannel ∧ keyOf channel = messageKey
  opened : ∀ call ∈ service.initializations,
    call.signedMessageC < service.nextChannel ∧ keyOf call.signedMessageC = call.request.messageKey
  read : ∀ reader ∈ service.readers,
    reader.signedMessageC < service.nextChannel ∧ keyOf reader.signedMessageC = reader.messageKey
  waiting : ∀ submitter ∈ service.submitters,
    submitter.messageC < service.nextChannel ∧ keyOf submitter.messageC = interface.key submitter.signedMessage.message
  reached : ∀ reader ∈ service.readers, ∀ message messageDigest,
    reader.round.phase = .thresholdReached message messageDigest → interface.key message = reader.messageKey

section Channels
variable {keyOf : Channel → MessageKey} {service after : Service interface Sig Key} {action : Action M Sig Key}
  {sent : Option (Response M Sig Key)}

omit [AddCommGroup Sig] [AddCommGroup Key] in
theorem Service.Owned.make (owned : service.Owned keyOf) (messageKey : MessageKey) :
    (service.Owned (Function.update keyOf service.nextChannel messageKey)) := by
  have old {channel : Channel} (made : channel < service.nextChannel) :
      Function.update keyOf service.nextChannel messageKey channel = keyOf channel :=
    Function.update_of_ne (Nat.ne_of_lt made) _ _
  refine ⟨?_, ?_, ?_, ?_, owned.reached⟩
  · intro other channel found
    obtain ⟨made, same⟩ := owned.listed other channel found
    exact ⟨made, (old made).trans same⟩
  · intro call member
    obtain ⟨made, same⟩ := owned.opened call member
    exact ⟨made, (old made).trans same⟩
  · intro reader member
    obtain ⟨made, same⟩ := owned.read reader member
    exact ⟨made, (old made).trans same⟩
  · intro submitter member
    obtain ⟨made, same⟩ := owned.waiting submitter member
    exact ⟨made, (old made).trans same⟩

theorem Service.Owned.response_of_step (owned : service.Owned keyOf) {reader : Reader M Sig Key}
    (member : reader ∈ service.readers) {event : Event interface Sig reader.info} {effect : Effect M Sig Key}
    (taken : reader.round.step scheme reader.info reader.messageKey event = some effect)
    (signed : ∀ signedMessage indices orders, event = .signed signedMessage indices orders →
      interface.key signedMessage.message = reader.messageKey) {response : Response M Sig Key}
    (sent : effect.read = some response) : response.messageKey = reader.messageKey ∧
      ∀ message, response.message = some message → interface.key message = reader.messageKey :=
  step_key taken sent signed fun message messageDigest phase => owned.reached reader member message messageDigest phase

theorem Service.Owned.set_reader (owned : service.Owned keyOf) {position : Nat} {reader : Reader M Sig Key}
    (found : service.readers[position]? = some reader) {event : Event interface Sig reader.info} {effect : Effect M Sig Key}
    (taken : reader.round.step scheme reader.info reader.messageKey event = some effect)
    (signed : ∀ signedMessage indices orders, event = .signed signedMessage indices orders →
      interface.key signedMessage.message = reader.messageKey) :
    Service.Owned keyOf
      { service with readers := service.readers.set position { reader with round := effect.round } } := by
  have member := List.mem_of_getElem? found
  refine ⟨owned.listed, owned.opened, ?_, owned.waiting, ?_⟩
  · intro other among
    rcases List.mem_or_eq_of_mem_set among with old | rfl
    · exact owned.read other old
    · exact owned.read reader member
  · intro other among message messageDigest phase
    rcases List.mem_or_eq_of_mem_set among with old | rfl
    · exact owned.reached other old message messageDigest phase
    · rcases step_entered taken phase with already | collected
      · exact owned.reached reader member message messageDigest already
      · rw [← Effect.read_collected] at collected
        obtain ⟨response, sent, collected⟩ := Option.bind_eq_some_iff.mp collected
        have carried := (Response.collected_eq_some.mp collected).2
        exact (owned.response_of_step member taken signed sent).2 message carried

omit [AddCommGroup Sig] [AddCommGroup Key] in
theorem Service.Owned.signed (owned : service.Owned keyOf) {reader : Reader M Sig Key} (member : reader ∈ service.readers)
    {call : Submitter interface Sig} (waits : call ∈ service.submitters) (met : call.messageC = reader.signedMessageC) :
    interface.key call.signedMessage.message = reader.messageKey := by
  rw [← (owned.waiting call waits).2, met]
  exact (owned.read reader member).2

theorem Service.Owned.step (owned : service.Owned keyOf) (step : ActionStep scheme service action after sent) :
    ∃ keyOf', after.Owned keyOf' := by
  cases step with
  | refused => exact ⟨keyOf, owned⟩
  | rejected => exact ⟨keyOf, owned⟩
  | opened call absent made =>
    have renewed := owned.make call.request.messageKey
    refine ⟨Function.update keyOf service.nextChannel call.request.messageKey, ?_, ?_, ?_, ?_, owned.reached⟩
    · intro messageKey channel found
      replace found : service.signedMessageCs.insert call.request.messageKey service.nextChannel messageKey = some channel :=
        found
      by_cases same : messageKey = call.request.messageKey
      · rw [same, Map.insert_self] at found
        cases found
        rw [same]
        exact ⟨Nat.lt_succ_self _, Function.update_self ..⟩
      · rw [Map.insert_of_ne _ _ same] at found
        have old := renewed.listed messageKey channel found
        exact ⟨Nat.lt_succ_of_lt old.1, old.2⟩
    · intro other among
      rcases List.mem_cons.mp among with rfl | old
      · rw [made]
        exact ⟨Nat.lt_succ_self _, Function.update_self ..⟩
      · have old := renewed.opened other old
        exact ⟨Nat.lt_succ_of_lt old.1, old.2⟩
    · intro reader among
      have old := renewed.read reader among
      exact ⟨Nat.lt_succ_of_lt old.1, old.2⟩
    · intro submitter among
      have old := renewed.waiting submitter among
      exact ⟨Nat.lt_succ_of_lt old.1, old.2⟩
  | failed =>
    refine ⟨keyOf, owned.listed, ?_, owned.read, owned.waiting, owned.reached⟩
    exact fun call among => owned.opened call (List.mem_of_mem_eraseIdx among)
  | started found =>
    refine ⟨keyOf, owned.listed, ?_, ?_, owned.waiting, ?_⟩
    · exact fun call among => owned.opened call (List.mem_of_mem_eraseIdx among)
    · exact List.forall_mem_cons.mpr ⟨owned.opened _ (List.mem_of_getElem? found), owned.read⟩
    · exact List.forall_mem_cons.mpr ⟨nofun, owned.reached⟩
  | submitted listed carries =>
    refine ⟨keyOf, owned.listed, owned.opened, owned.read, ?_, owned.reached⟩
    refine List.forall_mem_cons.mpr ⟨?_, owned.waiting⟩
    rw [carries]
    exact owned.listed _ _ listed
  | received found waiting met taken =>
    refine ⟨keyOf, ?_⟩
    have member := List.mem_of_getElem? found
    have signed := owned.signed member (List.mem_of_getElem? waiting) met
    have moved := owned.set_reader found taken fun _ _ _ same => by
      cases same
      exact signed
    refine ⟨moved.listed, moved.opened, moved.read, ?_, moved.reached⟩
    exact fun submitter among => owned.waiting submitter (List.mem_of_mem_eraseIdx among)
  | expired found taken => exact ⟨keyOf, owned.set_reader found taken fun _ _ _ => of_timer_eq_signed⟩
  | cancelled =>
    refine ⟨keyOf, owned.listed, owned.opened, owned.read, ?_, owned.reached⟩
    exact fun submitter among => owned.waiting submitter (List.mem_of_mem_eraseIdx among)
  | @closed _ reader =>
    refine ⟨keyOf, ?_, owned.opened, ?_, owned.waiting, ?_⟩
    · intro messageKey channel listed
      replace listed : service.signedMessageCs.delete reader.messageKey messageKey = some channel := listed
      by_cases same : messageKey = reader.messageKey
      · rw [same, Map.delete_self] at listed
        cases listed
      · rw [Map.delete_of_ne _ same] at listed
        exact owned.listed messageKey channel listed
    · exact fun reader among => owned.read reader (List.mem_of_mem_eraseIdx among)
    · exact fun reader among => owned.reached reader (List.mem_of_mem_eraseIdx among)

/-- A response is for a message with its key. -/
theorem Service.Owned.message_key (owned : service.Owned keyOf) (step : ActionStep scheme service action after sent)
    {response : Response M Sig Key} (responded : sent = some response) {message : M}
    (carried : response.message = some message) : interface.key message = response.messageKey := by
  cases step with
  | received found waiting met taken =>
    have member := List.mem_of_getElem? found
    have signed := owned.signed member (List.mem_of_getElem? waiting) met
    have mine := owned.response_of_step member taken (fun _ _ _ same => by
      cases same
      exact signed) responded
    exact (mine.2 message carried).trans mine.1.symm
  | expired found taken =>
    have mine := owned.response_of_step (List.mem_of_getElem? found) taken (fun _ _ _ => of_timer_eq_signed) responded
    exact (mine.2 message carried).trans mine.1.symm
  | _ => cases responded

end Channels

/-! ## One finished response -/

section Counting
variable {Item : Type} {items : List Item} {position : Nat} {item : Item} (p : Item → Bool)

theorem countP_eraseIdx (found : items[position]? = some item) :
    (items.eraseIdx position).countP p + (p item).toNat = items.countP p := by
  rw [(perm_cons_eraseIdx found).countP_eq, List.countP_cons]
  cases p item <;> rfl

theorem countP_set (found : items[position]? = some item) (next : Item) :
    (items.set position next).countP p + (p item).toNat = items.countP p + (p next).toNat := by
  obtain ⟨inRange, _⟩ := List.getElem?_eq_some_iff.mp found
  rw [(List.set_perm_cons_eraseIdx inRange next).countP_eq, List.countP_cons, ← countP_eraseIdx p found]
  cases p next <;> simp only [Bool.toNat_true, Bool.toNat_false, if_true, Bool.false_eq_true, if_false] <;> omega

end Counting

def Reader.unfinished (reader : Reader M Sig Key) : Bool :=
  match reader.round.phase with
  | .finished => false
  | _ => true

/-- How many goroutines will finish the message with the key, or are about to be started for it. -/
def Service.pending (service : Service interface Sig Key) (messageKey : MessageKey) : Nat :=
  service.initializations.countP (fun call => call.request.messageKey = messageKey) +
    service.readers.countP fun reader => reader.messageKey = messageKey && reader.unfinished

def finishes (sent : Option (Response M Sig Key)) (messageKey : MessageKey) : Bool :=
  match sent with
  | some response => response.finished && response.messageKey = messageKey
  | none => false

def Action.initializes (action : Action M Sig Key) (messageKey : MessageKey) : Bool :=
  match action with
  | .initializeMessage request => request.messageKey = messageKey
  | _ => false

section Pending
variable {keyOf : Channel → MessageKey} {service after : Service interface Sig Key} {action : Action M Sig Key}
  {sent : Option (Response M Sig Key)}

omit [AddCommGroup Sig] [AddCommGroup Key] in
theorem unfinished_eq_false {reader : Reader M Sig Key} : reader.unfinished = false ↔ reader.round.phase = .finished := by
  unfold Reader.unfinished
  split
  next finished => simp [finished]
  next running => simpa using running

theorem countP_set_reader (owned : service.Owned keyOf) {position : Nat} {reader : Reader M Sig Key}
    (found : service.readers[position]? = some reader) {event : Event interface Sig reader.info} {effect : Effect M Sig Key}
    (taken : reader.round.step scheme reader.info reader.messageKey event = some effect)
    (signed : ∀ signedMessage indices orders, event = .signed signedMessage indices orders →
      interface.key signedMessage.message = reader.messageKey) (messageKey : MessageKey) :
    (service.readers.set position { reader with round := effect.round }).countP
        (fun reader => reader.messageKey = messageKey && reader.unfinished) +
      (finishes effect.read messageKey).toNat ≤
    service.readers.countP fun reader => reader.messageKey = messageKey && reader.unfinished := by
  have before : reader.unfinished = true := by
    rw [← Bool.not_eq_false, unfinished_eq_false]
    exact step_unfinished taken
  have counted := countP_set (fun reader => reader.messageKey = messageKey && reader.unfinished) found
    { reader with round := effect.round }
  -- what this goroutine counts for
  suffices mine : (decide (reader.messageKey = messageKey) && Reader.unfinished { reader with round := effect.round }).toNat +
      (finishes effect.read messageKey).toNat ≤ (decide (reader.messageKey = messageKey)).toNat by
    simp only [before, Bool.and_true] at counted
    omega
  cases last : finishes effect.read messageKey with
  | false =>
    cases decide (reader.messageKey = messageKey) with
    | false => exact le_rfl
    | true => exact Bool.toNat_le _
  | true =>
    cases sent : effect.read with
    | none =>
      rw [sent] at last
      cases last
    | some response =>
      rw [sent] at last
      obtain ⟨finished, key⟩ := Bool.and_eq_true_iff.mp last
      have ended := step_finished taken sent finished
      have same := (owned.response_of_step (List.mem_of_getElem? found) taken signed sent).1
      rw [same] at key
      rw [key, unfinished_eq_false.mpr ended]
      exact le_rfl

theorem pending_step (owned : service.Owned keyOf) (step : ActionStep scheme service action after sent)
    (messageKey : MessageKey) : after.pending messageKey + (finishes sent messageKey).toNat ≤
      service.pending messageKey + (action.initializes messageKey).toNat := by
  unfold Service.pending
  cases step with
  | refused => simp [finishes]
  | rejected => simp [finishes]
  | opened call =>
    simp only [finishes, List.countP_cons, Action.initializes, Bool.toNat_false]
    cases decide (call.request.messageKey = messageKey) with
    | false => exact Nat.le_refl _
    | true =>
      simp only [if_true, Bool.toNat_true]
      omega
  | failed found =>
    have fewer := countP_eraseIdx (fun call => call.request.messageKey = messageKey) found
    simp only [finishes, Bool.toNat_false]
    omega
  | started found =>
    have fewer := countP_eraseIdx (fun call => call.request.messageKey = messageKey) found
    simp only [finishes, Bool.toNat_false, List.countP_cons, Reader.unfinished, Round.initial, Bool.and_true,
      decide_eq_true_eq]
    split
    next mine =>
      rw [decide_eq_true mine, Bool.toNat_true] at fewer
      omega
    next => omega
  | submitted => simp [finishes]
  | received found waiting met taken =>
    have signed := owned.signed (List.mem_of_getElem? found) (List.mem_of_getElem? waiting) met
    have fewer := countP_set_reader owned found taken (fun _ _ _ same => by
      cases same
      exact signed) messageKey
    simp only
    omega
  | expired found taken =>
    have fewer := countP_set_reader owned found taken (fun _ _ _ => of_timer_eq_signed) messageKey
    simp only
    omega
  | cancelled => simp [finishes]
  | closed found =>
    have fewer := countP_eraseIdx (fun reader => reader.messageKey = messageKey && reader.unfinished) found
    simp only [finishes, Bool.toNat_false]
    omega

end Pending

end Sffl.Aggregator
