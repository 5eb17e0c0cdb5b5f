import Sffl.Aggregator.Database

/-! Stored messages and the aggregations they are stored with.

A row's message never changes, and its aggregation becomes that of the latest
response with the row's key. So the two match throughout exactly if all
responses with one key have one digest.
-/

set_option autoImplicit false

namespace Sffl.Aggregator

open Sffl.Core Sffl.Evm Sffl.Rollup Sffl.Semantics

/-! ## One table -/

section Tables
variable {K M Sig Key : Type} [DecidableEq K] {key : M → K} {digest : M → Option MessageDigest} {table : Table M Sig Key}

variable (key table) in
theorem firstOrCreate_cases (message : M) :
    (∃ position row, firstOrCreate key table message = (table, position) ∧ table[position]? = some row ∧
      findRow key table (key message) = some row) ∨
    firstOrCreate key table message = (table ++ [⟨message, none⟩], table.length) ∧
      findRow key table (key message) = none := by
  unfold firstOrCreate
  cases found : table.findIdx? fun row => key row.message = key message with
  | none =>
    refine Or.inr ⟨rfl, List.find?_eq_none.mpr fun row member same => ?_⟩
    exact absurd (List.findIdx?_eq_none_iff.mp found row member) (by simpa using same)
  | some position =>
    obtain ⟨bound, here, before⟩ := List.findIdx?_eq_some_iff_getElem.mp found
    refine Or.inl ⟨position, table[position], rfl, List.getElem?_eq_getElem bound, ?_⟩
    refine List.find?_eq_some_iff_getElem.mpr ⟨here, position, bound, rfl, fun other earlier => ?_⟩
    simpa using before other earlier

theorem TableMatched.replace_iff (matched : TableMatched digest table) {position : Nat} {row : Row M Sig Key}
    (found : table[position]? = some row) (aggregation : MessageBlsAggregation Sig Key) :
    TableMatched digest (replaceAggregation table position aggregation) ↔
      digest row.message = some aggregation.messageDigest := by
  have here : { row with aggregation := some aggregation } ∈ replaceAggregation table position aggregation := by
    apply List.mem_of_getElem? (i := position)
    simp [replaceAggregation, found]
  constructor
  · intro after
    exact after _ here aggregation rfl
  · intro fits other member stored filled
    obtain ⟨index, at_⟩ := List.mem_iff_getElem?.mp member
    rw [replaceAggregation, List.getElem?_modify] at at_
    obtain ⟨old, oldAt, rfl⟩ := Option.map_eq_some_iff.mp at_
    by_cases same : position = index
    · subst same
      cases found.symm.trans oldAt
      simp only [if_true] at filled ⊢
      cases filled
      exact fits
    · simp only [same, if_false] at filled ⊢
      exact matched old (List.mem_of_getElem? oldAt) stored filled

theorem TableMatched.create (matched : TableMatched digest table) (message : M) :
    TableMatched digest (table ++ [⟨message, none⟩]) := by
  intro row member aggregation filled
  rcases List.mem_append.mp member with old | new
  · exact matched row old aggregation filled
  · cases List.mem_singleton.mp new
    cases filled

theorem replaceAggregation_messages (position : Nat) (aggregation : MessageBlsAggregation Sig Key) :
    (replaceAggregation table position aggregation).map Row.message = table.map Row.message := by
  apply List.ext_getElem?
  intro index
  simp only [replaceAggregation, List.getElem?_map, List.getElem?_modify]
  cases table[index]? with
  | none => rfl
  | some row => by_cases same : position = index <;> simp [same]

structure Stored (key : M → K) (digest : M → Option MessageDigest) (table : Table M Sig Key) (response : Response M Sig Key)
    (writes : Writes) (after : Table M Sig Key) : Prop where
  matched : TableMatched digest table → (TableMatched digest after ↔ TableAgrees key digest table response writes)
  kept : table.map Row.message <+: after.map Row.message

variable (key table) in
theorem handleReachedQuorum_stored {response : Response M Sig Key} (proper : Proper digest response) (writes : Writes) :
    ∃ after, handleReachedQuorum (firstOrCreate key) replaceAggregation table response writes = some after ∧
      Stored key digest table response writes after := by
  obtain ⟨message, carried, own⟩ := proper.message
  unfold handleReachedQuorum
  simp only [proper.noError, Option.isSome_none, Bool.false_eq_true, if_false, carried]
  -- a write that fails leaves the aggregations as they are
  have untouched : ¬ (writes.message = true ∧ writes.aggregation = true) →
      TableAgrees key digest table response writes := fun failed first second => absurd ⟨first, second⟩ failed
  by_cases first : writes.message = true
  · by_cases second : writes.aggregation = true
    · simp only [first, second, if_true]
      have agrees : TableAgrees key digest table response writes ↔
          ∀ row, findRow key table (key message) = some row → digest row.message = digest message := by
        simp [TableAgrees, first, second, carried]
      refine ⟨_, rfl, ?_⟩
      rcases firstOrCreate_cases key table message with ⟨position, row, created, at_, found⟩ | ⟨created, absent⟩
      · simp only [created]
        refine ⟨fun matched => ?_, by rw [replaceAggregation_messages]⟩
        rw [matched.replace_iff at_, agrees, own]
        simp [found]
      · simp only [created]
        have last : (table ++ [⟨message, none⟩])[table.length]? = some ⟨message, none⟩ := by simp
        refine ⟨fun matched => ?_, ?_⟩
        · rw [(matched.create message).replace_iff last, agrees]
          simp [absent, own]
        · rw [replaceAggregation_messages, List.map_append]
          exact List.prefix_append _ _
    · simp only [first, second, if_true]
      refine ⟨_, rfl, ?_⟩
      have agrees := untouched fun both => second both.2
      rcases firstOrCreate_cases key table message with ⟨position, row, created, _⟩ | ⟨created, _⟩
      · simp only [created]
        exact ⟨fun matched => iff_of_true matched agrees, List.prefix_refl _⟩
      · simp only [created]
        refine ⟨fun matched => iff_of_true (matched.create message) agrees, ?_⟩
        rw [List.map_append]
        exact List.prefix_append _ _
  · simp only [first]
    exact ⟨table, rfl, fun matched => iff_of_true matched (untouched fun both => first both.1), List.prefix_refl _⟩

end Tables

/-! ## Reading -/

section Reading
variable {K M Sig Key : Type} [DecidableEq K] {key : M → K} {digest : M → Option MessageDigest}
  {first second table : Table M Sig Key}

theorem fetchMessage_eq (wanted : K) :
    fetchMessage key table wanted = (table.map Row.message).find? fun message => key message = wanted := by
  rw [List.find?_map]
  rfl

theorem fetchMessage_kept (kept : first.map Row.message <+: second.map Row.message) {wanted : K} {message : M}
    (fetched : fetchMessage key first wanted = some message) : fetchMessage key second wanted = some message := by
  rw [fetchMessage_eq] at fetched ⊢
  obtain ⟨rest, grown⟩ := kept
  rw [← grown, List.find?_append, fetched, Option.some_or]

theorem fetched_pair (matched : TableMatched digest second)
    (kept : first.map Row.message <+: second.map Row.message) {wanted : K} {message : M}
    {aggregation : MessageBlsAggregation Sig Key} (fetched : fetchMessage key first wanted = some message)
    (aggregated : fetchAggregation key second wanted = some aggregation) :
    digest message = some aggregation.messageDigest := by
  obtain ⟨row, found, filled⟩ := Option.bind_eq_some_iff.mp aggregated
  have same := fetchMessage_kept kept fetched
  rw [fetchMessage, found] at same
  cases same
  exact matched row (List.mem_of_find?_eq_some found) aggregation filled

theorem getAggregation_ok {missing unaggregated : DatabaseError} {fetched : Option M}
    {aggregated : Option (MessageBlsAggregation Sig Key)} {message : M} {aggregation : MessageBlsAggregation Sig Key}
    (got : getAggregation missing unaggregated fetched aggregated = .ok (message, aggregation)) :
    fetched = some message ∧ aggregated = some aggregation := by
  unfold getAggregation at got
  split at got
  · cases got
  · split at got
    · cases got
    · cases got
      exact ⟨rfl, rfl⟩

theorem fetchBetween_pairs (matched : TableMatched digest table) (timestamp : M → Uint 64)
    (fromTimestamp toTimestamp : Uint 64) :
    List.Forall₂ (fun message aggregation => digest message = some aggregation.messageDigest)
      ((fetchBetween timestamp table fromTimestamp toTimestamp).map Prod.fst)
      ((fetchBetween timestamp table fromTimestamp toTimestamp).map Prod.snd) := by
  rw [List.forall₂_map_left_iff, List.forall₂_map_right_iff, List.forall₂_same]
  intro pair member
  obtain ⟨row, listed, paired⟩ := List.mem_filterMap.mp member
  obtain ⟨aggregation, filled, rfl⟩ := Option.map_eq_some_iff.mp paired
  exact matched row (List.mem_of_mem_filter listed) aggregation filled

end Reading

/-! ## The database -/

section Databases
variable {Sig Key : Type} {keccak256 : Bytes → Bytes32} {database first second : Database Sig Key}

structure Database.Kept (first second : Database Sig Key) : Prop where
  stateRootUpdates : first.stateRootUpdates.map Row.message <+: second.stateRootUpdates.map Row.message
  operatorSetUpdates : first.operatorSetUpdates.map Row.message <+: second.operatorSetUpdates.map Row.message

theorem Database.Kept.trans {third : Database Sig Key} (kept : first.Kept second) (later : second.Kept third) :
    first.Kept third :=
  ⟨kept.stateRootUpdates.trans later.stateRootUpdates, kept.operatorSetUpdates.trans later.operatorSetUpdates⟩

theorem Database.Kept.served (kept : first.Kept second) (matched : first.Matched keccak256)
    (later : second.Matched keccak256) : Served keccak256 first second where
  stateRootUpdate rollupId blockHeight message aggregation got := by
    obtain ⟨fetched, aggregated⟩ := getAggregation_ok got
    exact fetched_pair later.stateRootUpdates kept.stateRootUpdates fetched aggregated
  operatorSetUpdate id message aggregation got := by
    obtain ⟨fetched, aggregated⟩ := getAggregation_ok got
    exact fetched_pair later.operatorSetUpdates kept.operatorSetUpdates fetched aggregated
  checkpoint fromTimestamp toTimestamp messages got := by
    unfold fetchCheckpointMessages at got
    split at got
    · cases got
    · split at got
      · cases got
      · cases got
        exact ⟨fetchBetween_pairs matched.stateRootUpdates _ _ _, fetchBetween_pairs later.operatorSetUpdates _ _ _⟩

theorem handleArrival_proper {arrival : Arrival Sig Key} (proper : arrival.Proper keccak256)
    (database : Database Sig Key) :
    ∃ after, handleArrival database arrival = some after ∧ database.Kept after ∧
      (database.Matched keccak256 → (after.Matched keccak256 ↔ arrival.Agrees keccak256 database)) := by
  cases arrival with
  | stateRootUpdate response writes =>
    obtain ⟨after, handled, stored⟩ := handleReachedQuorum_stored stateRootKey database.stateRootUpdates
      proper writes
    refine ⟨{ database with stateRootUpdates := after }, ?_, ⟨stored.kept, List.prefix_refl _⟩, fun matched => ?_⟩
    · exact Option.map_eq_some_iff.mpr ⟨after, handled, rfl⟩
    · refine Iff.trans ?_ (stored.matched matched.stateRootUpdates)
      exact ⟨fun both => both.stateRootUpdates, fun new => ⟨new, matched.operatorSetUpdates⟩⟩
  | operatorSetUpdate response writes =>
    obtain ⟨after, handled, stored⟩ := handleReachedQuorum_stored OperatorSetUpdateMessage.id database.operatorSetUpdates
      proper writes
    refine ⟨{ database with operatorSetUpdates := after }, ?_, ⟨List.prefix_refl _, stored.kept⟩, fun matched => ?_⟩
    · exact Option.map_eq_some_iff.mpr ⟨_, Option.map_eq_some_iff.mpr ⟨after, handled, rfl⟩, rfl⟩
    · refine Iff.trans ?_ (stored.matched matched.operatorSetUpdates)
      exact ⟨fun both => both.operatorSetUpdates, fun new => ⟨matched.stateRootUpdates, new⟩⟩

/-! ## Runs -/

theorem handleArrivals_append {processed rest : List (Arrival Sig Key)}
    (handled : handleArrivals processed = some database) :
    handleArrivals (processed ++ rest) = rest.foldlM handleArrival database := by
  rw [handleArrivals, List.foldlM_append]
  exact (congrArg (· >>= fun state => rest.foldlM handleArrival state) handled)

theorem foldlM_proper {arrivals : List (Arrival Sig Key)} (proper : ∀ arrival ∈ arrivals, arrival.Proper keccak256)
    (database : Database Sig Key) : ∃ after, arrivals.foldlM handleArrival database = some after ∧ database.Kept after := by
  induction arrivals generalizing database with
  | nil => exact ⟨database, rfl, List.prefix_refl _, List.prefix_refl _⟩
  | cons arrival arrivals ih =>
    obtain ⟨next, handled, kept, _⟩ := handleArrival_proper (proper arrival List.mem_cons_self) database
    obtain ⟨after, rest, later⟩ := ih (fun other member => proper other (List.mem_cons_of_mem _ member)) next
    refine ⟨after, ?_, kept.trans later⟩
    rw [List.foldlM_cons, handled]
    exact rest

/-- Every row matches after every step exactly if no response meets a row of its key with another digest, and then no
reader is served a message with an aggregation for another one. -/
theorem stored_pairs_match_iff {arrivals : List (Arrival Sig Key)}
    (proper : ∀ arrival ∈ arrivals, arrival.Proper keccak256) :
    ((∀ processed, processed <+: arrivals → ∃ database, handleArrivals processed = some database ∧
        database.Matched keccak256) ↔
      ∀ processed arrival, processed ++ [arrival] <+: arrivals → ∀ database, handleArrivals processed = some database →
        arrival.Agrees keccak256 database) ∧
    ((∀ processed, processed <+: arrivals → ∃ database, handleArrivals processed = some database ∧
        database.Matched keccak256) →
      ∀ earlier processed, earlier <+: processed → processed <+: arrivals → ∀ first second,
        handleArrivals earlier = some first → handleArrivals processed = some second →
          Served keccak256 first second) := by
  constructor
  · apply forall_prefix_iff
    · exact ⟨newDatabase, rfl, nofun, nofun⟩
    · rintro processed arrival initial ⟨database, handled, matched⟩
      have member : arrival ∈ arrivals := initial.subset (by simp)
      obtain ⟨after, one, _, exactly⟩ := handleArrival_proper (proper arrival member) database
      rw [handleArrivals_append handled, List.foldlM_cons, one]
      simp only [handled, Option.some.injEq, forall_eq']
      rw [← exactly matched]
      exact ⟨fun ⟨_, same, holds⟩ => Option.some.inj same ▸ holds, fun holds => ⟨after, rfl, holds⟩⟩
  · rintro throughout earlier processed ⟨rest, rfl⟩ initial first second handledFirst handledSecond
    have properRest : ∀ arrival ∈ rest, arrival.Proper keccak256 := fun arrival member =>
      proper arrival (initial.subset (List.mem_append_right _ member))
    obtain ⟨after, handled, kept⟩ := foldlM_proper properRest first
    rw [handleArrivals_append handledFirst, handled] at handledSecond
    cases handledSecond
    obtain ⟨_, again, matchedFirst⟩ := throughout earlier ((List.prefix_append _ _).trans initial)
    obtain ⟨_, whole, matchedSecond⟩ := throughout _ initial
    cases again.symm.trans handledFirst
    rw [handleArrivals_append handledFirst, handled] at whole
    cases whole
    exact kept.served matchedFirst matchedSecond

end Databases

/-! ## Two messages for one block -/

def firstBlock (stateRoot : Bytes32) : StateRootUpdate := ⟨1, 1, 10, 0, 0, stateRoot⟩

def firstBlockArrives (stateRoot : Bytes32) : Arrival (ZMod 7) (ZMod 7) :=
  .stateRootUpdate {
    aggregation := ⟨1, (firstBlock stateRoot).hash foldedBytes, [], [], some 1, some 1, .empty⟩
    messageKey := (firstBlock stateRoot).index
    message := some (firstBlock stateRoot)
    status := .thresholdReached
    finished := false
    err := none } ⟨true, true⟩

theorem firstBlockArrives_proper (stateRoot : Bytes32) : (firstBlockArrives stateRoot).Proper foldedBytes :=
  ⟨rfl, _, rfl, rfl⟩

theorem stored_pairs_match_iff_same_message :
    ∃ database, handleArrivals [firstBlockArrives 5, firstBlockArrives 5] = some database ∧
      database.Matched foldedBytes := by
  have proper : ∀ arrival ∈ [firstBlockArrives 5, firstBlockArrives 5], arrival.Proper foldedBytes := by
    simp only [List.mem_cons, List.not_mem_nil, or_false, or_self, forall_eq]
    exact firstBlockArrives_proper 5
  refine (stored_pairs_match_iff proper).1.mpr ?_ _ (List.prefix_refl _)
  intro processed arrival initial database handled
  match processed, initial, handled with
  | [], initial, handled =>
    obtain ⟨rfl, _⟩ := by simpa using initial
    cases handled
    exact fun _ _ _ _ _ => nofun
  | [_], initial, handled =>
    obtain ⟨rfl, rfl, _⟩ := by simpa using initial
    cases handled
    rintro _ _ message carried row found
    cases carried
    cases found
    rfl
  | _ :: _ :: _, initial, _ => simpa using initial.length_le

/-- Two rounds for one block end with different state roots. The first message stays, with the second one's aggregation,
and the getter serves the two together. -/
theorem second_root_takes_over_aggregation :
    (∀ arrival ∈ [firstBlockArrives 5, firstBlockArrives 6], arrival.Proper foldedBytes) ∧
    ∃ database message aggregation, handleArrivals [firstBlockArrives 5, firstBlockArrives 6] = some database ∧
      getStateRootUpdateAggregation database database 1 1 = .ok (message, aggregation) ∧
      stateRootUpdateDigest foldedBytes (firstBlock 6) = some aggregation.messageDigest ∧ message = firstBlock 5 ∧
      stateRootUpdateDigest foldedBytes message ≠ some aggregation.messageDigest := by
  refine ⟨?_, _, _, _, rfl, rfl, rfl, rfl, by decide +kernel⟩
  simp only [List.mem_cons, List.not_mem_nil, or_false, forall_eq_or_imp, forall_eq]
  exact ⟨firstBlockArrives_proper 5, firstBlockArrives_proper 6⟩

end Sffl.Aggregator
