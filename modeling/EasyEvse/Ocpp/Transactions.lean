import Mathlib
import EasyEvse.Ocpp.SessionLaws

/-! Several EVSEs under one transaction handler: each of them is handled as if it were alone. -/

namespace EasyEvse.Ocpp

/-- The calls made on a transaction handler. The transaction data of each call is a new object. -/
inductive HandlerCall
  | addTransactionData (evseId : ℤ) (data : TransactionData)
  | setTxStartPoints (txStartPoints : Finset TxStartStopPoint)
  | setTxStopPoints (txStopPoints : Finset TxStartStopPoint)
  | submitEvent (evseId : ℤ) (event : TxEvent)
  deriving DecidableEq

/-- The EVSE that a call is for, unless it is for all of them. -/
def HandlerCall.evseId? : HandlerCall → Option ℤ
  | .addTransactionData evseId _ | .submitEvent evseId _ => some evseId
  | .setTxStartPoints _ | .setTxStopPoints _ => none

/-- A call for one of the EVSEs that the handler was constructed for. -/
def HandlerCall.Valid (nrOfEvses : ℤ) (call : HandlerCall) : Prop :=
  ∀ evseId ∈ call.evseId?, evseId ∈ Finset.Icc 1 nrOfEvses

namespace TransactionHandler

/-- Carry out an effect as far as the handler is concerned: mark the data, or drop it. -/
def settle (h : TransactionHandler) (evseId : ℤ) (effect : TxEventEffect) :
    Except Fault TransactionHandler :=
  if effect = .none then .ok h
  else do
    let some data ← h.getTransactionData evseId
      | throw (.runtimeError "Could not start transaction because no transaction data is present")
    if effect = .startTransaction then return h.setData evseId (some { data with started := true })
    else h.resetTransactionData evseId

/-- Make a call and carry out its effect, which is returned with the EVSE it is for. -/
def perform (h : TransactionHandler) :
    HandlerCall → Except Fault (TransactionHandler × List (ℤ × TxEventEffect))
  | .addTransactionData evseId data => do return (← h.addTransactionData evseId (some data), [])
  | .setTxStartPoints txStartPoints => .ok (h.setTxStartPoints txStartPoints, [])
  | .setTxStopPoints txStopPoints => .ok (h.setTxStopPoints txStopPoints, [])
  | .submitEvent evseId event => do
    let (h, effect) := h.submitEvent evseId event
    let effect ← effect
    return (← h.settle evseId effect, [(evseId, effect)])

/-- Make calls from left to right. -/
def performAll (h : TransactionHandler) :
    List HandlerCall → Except Fault (TransactionHandler × List (ℤ × TxEventEffect))
  | [] => .ok (h, [])
  | call :: calls => do
    let (h, effects) ← h.perform call
    let (h, more) ← performAll h calls
    return (h, effects ++ more)

end TransactionHandler

/-- The effects that were returned for one EVSE, in order. -/
def effectsFor (evseId : ℤ) (effects : List (ℤ × TxEventEffect)) : List TxEventEffect :=
  (effects.filter fun entry => entry.1 = evseId).map Prod.snd

/-- What a transaction handler is for a single EVSE. -/
structure EvseTransactions where
  txStartPoints : Finset TxStartStopPoint
  txStopPoints : Finset TxStartStopPoint
  conditions : TxStartStopConditions
  transactionData : Option TransactionData

namespace EvseTransactions

variable (v : EvseTransactions) (evseId : ℤ)

/-- The effect of the conditions on the transaction data that is there. -/
def effect : TxEventEffect :=
  match v.transactionData with
  | none => .none
  | some data =>
    if data.started then
      if ∃ point ∈ v.txStopPoints, v.conditions.isStopConditionFullfilled point then
        .stopTransaction
      else .none
    else if ∃ point ∈ v.txStartPoints, v.conditions.isStartConditionFullfilled point then
      .startTransaction
    else .none

/-- Carry out an effect: the data is marked as started, or dropped. -/
def settle : TxEventEffect → EvseTransactions
  | .startTransaction =>
    { v with transactionData := v.transactionData.map fun data => { data with started := true } }
  | .stopTransaction => { v with transactionData := none }
  | .none => v

/-- Record an event in the conditions. -/
def recordEvent (event : TxEvent) : EvseTransactions :=
  { v with conditions := v.conditions.submitEvent event }

/-- A call as this EVSE sees it: calls for the others are nothing to it. -/
def perform (call : HandlerCall) : EvseTransactions × List TxEventEffect :=
  if call.evseId? = none ∨ call.evseId? = some evseId then
    match call with
    | .addTransactionData _ data => ({ v with transactionData := some data }, [])
    | .setTxStartPoints txStartPoints => ({ v with txStartPoints }, [])
    | .setTxStopPoints txStopPoints => ({ v with txStopPoints }, [])
    | .submitEvent _ event =>
      ((v.recordEvent event).settle (v.recordEvent event).effect, [(v.recordEvent event).effect])
  else (v, [])

/-- Calls from left to right, as this EVSE sees them. -/
def performAll (v : EvseTransactions) : List HandlerCall → EvseTransactions × List TxEventEffect
  | [] => (v, [])
  | call :: calls =>
    let (v, effects) := v.perform evseId call
    let (v, more) := performAll v calls
    (v, effects ++ more)

end EvseTransactions

/-- The session task carries out an effect on its handler in this way, and then drives the stack. -/
theorem processTxEventEffect_settle {effect : TxEventEffect} {c c' : ChargePoint}
    {h h' : TransactionHandler} (done : processTxEventEffect effect c h = .ok (c', h')) :
    h.settle evseId effect = .ok h' := by
  cases effect with
  | none =>
    obtain ⟨-, rfl⟩ := Prod.mk.inj (Except.ok.inj done)
    rfl
  | startTransaction | stopTransaction =>
    cases slot : h.evseIdTransactionDataMap.lookup evseId with
    | none =>
      simp [processTxEventEffect, TransactionHandler.getTransactionData, slot, bind,
        Except.bind] at done
    | some found =>
      cases found with
      | none =>
        simp [processTxEventEffect, TransactionHandler.getTransactionData, slot, bind,
          Except.bind] at done
      | some data =>
        simp only [processTxEventEffect_start slot, processTxEventEffect_stop slot, Except.ok.injEq,
          Prod.mk.injEq] at done
        simp [TransactionHandler.settle, TransactionHandler.getTransactionData,
          TransactionHandler.resetTransactionData, slot, bind, Except.bind, pure, Except.pure,
          ← done.2]

namespace TransactionHandler

variable {h : TransactionHandler} {evseId other nrOfEvses : ℤ}

/-- What the handler knows about one EVSE. -/
def view (h : TransactionHandler) (evseId : ℤ) : EvseTransactions where
  txStartPoints := h.txStartPoints
  txStopPoints := h.txStopPoints
  conditions := h.conditions evseId
  transactionData := (h.evseIdTransactionDataMap.lookup evseId).join

/-- The handler knows exactly the EVSEs that it was constructed for. -/
structure Serves (nrOfEvses : ℤ) (h : TransactionHandler) : Prop where
  conditions : h.txStartStopConditions.keys = Finset.Icc 1 nrOfEvses
  data : h.evseIdTransactionDataMap.keys = Finset.Icc 1 nrOfEvses

/-- Pointing an entry elsewhere is seen by its own EVSE alone. -/
theorem view_setData {data : Option TransactionData} : (h.setData evseId data).view other =
    if evseId = other then { h.view other with transactionData := data } else h.view other := by
  split_ifs with same
  · subst same
    simp [view, setData, conditions]
  · simp [view, setData, conditions, Finmap.lookup_insert_of_ne _ (Ne.symm same)]

/-- Recording an event is seen by its own EVSE alone. -/
theorem view_recordEvent {event : TxEvent} : (h.recordEvent evseId event).view other =
    if evseId = other then (h.view other).recordEvent event else h.view other := by
  split_ifs with same
  · subst same
    simp [view, recordEvent, conditions, EvseTransactions.recordEvent]
  · simp [view, recordEvent, conditions, Finmap.lookup_insert_of_ne _ (Ne.symm same)]

/-- Writing under a number adds that number to those that are there. -/
theorem keys_insert {β : Type} {m : Finmap fun _ : ℤ => β} {value : β} :
    (m.insert evseId value).keys = insert evseId m.keys := by
  ext key
  simp [Finmap.mem_keys, Finmap.mem_insert]

/-- The loop of the constructor adds one EVSE after the other. -/
theorem Serves.snoc (serves : h.Serves nrOfEvses) (nonneg : 0 ≤ nrOfEvses) :
    Serves (nrOfEvses + 1) { h with
      txStartStopConditions := h.txStartStopConditions.insert (nrOfEvses + 1) {}
      evseIdTransactionDataMap := h.evseIdTransactionDataMap.insert (nrOfEvses + 1) none } := by
  have wider : insert (nrOfEvses + 1) (Finset.Icc 1 nrOfEvses) = Finset.Icc 1 (nrOfEvses + 1) := by
    ext key
    simp only [Finset.mem_insert, Finset.mem_Icc]
    omega
  exact ⟨by rw [keys_insert, serves.conditions, wider], by rw [keys_insert, serves.data, wider]⟩

/-- The constructor gives a handler that serves its EVSEs, without any transaction yet. -/
theorem new_serves {txStartPoints txStopPoints : Finset TxStartStopPoint}
    (positive : 1 ≤ nrOfEvses) (starts : txStartPoints.Nonempty) (stops : txStopPoints.Nonempty) :
    ∃ h, new nrOfEvses txStartPoints txStopPoints = .ok h ∧ h.Serves nrOfEvses := by
  have points : ¬ (txStartPoints = ∅ ∨ txStopPoints = ∅) := by
    simp [starts.ne_empty, stops.ne_empty]
  refine ⟨_, by rw [new, if_neg points, if_neg (by omega)], ?_⟩
  obtain ⟨count, rfl⟩ := Int.eq_ofNat_of_zero_le (by omega : 0 ≤ nrOfEvses)
  rw [Int.toNat_natCast]
  clear positive
  -- The loop has constructed the entries up to its index.
  induction count with
  | zero => constructor <;> rfl
  | succ count ih =>
    simp only [List.range_succ, List.bind_eq_flatMap, List.flatMap_append, List.foldl_append]
    exact ih.snoc (by omega)

namespace Serves

variable (serves : h.Serves nrOfEvses) (member : evseId ∈ Finset.Icc 1 nrOfEvses)

include serves member

/-- An EVSE of the handler has an entry, and its data is what the entry points to. -/
theorem slot : h.evseIdTransactionDataMap.lookup evseId = some (h.view evseId).transactionData := by
  have present : evseId ∈ h.evseIdTransactionDataMap := by
    rwa [← Finmap.mem_keys, serves.data]
  obtain ⟨data, found⟩ := Option.isSome_iff_exists.mp (Finmap.lookup_isSome.mpr present)
  simp [view, found]

/-- Pointing an entry elsewhere leaves the handler with the same EVSEs. -/
theorem setData (data : Option TransactionData) : (h.setData evseId data).Serves nrOfEvses :=
  ⟨serves.conditions, by
    rw [TransactionHandler.setData, keys_insert, serves.data, Finset.insert_eq_of_mem member]⟩

/-- Recording an event leaves the handler with the same EVSEs. -/
theorem recordEvent (event : TxEvent) : (h.recordEvent evseId event).Serves nrOfEvses :=
  ⟨by rw [TransactionHandler.recordEvent, keys_insert, serves.conditions,
    Finset.insert_eq_of_mem member], serves.data⟩

/-- Submitting an event records it, and has the effect that its own EVSE sees. -/
theorem submitEvent (event : TxEvent) : h.submitEvent evseId event =
    (h.recordEvent evseId event, .ok ((h.view evseId).recordEvent event).effect) := by
  have slot := serves.slot member
  cases here : (h.view evseId).transactionData with
  | none =>
    rw [here] at slot
    simp [submitEvent_null event slot, EvseTransactions.effect, EvseTransactions.recordEvent, here]
  | some data =>
    rw [here] at slot
    cases started : data.started with
    | false =>
      rw [submitEvent_idle event slot started]
      simp [EvseTransactions.effect, EvseTransactions.recordEvent, slot, started, view]
    | true =>
      rw [submitEvent_started event slot started]
      simp [EvseTransactions.effect, EvseTransactions.recordEvent, slot, started, view]

/-- Data can be put under the number of every EVSE. -/
theorem addTransactionData (data : Option TransactionData) :
    h.addTransactionData evseId data = .ok (h.setData evseId data) := by
  obtain ⟨positive, bounded⟩ := Finset.mem_Icc.mp member
  have room : ¬ (evseId ≤ 0 ∨ evseId > h.txStartStopConditions.keys.card) := by
    rw [serves.conditions, Int.card_Icc]
    omega
  simp [TransactionHandler.addTransactionData, room]

/-- An effect that the EVSE has is carried out, and seen by that EVSE alone. -/
theorem settle : ∃ settled, h.settle evseId (h.view evseId).effect = .ok settled ∧
    settled.Serves nrOfEvses ∧ ∀ other, settled.view other = if evseId = other then
      (h.view evseId).settle (h.view evseId).effect else h.view other := by
  have slot := serves.slot member
  -- Only data that is there has an effect at all.
  cases here : (h.view evseId).transactionData with
  | none =>
    have nothing : (h.view evseId).effect = .none := by simp [EvseTransactions.effect, here]
    refine ⟨h, by simp [TransactionHandler.settle, nothing], serves, fun other => ?_⟩
    split_ifs with same
    · subst same
      simp [nothing, EvseTransactions.settle]
    · rfl
  | some data =>
    rw [here] at slot
    cases does : (h.view evseId).effect with
    | startTransaction =>
      refine ⟨h.setData evseId (some { data with started := true }), ?_,
        serves.setData member _, fun other => ?_⟩
      · simp [TransactionHandler.settle, getTransactionData, slot, bind, Except.bind, pure,
          Except.pure]
      · rw [view_setData]
        split_ifs with same
        · subst same
          simp [EvseTransactions.settle, here]
        · rfl
    | stopTransaction =>
      refine ⟨h.setData evseId none, ?_, serves.setData member _, fun other => ?_⟩
      · simp [TransactionHandler.settle, getTransactionData, resetTransactionData, slot, bind,
          Except.bind]
      · rw [view_setData]
        split_ifs with same
        · subst same
          simp [EvseTransactions.settle]
        · rfl
    | none =>
      refine ⟨h, by simp [TransactionHandler.settle], serves, fun other => ?_⟩
      split_ifs with same <;> simp [EvseTransactions.settle, same]

omit member in
/-- No valid call fails, and each EVSE sees what it sees of the call alone. -/
theorem perform {call : HandlerCall} (valid : call.Valid nrOfEvses) :
    ∃ next effects, h.perform call = .ok (next, effects) ∧ next.Serves nrOfEvses ∧
      ∀ other, (next.view other, effectsFor other effects) = (h.view other).perform other call := by
  cases call with
  | addTransactionData evseId data =>
    have member := valid evseId rfl
    refine ⟨_, [], by rw [TransactionHandler.perform, serves.addTransactionData member]; rfl,
      serves.setData member _, fun other => ?_⟩
    by_cases same : evseId = other <;>
      simp [view_setData, EvseTransactions.perform, HandlerCall.evseId?, effectsFor, same]
  | setTxStartPoints txStartPoints =>
    exact ⟨_, [], rfl, ⟨serves.conditions, serves.data⟩, fun other => rfl⟩
  | setTxStopPoints txStopPoints =>
    exact ⟨_, [], rfl, ⟨serves.conditions, serves.data⟩, fun other => rfl⟩
  | submitEvent evseId event =>
    have member := valid evseId rfl
    have recorded := serves.recordEvent member event
    obtain ⟨settled, done, serves', views⟩ := recorded.settle member
    rw [view_recordEvent, if_pos rfl] at done
    refine ⟨settled, [(evseId, ((h.view evseId).recordEvent event).effect)], ?_, serves',
      fun other => ?_⟩
    · simp [TransactionHandler.perform, serves.submitEvent member, done, bind, Except.bind, pure,
        Except.pure]
    · rw [views]
      by_cases same : evseId = other
      · subst same
        simp [view_recordEvent, EvseTransactions.perform, HandlerCall.evseId?, effectsFor]
      · simp [view_recordEvent, EvseTransactions.perform, HandlerCall.evseId?, effectsFor, same]

omit member in
/-- No sequence of valid calls fails, and each EVSE sees what it sees of the calls alone. -/
theorem performAll {calls : List HandlerCall} (valid : ∀ call ∈ calls, call.Valid nrOfEvses) :
    ∃ last effects, h.performAll calls = .ok (last, effects) ∧ last.Serves nrOfEvses ∧
      ∀ other, (last.view other, effectsFor other effects) =
        (h.view other).performAll other calls := by
  -- Each call leaves a handler that serves the same EVSEs for the calls after it.
  induction calls generalizing h with
  | nil => exact ⟨h, [], rfl, serves, fun other => rfl⟩
  | cons call calls ih =>
    obtain ⟨next, effects, first, nextServes, views⟩ := serves.perform (valid call (by simp))
    obtain ⟨last, more, rest, lastServes, lastViews⟩ :=
      ih nextServes fun call member => valid call (by simp [member])
    refine ⟨last, effects ++ more, ?_, lastServes, fun other => ?_⟩
    · simp [TransactionHandler.performAll, first, rest, bind, Except.bind, pure, Except.pure]
    · rw [EvseTransactions.performAll, ← views other]
      simp [← lastViews other, effectsFor]

end Serves

end TransactionHandler

namespace EvseTransactions

variable {v : EvseTransactions} {evseId other : ℤ}

/-- Recording an event does not touch the data. -/
@[simp] theorem recordEvent_transactionData {event : TxEvent} :
    (v.recordEvent event).transactionData = v.transactionData := rfl

/-- What an EVSE sees of calls in a row is what it sees of each part. -/
theorem performAll_append {front back : List HandlerCall} :
    (v.performAll evseId (front ++ back)).1 =
      ((v.performAll evseId front).1.performAll evseId back).1 := by
  induction front generalizing v with
  | nil => rfl
  | cons call front ih => exact ih

/-- A first call is made before the others. -/
theorem performAll_cons {call : HandlerCall} {calls : List HandlerCall} :
    (v.performAll evseId (call :: calls)).1 =
      ((v.perform evseId call).1.performAll evseId calls).1 := rfl

/-- An EVSE sees nothing of the calls for another. -/
theorem performAll_others (apart : other ≠ evseId) (calls : List HandlerCall) :
    v.performAll evseId (calls.filter fun call => call.evseId? ≠ some other) =
      v.performAll evseId calls := by
  induction calls generalizing v with
  | nil => rfl
  | cons call calls ih =>
    by_cases removed : call.evseId? = some other
    · have unseen : v.perform evseId call = (v, []) := by simp [perform, removed, apart]
      rw [List.filter_cons_of_neg (by simp [removed]), ih, performAll, unseen]
      rfl
    · rw [List.filter_cons_of_pos (by simp [removed])]
      simp only [performAll, ih]

/-- Without data there is no effect. -/
theorem effect_none (absent : v.transactionData = none) : v.effect = .none := by
  simp [effect, absent]

/-- Without data, only new data changes that. -/
theorem perform_absent {call : HandlerCall} (absent : v.transactionData = none)
    (kept : ∀ data, call ≠ .addTransactionData evseId data) :
    (v.perform evseId call).1.transactionData = none := by
  cases call with
  | addTransactionData at_ data =>
    have elsewhere : at_ ≠ evseId := fun same => kept data (by rw [same])
    simp [perform, HandlerCall.evseId?, elsewhere, absent]
  | setTxStartPoints | setTxStopPoints => simpa [perform, HandlerCall.evseId?] using absent
  | submitEvent at_ event =>
    have nothing : (v.recordEvent event).effect = .none := effect_none (by simpa using absent)
    unfold perform
    split_ifs
    · simpa [nothing, settle] using absent
    · exact absent

/-- Data that was dropped stays away until there is new data. -/
theorem performAll_absent {calls : List HandlerCall} (absent : v.transactionData = none)
    (kept : ∀ data, .addTransactionData evseId data ∉ calls) :
    (v.performAll evseId calls).1.transactionData = none := by
  induction calls generalizing v with
  | nil => exact absent
  | cons call calls ih =>
    refine ih (perform_absent absent fun data same => kept data ?_) fun data member =>
      kept data (by simp [member])
    simp [same]

/-- An effect that stops the transaction drops its data. -/
theorem perform_stop {event : TxEvent} (stops : (v.recordEvent event).effect = .stopTransaction) :
    (v.perform evseId (.submitEvent evseId event)).1.transactionData = none := by
  simp [perform, HandlerCall.evseId?, stops, settle]

end EvseTransactions

/-- The transaction data that an event finds, and its effect, after some other calls. -/
def TransactionHandler.submitAfter (h : TransactionHandler) (calls : List HandlerCall)
    (evseId : ℤ) (event : TxEvent) : Except Fault (Option TransactionData × TxEventEffect) := do
  let (h, _) ← h.performAll calls
  let transactionData ← h.getTransactionData evseId
  let effect ← (h.submitEvent evseId event).2
  return (transactionData, effect)

/-- The effects that the transaction data allows. -/
def Allowed (transactionData : Option TransactionData) : TxEventEffect → Prop
  | .startTransaction => ∃ data, transactionData = some data ∧ data.started = false
  | .stopTransaction => ∃ data, transactionData = some data ∧ data.started = true
  | .none => True

/-- An EVSE only has effects that its data allows. -/
theorem EvseTransactions.allowed (v : EvseTransactions) : Allowed v.transactionData v.effect := by
  cases here : v.transactionData with
  | none => simp [effect, here, Allowed]
  | some data =>
    simp only [effect, here]
    split_ifs with started stops starts
    · exact ⟨data, rfl, started⟩
    · trivial
    · exact ⟨data, rfl, by simpa using started⟩
    · trivial

/-- After valid calls, an event finds and does what its own EVSE sees. -/
theorem TransactionHandler.Serves.submitAfter {h : TransactionHandler} {evseId nrOfEvses : ℤ}
    (serves : h.Serves nrOfEvses) (member : evseId ∈ Finset.Icc 1 nrOfEvses)
    {calls : List HandlerCall} (valid : ∀ call ∈ calls, call.Valid nrOfEvses) (event : TxEvent) :
    h.submitAfter calls evseId event =
      .ok (((h.view evseId).performAll evseId calls).1.transactionData,
        (((h.view evseId).performAll evseId calls).1.recordEvent event).effect) := by
  obtain ⟨last, effects, done, lastServes, views⟩ := serves.performAll valid
  simp [TransactionHandler.submitAfter, done, getTransactionData, lastServes.slot member,
    lastServes.submitEvent member, ← views evseId, bind, Except.bind, pure, Except.pure]

/--
A handler for any number of EVSEs starts only what is present and not started, stops only what is
present and started, does nothing from a reset to the next data, and keeps the EVSEs apart.
-/
theorem transactions_kept_apart (nrOfEvses : ℤ)
    (txStartPoints txStopPoints : Finset TxStartStopPoint) (positive : 1 ≤ nrOfEvses)
    (starts : txStartPoints.Nonempty) (stops : txStopPoints.Nonempty)
    (calls : List HandlerCall) (valid : ∀ call ∈ calls, call.Valid nrOfEvses) :
    ∃ h last effects, TransactionHandler.new nrOfEvses txStartPoints txStopPoints = .ok h ∧
      h.performAll calls = .ok (last, effects) ∧
      (∀ front evseId event, front ++ [.submitEvent evseId event] <+: calls →
        ∃ transactionData effect, h.submitAfter front evseId event = .ok (transactionData, effect) ∧
          Allowed transactionData effect) ∧
      (∀ front evseId event mid later,
        front ++ .submitEvent evseId event :: mid ++ [.submitEvent evseId later] <+: calls →
        (∃ transactionData, h.submitAfter front evseId event =
          .ok (transactionData, .stopTransaction)) →
        (∀ data, .addTransactionData evseId data ∉ mid) →
        h.submitAfter (front ++ .submitEvent evseId event :: mid) evseId later =
          .ok (none, .none)) ∧
      ∀ i j, i ≠ j → ∃ other alone,
        h.performAll (calls.filter fun call => call.evseId? ≠ some i) = .ok (other, alone) ∧
          effectsFor j alone = effectsFor j effects := by
  obtain ⟨h, built, serves⟩ := TransactionHandler.new_serves positive starts stops
  obtain ⟨last, effects, done, -, views⟩ := serves.performAll valid
  refine ⟨h, last, effects, built, done, ?_, ?_, ?_⟩
  · intro front evseId event isPrefix
    have earlier : ∀ call ∈ front, call.Valid nrOfEvses := fun call member =>
      valid call (isPrefix.subset (by simp [member]))
    have member : evseId ∈ Finset.Icc 1 nrOfEvses :=
      valid (.submitEvent evseId event) (isPrefix.subset (by simp)) evseId rfl
    exact ⟨_, _, serves.submitAfter member earlier event, EvseTransactions.allowed _⟩
  · intro front evseId event mid later isPrefix ⟨found, stopped⟩ kept
    have earlier : ∀ call ∈ front ++ .submitEvent evseId event :: mid, call.Valid nrOfEvses :=
      fun call member => valid call (isPrefix.subset (List.mem_append_left _ member))
    have member : evseId ∈ Finset.Icc 1 nrOfEvses :=
      valid (.submitEvent evseId later) (isPrefix.subset (by simp)) evseId rfl
    rw [serves.submitAfter member (fun call member => earlier call (by simp [member]))] at stopped
    have effect := (Prod.mk.inj (Except.ok.inj stopped)).2
    -- The data was dropped with the stop, and no call brought new data since.
    have absent : ((h.view evseId).performAll evseId
        (front ++ .submitEvent evseId event :: mid)).1.transactionData = none := by
      rw [EvseTransactions.performAll_append, EvseTransactions.performAll_cons]
      exact EvseTransactions.performAll_absent (EvseTransactions.perform_stop effect) kept
    rw [serves.submitAfter member earlier, absent,
      EvseTransactions.effect_none (by rw [EvseTransactions.recordEvent_transactionData, absent])]
  · intro i j apart
    have fewer : ∀ call ∈ calls.filter fun call => call.evseId? ≠ some i, call.Valid nrOfEvses :=
      fun call member => valid call (List.mem_of_mem_filter member)
    obtain ⟨other, alone, done', -, views'⟩ := serves.performAll fewer
    refine ⟨other, alone, done', ?_⟩
    have same := views' j
    rw [EvseTransactions.performAll_others apart, ← views j] at same
    exact (Prod.mk.inj same).2

/-- Two vehicles are connected at two EVSEs, and only the first one leaves again. -/
def twoVehicles : List HandlerCall :=
  [.addTransactionData 1 (newTransactionData "one"),
    .addTransactionData 2 (newTransactionData "two"),
    .submitEvent 1 .evConnected, .submitEvent 2 .evConnected, .submitEvent 1 .evDisconnected]

/-- The transaction of the second vehicle is started, with or without the first vehicle. -/
theorem transactions_kept_apart_two : ∃ h last effects other alone,
    TransactionHandler.new 2 startPoints stopPoints = .ok h ∧
    h.performAll twoVehicles = .ok (last, effects) ∧
    h.performAll (twoVehicles.filter fun call => call.evseId? ≠ some 1) = .ok (other, alone) ∧
    effectsFor 2 alone = effectsFor 2 effects := by
  obtain ⟨h, last, effects, built, done, -, -, apart⟩ :=
    transactions_kept_apart 2 startPoints stopPoints (by decide) (by decide) (by decide) twoVehicles
      (by simp [twoVehicles, HandlerCall.Valid, HandlerCall.evseId?])
  obtain ⟨other, alone, done', same⟩ := apart 1 2 (by decide)
  exact ⟨h, last, effects, other, alone, built, done, done', same⟩

end EasyEvse.Ocpp
