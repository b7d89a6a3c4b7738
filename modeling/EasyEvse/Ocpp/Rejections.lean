import EasyEvse.Ocpp.Transactions
import EasyEvse.Transition.Observation

/-! Events that the transaction handler rejects, and what they leave behind in it. -/

namespace EasyEvse.Ocpp

open Transition

/-- The requests that a transaction handler can be sent after its construction. -/
inductive HandlerRequest
  | addTransactionData (evseId : ℤ) (data : Option TransactionData)
  | getTransactionData (evseId : ℤ)
  | resetTransactionData (evseId : ℤ)
  | submitEvent (evseId : ℤ) (event : TxEvent)
  deriving DecidableEq

/-- What can happen to a transaction handler after its construction. -/
inductive HandlerOp
  | request (request : HandlerRequest)
  | setTxStartPoints (txStartPoints : Finset TxStartStopPoint)
  | setTxStopPoints (txStopPoints : Finset TxStartStopPoint)
  deriving DecidableEq

/-- How a request is answered. -/
inductive HandlerAnswer
  | done
  | data (data : Option TransactionData)
  | effect (effect : TxEventEffect)
  | raised (fault : Fault)
  deriving DecidableEq

namespace TransactionHandler

/-- Answer a call that returns the handler it leads to, and leaves it as it was if it fails. -/
def answerUpdate (h : TransactionHandler) :
    Except Fault TransactionHandler → TransactionHandler × HandlerAnswer
  | .ok next => (next, .done)
  | .error fault => (h, .raised fault)

/-- A handler as a machine that answers requests. -/
def request (h : TransactionHandler) : HandlerRequest → TransactionHandler × HandlerAnswer
  | .addTransactionData evseId data => h.answerUpdate (h.addTransactionData evseId data)
  | .getTransactionData evseId =>
    (h, match h.getTransactionData evseId with
      | .ok data => .data data
      | .error fault => .raised fault)
  | .resetTransactionData evseId => h.answerUpdate (h.resetTransactionData evseId)
  -- An event is kept whether or not the call then fails.
  | .submitEvent evseId event =>
    ((h.submitEvent evseId event).1, match (h.submitEvent evseId event).2 with
      | .ok effect => .effect effect
      | .error fault => .raised fault)

/-- The handler after everything that happened to it. -/
def afterOps (h : TransactionHandler) (ops : List HandlerOp) : TransactionHandler :=
  ops.foldl (fun h op => match op with
    | .request r => (h.request r).1
    | .setTxStartPoints txStartPoints => h.setTxStartPoints txStartPoints
    | .setTxStopPoints txStopPoints => h.setTxStopPoints txStopPoints) h

end TransactionHandler

namespace TxStartStopConditions

/-- Some of the points is reached that start a transaction. -/
def Starts (points : Finset TxStartStopPoint) (c : TxStartStopConditions) : Prop :=
  ∃ point ∈ points, c.isStartConditionFullfilled point

/-- Some of the points is reached that stop a transaction. -/
def Stops (points : Finset TxStartStopPoint) (c : TxStartStopConditions) : Prop :=
  ∃ point ∈ points, c.isStopConditionFullfilled point

instance (points : Finset TxStartStopPoint) : DecidablePred (Starts points) := fun _ =>
  inferInstanceAs (Decidable (∃ point ∈ points, _))

instance (points : Finset TxStartStopPoint) : DecidablePred (Stops points) := fun _ =>
  inferInstanceAs (Decidable (∃ point ∈ points, _))

/-- Whatever events follow, the points are reached under both conditions or under none. -/
def Alike (startPoints stopPoints : Finset TxStartStopPoint) (c d : TxStartStopConditions) :
    Prop :=
  ∀ events : List TxEvent,
    ((events.foldl submitEvent c).Starts startPoints ↔
      (events.foldl submitEvent d).Starts startPoints) ∧
    ((events.foldl submitEvent c).Stops stopPoints ↔
      (events.foldl submitEvent d).Stops stopPoints)

end TxStartStopConditions

namespace TransactionHandler

variable {h h' : TransactionHandler} {evseId other : ℤ} {event : TxEvent}

/-- The event is refused for its number, and no request can tell that it was there. -/
def LeavesAlone (h : TransactionHandler) (evseId : ℤ) (event : TxEvent) : Prop :=
  (∃ what, (h.submitEvent evseId event).2 = .error (.outOfRange what)) ∧
    Indistinct request (h.submitEvent evseId event).1 h

/--
The number has no entry for data, and there are conditions for it already.

If it can ever get data, the points must not be reached because of this event, or missed.
-/
def Unnoticed (h : TransactionHandler) (evseId : ℤ) (event : TxEvent) : Prop :=
  h.evseIdTransactionDataMap.lookup evseId = none ∧ evseId ∈ h.txStartStopConditions.keys ∧
    (evseId ≤ 0 ∨ ((h.conditions evseId).submitEvent event).Alike h.txStartPoints h.txStopPoints
      (h.conditions evseId))

/-- An event is rejected exactly if its number has no entry for data. -/
theorem submitEvent_rejected : (∃ what, (h.submitEvent evseId event).2 =
    .error (.outOfRange what)) ↔ h.evseIdTransactionDataMap.lookup evseId = none := by
  -- The look-up of the data is what raises, before anything is judged.
  cases slot : h.evseIdTransactionDataMap.lookup evseId with
  | none =>
    simp [submitEvent, shouldTransactionStart, slot, bind, Except.bind]
  | some found =>
    cases found with
    | none => simp [submitEvent_null event slot]
    | some data =>
      cases started : data.started with
      | false => simp [submitEvent_idle event slot started]
      | true => simp [submitEvent_started event slot started]

/-- Whatever is answered, the event is recorded. -/
theorem submitEvent_fst : (h.submitEvent evseId event).1 = h.recordEvent evseId event := rfl

/-- Recording an event for one number leaves the conditions of the others. -/
theorem conditions_recordEvent_of_ne (apart : other ≠ evseId) :
    (h.recordEvent evseId event).conditions other = h.conditions other := by
  simp [recordEvent, conditions, Finmap.lookup_insert_of_ne _ apart]

/-- Two handlers that differ at most in the conditions of one number, where it does not show. -/
structure Twins (evseId : ℤ) (h h' : TransactionHandler) : Prop where
  starts : h.txStartPoints = h'.txStartPoints
  stops : h.txStopPoints = h'.txStopPoints
  data : h.evseIdTransactionDataMap = h'.evseIdTransactionDataMap
  keys : h.txStartStopConditions.keys = h'.txStartStopConditions.keys
  others : ∀ other, other ≠ evseId → h.conditions other = h'.conditions other
  own : evseId ≤ 0 ∧ h.evseIdTransactionDataMap.lookup evseId = none ∨
    (h.conditions evseId).Alike h.txStartPoints h.txStopPoints (h'.conditions evseId)

/-- Twins judge the conditions of a number with data alike. -/
theorem Twins.judge (twins : Twins evseId h h') {data : TransactionData}
    (slot : h.evseIdTransactionDataMap.lookup other = some (some data)) (event : TxEvent) :
    (((h.conditions other).submitEvent event).Starts h.txStartPoints ↔
      ((h'.conditions other).submitEvent event).Starts h'.txStartPoints) ∧
    (((h.conditions other).submitEvent event).Stops h.txStopPoints ↔
      ((h'.conditions other).submitEvent event).Stops h'.txStopPoints) := by
  rw [← twins.starts, ← twins.stops]
  by_cases same : other = evseId
  · subst same
    rcases twins.own with ⟨-, absent⟩ | alike
    · -- A number that can have no data is not judged at all.
      rw [absent] at slot
      cases slot
    · exact alike [event]
  · rw [twins.others other same]
    exact ⟨Iff.rfl, Iff.rfl⟩

/-- Twins answer an event alike. -/
theorem Twins.submitEvent (twins : Twins evseId h h') (other : ℤ) (event : TxEvent) :
    (h.submitEvent other event).2 = (h'.submitEvent other event).2 := by
  cases slot : h.evseIdTransactionDataMap.lookup other with
  | none =>
    have absent : h'.evseIdTransactionDataMap.lookup other = none := twins.data ▸ slot
    simp [TransactionHandler.submitEvent, shouldTransactionStart, slot, absent, bind, Except.bind]
  | some found =>
    have present : h'.evseIdTransactionDataMap.lookup other = some found := twins.data ▸ slot
    cases found with
    | none => rw [submitEvent_null event slot, submitEvent_null event present]
    | some data =>
      have judge := twins.judge slot event
      unfold TxStartStopConditions.Starts TxStartStopConditions.Stops at judge
      cases started : data.started with
      | false =>
        rw [submitEvent_idle event slot started, submitEvent_idle event present started]
        simp only [judge.1]
      | true =>
        rw [submitEvent_started event slot started, submitEvent_started event present started]
        simp only [judge.2]

/-- Twins stay twins when an event is recorded in both. -/
theorem Twins.recordEvent (twins : Twins evseId h h') (other : ℤ) (event : TxEvent) :
    Twins evseId (h.recordEvent other event) (h'.recordEvent other event) where
  starts := twins.starts
  stops := twins.stops
  data := twins.data
  keys := by
    simp only [TransactionHandler.recordEvent, keys_insert, twins.keys]
  others := by
    intro third apart
    by_cases same : third = other
    · subst same
      rw [conditions_recordEvent, conditions_recordEvent, twins.others third apart]
    · rw [conditions_recordEvent_of_ne same, conditions_recordEvent_of_ne same,
        twins.others third apart]
  own := by
    rcases twins.own with absent | alike
    · exact .inl absent
    · refine .inr ?_
      by_cases same : evseId = other
      · -- What is alike after all events is alike after those that begin with this one.
        subst same
        rw [conditions_recordEvent, conditions_recordEvent]
        exact fun events => alike (event :: events)
      · rw [conditions_recordEvent_of_ne same, conditions_recordEvent_of_ne same]
        exact alike

/-- Twins stay twins when data is put under a number that can have some. -/
theorem Twins.setData (twins : Twins evseId h h') (data : Option TransactionData)
    (room : evseId ≤ 0 → h.evseIdTransactionDataMap.lookup evseId = none → other ≠ evseId) :
    Twins evseId (h.setData other data) (h'.setData other data) where
  starts := twins.starts
  stops := twins.stops
  data := by rw [TransactionHandler.setData, TransactionHandler.setData, twins.data]
  keys := twins.keys
  others := twins.others
  own := by
    rcases twins.own with ⟨low, absent⟩ | same
    · refine .inl ⟨low, ?_⟩
      rw [TransactionHandler.setData, Finmap.lookup_insert_of_ne _ (room low absent).symm]
      exact absent
    · exact .inr same

/-- Twins answer every request alike, and stay twins. -/
theorem Twins.request (twins : Twins evseId h h') (r : HandlerRequest) :
    (h.request r).2 = (h'.request r).2 ∧ Twins evseId (h.request r).1 (h'.request r).1 := by
  cases r with
  | addTransactionData other data =>
    -- The bound of the numbers is the count of the conditions, which twins share.
    have bound := congrArg Finset.card twins.keys
    simp only [TransactionHandler.request, addTransactionData, ← bound]
    split_ifs with refused
    · exact ⟨rfl, twins⟩
    · -- A number with room for data is positive.
      refine ⟨rfl, twins.setData data fun low _ same => ?_⟩
      omega
  | getTransactionData other =>
    simp only [TransactionHandler.request, getTransactionData, twins.data]
    exact ⟨trivial, twins⟩
  | resetTransactionData other =>
    simp only [TransactionHandler.request, resetTransactionData, ← twins.data]
    cases slot : h.evseIdTransactionDataMap.lookup other with
    | none => exact ⟨rfl, twins⟩
    | some found =>
      refine ⟨rfl, twins.setData none fun _ absent same => ?_⟩
      rw [same, absent] at slot
      cases slot
  | submitEvent other event =>
    have alike := twins.submitEvent other event
    simp only [TransactionHandler.request, alike]
    exact ⟨trivial, twins.recordEvent other event⟩

/-- An event that goes unnoticed leaves a twin of the handler. -/
theorem Unnoticed.twins (unnoticed : h.Unnoticed evseId event) :
    Twins evseId (h.recordEvent evseId event) h where
  starts := rfl
  stops := rfl
  data := rfl
  keys := by
    rw [TransactionHandler.recordEvent, keys_insert, Finset.insert_eq_of_mem unnoticed.2.1]
  others := fun _ apart => conditions_recordEvent_of_ne apart
  own := by
    rw [conditions_recordEvent]
    exact unnoticed.2.2.imp (fun low => ⟨low, unnoticed.1⟩) id

/-- The number of conditions bounds the numbers that data can be put under, which shows. -/
theorem card_of_indistinct (same : Indistinct request h h') :
    h.txStartStopConditions.keys.card = h'.txStartStopConditions.keys.card := by
  -- Data is put under the larger of two different bounds, which only one of them allows.
  rcases lt_trichotomy h.txStartStopConditions.keys.card h'.txStartStopConditions.keys.card with
    less | equal | more
  · have told := (same.step (.addTransactionData h'.txStartStopConditions.keys.card none)).1
    simp only [request, addTransactionData] at told
    rw [if_pos (by omega), if_neg (by omega)] at told
    cases told
  · exact equal
  · have told := (same.step (.addTransactionData h.txStartStopConditions.keys.card none)).1
    simp only [request, addTransactionData] at told
    rw [if_neg (by omega), if_pos (by omega)] at told
    cases told

/-- Events that change nothing, for all numbers up to one. -/
def knocks (count : ℕ) : List HandlerRequest :=
  (List.range count).map fun index => .submitEvent (index + 1) .none

/-- An event that changes nothing leaves all conditions as they are. -/
theorem conditions_recordEvent_none : (h.recordEvent other .none).conditions = h.conditions := by
  funext third
  by_cases same : third = other
  · subst same
    rw [conditions_recordEvent]
    rfl
  · exact conditions_recordEvent_of_ne same

/-- Events that change nothing make room for data under the numbers that they are for. -/
theorem after_knocks (count : ℕ) : (after request h (knocks count)).conditions = h.conditions ∧
    (after request h (knocks count)).txStartPoints = h.txStartPoints ∧
    (after request h (knocks count)).txStopPoints = h.txStopPoints ∧
    Finset.Icc (1 : ℤ) count ⊆ (after request h (knocks count)).txStartStopConditions.keys := by
  -- The events are for one number more each time, and change no condition.
  induction count with
  | zero => exact ⟨rfl, rfl, rfl, by simp⟩
  | succ count ih =>
    obtain ⟨conditions, starts, stops, room⟩ := ih
    have last : knocks (count + 1) = knocks count ++ [.submitEvent (count + 1) .none] := by
      simp [knocks, List.range_succ]
    rw [last, after_append]
    refine ⟨conditions_recordEvent_none.trans conditions, starts, stops, fun number inside => ?_⟩
    simp only [after_cons, after_nil, request, submitEvent_fst, TransactionHandler.recordEvent,
      keys_insert, Finset.mem_insert]
    -- The last number was just asked for, and there was room for the others.
    by_cases here : number = count + 1
    · exact .inl here
    · refine .inr (room (Finset.mem_Icc.mpr ?_))
      have bounds := Finset.mem_Icc.mp inside
      push_cast at bounds
      omega

/-- Events for a number add up in its conditions, and leave its data alone. -/
theorem after_events (events : List TxEvent) :
    (after request h (events.map (.submitEvent evseId))).conditions evseId =
      events.foldl TxStartStopConditions.submitEvent (h.conditions evseId) ∧
    (after request h (events.map (.submitEvent evseId))).txStartPoints = h.txStartPoints ∧
    (after request h (events.map (.submitEvent evseId))).txStopPoints = h.txStopPoints ∧
    (after request h (events.map (.submitEvent evseId))).evseIdTransactionDataMap =
      h.evseIdTransactionDataMap := by
  -- The first event is recorded, and the others are submitted to what is left by it.
  induction events generalizing h with
  | nil => exact ⟨rfl, rfl, rfl, rfl⟩
  | cons event events ih =>
    have rest := @ih (h.recordEvent evseId event)
    rw [conditions_recordEvent] at rest
    exact rest

/-- Make room for data under a number, put some there, and submit events for it. -/
def probing (evseId : ℤ) (data : TransactionData) (events : List TxEvent) :
    List HandlerRequest :=
  knocks evseId.toNat ++
    .addTransactionData evseId (some data) :: events.map (.submitEvent evseId)

/-- A number that data can be put under shows the conditions that all its events lead to. -/
theorem answer_probing (positive : 0 < evseId) (data : TransactionData) (events : List TxEvent) :
    (request (after request h (probing evseId data events)) (.submitEvent evseId .none)).2 =
      .effect (if data.started then
        if (events.foldl TxStartStopConditions.submitEvent (h.conditions evseId)).Stops
          h.txStopPoints then .stopTransaction else .none
      else if (events.foldl TxStartStopConditions.submitEvent (h.conditions evseId)).Starts
        h.txStartPoints then .startTransaction else .none) := by
  obtain ⟨conditions, starts, stops, room⟩ := @after_knocks h evseId.toNat
  have enough := Finset.card_le_card room
  rw [Int.card_Icc] at enough
  rw [probing, after_append, after_cons]
  generalize after request h (knocks evseId.toNat) = s at conditions starts stops enough ⊢
  -- There is room for the data by now, so that it is put under the number.
  have added : (s.request (.addTransactionData evseId (some data))).1 =
      s.setData evseId (some data) := by
    simp only [request, addTransactionData]
    rw [if_neg (by omega)]
    rfl
  obtain ⟨led, starts', stops', kept⟩ := @after_events (s.setData evseId (some data)) evseId events
  have frame := @setData_frame s evseId (some data)
  rw [added]
  generalize after request (s.setData evseId (some data)) (events.map (.submitEvent evseId)) = t
    at led starts' stops' kept ⊢
  -- From here on, the data of the number and its conditions are known.
  have slot : t.evseIdTransactionDataMap.lookup evseId = some (some data) := kept ▸ frame.2.2.2
  rw [frame.2.2.1, conditions] at led
  rw [frame.1, starts] at starts'
  rw [frame.2.1, stops] at stops'
  have last : ∀ c : TxStartStopConditions, c.submitEvent .none = c := fun _ => rfl
  cases started : data.started with
  | false =>
    simp only [request, submitEvent_idle .none slot started, last, led, starts',
      HandlerAnswer.effect.injEq, Bool.false_eq_true, if_false]
    exact if_congr Iff.rfl rfl rfl
  | true =>
    simp only [request, submitEvent_started .none slot started, last, led, stops',
      HandlerAnswer.effect.injEq, if_true]
    exact if_congr Iff.rfl rfl rfl

/-- A number that data can be put under tells its conditions apart, unless they are alike. -/
theorem alike_of_indistinct (positive : 0 < evseId) (same : Indistinct request h h')
    (starts : h.txStartPoints = h'.txStartPoints) (stops : h.txStopPoints = h'.txStopPoints) :
    (h.conditions evseId).Alike h.txStartPoints h.txStopPoints (h'.conditions evseId) := by
  intro events
  have told : ∀ data : TransactionData, _ := fun data =>
    ((same.after (probing evseId data events)).step (.submitEvent evseId .none)).1
  simp only [answer_probing positive, ← starts, ← stops, HandlerAnswer.effect.injEq] at told
  -- Data that is not started shows the start points, and data that is shows the stop points.
  have idle := told { connectorId := 1, sessionId := "", triggerReason := .trigger,
                      chargingState := .idle }
  have active := told { started := true, connectorId := 1, sessionId := "",
                        triggerReason := .trigger, chargingState := .idle }
  simp only [Bool.false_eq_true, if_false, if_true] at idle active
  constructor
  · split_ifs at idle <;> simp_all
  · split_ifs at active <;> simp_all

/-- An event leaves the handler alone exactly if it goes unnoticed. -/
theorem leavesAlone_iff : h.LeavesAlone evseId event ↔ h.Unnoticed evseId event := by
  rw [LeavesAlone, submitEvent_rejected, submitEvent_fst]
  constructor
  · intro ⟨absent, same⟩
    -- Conditions that are new raise the bound of the numbers, which shows.
    have known : evseId ∈ h.txStartStopConditions.keys := by
      by_contra unknown
      have grown := card_of_indistinct same
      rw [TransactionHandler.recordEvent, keys_insert,
        Finset.card_insert_of_notMem unknown] at grown
      omega
    refine ⟨absent, known, (le_or_gt evseId 0).imp_right fun positive => ?_⟩
    have alike := alike_of_indistinct positive same rfl rfl
    rwa [conditions_recordEvent] at alike
  · intro unnoticed
    exact ⟨unnoticed.1, .of_relation (fun twins r => twins.request r) unnoticed.twins⟩

/-- What the constructor returns serves the EVSEs that it was asked for. -/
theorem serves_of_new {nrOfEvses : ℤ} {txStartPoints txStopPoints : Finset TxStartStopPoint}
    (constructed : new nrOfEvses txStartPoints txStopPoints = .ok h) : h.Serves nrOfEvses := by
  have points : ¬ (txStartPoints = ∅ ∨ txStopPoints = ∅) := by
    intro empty
    rw [new, if_pos empty] at constructed
    cases constructed
  have positive : ¬ nrOfEvses ≤ 0 := by
    intro low
    rw [new, if_neg points, if_pos low] at constructed
    cases constructed
  obtain ⟨starts, stops⟩ := not_or.mp points
  obtain ⟨built, same, serves⟩ := new_serves (by omega : 1 ≤ nrOfEvses)
    (Finset.nonempty_iff_ne_empty.mpr starts) (Finset.nonempty_iff_ne_empty.mpr stops)
  rw [constructed] at same
  exact Except.ok.inj same ▸ serves

/-- Of the requests, only an event adds conditions, which are for its own number. -/
theorem mem_keys_request {r : HandlerRequest} :
    evseId ∈ (h.request r).1.txStartStopConditions.keys ↔
      evseId ∈ h.txStartStopConditions.keys ∨ ∃ event, r = .submitEvent evseId event := by
  cases r with
  | addTransactionData other data =>
    simp only [request, addTransactionData]
    split_ifs <;> simp [answerUpdate, TransactionHandler.setData]
  | getTransactionData other => simp [request]
  | resetTransactionData other =>
    simp only [request, resetTransactionData]
    split <;> simp [answerUpdate, TransactionHandler.setData]
  | submitEvent other event =>
    simp [request, submitEvent_fst, TransactionHandler.recordEvent, keys_insert, or_comm, eq_comm]

/-- The conditions are those of the start, and of the numbers that events were submitted for. -/
theorem mem_keys_afterOps {ops : List HandlerOp} :
    evseId ∈ (h.afterOps ops).txStartStopConditions.keys ↔
      evseId ∈ h.txStartStopConditions.keys ∨
        ∃ event, .request (.submitEvent evseId event) ∈ ops := by
  induction ops generalizing h with
  | nil => simp [afterOps]
  | cons op ops ih =>
    rw [afterOps, List.foldl_cons, ← afterOps, ih]
    cases op with
    | request r => simp [mem_keys_request, or_assoc, exists_or, eq_comm]
    | setTxStartPoints txStartPoints => simp [setTxStartPoints]
    | setTxStopPoints txStopPoints => simp [setTxStopPoints]

/--
A rejected event leaves the handler alone exactly if its number had an event before, and no data.

If data can be put under the number later, no point must be reached or missed because of the event.
-/
theorem rejected_event_iff {nrOfEvses : ℤ} {txStartPoints txStopPoints : Finset TxStartStopPoint}
    {first : TransactionHandler}
    (constructed : new nrOfEvses txStartPoints txStopPoints = .ok first) (ops : List HandlerOp)
    (evseId : ℤ) (outside : evseId ∉ Finset.Icc 1 nrOfEvses) (event : TxEvent) :
    (first.afterOps ops).LeavesAlone evseId event ↔
      (first.afterOps ops).evseIdTransactionDataMap.lookup evseId = none ∧
      (∃ earlier, .request (.submitEvent evseId earlier) ∈ ops) ∧
      (evseId ≤ 0 ∨ (((first.afterOps ops).conditions evseId).submitEvent event).Alike
        (first.afterOps ops).txStartPoints (first.afterOps ops).txStopPoints
        ((first.afterOps ops).conditions evseId)) := by
  have start : evseId ∉ first.txStartStopConditions.keys := by
    rwa [(serves_of_new constructed).conditions]
  rw [leavesAlone_iff, Unnoticed, mem_keys_afterOps, or_iff_right start]

/-- The second event for the station itself, whose number is zero, is rejected without a trace. -/
theorem rejected_event_iff_station : ∃ first, new 1 {.authorized} {.authorized} = .ok first ∧
    (0 : ℤ) ∉ Finset.Icc (1 : ℤ) 1 ∧
    (first.afterOps [.request (.submitEvent 0 .authorized)]).LeavesAlone 0 .evConnected := by
  refine ⟨_, rfl, by decide, (@rejected_event_iff 1 {.authorized} {.authorized} _ rfl _ 0
    (by decide) .evConnected).mpr ?_⟩
  exact ⟨by decide +kernel, ⟨.authorized, by simp⟩, .inl (by decide)⟩

/-- After an event for a second EVSE that there is not, data for it is accepted. -/
theorem rejected_event_noticed : ¬ ∀ (nrOfEvses : ℤ)
    (txStartPoints txStopPoints : Finset TxStartStopPoint) (first : TransactionHandler),
    new nrOfEvses txStartPoints txStopPoints = .ok first → ∀ (ops : List HandlerOp) (evseId : ℤ),
    evseId ∉ Finset.Icc 1 nrOfEvses → ∀ event, (first.afterOps ops).LeavesAlone evseId event := by
  intro always
  have same := (always 1 {.authorized} {.authorized} _ rfl [] 2 (by decide) .authorized).2
  have told := (same.step (.addTransactionData 2 none)).1
  exact absurd told (by decide +kernel)

end TransactionHandler

end EasyEvse.Ocpp
