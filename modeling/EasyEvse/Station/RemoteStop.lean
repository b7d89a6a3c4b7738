import EasyEvse.J1772.StopOpens
import EasyEvse.Ocpp.Offline
import EasyEvse.Station.Tasks

/-! A stop on its way from the callback to the contactor. -/

namespace EasyEvse

open J1772 Ocpp Transition

variable {cfg : Config} {st st' : Station} {op : StationOp}

/--
The steps that do not lose a stop on its way.

The session task must still have its handler when it comes to the stop, and the charging task must
not forget the stop before the contactor is open.
-/
def CarriesStop (st : Station) : StationOp → Prop
  | .loop i _ => ¬ ForgetsStop st.evse i
  | .task (.handle _) => ¬ (st.task.batch.head? = some .chargingStopRemote ∧
      st.task.session.transactionHandler = none ∧ st.evse.relayOpen = false)
  | _ => True

instance : ∀ st op, Decidable (CarriesStop st op)
  | st, .loop i _ => inferInstanceAs (Decidable (¬ ForgetsStop st.evse i))
  | st, .task (.handle _) =>
    inferInstanceAs (Decidable (¬ (st.task.batch.head? = _ ∧ _ ∧ st.evse.relayOpen = _)))
  | _, .post | _, .stopCharging | _, .setMaxCurrent _
  | _, .task .wait | _, .task (.setEvent _) | _, .task (.response _ _) | _, .task (.meterValue _)
  | _, .task (.getAuthResponse _ _) | _, .task (.stopTransaction _ _)
  | _, .task (.remoteStartTransaction _ _) | _, .task (.connectionStateChanged _) =>
    inferInstanceAs (Decidable True)

/-- A stop is on its way: as an event, or as a request that the charging task holds. -/
structure Underway (st : Station) : Prop where
  safe : Safe st.evse
  closed : st.evse.relayOpen = false
  connected : st.task.connectionState = .connected
  carried : Pending st.task .chargingStopRemote ∨ st.evse.readyToCharge = false

/-- The contactor is open, or the stop is still on its way. -/
theorem Underway.of_carried (safe : Safe st.evse) (connected : st.task.connectionState = .connected)
    (carried : st.evse.relayOpen = false →
      Pending st.task .chargingStopRemote ∨ st.evse.readyToCharge = false) :
    st.evse.relayOpen = true ∨ Underway st := by
  cases relay : st.evse.relayOpen with
  | true => exact .inl rfl
  | false => exact .inr ⟨safe, relay, connected, carried relay⟩

/-- An iteration of the station obeys a requested stop as one of the charging task does. -/
theorem loop_obeys {i : Inputs} (unixTime : UInt32) (safe : Safe st.evse)
    (stopping : Stopping st.evse) (kept : ¬ ForgetsStop st.evse i) :
    Obeys (st.loop cfg i unixTime).evse ∧
      ((st.evse.currentState = .stateC2 ∨ st.evse.currentState = .stateD2) →
        (i.controlPilot = .stateC ∨ i.controlPilot = .stateD) →
        (st.loop cfg i unixTime).evse.relayOpen = true) := by
  have fresh : Safe st.evse.fresh := safe.congr rfl rfl rfl rfl
  have freshStopping : Stopping st.evse.fresh := ⟨stopping.requested, stopping.closed⟩
  -- The answer to the poll is no part of what forgets a stop.
  exact @loopEvse_obeys cfg { i with authResponse := (st.task.getAuthResponse 0 unixTime).2 } _
    fresh freshStopping kept

/-- An iteration opens the contactor, or leaves the stop on its way. -/
theorem Underway.loop (underway : Underway st) {i : Inputs} (unixTime : UInt32)
    (kept : ¬ ForgetsStop st.evse i) :
    (st.loop cfg i unixTime).evse.relayOpen = true ∨ Underway (st.loop cfg i unixTime) := by
  have fresh : Safe st.evse.fresh := underway.safe.congr rfl rfl rfl rfl
  obtain ⟨connection, bits, batch, -⟩ := @loop_task cfg st i unixTime
  refine Underway.of_carried (loopEvse_safe fresh) (connection.trans underway.connected)
    fun closed => ?_
  rcases underway.carried with pending | requested
  · -- The poll leaves the events alone, whether it is made or not.
    refine .inl ?_
    rw [Pending, bits, batch]
    exact pending
  · have obeys := (@loop_obeys cfg st i unixTime underway.safe ⟨requested, underway.closed⟩ kept).1
    rcases obeys with opened | still
    · rw [opened] at closed
      cases closed
    · exact .inr still.requested

/-- A step of the session task carries a stop on, from the bits to the charging task. -/
theorem Underway.task (underway : Underway st) {op : TaskOp} {u : OcppTask}
    (carries : CarriesStop st (.task op)) (stays : op ≠ .connectionStateChanged false)
    (stepped : taskStep st.task op = some u) :
    (st.afterTask cfg op).relayOpen = true ∨
      Underway { st with task := u, evse := st.afterTask cfg op } := by
  have connected := taskStep_connected stepped underway.connected stays
  obtain ⟨safe, -, held⟩ := @afterTask_frame cfg st op underway.safe
  refine @Underway.of_carried { st with task := u, evse := st.afterTask cfg op } safe connected
    fun closed => ?_
  rcases underway.carried with pending | requested
  · cases taskStep_moves stepped with
    | @handles i event next result bits =>
      by_cases stops : event = .chargingStopRemote
      · -- The handler is still there, so the charging task is told.
        subst stops
        have first : st.task.batch.head? = some .chargingStopRemote := by simp [next]
        have running : st.task.session.transactionHandler ≠ none := fun idle =>
          carries ⟨first, idle, underway.closed⟩
        have tells : st.TellsStop (.handle i) := by
          refine ⟨.chargingStopRemote, first, ?_⟩
          simpa [Session.stopsCharging, Option.isSome_iff_ne_none] using running
        exact .inr (by simp [Station.afterTask, tells, apply, J1772.stopCharging])
      · refine .inl (pending.imp (bits ▸ ·) fun member => ?_)
        rw [next] at member
        exact (List.mem_cons.mp member).resolve_left (Ne.symm stops)
    | fetches done bits batch idles =>
      -- The batch before was finished, so the stop was still a bit, and is fetched with the others.
      refine .inl (.inr ?_)
      have posted : .chargingStopRemote ∈ st.task.eventBits :=
        pending.resolve_right (by simp [done])
      simp [batch, underway.connected, inOrder, handlingOrder, posted]
    | notes batch bits kept posted idles =>
      exact .inl (pending.imp (kept ·) (batch ▸ ·))
  · exact .inr (held requested)

/-- Every step that does not lose the stop opens the contactor, or leaves the stop on its way. -/
theorem Underway.step (underway : Underway st) (carries : CarriesStop st op)
    (stays : op ≠ .task (.connectionStateChanged false))
    (moved : stationStep cfg st op = some st') : st'.evse.relayOpen = true ∨ Underway st' := by
  have move := stationStep_moves moved
  have safe := move.safe underway.safe
  cases move with
  | loops free => exact underway.loop _ carries
  | posts next =>
    refine .inr ⟨safe, underway.closed, underway.connected, ?_⟩
    exact underway.carried.imp (fun pending => pending.imp (Finset.mem_insert_of_mem ·) id) id
  | tasks external stepped => exact underway.task carries (by simpa using stays) stepped
  | stops => exact .inr ⟨safe, underway.closed, underway.connected, .inr rfl⟩
  | limits =>
    refine .inr ⟨safe, ?_, underway.connected, ?_⟩
    · simpa [apply, setMaxCurrent_eq] using underway.closed
    · simpa [apply, setMaxCurrent_eq] using underway.carried

/-- A stop that the charging task holds is held until the contactor is open. -/
theorem Underway.requested (underway : Underway st) (held : st.evse.readyToCharge = false)
    (carries : CarriesStop st op) (moved : stationStep cfg st op = some st') :
    st'.evse.relayOpen = true ∨ st'.evse.readyToCharge = false := by
  cases stationStep_moves moved with
  | @loops i unixTime free =>
    have obeys := (@loop_obeys cfg st i unixTime underway.safe ⟨held, underway.closed⟩ carries).1
    exact obeys.imp id (·.requested)
  | posts next => exact .inr held
  | @tasks op task external stepped =>
    exact .inr ((@afterTask_frame cfg st op underway.safe).2.2 held)
  | stops => exact .inr rfl
  | limits => exact .inr (by simpa [apply, setMaxCurrent_eq] using held)

/-- The callback accepts every stop of the only EVSE, and passes the remote ones on. -/
theorem stopTransactionCb_evseId (t : OcppTask) (stopReason : Reason) :
    (t.stopTransactionCb evseId stopReason).2 = .accepted ∧
      (t.stopTransactionCb evseId stopReason).1 =
        if stopReason = .remote then t.setEvent .chargingStopRemote else t := by
  -- Every other reason is accepted without an event.
  unfold OcppTask.stopTransactionCb
  by_cases remote : stopReason = .remote <;> simp [remote]

/-- An accepted remote stop is set as an event, and does nothing else. -/
theorem stopTransaction_remote
    (accepted : stationStep cfg st (.task (.stopTransaction evseId .remote)) = some st') :
    st' = { st with task := st.task.setEvent .chargingStopRemote } := by
  -- The callback is none of the charging task's, and asks it for nothing by itself.
  simp only [stationStep] at accepted
  rw [if_pos (show External (.stopTransaction evseId .remote) from trivial)] at accepted
  obtain ⟨task, stepped, rfl⟩ := Option.map_eq_some_iff.mp accepted
  obtain rfl := Option.some.inj stepped
  simp [Station.afterTask, Station.TellsStop, (stopTransactionCb_evseId st.task .remote).2]

/-- A stop that is held is obeyed as soon as a vehicle that is being charged asks for power. -/
theorem Underway.obeyed (underway : Underway st) (held : st.evse.readyToCharge = false)
    {i : Inputs} {unixTime : UInt32} (asks : i.controlPilot = .stateC ∨ i.controlPilot = .stateD)
    (away : ¬ (st.evse.currentState = .stateB2 ∧ st.evse.relayOpen = false))
    (looped : stationStep cfg st (.loop i unixTime) = some st') : st'.evse.relayOpen = true := by
  -- The contactor is closed, so the vehicle is charged unless the machine is back in state B2.
  have at_ : st.evse.currentState = .stateC2 ∨ st.evse.currentState = .stateD2 :=
    (underway.safe.closed underway.closed).resolve_left fun inB2 => away ⟨inB2, underway.closed⟩
  have kept : ¬ ForgetsStop st.evse i := by
    intro forgets
    obtain ⟨-, -, -, reads, -⟩ := forgets
    rcases asks with asks | asks <;> simp [asks] at reads
  cases stationStep_moves looped with
  | loops free => exact (loop_obeys unixTime underway.safe ⟨held, underway.closed⟩ kept).2 at_ asks

/--
A remote stop that was accepted opens the contactor, at the latest when the vehicle asks for power.

By then the session task has consumed its events. No step may have lost the stop on its way, and the
vehicle must not have been found back in state B2.
-/
theorem remote_stop_opens {start st called quiet before after : Station}
    {front ops more : List StationOp} {stopReason : Reason} {i : Inputs} {unixTime : UInt32}
    (initial : start.Initial) (ran : run (stationStep cfg) start front = some st)
    (connected : st.task.connectionState = .connected)
    (remote : stopReason = .remote)
    (accepted : stationStep cfg st (.task (.stopTransaction evseId stopReason)) = some called)
    (consumes : run (stationStep cfg) called ops = some quiet)
    (noBits : quiet.task.eventBits = ∅) (noBatch : quiet.task.batch = [])
    (goesOn : run (stationStep cfg) quiet more = some before)
    (asks : i.controlPilot = .stateC ∨ i.controlPilot = .stateD)
    (looped : stationStep cfg before (.loop i unixTime) = some after)
    (stays : StationOp.task (.connectionStateChanged false) ∉ ops ++ more)
    (carries : Meets CarriesStop (stationStep cfg) called (ops ++ more))
    (away : ¬ (before.evse.currentState = .stateB2 ∧ before.evse.relayOpen = false)) :
    ∃ opened, Visits (stationStep cfg) called (ops ++ more ++ [.loop i unixTime]) opened ∧
      opened.evse.relayOpen = true := by
  subst remote
  have safe : Safe st.evse := station_safe initial ran
  obtain rfl := stopTransaction_remote accepted
  have guarded := carries.and_all fun op member =>
    (show op ≠ .task (.connectionStateChanged false) by intro same; exact stays (same ▸ member))
  obtain ⟨guardedOps, guardedMore⟩ := meets_append.mp guarded
  cases relay : st.evse.relayOpen with
  | true => exact ⟨_, visits_start, relay⟩
  | false =>
    have underway : Underway { st with task := st.task.setEvent .chargingStopRemote } :=
      ⟨safe, relay, connected, .inl (.inl (Finset.mem_insert_self ..))⟩
    rcases run_until (fun underway allowed moved => underway.step allowed.1 allowed.2 moved)
      underway guardedOps consumes with ⟨opened, visited, is⟩ | underway
    · exact ⟨opened, visited.append.append, is⟩
    -- Nothing is pending any more, so the charging task holds the stop.
    have held : quiet.evse.readyToCharge = false :=
      underway.carried.resolve_left (by simp [Pending, noBits, noBatch])
    have holds : ∀ {s op t}, Underway s ∧ s.evse.readyToCharge = false →
        CarriesStop s op ∧ op ≠ .task (.connectionStateChanged false) →
        stationStep cfg s op = some t →
        t.evse.relayOpen = true ∨ Underway t ∧ t.evse.readyToCharge = false := by
      rintro s op t ⟨underway, held⟩ allowed moved
      rcases underway.step allowed.1 allowed.2 moved with is | next
      · exact .inl is
      · exact (underway.requested held allowed.1 moved).imp id fun held => ⟨next, held⟩
    rcases run_until holds ⟨underway, held⟩ (guardedMore _ consumes) goesOn with
      ⟨opened, visited, is⟩ | ⟨underway, held⟩
    · exact ⟨opened, (Visits.after consumes visited).append, is⟩
    · -- The machine is charging, and now it is asked for power.
      exact ⟨after, visits_end (run_trans (run_trans consumes goesOn) (by simp [looped])),
        underway.obeyed held asks away looped⟩

/-- A vehicle is plugged in, accepted, and charged. -/
def service : List StationOp :=
  startUp ++ consumption 2 ++ plugIn ++ consumption 3 ++
    [.task (.response 1 (some .accepted)), .loop (pilotOnly .stateB) 4,
      .loop (pilotOnly .stateC) 5, .post] ++ consumption 2

/-- A station with ventilation that is charging a vehicle. -/
def serving : Station := (run (stationStep ⟨true, false⟩) .online service).getD .online

/-- The station when the callback was asked to stop, and had accepted. -/
def asked (stopReason : Reason) : Station :=
  { serving with task := (serving.task.stopTransactionCb evseId stopReason).1 }

/-- The station when the session task has consumed what is pending then. -/
def consumed : Station :=
  (run (stationStep ⟨true, false⟩) (asked .remote) (consumption 1)).getD .online

/-- A remote stop of a vehicle that goes on asking for power opens the contactor. -/
theorem remote_stop_opens_serving :
    ∃ opened, Visits (stationStep ⟨true, false⟩) (asked .remote)
        (consumption 1 ++ [] ++ [.loop (pilotOnly .stateC) 6]) opened ∧
      opened.evse.relayOpen = true :=
  remote_stop_opens Station.online_initial
    (show run (stationStep ⟨true, false⟩) _ service = some serving by decide +kernel)
    (by decide +kernel) rfl (by decide +kernel)
    (show run (stationStep ⟨true, false⟩) _ (consumption 1) = some consumed by decide +kernel)
    (by decide +kernel) (by decide +kernel) rfl (.inl rfl)
    (show _ = some (consumed.loop ⟨true, false⟩ (pilotOnly .stateC) 6) by decide +kernel)
    (by decide) (by decide +kernel) (by decide +kernel)

/-- A reset that stops the transaction is accepted as well, and the vehicle is charged on. -/
theorem reset_keeps_charging :
    run (stationStep ⟨true, false⟩) .online service = some serving ∧
    stationStep ⟨true, false⟩ serving (.task (.stopTransaction evseId .immediateReset)) =
      some (asked .immediateReset) ∧
    serving.task.connectionState = .connected ∧ serving.task.session.evPluggedIn = true ∧
    serving.task.session.chargePoint.transaction.isSome = true ∧
    (serving.task.stopTransactionCb evseId .immediateReset).2 = .accepted ∧
    (asked .immediateReset).task.eventBits = ∅ ∧ (asked .immediateReset).task.batch = [] ∧
    (run (stationStep ⟨true, false⟩) (asked .immediateReset)
      [.loop (pilotOnly .stateC) 6]).isSome = true ∧
    ¬ ∃ opened, Visits (stationStep ⟨true, false⟩) (asked .immediateReset)
      [.loop (pilotOnly .stateC) 6] opened ∧ opened.evse.relayOpen = true := by
  refine ⟨by decide +kernel, by decide +kernel, by decide +kernel, by decide +kernel,
    by decide +kernel, by decide +kernel, by decide +kernel, by decide +kernel,
    by decide +kernel, ?_⟩
  -- Neither the state of the call nor the one after the iteration has the contactor open.
  intro ⟨opened, visited, is⟩
  rcases visits_cons_iff.mp visited with rfl | ⟨next, looped, visited⟩
  · revert is
    decide +kernel
  · obtain rfl := visits_nil_iff.mp visited
    have named : (stationStep ⟨true, false⟩ (asked .immediateReset)
        (.loop (pilotOnly .stateC) 6)).getD .online = opened := by rw [looped]; rfl
    rw [← named] at is
    revert is
    decide +kernel

end EasyEvse
