import EasyEvse.J1772.Loop

/-! What each change of the state letter does to the contactor, the flags and the events. -/

namespace EasyEvse.J1772

variable (cfg : Config) {s : Evse} {newState : J1772State}

/-- A fresh list of calls is all an operation starts with. -/
@[simp] theorem fresh_frame (s : Evse) :
    s.fresh.currentState = s.currentState ∧
    s.fresh.cpState = s.cpState ∧
    s.fresh.lastCpState = s.lastCpState ∧
    s.fresh.relayOpen = s.relayOpen ∧
    s.fresh.isCharging = s.isCharging ∧
    s.fresh.authNeeded = s.authNeeded ∧
    s.fresh.readyToCharge = s.readyToCharge ∧
    s.fresh.measuredCurrent = s.measuredCurrent ∧
    s.fresh.calls = [] := by
  simp [Evse.fresh]

/-- Configuring the current sets it, whether or not it was different before. -/
theorem setMaxCurrent_eq (maxCurrent : UInt32) (s : Evse) :
    setMaxCurrent maxCurrent s = { s with maxCurrent := maxCurrent.toNat } := by
  -- Where the two currents agree already, nothing is left to change.
  unfold setMaxCurrent
  split
  · rfl
  · rename_i same; rw [← not_not.mp same]

/-- Initialization leaves the contactor as it found it, and waits for a first known reading. -/
theorem Initial.fields (initial : Initial s) :
    s.relayOpen = true ∧ s.isCharging = false ∧ s.authNeeded = false ∧ s.readyToCharge = true ∧
    s.currentState = .lastState ∧ s.currentPwm = pwm100MaxValue ∧ s.calls = [] := by
  -- A current of zero is replaced by the default, which is about none of these fields.
  obtain ⟨maxCurrent, rfl⟩ := initial
  simp only [init, setMaxCurrent_eq, boot]
  split <;> simp

/-- Setting the state it already has changes nothing. -/
theorem setState_self (same : s.currentState = newState) : setState cfg newState s = s := by
  simp [setState, same]

/-- Whatever else it does, a change of state ends in the state it was asked for. -/
@[simp] theorem setState_currentState : (setState cfg newState s).currentState = newState := by
  -- Only a state that was there already is not written down again.
  unfold setState
  split
  · rename_i same; exact same.symm
  · rfl

/-- No change of state touches the readings, the duty, or the configured limits. -/
@[simp] theorem setState_frame :
    (setState cfg newState s).cpState = s.cpState ∧
    (setState cfg newState s).lastCpState = s.lastCpState ∧
    (setState cfg newState s).currentPwm = s.currentPwm ∧
    (setState cfg newState s).pwmDuty = s.pwmDuty ∧
    (setState cfg newState s).maxCurrent = s.maxCurrent := by
  -- Each state is entered by its own steps, and none of them touches these fields.
  by_cases same : newState = s.currentState
  · simp [setState, same]
  · cases newState
    all_goals
      simp only [setState, same, if_false, enterUnplugged, enterVehicleDetected, noteConnected,
        enterReady, enterCharging, disablePower, enablePower, stopCharging, resetVehicleData,
        Evse.setEvent, Evse.record, Evse.setContactorState]
      (repeat' split) <;> simp

/-- Entering state A ends the plug-in: power off, and nothing remembered about the vehicle. -/
theorem setState_stateA (other : s.currentState ≠ .stateA) :
    (setState cfg .stateA s).relayOpen = true ∧
    (setState cfg .stateA s).isCharging = false ∧
    (setState cfg .stateA s).authNeeded = false ∧
    (setState cfg .stateA s).readyToCharge = true ∧
    (setState cfg .stateA s).measuredCurrent = 0 ∧
    (setState cfg .stateA s).ventilation = s.ventilation ∧
    (setState cfg .stateA s).calls = s.calls ++
      [.setEvent .evDisconnected, .setEvent .chargingStopped, .setContactorState true] := by
  -- The event of the disconnection comes before those of the switching off.
  simp [setState, other.symm, enterUnplugged, disablePower, stopCharging, resetVehicleData,
    Evse.setContactorState, Evse.setEvent, Evse.record]

/-- Entering state A2 switches off in the same way, but reports no disconnection. -/
theorem setState_stateA2 (other : s.currentState ≠ .stateA2) :
    (setState cfg .stateA2 s).relayOpen = true ∧
    (setState cfg .stateA2 s).isCharging = false ∧
    (setState cfg .stateA2 s).authNeeded = s.authNeeded ∧
    (setState cfg .stateA2 s).readyToCharge = true ∧
    (setState cfg .stateA2 s).measuredCurrent = 0 ∧
    (setState cfg .stateA2 s).ventilation = s.ventilation ∧
    (setState cfg .stateA2 s).calls = s.calls ++
      [.setEvent .chargingStopped, .setContactorState true] := by
  -- The authorization is not touched, so that the next vehicle inherits it.
  simp [setState, other.symm, enterUnplugged, disablePower, stopCharging, resetVehicleData,
    Evse.setContactorState, Evse.setEvent, Evse.record]

/-- Entering state B from an unplugged state reports the connection and asks for authorization. -/
theorem setState_stateB_connected (at_ : s.currentState = .stateA ∨ s.currentState = .stateA2) :
    (setState cfg .stateB s).relayOpen = true ∧
    (setState cfg .stateB s).isCharging = false ∧
    (setState cfg .stateB s).authNeeded = true ∧
    (setState cfg .stateB s).readyToCharge = true ∧
    (setState cfg .stateB s).measuredCurrent = s.measuredCurrent ∧
    (setState cfg .stateB s).ventilation = s.ventilation ∧
    (setState cfg .stateB s).calls = s.calls ++ [.setEvent .evConnected, .setEvent .evAuthNeeded,
      .setEvent .chargingStopped, .setContactorState true] := by
  -- The connection is reported, and then state B is entered as from anywhere else.
  have other : s.currentState ≠ .stateB := by rcases at_ with at_ | at_ <;> simp [at_]
  simp [setState, other.symm, enterVehicleDetected, noteConnected, at_, disablePower, stopCharging,
    Evse.setContactorState, Evse.setEvent, Evse.record]

/-- Entering state B from a plugged state only switches off. -/
theorem setState_stateB (other : s.currentState ≠ .stateB)
    (plugged : ¬ (s.currentState = .stateA ∨ s.currentState = .stateA2)) :
    (setState cfg .stateB s).relayOpen = true ∧
    (setState cfg .stateB s).isCharging = false ∧
    (setState cfg .stateB s).authNeeded = s.authNeeded ∧
    (setState cfg .stateB s).readyToCharge = true ∧
    (setState cfg .stateB s).measuredCurrent = s.measuredCurrent ∧
    (setState cfg .stateB s).ventilation = s.ventilation ∧
    (setState cfg .stateB s).calls = s.calls ++
      [.setEvent .chargingStopped, .setContactorState true] := by
  -- Coming from a plugged state no connection is noted.
  simp [setState, other.symm, enterVehicleDetected, noteConnected, plugged, disablePower,
    stopCharging, Evse.setContactorState, Evse.setEvent, Evse.record]

/-- A machine back from charging that opens the contactor on its way to state B2. -/
def OpensOnReturn (s : Evse) : Prop :=
  (s.currentState = .stateC2 ∨ s.currentState = .stateD2) ∧
    ¬ s.measuredCurrent < minCurrentDrawBeforeDisconnectSeq7

instance : Decidable (OpensOnReturn s) := inferInstanceAs (Decidable (_ ∧ _))

/-- Entering state B2 opens the contactor only on a return from charging with a real current. -/
theorem setState_stateB2 (other : s.currentState ≠ .stateB2) :
    (setState cfg .stateB2 s).relayOpen = (if OpensOnReturn s then true else s.relayOpen) ∧
    (setState cfg .stateB2 s).isCharging = false ∧
    (setState cfg .stateB2 s).authNeeded = s.authNeeded ∧
    (setState cfg .stateB2 s).readyToCharge = true ∧
    (setState cfg .stateB2 s).measuredCurrent = s.measuredCurrent ∧
    (setState cfg .stateB2 s).ventilation = s.ventilation ∧
    (setState cfg .stateB2 s).calls = s.calls ++ (if OpensOnReturn s then
      [.setEvent .chargingStopped, .setContactorState true] else []) := by
  -- Only a return from charging looks at the current, and only a real one opens the contactor.
  by_cases returning : s.currentState = .stateC2 ∨ s.currentState = .stateD2
  · by_cases small : s.measuredCurrent < minCurrentDrawBeforeDisconnectSeq7
    · simp [setState, other.symm, enterVehicleDetected, stopCharging, OpensOnReturn, returning,
        small]
    · simp [setState, other.symm, enterVehicleDetected, disablePower, stopCharging,
        Evse.setContactorState, Evse.setEvent, Evse.record, OpensOnReturn, returning, small]
  · simp [setState, other.symm, enterVehicleDetected, stopCharging, OpensOnReturn, returning]

/-- Entering state C or D from the other of the two switches nothing. -/
theorem setState_waiting (target : newState = .stateC ∨ newState = .stateD)
    (at_ : s.currentState = .stateC ∨ s.currentState = .stateD) :
    (setState cfg newState s).relayOpen = s.relayOpen ∧
    (setState cfg newState s).isCharging = s.isCharging ∧
    (setState cfg newState s).authNeeded = s.authNeeded ∧
    (setState cfg newState s).measuredCurrent = s.measuredCurrent ∧
    (setState cfg newState s).ventilation = s.ventilation ∧
    (setState cfg newState s).calls = s.calls := by
  -- From state C to D and back the power is off, and stays as it is.
  by_cases same : newState = s.currentState
  · simp [setState, same]
  · rcases target with rfl | rfl <;> rcases at_ with at_ | at_ <;>
      simp [setState, enterReady, stopCharging, at_]

/-- Entering state C or D from anywhere else switches off. -/
theorem setState_suspend (target : newState = .stateC ∨ newState = .stateD)
    (away : ¬ (s.currentState = .stateC ∨ s.currentState = .stateD)) :
    (setState cfg newState s).relayOpen = true ∧
    (setState cfg newState s).isCharging = false ∧
    (setState cfg newState s).authNeeded = s.authNeeded ∧
    (setState cfg newState s).measuredCurrent = s.measuredCurrent ∧
    (setState cfg newState s).ventilation = s.ventilation ∧
    (setState cfg newState s).calls = s.calls ++
      [.setEvent .chargingStopped, .setContactorState true] := by
  -- Only the way from the other waiting state is not switched off.
  obtain ⟨notC, notD⟩ := not_or.mp away
  rcases target with rfl | rfl <;>
    simp [setState, Ne.symm notC, Ne.symm notD, notC, notD, enterReady, disablePower, stopCharging,
      Evse.setContactorState, Evse.setEvent, Evse.record]

/-- Entering state D keeps a stop request. -/
theorem setState_stateD_ready : (setState cfg .stateD s).readyToCharge = s.readyToCharge := by
  -- State D is the one waiting state that leaves the request alone.
  by_cases same : s.currentState = .stateD
  · rw [setState_self cfg same]
  · by_cases at_ : s.currentState = .stateC <;>
      simp [setState, Ne.symm same, same, at_, enterReady, disablePower, Evse.setContactorState,
        Evse.setEvent, Evse.record]

/-- Whether a state change may close the contactor: nothing requests a stop in the new state. -/
def Permits (cfg : Config) (newState : J1772State) (s : Evse) : Prop :=
  s.readyToCharge = true ∧ (newState = .stateD2 → cfg.ventilationState = true)

instance : Decidable (Permits cfg newState s) := inferInstanceAs (Decidable (_ ∧ _))

/-- Entering state C2 or D2 closes the contactor if that is permitted, and else switches nothing. -/
theorem setState_charging (target : newState = .stateC2 ∨ newState = .stateD2)
    (other : s.currentState ≠ newState) :
    (setState cfg newState s).relayOpen = (if Permits cfg newState s then false else s.relayOpen) ∧
    (setState cfg newState s).isCharging = (if Permits cfg newState s then true else s.isCharging) ∧
    (setState cfg newState s).authNeeded = s.authNeeded ∧
    (setState cfg newState s).readyToCharge = decide (Permits cfg newState s) ∧
    (setState cfg newState s).measuredCurrent = s.measuredCurrent ∧
    (setState cfg newState s).calls = s.calls ++ (if Permits cfg newState s then
      [.setEvent .chargingStarted, .setContactorState false] else []) := by
  -- The switch for ventilation comes first, and decides whether state D2 is allowed at all.
  rcases target with rfl | rfl <;> cases ventilated : cfg.ventilationState <;>
    cases ready : s.readyToCharge <;>
    simp [setState, other.symm, enterCharging, enablePower, stopCharging, Evse.setContactorState,
      Evse.setEvent, Evse.record, Permits, ventilated, ready]

/-- Entering an error state switches off. -/
theorem setState_error (target : newState = .stateE ∨ newState = .stateF)
    (other : s.currentState ≠ newState) :
    (setState cfg newState s).relayOpen = true ∧
    (setState cfg newState s).isCharging = false ∧
    (setState cfg newState s).authNeeded = s.authNeeded ∧
    (setState cfg newState s).readyToCharge = s.readyToCharge ∧
    (setState cfg newState s).measuredCurrent = s.measuredCurrent ∧
    (setState cfg newState s).ventilation = s.ventilation ∧
    (setState cfg newState s).calls = s.calls ++
      [.setEvent .chargingStopped, .setContactorState true] := by
  -- Both error states do the same.
  rcases target with rfl | rfl <;>
    simp [setState, other.symm, disablePower, Evse.setContactorState, Evse.setEvent, Evse.record]

end EasyEvse.J1772
