import EasyEvse.J1772.Pwm
import EasyEvse.J1772.Safety

/-! Vehicles that need ventilation: the contactor without it, and the letter that asks for it. -/

namespace EasyEvse.J1772

open Transition

variable {cfg : Config} {i : Inputs} {s t : Evse} {newState : J1772State}

/-- The contactor is open in both letters of a vehicle that needs ventilation. -/
def OpenForVentilation (s : Evse) : Prop :=
  s.currentState = .stateD ∨ s.currentState = .stateD2 → s.relayOpen = true

/-- A vehicle for which the contactor is still closed in state B2 does not ask for ventilation. -/
def AsksWithoutPower (s : Evse) : Op → Prop
  | .loop i => ¬ (s.currentState = .stateB2 ∧ s.relayOpen = false ∧ i.controlPilot = .stateD)
  | .stopCharging _ | .setMaxCurrent _ => True

instance (s : Evse) : DecidablePred (AsksWithoutPower s)
  | .loop _ => inferInstanceAs (Decidable (¬ _))
  | .stopCharging _ | .setMaxCurrent _ => isTrue trivial

/-- The contactor, the charging flag and the letter agree, and it is open in state D2. -/
structure Unventilated (s : Evse) : Prop where
  safe : Safe s
  opened : s.currentState = .stateD2 → s.relayOpen = true

/-- State D has the contactor open anyway. -/
theorem Unventilated.good (unventilated : Unventilated s) : OpenForVentilation s := by
  intro at_
  rcases at_ with at_ | at_
  · exact unventilated.safe.off (by simp [at_]) (by simp [at_]) (by simp [at_])
  · exact unventilated.opened at_

/-- The agreement with state D2 is about four fields only. -/
theorem Unventilated.congr (unventilated : Unventilated s) (state : t.currentState = s.currentState)
    (relay : t.relayOpen = s.relayOpen) (charging : t.isCharging = s.isCharging)
    (current : t.measuredCurrent = s.measuredCurrent) : Unventilated t := by
  refine ⟨unventilated.safe.congr state relay charging current, ?_⟩
  rw [state, relay]
  exact unventilated.opened

/--
What an iteration with this reading relies on until the vehicle asks for ventilation.

A D reading finds the machine neither in state C2, nor in B2 with the contactor closed.
-/
structure AsksOpen (i : Inputs) (s : Evse) : Prop where
  unventilated : Unventilated s
  asked : i.controlPilot = .stateD →
    s.currentState ≠ .stateC2 ∧ (s.currentState = .stateB2 → s.relayOpen = true)

/-- It is about the same four fields. -/
theorem AsksOpen.congr (asks : AsksOpen i s) (state : t.currentState = s.currentState)
    (relay : t.relayOpen = s.relayOpen) (charging : t.isCharging = s.isCharging)
    (current : t.measuredCurrent = s.measuredCurrent) : AsksOpen i t := by
  refine ⟨asks.unventilated.congr state relay charging current, ?_⟩
  rw [state, relay]
  exact asks.asked

section Unventilated

variable (enableOvercurrentTest : Bool)

/-- Without ventilation state D2 is entered without closing the contactor, and not to stay. -/
theorem setState_stateD2_unventilated (other : s.currentState ≠ .stateD2) :
    (setState ⟨false, enableOvercurrentTest⟩ .stateD2 s).relayOpen = s.relayOpen ∧
      (setState ⟨false, enableOvercurrentTest⟩ .stateD2 s).readyToCharge = false := by
  obtain ⟨relay, -, -, ready, -⟩ :=
    setState_charging ⟨false, enableOvercurrentTest⟩ (.inr rfl) other
  have refused : ¬ Permits ⟨false, enableOvercurrentTest⟩ .stateD2 s := by simp [Permits]
  rw [if_neg refused] at relay
  exact ⟨relay, by simp [ready, refused]⟩

/-- From state C2 the fall-through goes on to state D at once. -/
theorem loop_stateC2_unventilated (at_ : s.currentState = .stateC2)
    (reads : i.controlPilot = .stateD) :
    (loopEvse ⟨false, enableOvercurrentTest⟩ i s).currentState = .stateD := by
  have other : (readPilot i s).currentState ≠ .stateD2 := by simp [at_]
  have held := (setState_stateD2_unventilated enableOvercurrentTest other).2
  simp [loopEvse, dispatch, at_, handleStateC2, handleStateD2, reads, held, J1772State.prev]

/-- Without ventilation an edge to state D2 starts from a letter with the contactor open. -/
theorem AsksOpen.edge (asks : AsksOpen i s) (reads : s.cpState = i.controlPilot)
    (edge : Edge s newState) : AsksOpen i (setState ⟨false, enableOvercurrentTest⟩ newState s) := by
  have safe := asks.unventilated.safe
  refine ⟨⟨setState_safe edge.real safe, fun target => ?_⟩, fun asksD => ?_⟩
  · rw [setState_currentState] at target
    subst target
    -- All four edges to state D2 are taken on a D reading.
    have entered : s.cpState = .stateD ∧ s.currentState ≠ .stateD2 := by
      cases edge <;> simp_all
    have relay := (setState_stateD2_unventilated enableOvercurrentTest entered.2).1
    obtain ⟨notC2, fromB2⟩ := asks.asked (reads.symm.trans entered.1)
    rw [relay]
    by_contra closed
    rcases safe.closed (by simpa using closed) with at_ | at_ | at_
    · exact closed (fromB2 at_)
    · exact notC2 at_
    · exact entered.2 at_
  · -- A D reading leads neither to state B2 nor to C2.
    have away : newState ≠ .stateC2 ∧ newState ≠ .stateB2 := by
      rw [asksD] at reads
      cases edge <;> simp_all
    simp [away.1, away.2]

/-- Any other iteration enters state D2 only from a letter with the contactor open. -/
theorem loopEvse_unventilated (unventilated : Unventilated s)
    (asks : ¬ (s.currentState = .stateB2 ∧ s.relayOpen = false ∧ i.controlPilot = .stateD)) :
    Unventilated (loopEvse ⟨false, enableOvercurrentTest⟩ i s) := by
  by_cases suspends : s.currentState = .stateC2 ∧ i.controlPilot = .stateD
  · have at_ := loop_stateC2_unventilated enableOvercurrentTest suspends.1 suspends.2
    exact ⟨loopEvse_safe unventilated.safe, by simp [at_]⟩
  · have start : AsksOpen i s := by
      refine ⟨unventilated, fun reads => ⟨fun at_ => suspends ⟨at_, reads⟩, fun at_ => ?_⟩⟩
      by_contra closed
      exact asks ⟨at_, by simpa using closed, reads⟩
    refine AsksOpen.unventilated (loopEvse_rule ?_ (fun reads edge asks => asks.edge _ reads edge)
      ?_ ?_ ?_ start)
    · exact fun asks => asks.congr (by simp) (by simp) (by simp) (by simp)
    · exact fun _ asks => asks.congr (by simp) (by simp) (by simp) (by simp)
    · -- The meter is read in the charging states, where the size of the current does not matter.
      intro u at_ asks
      refine ⟨⟨asks.unventilated.safe.meterInterval at_, ?_⟩, ?_⟩
      · simpa using asks.unventilated.opened
      · simpa using asks.asked
    · exact fun asks => asks.congr (by simp) (by simp) (by simp) (by simp)

/-- Only an iteration that asks for ventilation with the power left on breaks the agreement. -/
theorem apply_unventilated {op : Op} (unventilated : Unventilated s)
    (asks : AsksWithoutPower s op) :
    Unventilated (apply ⟨false, enableOvercurrentTest⟩ s op) := by
  have fresh : Unventilated s.fresh :=
    unventilated.congr (by simp) (by simp) (by simp) (by simp)
  cases op with
  | loop i => exact loopEvse_unventilated _ fresh (by simpa [AsksWithoutPower] using asks)
  | stopCharging stop => exact fresh.congr rfl rfl rfl rfl
  | setMaxCurrent maxCurrent =>
    rw [apply, setMaxCurrent_eq]
    exact fresh.congr rfl rfl rfl rfl

/-- Such an iteration ends in state D2 with the contactor closed. -/
theorem apply_closed_ventilation {op : Op} (asks : ¬ AsksWithoutPower s op) :
    ¬ OpenForVentilation (apply ⟨false, enableOvercurrentTest⟩ s op) := by
  cases op with
  | loop i =>
    obtain ⟨at_, closed, reads⟩ := not_not.mp asks
    have other : (readPilot i s.fresh).currentState ≠ .stateD2 := by simp [at_]
    have relay := (setState_stateD2_unventilated enableOvercurrentTest other).1
    intro opened
    have ends : (apply ⟨false, enableOvercurrentTest⟩ s (.loop i)).currentState = .stateD2 := by
      simp [apply, loopEvse, dispatch, at_, handleStateB2, reads]
    have on : (apply ⟨false, enableOvercurrentTest⟩ s (.loop i)).relayOpen = false := by
      simp [apply, loopEvse, dispatch, at_, handleStateB2, reads, relay, closed]
    rw [opened (.inr ends)] at on
    cases on
  | stopCharging stop => exact absurd trivial asks
  | setMaxCurrent maxCurrent => exact absurd trivial asks

/--
Without ventilation, a vehicle that needs it gets no energy in any state of a run, exactly if it
never asks for ventilation in state B2 while the contactor is still closed for a small current.
-/
theorem unventilated_open_iff (enableOvercurrentTest : Bool) (start : Evse)
    (initial : Initial start) (ops : List Op) :
    (∀ t, Visits (step ⟨false, enableOvercurrentTest⟩) start ops t → OpenForVentilation t) ↔
      Meets AsksWithoutPower (step ⟨false, enableOvercurrentTest⟩) start ops := by
  have starts : Unventilated start :=
    ⟨.of_off initial.fields.1 initial.fields.2.1, fun _ => initial.fields.1⟩
  refine always_good_iff_meets (fun unventilated asks moved => ?_) Unventilated.good
    (fun _ asks moved => ?_) starts
  · obtain rfl := Option.some.inj moved
    exact apply_unventilated _ unventilated asks
  · obtain rfl := Option.some.inj moved
    exact apply_closed_ventilation _ asks

/-- A vehicle that asks for ventilation while it is charged is taken to state D at once. -/
theorem unventilated_open_iff_charging :
    (applyAll ⟨false, false⟩ (init (setMaxCurrent 32 boot))
      (chargingRun ++ [.loop (pilotOnly .stateD)])).currentState = .stateD ∧
    (applyAll ⟨false, false⟩ (init (setMaxCurrent 32 boot))
      (chargingRun ++ [.loop (pilotOnly .stateD)])).relayOpen = true :=
  ⟨by decide +kernel, (unventilated_open_iff false _ ⟨32, rfl⟩ _).mpr (by decide +kernel) _
    (visits_end (run_step _ _ _)) (.inl (by decide +kernel))⟩

/-- A vehicle pauses with almost no current, and then asks for ventilation. -/
def pausedAndVentilated : List Op :=
  chargingRun ++ [.loop (pilotOnly .stateB), .loop (pilotOnly .stateD)]

/-- The contactor is closed in state D2, although there is no ventilation. -/
theorem closed_without_ventilation :
    ∃ t, Visits (step ⟨false, false⟩) (init (setMaxCurrent 32 boot)) pausedAndVentilated t ∧
      t.currentState = .stateD2 ∧ t.relayOpen = false ∧ ¬ OpenForVentilation t := by
  have finish : (applyAll ⟨false, false⟩ (init (setMaxCurrent 32 boot))
      pausedAndVentilated).currentState = .stateD2 ∧
      (applyAll ⟨false, false⟩ (init (setMaxCurrent 32 boot))
        pausedAndVentilated).relayOpen = false := by
    decide +kernel
  refine ⟨_, visits_end (run_step _ _ _), finish.1, finish.2, fun opened => ?_⟩
  exact absurd (opened (.inr finish.1)) (by simp [finish.2])

end Unventilated

/-- The charging state that was entered last. -/
def lastCharging (entered : List J1772State) : Option J1772State :=
  (entered.filter fun n => n.Charging).getLast?

/--
The states that were entered on the way from initialization to a machine, in order.

There is one case for each part of an iteration, and one for each of the other operations.
-/
inductive Enters (cfg : Config) : List J1772State → Evse → Prop
  | start (s : Evse) (initial : Initial s) : Enters cfg [] s
  | fresh (entered : List J1772State) (s : Evse) (before : Enters cfg entered s) :
      Enters cfg entered s.fresh
  | reads (entered : List J1772State) (s : Evse) (i : Inputs) (before : Enters cfg entered s) :
      Enters cfg entered (readPilot i s)
  | polls (entered : List J1772State) (s : Evse) (i : Inputs) (before : Enters cfg entered s) :
      Enters cfg entered (pollAuthorization i s)
  | meters (entered : List J1772State) (s : Evse) (i : Inputs) (before : Enters cfg entered s) :
      Enters cfg entered (meterInterval cfg i s)
  -- A state that the machine is in already is not entered again.
  | enters (entered : List J1772State) (s : Evse) (newState : J1772State)
      (before : Enters cfg entered s) (other : s.currentState ≠ newState) :
      Enters cfg (entered ++ [newState]) (setState cfg newState s)
  | finishes (entered : List J1772State) (s : Evse) (newPwm : ℚ)
      (before : Enters cfg entered s) : Enters cfg entered (applyPwm s newPwm)
  | stops (entered : List J1772State) (s : Evse) (stop : Bool) (before : Enters cfg entered s) :
      Enters cfg entered (stopCharging stop s)
  | limits (entered : List J1772State) (s : Evse) (maxCurrent : UInt32)
      (before : Enters cfg entered s) : Enters cfg entered (setMaxCurrent maxCurrent s)

/-- There are states that were entered on the way to the machine. -/
def Entered (cfg : Config) (s : Evse) : Prop := ∃ entered, Enters cfg entered s

/-- Asking for a state enters it, or finds the machine in it. -/
theorem Enters.setState {entered : List J1772State} (before : Enters cfg entered s)
    (newState : J1772State) : Entered cfg (setState cfg newState s) := by
  by_cases same : s.currentState = newState
  · rw [setState_self cfg same]
    exact ⟨entered, before⟩
  · exact ⟨_, before.enters entered s newState same⟩

/-- An iteration goes on with the states that were entered before it. -/
theorem Enters.loopEvse {entered : List J1772State} (before : Enters cfg entered s) (i : Inputs) :
    Entered cfg (loopEvse cfg i s) := by
  refine loopEvse_rule (P := Entered cfg) ?_ ?_ ?_ ?_ ?_ ⟨entered, before⟩
  · exact fun ⟨more, held⟩ => ⟨more, held.reads _ _ i⟩
  · exact fun _ _ ⟨_, held⟩ => held.setState _
  · exact fun _ ⟨more, held⟩ => ⟨more, held.polls _ _ i⟩
  · exact fun _ ⟨more, held⟩ => ⟨more, held.meters _ _ i⟩
  · exact fun ⟨more, held⟩ => ⟨more, held.finishes _ _ _⟩

/-- Every reachable state has the states that were entered on the way to it. -/
theorem Reachable.entered (reached : Reachable cfg s) : Entered cfg s := by
  have starts : ∀ {u}, Initial u → Entered cfg u := fun initial => ⟨[], .start _ initial⟩
  have keeps : ∀ {u op t}, Entered cfg u → step cfg u op = some t → Entered cfg t := by
    intro u op t ⟨entered, before⟩ moved
    obtain rfl := Option.some.inj moved
    cases op with
    | loop i => exact (before.fresh _ _).loopEvse i
    | stopCharging stop => exact ⟨entered, (before.fresh _ _).stops _ _ stop⟩
    | setMaxCurrent maxCurrent => exact ⟨entered, (before.fresh _ _).limits _ _ maxCurrent⟩
  exact Transition.Reachable.invariant reached starts keeps

/-- Entering one more state makes it the last charging state, if it is one. -/
theorem lastCharging_snoc (entered : List J1772State) (newState : J1772State) :
    lastCharging (entered ++ [newState]) =
      if newState.Charging then some newState else lastCharging entered := by
  by_cases charging : newState.Charging <;>
    simp [lastCharging, List.filter_append, charging]

/-- With ventilation, every change of state tells it what the state asks for, or nothing. -/
theorem setState_ventilation (ventilated : cfg.ventilationState = true)
    (other : s.currentState ≠ newState) : (setState cfg newState s).ventilation =
      if newState.Charging then some (decide (newState = .stateD2)) else s.ventilation := by
  by_cases charging : newState.Charging
  · rw [if_pos charging]
    cases ready : s.readyToCharge <;> rcases charging with rfl | rfl <;>
      simp [setState, enterCharging, enablePower, Evse.setContactorState, Evse.setEvent,
        Evse.record, other.symm, ventilated, ready]
  · rw [if_neg charging]
    cases newState with
    | stateA => exact (setState_stateA cfg other).2.2.2.2.2.1
    | stateA2 => exact (setState_stateA2 cfg other).2.2.2.2.2.1
    | stateB =>
      by_cases connected : s.currentState = .stateA ∨ s.currentState = .stateA2
      · exact (setState_stateB_connected cfg connected).2.2.2.2.2.1
      · exact (setState_stateB cfg other connected).2.2.2.2.2.1
    | stateB2 => exact (setState_stateB2 cfg other).2.2.2.2.2.1
    | stateC | stateD =>
      by_cases waiting : s.currentState = .stateC ∨ s.currentState = .stateD
      · exact (setState_waiting cfg (by simp) waiting).2.2.2.2.1
      · exact (setState_suspend cfg (by simp) waiting).2.2.2.2.1
    | stateC2 | stateD2 => exact absurd (by simp [J1772State.Charging]) charging
    | stateE | stateF => exact (setState_error cfg (by simp) other).2.2.2.2.2.1
    | lastState => simp [setState, other.symm]

/-- Initialization does not call the ventilation function. -/
theorem Initial.ventilation (initial : Initial s) : s.ventilation = none := by
  obtain ⟨maxCurrent, rfl⟩ := initial
  simp only [init, setMaxCurrent_eq, boot]
  split <;> rfl

/-- Ventilation was last told what the last charging state asked for. -/
theorem Enters.ventilation {entered : List J1772State} (ventilated : cfg.ventilationState = true)
    (enters : Enters cfg entered s) :
    s.ventilation = (lastCharging entered).map fun n => decide (n = .stateD2) := by
  induction enters with
  | start s initial => simp [lastCharging, initial.ventilation]
  | fresh entered s _ ih => exact ih
  | reads entered s i _ ih => simpa using ih
  | polls entered s i _ ih => simpa using ih
  | meters entered s i _ ih => simpa using ih
  | enters entered s newState _ other ih =>
    rw [setState_ventilation ventilated other, lastCharging_snoc]
    split
    · rfl
    · exact ih
  | finishes entered s newPwm _ ih => simpa using ih
  | stops entered s stop _ ih => exact ih
  | limits entered s maxCurrent _ ih =>
    rw [setMaxCurrent_eq]
    exact ih

/-- Ventilation was last told that it is needed exactly if state D2 was the last one to charge. -/
def ToldVentilation (cfg : Config) (s : Evse) : Prop :=
  Entered cfg s ∧ ∀ entered, Enters cfg entered s →
    (s.ventilation = some true ↔ lastCharging entered = some .stateD2)

/-- With ventilation, every reachable state has told it what it needs to know. -/
theorem Reachable.toldVentilation (ventilated : cfg.ventilationState = true)
    (reached : Reachable cfg s) : ToldVentilation cfg s := by
  refine ⟨reached.entered, fun entered enters => ?_⟩
  rw [enters.ventilation ventilated]
  simp

/-- After an iteration that reads C or D, the letter is that of the reading. -/
def FollowsPilot (cfg : Config) (i : Inputs) (s : Evse) : Prop :=
  (i.controlPilot = .stateC → (apply cfg s (.loop i)).currentState = .stateC ∨
    (apply cfg s (.loop i)).currentState = .stateC2) ∧
  (i.controlPilot = .stateD → (apply cfg s (.loop i)).currentState = .stateD ∨
    (apply cfg s (.loop i)).currentState = .stateD2)

/-- Waiting in state D, reading C leads back to state C at once, and perhaps on to C2. -/
theorem handleStateD_reads_stateC {newPwm : ℚ} (reads : s.cpState = .stateC) :
    (handleStateD cfg s newPwm).1.currentState = .stateC ∨
      (handleStateD cfg s newPwm).1.currentState = .stateC2 := by
  simp only [handleStateD, reads, if_true, setState_frame, true_or, true_and, reduceCtorEq,
    if_false]
  split_ifs <;> simp [J1772State.next]

/-- Waiting in state D, reading D stays there, or leads on to D2. -/
theorem handleStateD_reads_stateD {newPwm : ℚ} (reads : s.cpState = .stateD)
    (at_ : s.currentState = .stateD) :
    (handleStateD cfg s newPwm).1.currentState = .stateD ∨
      (handleStateD cfg s newPwm).1.currentState = .stateD2 := by
  simp only [handleStateD, reads, reduceCtorEq, if_false, false_and, or_true, if_true]
  split_ifs <;> simp [J1772State.next, at_]

/-- Charging, the letter follows a D reading, and a stop leads back to the state it belongs to. -/
theorem handleStateD2_reads_stateD (reads : s.cpState = .stateD) (at_ : s.currentState = .stateD2) :
    (handleStateD2 cfg i s).1.currentState = .stateD ∨
      (handleStateD2 cfg i s).1.currentState = .stateD2 := by
  simp only [handleStateD2, meterInterval_frame, reads, reduceCtorEq, if_false, false_and, or_true,
    if_true]
  split_ifs <;> simp [J1772State.prev, at_]

/-- Charging in state C2, a C reading stays there, and a stop leads back to state C. -/
theorem handleStateD2_reads_stateC (reads : s.cpState = .stateC)
    (before : s.currentState = .stateC2 ∨ s.lastCpState = .stateD) :
    (handleStateD2 cfg i s).1.currentState = .stateC ∨
      (handleStateD2 cfg i s).1.currentState = .stateC2 := by
  simp only [handleStateD2, meterInterval_frame, reads, reduceCtorEq, if_false, true_or, true_and,
    if_true]
  by_cases last : s.lastCpState = .stateD
  · simp only [last, if_true]
    split_ifs <;> simp [J1772State.prev]
  · have at_ := before.resolve_right last
    simp only [last, if_false]
    split_ifs <;> simp [J1772State.prev, at_]

/-- Charging in state D2, a C reading that does not come right after a D reading is missed. -/
theorem handleStateD2_misses (reads : s.cpState = .stateC) (at_ : s.currentState = .stateD2)
    (before : s.lastCpState ≠ .stateD) :
    (handleStateD2 cfg i s).1.currentState = .stateD ∨
      (handleStateD2 cfg i s).1.currentState = .stateD2 := by
  simp only [handleStateD2, meterInterval_frame, reads, before, reduceCtorEq, if_false, true_or,
    and_false, if_true]
  split_ifs <;> simp [J1772State.prev, at_]

/-- The letter at the end of an iteration is the one that the switch over the letter leaves. -/
theorem apply_loop_currentState : (apply cfg s (.loop i)).currentState =
    (dispatch cfg i (readPilot i s.fresh)).1.currentState := by
  simp [apply, loopEvse]

/-- In the waiting states, and in state C2, the letter follows both readings. -/
theorem followsPilot_of_ne_stateD2
    (at_ : s.currentState = .stateC ∨ s.currentState = .stateD ∨ s.currentState = .stateC2) :
    FollowsPilot cfg i s := by
  simp only [FollowsPilot, apply_loop_currentState]
  constructor <;> intro reads <;> rcases at_ with at_ | at_ | at_ <;>
    simp only [dispatch, readPilot_frame, fresh_frame, at_]
  · simp only [handleStateC, readPilot_frame, reads, reduceCtorEq, false_and, if_false]
    exact handleStateD_reads_stateC (by simp [reads])
  · exact handleStateD_reads_stateC (by simp [reads])
  · simp only [handleStateC2, readPilot_frame, reads, reduceCtorEq, if_false]
    exact handleStateD2_reads_stateC (by simp [reads]) (.inl (by simp [at_]))
  · -- The fall-through finds the letter changed already.
    simp only [handleStateC, readPilot_frame, fresh_frame, reads, at_]
    exact handleStateD_reads_stateD (by simp [reads]) (by simp)
  · exact handleStateD_reads_stateD (by simp [reads]) (by simp [at_])
  · simp only [handleStateC2, readPilot_frame, reads, if_true]
    exact handleStateD2_reads_stateD (by simp [reads]) (by simp)

/-- In state D2 the letter follows the pilot if a C reading comes right after a D reading. -/
theorem followsPilot_stateD2_iff (at_ : s.currentState = .stateD2) :
    FollowsPilot cfg i s ↔ (i.controlPilot = .stateC → s.lastCpState = .stateD) := by
  simp only [FollowsPilot, apply_loop_currentState]
  simp only [dispatch, readPilot_frame, fresh_frame, at_]
  constructor
  · rintro ⟨follows, -⟩ reads
    by_contra before
    have misses : (handleStateD2 cfg i (readPilot i s.fresh)).1.currentState = .stateD ∨
        (handleStateD2 cfg i (readPilot i s.fresh)).1.currentState = .stateD2 :=
      handleStateD2_misses (by simp [reads]) (by simp [at_]) (by simpa using before)
    rcases follows reads with ends | ends <;> simp [ends] at misses
  · intro before
    refine ⟨fun reads => ?_, fun reads => ?_⟩
    · exact handleStateD2_reads_stateC (by simp [reads]) (.inr (by simp [before reads]))
    · exact handleStateD2_reads_stateD (by simp [reads]) (by simp [at_])

/--
With ventilation, the letter follows the pilot between C and D and ventilation is told, except in
state D2 for a C reading that does not come right after a D reading.
-/
theorem follows_pilot_iff (enableOvercurrentTest : Bool) (s : Evse) (i : Inputs)
    (reached : Reachable ⟨true, enableOvercurrentTest⟩ s)
    (at_ : s.currentState = .stateC ∨ s.currentState = .stateD ∨ s.currentState = .stateC2 ∨
      s.currentState = .stateD2) :
    (FollowsPilot ⟨true, enableOvercurrentTest⟩ i s ∧ ToldVentilation ⟨true, enableOvercurrentTest⟩
      (apply ⟨true, enableOvercurrentTest⟩ s (.loop i))) ↔
      (s.currentState = .stateD2 → i.controlPilot = .stateC → s.lastCpState = .stateD) := by
  have told : ToldVentilation ⟨true, enableOvercurrentTest⟩
      (apply ⟨true, enableOvercurrentTest⟩ s (.loop i)) :=
    (Reachable.apply reached (.loop i)).toldVentilation rfl
  rw [and_iff_left told]
  by_cases charged : s.currentState = .stateD2
  · rw [followsPilot_stateD2_iff charged]
    exact ⟨fun follows _ => follows, fun follows => follows charged⟩
  · exact iff_of_true (followsPilot_of_ne_stateD2 (by tauto)) fun at_ => absurd at_ charged

/-- A vehicle that needed ventilation and was then read right after that is followed back. -/
theorem follows_pilot_iff_ventilated :
    FollowsPilot ⟨true, false⟩ (pilotOnly .stateC)
      (applyAll ⟨true, false⟩ (init (setMaxCurrent 32 boot))
        (chargingRun ++ [.loop (pilotOnly .stateD)])) :=
  ((follows_pilot_iff false _ (pilotOnly .stateC) (reachable_applyAll _ 32 _)
    (by decide +kernel)).mpr (by decide +kernel)).1

/-- A vehicle asks for ventilation, and is read once as an error before it asks no more. -/
def ventilatedAndMisread : List Op :=
  chargingRun ++ [.loop (pilotOnly .stateD), .loop (pilotOnly .stateE)]

/-- The machine stays in state D2, although the vehicle no longer asks for ventilation. -/
theorem misses_the_pilot :
    ∃ s, Reachable ⟨true, false⟩ s ∧ s.currentState = .stateD2 ∧
      (apply ⟨true, false⟩ s (.loop (pilotOnly .stateC))).currentState = .stateD2 ∧
      ¬ FollowsPilot ⟨true, false⟩ (pilotOnly .stateC) s := by
  have finish : (applyAll ⟨true, false⟩ (init (setMaxCurrent 32 boot))
      ventilatedAndMisread).currentState = .stateD2 ∧
      (apply ⟨true, false⟩ (applyAll ⟨true, false⟩ (init (setMaxCurrent 32 boot))
        ventilatedAndMisread) (.loop (pilotOnly .stateC))).currentState = .stateD2 := by
    decide +kernel
  refine ⟨_, reachable_applyAll _ 32 ventilatedAndMisread, finish.1, finish.2, fun follows => ?_⟩
  rcases follows.1 rfl with ends | ends <;> simp [finish.2] at ends

end EasyEvse.J1772
