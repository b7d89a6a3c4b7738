import EasyEvse.J1772.Metering

/-! Stays in the charging states with the contactor closed, and the account of their time. -/

namespace EasyEvse.J1772

open Transition

/-- The vehicle is charged: the letter is a charging one, and the contactor is closed. -/
def Delivering (s : Evse) : Prop := s.currentState.Charging ∧ s.relayOpen = false

/-- What the iterations among some operations read. -/
def iterations (ops : List Op) : List Inputs :=
  ops.filterMap fun
    | .loop i => some i
    | .stopCharging _ | .setMaxCurrent _ => none

/-- The times of the readings are not zero, and do not wrap. -/
def Timed (readings : List Inputs) : Prop :=
  (∀ i ∈ readings, i.msSinceBoot ≠ 0) ∧
    readings.Pairwise fun i j => i.msSinceBoot ≤ j.msSinceBoot

/-- The intervals between readings in a row partition a span of time. -/
def Partition (since till : UInt32) : List Inputs → Prop
  | [] => since = till
  | i :: is => since ≤ i.msSinceBoot ∧ Partition i.msSinceBoot till is

/-- The energy of readings in a row, each for the time since the one before it. -/
def energySum (maxVoltage : ℚ) (since : UInt32) : List Inputs → ℚ
  | [] => 0
  | i :: is => energyOf maxVoltage since i + energySum maxVoltage i.msSinceBoot is

/-- A machine has counted a span of time once, with the energy of readings that partition it. -/
structure Accounted (since till : UInt32) (readings : List Inputs) (s t : Evse) : Prop where
  elapsed : t.elapseTime = s.elapseTime + (till - since)
  delivered : ∃ measured : List Inputs, measured.Sublist readings ∧ Partition since till measured ∧
    t.meterEnergyDelivered = s.meterEnergyDelivered + energySum s.maxVoltage since measured

/-- One maximal stay with the contactor closed, from the operation that begins it to its end. -/
structure Stay (cfg : Config) (s : Evse) (enter : Op) (stay : List Op) (leaving : Inputs) :
    Prop where
  outside : ¬ Delivering s
  inside : ∀ u, Visits (step cfg) (apply cfg s enter) stay u → Delivering u
  leaves : (applyAll cfg s (enter :: stay ++ [.loop leaving])).currentState ∈
    [J1772State.stateC, .stateD, .stateB2, .stateF]

/-- The conditions under which an iteration leaves no slice of a stay out, and adds none. -/
structure KeepsTime (cfg : Config) (i : Inputs) (s : Evse) : Prop where
  /-- A stay does not begin under a stop request, which would leave an old clock running. -/
  permitted : ¬ s.currentState.Charging → s.relayOpen = false →
    i.controlPilot = .stateC ∨ i.controlPilot = .stateD →
    s.readyToCharge = true ∧ (i.controlPilot = .stateD → cfg.ventilationState = true)
  /-- A stay does not begin in the middle of an iteration, which would start the clock early. -/
  begun : s.currentState.Charging → s.relayOpen = true → ¬ Restarts cfg i s
  /-- A change to state D2 comes right after a measurement, or before the first. -/
  changed : Delivering s → Restarts cfg i s →
    s.lastCalcTime = 0 ∨ s.lastCalcTime = i.msSinceBoot
  /-- A change back to state C2 only happens on the way out. -/
  turned : Delivering s → TurnsBack i s → HeldBack cfg i s
  /-- The charging is suspended in an iteration that measures, or right after one. -/
  suspended : Delivering s → Suspends cfg i s →
    Measures cfg i s ∨ clock cfg i s = i.msSinceBoot

/-- Only iterations are asked for anything. -/
def KeepsTimes (cfg : Config) (s : Evse) : Op → Prop
  | .loop i => KeepsTime cfg i s
  | .stopCharging _ | .setMaxCurrent _ => True

instance : DecidablePred Delivering := fun _ => inferInstanceAs (Decidable (_ ∧ _))

instance (readings : List Inputs) : Decidable (Timed readings) :=
  inferInstanceAs (Decidable (_ ∧ _))

set_option synthInstance.maxSize 512 in
instance (cfg : Config) (i : Inputs) (s : Evse) : Decidable (KeepsTime cfg i s) :=
  decidable_of_iff ((¬ s.currentState.Charging → s.relayOpen = false →
      i.controlPilot = .stateC ∨ i.controlPilot = .stateD →
      s.readyToCharge = true ∧ (i.controlPilot = .stateD → cfg.ventilationState = true)) ∧
    (s.currentState.Charging → s.relayOpen = true → ¬ Restarts cfg i s) ∧
    (Delivering s → Restarts cfg i s → s.lastCalcTime = 0 ∨ s.lastCalcTime = i.msSinceBoot) ∧
    (Delivering s → TurnsBack i s → HeldBack cfg i s) ∧
    (Delivering s → Suspends cfg i s → Measures cfg i s ∨ clock cfg i s = i.msSinceBoot))
    ⟨fun ⟨permitted, begun, changed, turned, suspended⟩ =>
      ⟨permitted, begun, changed, turned, suspended⟩,
    fun ⟨permitted, begun, changed, turned, suspended⟩ =>
      ⟨permitted, begun, changed, turned, suspended⟩⟩

instance (cfg : Config) (s : Evse) : ∀ op, Decidable (KeepsTimes cfg s op)
  | .loop i => inferInstanceAs (Decidable (KeepsTime cfg i s))
  | .stopCharging _ | .setMaxCurrent _ => isTrue trivial

section Accounts

variable {since till : UInt32} {i : Inputs} {rest : List Inputs} {s t u : Evse}

/-- Nothing is counted in no time. -/
theorem Accounted.nothing (elapse : t.elapseTime = s.elapseTime)
    (energy : t.meterEnergyDelivered = s.meterEnergyDelivered) :
    Accounted till till rest s t where
  elapsed := by simp [elapse]
  delivered := ⟨[], List.nil_sublist rest, rfl, by simp [energy, energySum]⟩

/-- What the meter showed before does not matter beyond what it showed. -/
theorem Accounted.of_same (elapse : t.elapseTime = s.elapseTime)
    (energy : t.meterEnergyDelivered = s.meterEnergyDelivered)
    (voltage : t.maxVoltage = s.maxVoltage) (after : Accounted since till rest t u) :
    Accounted since till rest s u := by
  obtain ⟨elapsed, measured, among, partition, delivered⟩ := after
  -- The account reads three fields of the machine it starts from.
  rw [elapse] at elapsed
  rw [energy, voltage] at delivered
  exact ⟨elapsed, measured, among, partition, delivered⟩

/-- An iteration that does not measure leaves its time to the ones after it. -/
theorem Accounted.skipped (elapse : t.elapseTime = s.elapseTime)
    (energy : t.meterEnergyDelivered = s.meterEnergyDelivered)
    (voltage : t.maxVoltage = s.maxVoltage) (after : Accounted since till rest t u) :
    Accounted since till (i :: rest) s u := by
  obtain ⟨elapsed, measured, among, partition, delivered⟩ := after.of_same elapse energy voltage
  exact ⟨elapsed, measured, among.trans (List.sublist_cons_self i rest), partition, delivered⟩

/-- An iteration that measures counts its own time, and the ones after it the rest. -/
theorem Accounted.measured (order : since ≤ i.msSinceBoot)
    (elapse : t.elapseTime = s.elapseTime + (i.msSinceBoot - since))
    (energy : t.meterEnergyDelivered =
      s.meterEnergyDelivered + energyOf s.maxVoltage since i)
    (voltage : t.maxVoltage = s.maxVoltage)
    (after : Accounted i.msSinceBoot till rest t u) :
    Accounted since till (i :: rest) s u := by
  obtain ⟨elapsed, measured, among, partition, delivered⟩ := after
  refine ⟨?_, i :: measured, among.cons_cons i, ⟨order, partition⟩, ?_⟩
  · -- The two intervals meet in the time of the measurement.
    rw [elapsed, elapse]
    grind
  · -- The energy of the measurement is the first term of the sum.
    rw [delivered, energy, voltage]
    simp [energySum, add_assoc]

end Accounts

section Stays

variable {cfg : Config} {i : Inputs} {op : Op} {s : Evse}

/-- A vehicle that is unplugged in the charging states brings the machine to state A2. -/
theorem loop_unplugged (charging : s.currentState.Charging) (unplugged : i.controlPilot = .stateA) :
    (apply cfg s (.loop i)).currentState = .stateA2 := by
  have letter : (readPilot i s.fresh).currentState.Charging := by simpa using charging
  have pilot : (followPilot cfg (readPilot i s.fresh)).cpState = .stateA := by
    rw [(followPilot_frame cfg letter).1]
    simpa using unplugged
  simp [apply, loopEvse, dispatch_charging letter, handleStateD2, pilot]

/-- A charging letter that is entered with the contactor open before closes it with its clock. -/
theorem setState_clock {n : J1772State} (target : n.Charging) (other : s.currentState ≠ n)
    (permitted : s.relayOpen = false → Permits cfg n s)
    (closed : (setState cfg n s).relayOpen = false) : (setState cfg n s).lastCalcTime = 0 := by
  obtain ⟨relay, -⟩ := setState_charging cfg target other
  have plugged : n ≠ .stateA ∧ n ≠ .stateA2 := by rcases target with rfl | rfl <;> decide
  obtain ⟨-, -, -, -, stopped⟩ := setState_meter cfg (s := s) plugged
  rw [stopped, if_pos]
  refine ⟨target, other, ?_⟩
  -- Either the change closes the contactor, or it was closed and the change is permitted.
  by_contra refused
  rw [relay, if_neg refused] at closed
  exact refused (permitted closed)

/-- The waiting states enter a charging one with the clock stopped. -/
theorem handleStateD_enters {newPwm : ℚ}
    (at_ : s.currentState = .stateC ∨ s.currentState = .stateD)
    (followed : s.cpState = .stateD → s.currentState = .stateD)
    (permitted : s.relayOpen = false → s.cpState = .stateD → cfg.ventilationState = true)
    (delivers : Delivering (handleStateD cfg s newPwm).1) :
    (handleStateD cfg s newPwm).1.lastCalcTime = 0 := by
  have idle : ¬ s.currentState.Charging := by
    rcases at_ with at_ | at_ <;> simp [at_, J1772State.Charging]
  -- Only the readings C and D ask for power.
  cases reading : s.cpState with
  | stateA | stateB | stateF =>
    simp [handleStateD, reading, Delivering, J1772State.Charging] at delivers
  | stateE | stateUnknown =>
    simp [handleStateD, reading, Delivering, idle] at delivers
  | stateC =>
    -- State D goes back to C first, and from there the charging only begins when ready.
    have again : setState cfg .stateC (setState cfg .stateC s) = setState cfg .stateC s :=
      setState_self cfg (setState_currentState cfg)
    simp only [handleStateD, reading, reduceCtorEq, if_true, if_false, setState_frame, again,
      ite_self, true_or, J1772State.next, setState_currentState] at delivers ⊢
    split_ifs at delivers ⊢ with full held
    · have other : (setState cfg .stateC s).currentState ≠ .stateC2 := by simp
      exact setState_clock (.inl rfl) other (fun _ => ⟨held.1, by simp⟩) delivers.2
    · simp [Delivering, J1772State.Charging] at delivers
    · simp [Delivering, J1772State.Charging] at delivers
  | stateD =>
    -- The letter is D already, and only ventilation can be missing.
    have letter := followed reading
    simp only [handleStateD, reading, reduceCtorEq, if_true, if_false, or_true, false_and, letter,
      J1772State.next] at delivers ⊢
    split_ifs at delivers ⊢ with full held
    · have other : s.currentState ≠ .stateD2 := by simp [letter]
      exact setState_clock (.inr rfl) other
        (fun closed => ⟨held.1, fun _ => permitted closed reading⟩) delivers.2
    · exact absurd delivers.1 idle
    · exact absurd delivers.1 idle

/-- Every state that is not a charging one enters the charging with the clock stopped. -/
theorem dispatch_enters (cfg : Config) (i : Inputs) (idle : ¬ s.currentState.Charging)
    (permitted : s.relayOpen = false → s.cpState = .stateC ∨ s.cpState = .stateD →
      s.readyToCharge = true ∧ (s.cpState = .stateD → cfg.ventilationState = true))
    (delivers : Delivering (dispatch cfg i s).1) : (dispatch cfg i s).1.lastCalcTime = 0 := by
  -- Only state B2 and the two waiting states lead to a charging one.
  cases at_ : s.currentState with
  | stateC2 | stateD2 => simp [J1772State.Charging, at_] at idle
  -- The states without power lead among themselves.
  | stateA =>
    simp only [dispatch, at_, handleStateA] at delivers
    split_ifs at delivers <;> simp [Delivering, J1772State.Charging, at_] at delivers
  | stateA2 =>
    simp only [dispatch, at_, handleStateA2] at delivers
    split_ifs at delivers <;> simp [Delivering, J1772State.Charging, at_] at delivers
  | stateB =>
    simp only [dispatch, at_, handleStateB] at delivers
    split_ifs at delivers <;> simp [Delivering, J1772State.Charging, at_] at delivers
  | stateE | stateF =>
    simp only [dispatch, at_, handleStateEF] at delivers
    split_ifs at delivers <;> simp [Delivering, J1772State.Charging, at_] at delivers
  | lastState =>
    simp only [dispatch, at_, handleLastState] at delivers
    split_ifs at delivers <;> simp [Delivering, J1772State.Charging, at_] at delivers
  -- From here a reading leads to a charging state at once, and with the contactor as it is.
  | stateB2 =>
    simp only [dispatch, at_, handleStateB2] at delivers ⊢
    split_ifs at delivers ⊢ with unplugged stopped charge ventilated broken
    · simp [Delivering, J1772State.Charging] at delivers
    · simp [Delivering, J1772State.Charging] at delivers
    · have ready closed := (permitted closed (.inl charge)).1
      exact setState_clock (.inl rfl) (by simp [at_])
        (fun closed => ⟨ready closed, by simp⟩) delivers.2
    · have allowed closed := permitted closed (.inr ventilated)
      exact setState_clock (.inr rfl) (by simp [at_])
        (fun closed => ⟨(allowed closed).1, fun _ => (allowed closed).2 ventilated⟩) delivers.2
    · simp [Delivering, J1772State.Charging] at delivers
    · simp [Delivering, J1772State.Charging, at_] at delivers
  | stateC =>
    simp only [dispatch, at_, handleStateC] at delivers ⊢
    split_ifs at delivers ⊢ with reading
    · -- The fall-through finds the machine in state D already.
      have relay : (setState cfg .stateD s).relayOpen = s.relayOpen :=
        (setState_waiting cfg (.inr rfl) (.inl at_)).1
      refine handleStateD_enters (.inr (by simp)) (by simp) (fun closed _ => ?_) delivers
      rw [relay] at closed
      exact (permitted closed (.inr reading.1)).2 reading.1
    · have other : s.cpState ≠ .stateD := fun turned => reading ⟨turned, by simp⟩
      exact handleStateD_enters (.inl at_) (fun turned => absurd turned other)
        (fun _ turned => absurd turned other) delivers
  | stateD =>
    simp only [dispatch, at_] at delivers ⊢
    exact handleStateD_enters (.inr at_) (fun _ => at_)
      (fun closed turned => (permitted closed (.inr turned)).2 turned) delivers

/-- A permitted stay begins with the clock stopped. -/
theorem apply_enters (outside : ¬ Delivering s) (keeps : KeepsTimes cfg s op)
    (delivers : Delivering (apply cfg s op)) : (apply cfg s op).lastCalcTime = 0 := by
  cases op with
  | stopCharging stop => exact absurd delivers outside
  | setMaxCurrent maxCurrent =>
    have same : Delivering (apply cfg s (.setMaxCurrent maxCurrent)) ↔ Delivering s := by
      simp [apply, setMaxCurrent_eq, Delivering, Evse.fresh]
    exact absurd (same.mp delivers) outside
  | loop i =>
    by_cases charging : s.currentState.Charging
    · -- The contactor was open, and only a change back to state C2 can have closed it.
      have relay : s.relayOpen = true := by
        cases relay : s.relayOpen with
        | true => rfl
        | false => exact absurd ⟨charging, relay⟩ outside
      -- An unplugged vehicle would have ended the charging.
      have plugged : i.controlPilot ≠ .stateA := by
        intro unplugged
        have letter := delivers.1
        rw [loop_unplugged charging unplugged] at letter
        simp [J1772State.Charging] at letter
      obtain ⟨-, -, -, -, started⟩ := loop_meter cfg charging plugged
      have started := started delivers.1
      by_cases turned : TurnsBack i s
      · rw [if_pos turned] at started
        exact started
      · rw [if_neg turned, if_neg (keeps.begun charging relay), relay] at started
        exact absurd delivers.2 (by rw [started.2]; decide)
    · -- From outside the charging states it is the dispatch that enters one.
      have idle : ¬ (readPilot i s.fresh).currentState.Charging := by simpa using charging
      have entered := dispatch_enters cfg i (s := readPilot i s.fresh) idle
        (by simpa using keeps.permitted charging)
        (by simpa [apply, loopEvse, Delivering] using delivers)
      simpa [apply, loopEvse, applyPwm_meter] using entered

/-- The clock runs since a time, or the next iteration starts it at that time. -/
def Running (since : UInt32) (readings : List Inputs) (s : Evse) : Prop :=
  since ≠ 0 ∧ (s.lastCalcTime = since ∨
    s.lastCalcTime = 0 ∧ ∀ i ∈ readings.head?, i.msSinceBoot = since)

variable {since : UInt32} {rest : List Inputs}

/-- While the clock runs, an iteration that keeps the time measures from where it began. -/
theorem Running.clock_eq (running : Running since (i :: rest) s) (delivers : Delivering s)
    (keeps : KeepsTime cfg i s) : clock cfg i s = since := by
  obtain ⟨some, counts | ⟨stopped, first⟩⟩ := running
  · -- A clock that runs shows no zero.
    have started : s.lastCalcTime ≠ 0 := by rw [counts]; exact some
    by_cases restarts : Restarts cfg i s
    · -- The change to state D2 restarts the clock at the time it shows already.
      have now := (keeps.changed delivers restarts).resolve_left started
      rw [clock, if_pos (.inr restarts), ← now, counts]
    · rw [clock, if_neg (not_or.mpr ⟨started, restarts⟩), counts]
  · rw [clock, if_pos (.inl stopped)]
    exact first i rfl

/-- The iteration that leaves counts what is left of the stay. -/
theorem leaving_accounts (delivers : Delivering s) (keeps : KeepsTime cfg i s)
    (starts : clock cfg i s = since) (order : since ≤ i.msSinceBoot)
    (leaves : (apply cfg s (.loop i)).currentState ∈
      [J1772State.stateC, .stateD, .stateB2, .stateF]) :
    Accounted since i.msSinceBoot [i] s (apply cfg s (.loop i)) := by
  have plugged : i.controlPilot ≠ .stateA := by
    intro unplugged
    rw [loop_unplugged delivers.1 unplugged] at leaves
    simp at leaves
  -- None of the states that are left to is a charging one.
  have away : ¬ (apply cfg s (.loop i)).currentState.Charging := by
    intro stays
    rcases stays with letter | letter <;> simp [letter] at leaves
  obtain ⟨elapse, energy, voltage, letter, -⟩ := loop_meter cfg delivers.1 plugged
  rw [starts] at elapse energy
  by_cases due : Measures cfg i s
  · rw [if_pos due] at elapse energy
    exact .measured order elapse energy voltage (.nothing rfl rfl)
  · -- Without a measurement the last one was made just now.
    rw [if_neg due] at elapse energy
    have suspends : Suspends cfg i s := by
      rw [letter, not_not] at away
      rcases away with reads | suspends
      · exact absurd (.inr (.inl reads)) due
      · exact suspends
    have now : since = i.msSinceBoot := by
      rw [← starts]
      exact (keeps.suspended delivers suspends).resolve_left due
    rw [now]
    exact .nothing elapse energy

/-- An iteration that goes on counts its slice, or leaves it to the next ones. -/
theorem inner_accounts {t u : Evse} {till : UInt32} (same : t = apply cfg s (.loop i))
    (delivers : Delivering s) (stays : Delivering t) (keeps : KeepsTime cfg i s)
    (running : Running since (i :: rest) s) (order : since ≤ i.msSinceBoot)
    (after : ∀ next, next = since ∨ next = i.msSinceBoot → t.lastCalcTime = next →
      Accounted next till rest t u) :
    Accounted since till (i :: rest) s u := by
  have starts := running.clock_eq delivers keeps
  subst same
  have plugged : i.controlPilot ≠ .stateA := by
    intro unplugged
    have letter := stays.1
    rw [loop_unplugged delivers.1 unplugged] at letter
    simp [J1772State.Charging] at letter
  obtain ⟨elapse, energy, voltage, letter, started⟩ := loop_meter cfg delivers.1 plugged
  have started := started stays.1
  -- Turning back would end the stay, so that the clock keeps running.
  have straight : ¬ TurnsBack i s := by
    intro turned
    refine letter.mp stays.1 (.inr (.inr ⟨.inl turned.2.1, keeps.turned delivers turned⟩))
  rw [if_neg straight] at started
  -- A measurement starts the next interval, and the clock runs on without one.
  rw [starts] at elapse energy started
  by_cases due : Measures cfg i s
  · rw [if_pos due] at elapse energy started
    exact .measured order elapse energy voltage (after _ (.inr rfl) started.1)
  · rw [if_neg due] at elapse energy started
    exact .skipped elapse energy voltage (after _ (.inl rfl) started.1)

/-- From any point of a stay on, the rest of it is accounted for. -/
theorem rest_accounts {ops : List Op} {leaving : Inputs}
    (running : Running since (iterations ops ++ [leaving]) s)
    (timed : Timed (iterations ops ++ [leaving]))
    (order : ∀ i ∈ iterations ops ++ [leaving], since ≤ i.msSinceBoot)
    (inside : ∀ u, Visits (step cfg) s ops u → Delivering u)
    (keeps : Meets (KeepsTimes cfg) (step cfg) s (ops ++ [.loop leaving]))
    (leaves : (applyAll cfg s (ops ++ [.loop leaving])).currentState ∈
      [J1772State.stateC, .stateD, .stateB2, .stateF]) :
    Accounted since leaving.msSinceBoot (iterations ops ++ [leaving]) s
      (applyAll cfg s (ops ++ [.loop leaving])) := by
  have delivers : Delivering s := inside s visits_start
  -- The operations of the stay come one after the other, and the leaving iteration last.
  induction ops generalizing s since with
  | nil =>
    have kept : KeepsTime cfg leaving s := (keeps _ rfl).1
    have first : since ≤ leaving.msSinceBoot := order leaving (by simp)
    exact leaving_accounts delivers kept (running.clock_eq delivers kept) first leaves
  | cons op ops ih =>
    obtain ⟨kept, keeps⟩ := keeps _ rfl
    have inside : ∀ u, Visits (step cfg) (apply cfg s op) ops u → Delivering u :=
      fun u visited => inside u (visits_cons rfl visited)
    have stays := inside _ visits_start
    cases op with
    -- A request between the iterations reads no clock and no meter.
    | stopCharging stop =>
      have after := ih (s := apply cfg s (.stopCharging stop)) running timed order inside keeps
        leaves stays
      exact .of_same (t := apply cfg s (.stopCharging stop)) rfl rfl rfl after
    | setMaxCurrent maxCurrent =>
      -- A new current changes neither the meter nor its clock.
      have same : apply cfg s (.setMaxCurrent maxCurrent) =
          { s.fresh with maxCurrent := maxCurrent.toNat } := setMaxCurrent_eq maxCurrent s.fresh
      have clocked : (apply cfg s (.setMaxCurrent maxCurrent)).lastCalcTime = s.lastCalcTime := by
        rw [same]; rfl
      have running : Running since (iterations ops ++ [leaving])
          (apply cfg s (.setMaxCurrent maxCurrent)) := by
        rw [Running, clocked]; exact running
      exact (ih running timed order inside keeps leaves stays).of_same (by rw [same]; rfl)
        (by rw [same]; rfl) (by rw [same]; rfl)
    | loop i =>
      obtain ⟨some, sorted⟩ := timed
      obtain ⟨here, sorted⟩ := List.pairwise_cons.mp sorted
      refine inner_accounts rfl delivers stays kept running (order i (by simp [iterations]))
        fun next which started => ?_
      -- What is read later is read in the whole rest of the stay.
      have later : ∀ j ∈ iterations ops ++ [leaving],
          j ∈ iterations (.loop i :: ops) ++ [leaving] :=
        fun j member => List.mem_cons_of_mem i member
      -- The next interval begins where the last one did, or at this reading.
      have begun : next ≠ 0 := by
        rcases which with rfl | rfl
        · exact running.1
        · exact some i (by simp [iterations])
      have order : ∀ j ∈ iterations ops ++ [leaving], next ≤ j.msSinceBoot := by
        intro j member
        rcases which with rfl | rfl
        · exact order j (later j member)
        · exact here j member
      exact ih ⟨begun, .inl started⟩ ⟨fun j member => some j (later j member), sorted⟩ order inside
        keeps leaves stays

end Stays

/-- The time of the first iteration executed in a stay. -/
def firstTime (stay : List Op) (leaving : Inputs) : UInt32 :=
  ((iterations stay).head?.getD leaving).msSinceBoot

/-- A station that offers power to an authorized vehicle. -/
def offering : Evse := applyAll ⟨true, false⟩ (init (setMaxCurrent 32 boot)) chargingRun.dropLast

/-- A reading at a time, of ten amperes at the full voltage. -/
def readingAt (msSinceBoot : UInt32) (controlPilot : ControlPilotState) : Inputs :=
  { pilotOnly controlPilot with msSinceBoot := msSinceBoot, voltage := 230, current := 10 }

/--
A stay whose iterations all keep the time is counted exactly once.

The elapsed time grows by the span from its first iteration to the one that leaves.
The energy grows by that of readings whose intervals partition the same span.
-/
theorem stays_accounted (cfg : Config) (s : Evse) (enter : Op) (stay : List Op)
    (leaving : Inputs) (isStay : Stay cfg s enter stay leaving)
    (timed : Timed (iterations stay ++ [leaving]))
    (keeps : Meets (KeepsTimes cfg) (step cfg) s (enter :: stay ++ [.loop leaving])) :
    Accounted (firstTime stay leaving) leaving.msSinceBoot (iterations stay ++ [leaving])
      (apply cfg s enter) (applyAll cfg s (enter :: stay ++ [.loop leaving])) := by
  obtain ⟨entering, keeps⟩ := keeps _ rfl
  have stopped := apply_enters isStay.outside entering (isStay.inside _ visits_start)
  -- The first iteration has the first of the times, and starts the clock.
  obtain ⟨first, rest, readings⟩ : ∃ first rest, iterations stay ++ [leaving] = first :: rest := by
    cases iterations stay with
    | nil => exact ⟨leaving, [], rfl⟩
    | cons first rest => exact ⟨first, rest ++ [leaving], rfl⟩
  have begins : firstTime stay leaving = first.msSinceBoot := by
    cases found : iterations stay with
    | nil => simp_all [firstTime]
    | cons i is => simp_all [firstTime]
  rw [begins]
  refine rest_accounts ⟨?_, .inr ⟨stopped, ?_⟩⟩ timed ?_ isStay.inside keeps isStay.leaves
  · exact timed.1 first (by simp [readings])
  · rw [readings]
    intro i same
    simp at same
    rw [same]
  · -- The first of the times is the least of them.
    rw [readings] at timed ⊢
    intro i member
    rcases List.mem_cons.mp member with rfl | later
    · exact UInt32.le_refl _
    · exact (List.pairwise_cons.mp timed.2).1 i later

/-- A stay of two iterations that ends when the vehicle stops asking for power. -/
theorem stays_accounted_finish :
    Accounted 1000 1230 [readingAt 1000 .stateC, readingAt 1150 .stateC, readingAt 1230 .stateB]
      (apply ⟨true, false⟩ offering (.loop (readingAt 900 .stateC)))
      (applyAll ⟨true, false⟩ offering [.loop (readingAt 900 .stateC),
        .loop (readingAt 1000 .stateC), .loop (readingAt 1150 .stateC),
        .loop (readingAt 1230 .stateB)]) := by
  refine stays_accounted ⟨true, false⟩ offering (.loop (readingAt 900 .stateC))
    [.loop (readingAt 1000 .stateC), .loop (readingAt 1150 .stateC)] (readingAt 1230 .stateB)
    ⟨by decide +kernel, fun u visited => ?_, by decide +kernel⟩ (by decide +kernel)
    (by decide +kernel)
  simp only [visits_cons_iff, visits_nil_iff, step, Option.some.injEq, exists_eq_left'] at visited
  rcases visited with same | same | same <;> rw [same] <;> decide +kernel

/-- A stop requested 50 ms after the last measurement loses the 50 ms. -/
theorem slice_lost : ¬ ∀ (cfg : Config) (s : Evse) (enter : Op) (stay : List Op)
    (leaving : Inputs), Reachable cfg s → Stay cfg s enter stay leaving →
    Timed (iterations stay ++ [leaving]) →
    Accounted (firstTime stay leaving) leaving.msSinceBoot (iterations stay ++ [leaving])
      (apply cfg s enter) (applyAll cfg s (enter :: stay ++ [.loop leaving])) := by
  intro counted
  have stays : Stay ⟨true, false⟩ offering (.loop (readingAt 900 .stateC))
      [.loop (readingAt 1000 .stateC), .stopCharging true] (readingAt 1050 .stateC) := by
    refine ⟨by decide +kernel, fun u visited => ?_, by decide +kernel⟩
    simp only [visits_cons_iff, visits_nil_iff, step, Option.some.injEq, exists_eq_left']
      at visited
    rcases visited with same | same | same <;> rw [same] <;> decide +kernel
  -- The elapsed time of the run is short of the span by the lost slice.
  have account := counted ⟨true, false⟩ offering (.loop (readingAt 900 .stateC))
    [.loop (readingAt 1000 .stateC), .stopCharging true] (readingAt 1050 .stateC)
    (reachable_applyAll _ 32 _) stays (by decide +kernel)
  exact absurd account.elapsed (by decide +kernel)

end EasyEvse.J1772
