import EasyEvse.J1772.Safety

/-! Power is enabled only for a vehicle that was authorized since it was plugged in. -/

namespace EasyEvse.J1772

variable (cfg : Config) {i : Inputs} {s : Evse} {newState : J1772State}

/-- The machine treats the vehicle as authorized: nothing polls for an answer any more. -/
def Cleared (s : Evse) : Prop :=
  s.currentState = .stateB2 ∨ s.currentState = .stateC ∨ s.currentState = .stateC2 ∨
    s.currentState = .stateD ∨ s.currentState = .stateD2 ∨
    (s.currentState = .stateB ∧ s.authNeeded = false)

/--
Some iteration polled and got an accepted answer, and none since then has read A.

The iterations are those of the given operations, from the given start.
-/
def AuthorizedSince (s : Evse) (ops : List Op) : Prop :=
  ∃ front i back, ops = front ++ .loop i :: back ∧ NoUnplug (.loop i :: back) ∧
    Call.getAuthResponse (some true) ∈ (apply cfg (applyAll cfg s front) (.loop i)).calls

/-- The operations other than an iteration that reads B in state A2. -/
def NoReplug (s : Evse) : Op → Prop
  | .loop i => ¬ (s.currentState = .stateA2 ∧ i.controlPilot = .stateB)
  | .stopCharging _ | .setMaxCurrent _ => True

instance : ∀ s op, Decidable (NoReplug s op)
  | s, .loop i => inferInstanceAs (Decidable (¬ (s.currentState = _ ∧ i.controlPilot = _)))
  | _, .stopCharging _ | _, .setMaxCurrent _ => inferInstanceAs (Decidable True)

/-- A change of state only adds calls, and closes the contactor only on its way to C2 or D2. -/
theorem setState_calls (call : Call) :
    (call ∈ s.calls → call ∈ (setState cfg newState s).calls) ∧
    (Call.setContactorState false ∈ (setState cfg newState s).calls →
      Call.setContactorState false ∈ s.calls ∨ newState = .stateC2 ∨ newState = .stateD2) := by
  by_cases same : s.currentState = newState
  · rw [setState_self cfg same]
    exact ⟨id, .inl⟩
  -- Each law of a state gives the calls it appends, and only those of C2 and D2 close anything.
  have appended : ∃ added, (setState cfg newState s).calls = s.calls ++ added ∧
      (Call.setContactorState false ∈ added → newState = .stateC2 ∨ newState = .stateD2) := by
    cases newState with
    | stateA => exact ⟨_, (setState_stateA cfg same).2.2.2.2.2.2, by simp⟩
    | stateA2 => exact ⟨_, (setState_stateA2 cfg same).2.2.2.2.2.2, by simp⟩
    | stateB =>
      by_cases unplugged : s.currentState = .stateA ∨ s.currentState = .stateA2
      · exact ⟨_, (setState_stateB_connected cfg unplugged).2.2.2.2.2.2, by simp⟩
      · exact ⟨_, (setState_stateB cfg same unplugged).2.2.2.2.2.2, by simp⟩
    | stateB2 => exact ⟨_, (setState_stateB2 cfg same).2.2.2.2.2.2, by split <;> simp⟩
    | stateC | stateD =>
      by_cases waiting : s.currentState = .stateC ∨ s.currentState = .stateD
      · refine ⟨[], ?_, by simp⟩
        rw [List.append_nil]
        exact (setState_waiting cfg (by simp) waiting).2.2.2.2.2
      · exact ⟨_, (setState_suspend cfg (by simp) waiting).2.2.2.2.2, by simp⟩
    | stateC2 | stateD2 => exact ⟨_, (setState_charging cfg (by simp) same).2.2.2.2.2, by simp⟩
    | stateE | stateF => exact ⟨_, (setState_error cfg (by simp) same).2.2.2.2.2.2, by simp⟩
    | lastState => exact ⟨[], by simp [setState, Ne.symm same], by simp⟩
  obtain ⟨added, calls, closes⟩ := appended
  rw [calls]
  refine ⟨fun member => by simp [member], fun member => ?_⟩
  exact (List.mem_append.mp member).imp id closes

/-- An edge of a plugged vehicle leads to a cleared state only from a cleared state. -/
theorem Edge.cleared (edge : Edge s newState) (plugged : s.cpState ≠ .stateA)
    (notA2 : s.currentState ≠ .stateA2) (cleared : Cleared (setState cfg newState s)) :
    Cleared s := by
  cases edge with
  | plugIn at_ reads =>
    -- A vehicle just connected has to be authorized first.
    have needed := (setState_stateB_connected cfg (.inl at_)).2.2.1
    simp [Cleared, needed] at cleared
  | replug at_ reads => exact absurd at_ notA2
  | offer at_ reads authorized ready => simp [Cleared, at_, authorized]
  | startUp at_ known => simp [Cleared] at cleared
  | pwmOff at_ reads => simp [Cleared] at cleared
  | unplug at_ reads => exact absurd reads plugged
  | unplugPwm at_ reads => exact absurd reads plugged
  | fault known reads => simp [Cleared] at cleared
  | ready at_ reads => rcases at_ with at_ | at_ <;> simp [Cleared, at_]
  | finish at_ reads => rcases at_ with at_ | at_ <;> simp [Cleared, at_]
  | _ at_ => simp [Cleared, at_]

/-- An edge into C2 or D2 starts from a cleared state. -/
theorem Edge.cleared_of_charging (edge : Edge s newState)
    (target : newState = .stateC2 ∨ newState = .stateD2) : Cleared s := by
  -- The states with an edge to C2 or D2 are all cleared ones.
  cases edge with
  | accept at_ | acceptVentilated at_ | resume at_ | resumeVentilated at_ => simp [Cleared, at_]
  | ventilateCharging at_ | unventilateCharging at_ => simp [Cleared, at_]
  | _ => simp at target

/-- An edge into C2 or D2 answers a vehicle that asks for power. -/
theorem Edge.asks (edge : Edge s newState) (target : newState = .stateC2 ∨ newState = .stateD2) :
    AsksForPower s := by
  -- Every edge to C2 or D2 is taken on a reading of C or D.
  cases edge with
  | accept _ reads | acceptVentilated _ reads | resume _ reads => simp [AsksForPower, reads]
  | resumeVentilated _ reads | ventilateCharging _ reads => simp [AsksForPower, reads]
  | unventilateCharging _ reads => simp [AsksForPower, reads]
  | _ => simp at target

/-- Only an iteration that reads C or D closes the contactor. -/
theorem loopEvse_closes (fresh : s.calls = [])
    (closed : Call.setContactorState false ∈ (loopEvse cfg i s).calls) :
    i.controlPilot = .stateC ∨ i.controlPilot = .stateD := by
  by_contra asleep
  -- No part of the iteration commands it closed, since no edge to C2 or D2 is taken.
  refine @loopEvse_rule cfg i s (fun t => Call.setContactorState false ∉ t.calls) ?_ ?_ ?_ ?_ ?_
    (by simp [fresh]) closed
  · intro t never
    simpa using never
  · intro t newState reads edge never closed
    rcases (setState_calls cfg (.setContactorState false)).2 closed with before | target
    · exact never before
    · have asks := edge.asks target
      rw [AsksForPower, reads] at asks
      exact asleep asks
  · intro t _ never
    unfold pollAuthorization
    dsimp only [Evse.record]
    split_ifs <;> simpa using never
  · intro t _ never
    simpa using never
  · intro t newPwm never
    simpa using never

/-- The iteration found the machine cleared, or got an accepted answer itself. -/
def Earned (s t : Evse) : Prop := Cleared s ∨ Call.getAuthResponse (some true) ∈ t.calls

/-- What an iteration of a plugged vehicle keeps while its parts are carried out. -/
structure EarnedSoFar (s t : Evse) : Prop where
  notReplugged : t.currentState = .stateA2 → s.currentState = .stateA2
  cleared : Cleared t → Earned s t
  closed : Call.setContactorState false ∈ t.calls → Earned s t

/-- No part of an iteration clears the vehicle or closes the contactor without having earned it. -/
theorem loopEvse_earned (plugged : i.controlPilot ≠ .stateA)
    (allowed : ¬ (s.currentState = .stateA2 ∧ i.controlPilot = .stateB)) (fresh : s.calls = []) :
    EarnedSoFar s (loopEvse cfg i s) := by
  refine loopEvse_rule (fun kept => ?_) (fun {t n} reads edge kept => ?_) (fun {t} at_ kept => ?_)
    (fun at_ kept => ?_) (fun kept => ?_) ?_
  · exact ⟨by simpa using kept.notReplugged, by simpa [Cleared, Earned] using kept.cleared,
      by simpa [Earned] using kept.closed⟩
  · have plugged : t.cpState ≠ .stateA := by rwa [reads]
    have grows : Earned s t → Earned s (setState cfg n t) :=
      fun earned => earned.imp id (setState_calls cfg _).1
    refine ⟨fun at_ => ?_, fun cleared => ?_, fun closed => ?_⟩
    · -- Only an A reading leads to A2.
      rw [setState_currentState] at at_
      subst at_
      cases edge with
      | unplugPwm _ reads => exact absurd reads plugged
    · by_cases inA2 : t.currentState = .stateA2
      · -- From A2 the reading B is not allowed, and nothing else gets out cleared.
        cases edge with
        | replug _ isB => exact absurd ⟨kept.notReplugged inA2, reads ▸ isB⟩ allowed
        | pwmOff _ isA | unplug _ isA | unplugPwm _ isA => exact absurd isA plugged
        | fault known isF => simp [Cleared] at cleared
        | ready at_ | finish at_ => rcases at_ with at_ | at_ <;> simp [inA2] at at_
        | _ at_ => simp [inA2] at at_
      · exact grows (kept.cleared (edge.cleared cfg plugged inA2 cleared))
    · rcases (setState_calls cfg (.setContactorState false)).2 closed with before | target
      · exact grows (kept.closed before)
      · exact grows (kept.cleared (edge.cleared_of_charging target))
  · -- A poll that clears the vehicle was answered with an acceptance.
    have grows : Earned s t → Earned s (pollAuthorization i t) := by
      refine fun earned => earned.imp id (fun member => ?_)
      unfold pollAuthorization
      dsimp only [Evse.record]
      split_ifs <;> simp [member]
    refine ⟨by simpa using kept.notReplugged, fun cleared => ?_, fun closed => ?_⟩
    · by_cases needed : t.authNeeded = true
      · by_cases accepted : i.authResponse = some true
        · exact .inr (by simp [pollAuthorization, needed, accepted, Evse.record])
        · simp [Cleared, at_, pollAuthorization, needed, accepted, Evse.record] at cleared
      · exact grows (kept.cleared (by simp [Cleared, at_, needed]))
    · refine grows (kept.closed ?_)
      unfold pollAuthorization at closed
      dsimp only [Evse.record] at closed
      split_ifs at closed <;> simpa using closed
  · exact ⟨by simpa using kept.notReplugged, by simpa [Cleared, Earned] using kept.cleared,
      by simpa [Earned] using kept.closed⟩
  · exact ⟨by simpa using kept.notReplugged, by simpa [Cleared, Earned] using kept.cleared,
      by simpa [Earned] using kept.closed⟩
  · exact ⟨id, .inl, by simp [fresh]⟩

/-- An authorization outlasts every operation that does not unplug the vehicle. -/
theorem AuthorizedSince.next {ops : List Op} {op : Op} (since : AuthorizedSince cfg s ops)
    (plugged : NoUnplug [op]) : AuthorizedSince cfg s (ops ++ [op]) := by
  -- The later operation adds no A reading to those after the answer.
  obtain ⟨front, i, back, rfl, stays, accepted⟩ := since
  refine ⟨front, i, back ++ [op], by simp, fun j member => ?_, accepted⟩
  rcases List.mem_append.mp (show Op.loop j ∈ (.loop i :: back) ++ [op] by simpa using member)
    with before | last
  · exact stays j before
  · exact plugged j last

/-- An A reading forgets every authorization before it. -/
theorem AuthorizedSince.of_unplug {old new : List Op} {u : Inputs}
    (reads : u.controlPilot = .stateA) (since : AuthorizedSince cfg s (old ++ .loop u :: new)) :
    AuthorizedSince cfg (applyAll cfg s (old ++ [.loop u])) new := by
  -- The answer lies before the A reading or after it, and before it does not count.
  obtain ⟨front, i, back, split, stays, accepted⟩ := since
  rcases List.append_eq_append_iff.mp split with ⟨extra, rfl, rest⟩ | ⟨extra, rfl, rest⟩
  · cases extra with
    | nil =>
      have same : Op.loop i :: back = .loop u :: new := rest.symm
      exact absurd reads (stays u (by simp [same]))
    | cons op extra =>
      obtain ⟨rfl, rfl⟩ := List.cons.inj rest
      refine ⟨extra, i, back, rfl, stays, ?_⟩
      simpa [applyAll] using accepted
  · exact absurd reads (stays u (by simp [rest]))

/-- What an iteration has earned, the run that ends with it has been authorized for. -/
theorem Earned.authorizedSince {ops : List Op} (plugged : i.controlPilot ≠ .stateA)
    (since : Cleared (applyAll cfg s ops) → AuthorizedSince cfg s ops)
    (earned : Earned (applyAll cfg s ops) (apply cfg (applyAll cfg s ops) (.loop i))) :
    AuthorizedSince cfg s (ops ++ [.loop i]) := by
  -- It was authorized earlier, or by this very iteration.
  have stays : NoUnplug [.loop i] := by simp [NoUnplug, plugged]
  rcases earned with cleared | accepted
  · exact (since cleared).next cfg stays
  · exact ⟨ops, i, [], rfl, stays, accepted⟩

/-- A cleared vehicle was authorized since it was plugged in, in every run that never replugs. -/
theorem cleared_authorized {start : Evse} {ops : List Op} (initial : Initial start)
    (allowed : Transition.Meets NoReplug (step cfg) start ops)
    (cleared : Cleared (applyAll cfg start ops)) : AuthorizedSince cfg start ops := by
  -- The start-up is not cleared, and each operation hands the authorization on.
  -- The induction peels off the last operation, which the machine meets where the others lead.
  induction ops using List.reverseRecOn with
  | nil => simp [applyAll, Cleared, initial.fields] at cleared
  | append_singleton ops op ih =>
    obtain ⟨before, last⟩ := Transition.meets_append.mp allowed
    have since := ih before
    have here : NoReplug (applyAll cfg start ops) op := (last _ (run_step cfg _ _) _ rfl).1
    simp only [applyAll, List.foldl_append, List.foldl_cons, List.foldl_nil] at cleared
    change Cleared (apply cfg (applyAll cfg start ops) op) at cleared
    cases op with
    | loop i =>
      by_cases unplugged : i.controlPilot = .stateA
      · rcases apply_reads_A cfg (applyAll cfg start ops) unplugged with at_ | at_ <;>
          simp [Cleared, at_] at cleared
      · have fresh : ((applyAll cfg start ops).fresh).calls = [] := rfl
        have earned := loopEvse_earned cfg unplugged (by simpa [NoReplug] using here) fresh
        exact Earned.authorizedSince cfg unplugged since (earned.cleared cleared)
    | stopCharging stop => exact (since cleared).next cfg (by simp [NoUnplug])
    | setMaxCurrent maxCurrent =>
      refine (since ?_).next cfg (by simp [NoUnplug])
      simpa [Cleared, apply, setMaxCurrent_eq] using cleared

/--
Whenever an iteration closes the contactor, the vehicle was authorized since it was plugged in.

The run must not have read B in state A2, which resumes without asking.
-/
theorem power_needs_authorization {start : Evse} {ops : List Op} (initial : Initial start)
    (allowed : Transition.Meets NoReplug (step cfg) start (ops ++ [.loop i]))
    (enabled : Call.setContactorState false ∈
      (apply cfg (applyAll cfg start ops) (.loop i)).calls) :
    AuthorizedSince cfg start (ops ++ [.loop i]) := by
  -- Where the contactor is closed, the machine was cleared or is cleared by the same iteration.
  obtain ⟨before, last⟩ := Transition.meets_append.mp allowed
  have here : NoReplug (applyAll cfg start ops) (.loop i) := (last _ (run_step cfg _ _) _ rfl).1
  have fresh : ((applyAll cfg start ops).fresh).calls = [] := rfl
  have plugged : i.controlPilot ≠ .stateA := by
    rcases loopEvse_closes cfg fresh enabled with reads | reads <;> simp [reads]
  have earned := loopEvse_earned cfg plugged (by simpa [NoReplug] using here) fresh
  exact Earned.authorizedSince cfg plugged (cleared_authorized cfg initial before)
    (earned.closed enabled)

/-- The authorization that the first charging of a station rests on. -/
theorem power_needs_authorization_charging :
    AuthorizedSince ⟨true, false⟩ (init (setMaxCurrent 32 boot))
      (chargingRun.dropLast ++ [.loop (pilotOnly .stateC)]) :=
  power_needs_authorization ⟨true, false⟩ ⟨32, rfl⟩ (by decide +kernel) (by decide +kernel)

/-- A vehicle is unplugged while charging, and plugged in again before the next reading. -/
def replugRun : List Op :=
  chargingRun ++ [.loop (pilotOnly .stateA), .loop (pilotOnly .stateB)]

/-- A vehicle plugged in again in state A2 is charged without a new authorization. -/
theorem replug_charges_unauthorized :
    Call.setContactorState false ∈
      (apply ⟨true, false⟩ (applyAll ⟨true, false⟩ (init (setMaxCurrent 32 boot)) replugRun)
        (.loop (pilotOnly .stateC))).calls ∧
    ¬ AuthorizedSince ⟨true, false⟩ (init (setMaxCurrent 32 boot))
      (replugRun ++ [.loop (pilotOnly .stateC)]) := by
  refine ⟨by decide +kernel, fun since => ?_⟩
  -- Only the two iterations after the unplugging count, and neither polls.
  have after : AuthorizedSince ⟨true, false⟩
      (applyAll ⟨true, false⟩ (init (setMaxCurrent 32 boot))
        (chargingRun ++ [.loop (pilotOnly .stateA)]))
      [.loop (pilotOnly .stateB), .loop (pilotOnly .stateC)] :=
    AuthorizedSince.of_unplug ⟨true, false⟩ rfl (by simpa [replugRun] using since)
  obtain ⟨front, i, back, split, -, accepted⟩ := after
  rcases front with _ | ⟨first, _ | ⟨second, front⟩⟩
  · simp only [List.nil_append, List.cons.injEq, Op.loop.injEq] at split
    obtain ⟨rfl, -⟩ := split
    revert accepted
    decide +kernel
  · simp only [List.cons_append, List.nil_append, List.cons.injEq, Op.loop.injEq] at split
    obtain ⟨rfl, rfl, -⟩ := split
    revert accepted
    decide +kernel
  · simp at split

end EasyEvse.J1772
