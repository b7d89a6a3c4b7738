import EasyEvse.Availability.Notified

/-! A connector is not taken out of operation while a transaction uses it. -/

namespace EasyEvse.Availability
open Transition
open ComponentStateManager (Command)

namespace EvseEntry

variable {cs : OperationalStatusEnum} {onlyIfChanged : Bool} {e : EvseEntry} {i j : ℕ}

/-- An EVSE is operative by its own status, and so is a connector of it. -/
def Serves (j : ℕ) (e : EvseEntry) : Prop :=
  e.individual = .operative ∧ ∃ c, e.connectors[j]? = some c ∧
    c.individual.individualOperationalStatus = .operative

/-- Triggering its callbacks leaves an EVSE with its own status. -/
@[simp] theorem triggerCallbacks_individual :
    (e.triggerCallbacks cs onlyIfChanged).individual = e.individual := by
  dsimp only [EvseEntry.triggerCallbacks]
  split <;> rfl

/-- Triggering the callbacks of an EVSE leaves its connectors with their own statuses. -/
theorem triggerCallbacks_connector {c : ConnectorEntry} (found : e.connectors[j]? = some c) :
    ∃ d, (e.triggerCallbacks cs onlyIfChanged).connectors[j]? = some d ∧
      d.individual = c.individual := by
  dsimp only [EvseEntry.triggerCallbacks]
  -- Without its connectors being told, nothing about them changes at all.
  split
  · refine ⟨c.triggerCallbacks (e.effectiveOperationalStatus cs) onlyIfChanged, ?_, rfl⟩
    simp only [List.getElem?_map, found, Option.map_some]
  · exact ⟨c, found, rfl⟩

/-- Triggering the callbacks of an EVSE leaves it in operation. -/
theorem Serves.triggerCallbacks (serves : e.Serves j) :
    (e.triggerCallbacks cs onlyIfChanged).Serves j := by
  obtain ⟨own, c, found, operative⟩ := serves
  obtain ⟨d, there, same⟩ := triggerCallbacks_connector found
  exact ⟨triggerCallbacks_individual.trans own, d, there, by rw [same]; exact operative⟩

/-- Changing a connector keeps the EVSE in operation, unless it is this connector that is set. -/
theorem Serves.modify {change : ConnectorEntry → ConnectorEntry} (serves : e.Serves j)
    (keeps : i = j → ∀ c, c.individual.individualOperationalStatus = .operative →
      (change c).individual.individualOperationalStatus = .operative) :
    { e with connectors := e.connectors.modify i change }.Serves j := by
  -- The connector that serves is found in the changed list, changed itself or not.
  obtain ⟨own, c, found, operative⟩ := serves
  refine ⟨own, ?_⟩
  simp only [List.getElem?_modify, found, Option.map_eq_map, Option.map_some]
  by_cases same : i = j
  · exact ⟨change c, by simp [same], keeps same c operative⟩
  · exact ⟨c, by simp [same], operative⟩

end EvseEntry

namespace ComponentStateManager

variable {m n : ComponentStateManager} {command : Command} {evseId connectorId : ℤ} {i j : ℕ}

/-- The station, an EVSE of it and a connector of that are operative by their own statuses. -/
def Serves (i j : ℕ) (m : ComponentStateManager) : Prop :=
  m.csIndividualStatus = .operative ∧ ∃ e, m.evses[i]? = some e ∧ e.Serves j

/-- The entries of an EVSE are found at its place in the vector. -/
theorem evseEntry_eq_ok {e : EvseEntry} :
    m.evseEntry evseId = .ok e ↔ 0 < evseId ∧ m.evses[(evseId - 1).toNat]? = some e := by
  -- The identifier is checked before the vector, which it counts from one.
  unfold evseEntry
  split
  · rename_i small
    simp only [reduceCtorEq, false_iff, not_and]
    omega
  · rename_i large
    have positive : 0 < evseId := by omega
    split
    · rename_i absent
      simp only [absent, reduceCtorEq, and_false]
    · rename_i entry found
      simp only [found, positive, true_and, Except.ok.injEq, Option.some.injEq]

/-- The entries of a connector are found at its place in the vector of its EVSE. -/
theorem connectorEntry_eq_ok {c : ConnectorEntry} : m.connectorEntry evseId connectorId = .ok c ↔
    ∃ e, m.evseEntry evseId = .ok e ∧ 0 < connectorId ∧
      e.connectors[(connectorId - 1).toNat]? = some c := by
  constructor
  · intro found
    -- Both the EVSE and the connector passed the same checks.
    obtain ⟨e, there, rest⟩ := returns_of_bind found
    split at rest
    · cases rest
    · split at rest
      · cases rest
      · rename_i large _ c' found
        cases rest
        exact ⟨e, there, by omega, found⟩
  · rintro ⟨e, there, positive, found⟩
    have large : ¬ connectorId ≤ 0 := by omega
    simp only [connectorEntry, there, bind, Except.bind, large, if_false, found]

/-- A connector is effectively operative if everything it is part of is operative, and it is. -/
theorem getConnectorEffectiveOperationalStatus_eq_operative :
    m.getConnectorEffectiveOperationalStatus evseId connectorId = .ok .operative ↔
      0 < evseId ∧ 0 < connectorId ∧ m.Serves (evseId - 1).toNat (connectorId - 1).toNat := by
  constructor
  · intro operative
    -- The function looks the EVSE up twice, and finds the same entry.
    obtain ⟨status, looked, rest⟩ := returns_of_bind operative
    obtain ⟨e, there, same⟩ := returns_of_bind looked
    split at rest
    · cases rest
    · rename_i above
      obtain ⟨c, found, own⟩ := returns_of_bind rest
      obtain ⟨e', again, positive, inner⟩ := connectorEntry_eq_ok.mp found
      obtain rfl : e = e' := Except.ok.inj (there.symm.trans again)
      obtain ⟨evsePositive, outer⟩ := evseEntry_eq_ok.mp there
      have above : e.effectiveOperationalStatus m.csIndividualStatus = .operative := by
        -- A status that is not operative would have been returned as it is.
        rw [Except.ok.inj same]
        cases status with
        | operative => rfl
        | inoperative => exact absurd rfl above
      obtain ⟨cs, evse⟩ := OperationalStatusEnum.within_eq_operative.mp above
      exact ⟨evsePositive, positive, cs, e, outer, evse, c, inner, Except.ok.inj own⟩
  -- Conversely all lookups succeed, and every status on the way is operative.
  · rintro ⟨evsePositive, connectorPositive, cs, e, there, own, c, found, operative⟩
    have outer := evseEntry_eq_ok.mpr ⟨evsePositive, there⟩
    have inner := connectorEntry_eq_ok.mpr ⟨e, outer, connectorPositive, found⟩
    have above := OperationalStatusEnum.within_eq_operative.mpr ⟨cs, own⟩
    simp only [getConnectorEffectiveOperationalStatus, getEvseEffectiveOperationalStatus, outer,
      inner, bind, Except.bind, pure, Except.pure, EvseEntry.effectiveOperationalStatus, above,
      reduceCtorEq, if_false, operative]

/-- Changing an EVSE takes nothing out of operation, unless the change does. -/
theorem Serves.modifyEvse {change : EvseEntry → EvseEntry} (serves : m.Serves i j)
    (done : m.modifyEvse evseId change = .ok n)
    (keeps : 0 < evseId → (evseId - 1).toNat = i → ∀ e, e.Serves j → (change e).Serves j) :
    n.Serves i j := by
  obtain ⟨cs, e, there, inner⟩ := serves
  obtain ⟨_, found, _⟩ := returns_of_bind done
  rw [modifyEvse_ok done]
  refine ⟨cs, ?_⟩
  -- Only the entry at the place of the identifier is changed.
  simp only [List.getElem?_modify, there, Option.map_eq_map, Option.map_some]
  by_cases same : (evseId - 1).toNat = i
  · exact ⟨change e, by rw [if_pos same], keeps (evseEntry_eq_ok.mp found).1 same e inner⟩
  · exact ⟨e, by rw [if_neg same], inner⟩

/-- Changing a connector takes nothing out of operation, unless the change does. -/
theorem Serves.modifyConnector
    {change : OperationalStatusEnum → ConnectorEntry → ConnectorEntry} (serves : m.Serves i j)
    (done : m.modifyConnector evseId connectorId change = .ok n)
    (keeps : 0 < evseId → 0 < connectorId → (evseId - 1).toNat = i →
      (connectorId - 1).toNat = j → ∀ evse c,
        c.individual.individualOperationalStatus = .operative →
          (change evse c).individual.individualOperationalStatus = .operative) :
    n.Serves i j := by
  obtain ⟨cs, e, there, inner⟩ := serves
  obtain ⟨_, found, _⟩ := returns_of_bind done
  obtain ⟨_, outer, positive, _⟩ := connectorEntry_eq_ok.mp found
  -- The connector is changed inside the entry of its EVSE.
  rw [modifyConnector_ok done]
  refine ⟨cs, ?_⟩
  simp only [List.getElem?_modify, there, Option.map_eq_map, Option.map_some]
  by_cases same : (evseId - 1).toNat = i
  · exact ⟨_, by rw [if_pos same], inner.modify fun here =>
      keeps (evseEntry_eq_ok.mp outer).1 positive same here _⟩
  · exact ⟨e, by rw [if_neg same], inner⟩

/-- Changing every connector takes nothing out of operation, unless the change does. -/
theorem Serves.mapConnectors {change : ConnectorEntry → ConnectorEntry} (serves : m.Serves i j)
    (keeps : ∀ c, (change c).individual.individualOperationalStatus =
      c.individual.individualOperationalStatus) : (m.mapConnectors change).Serves i j := by
  obtain ⟨cs, e, there, own, c, found, operative⟩ := serves
  refine ⟨cs, { e with connectors := e.connectors.map change }, ?_, own, change c, ?_,
    (keeps c).trans operative⟩
  · simp only [ComponentStateManager.mapConnectors, List.getElem?_map, there, Option.map_some]
  · simp only [List.getElem?_map, found, Option.map_some]

/-- Only what is set to inoperative goes out of operation, with everything that is part of it. -/
theorem Serves.apply (serves : m.Serves i j) (done : m.apply command = .ok n)
    (cs : command ≠ .setCs .inoperative)
    (evse : ∀ id, 0 < id → (id - 1).toNat = i → command ≠ .setEvse id .inoperative)
    (connector : ∀ id other, 0 < id → 0 < other → (id - 1).toNat = i → (other - 1).toNat = j →
      command ≠ .setConnector id other .inoperative) : n.Serves i j := by
  -- Each command sets one individual status, or tells statuses without setting any.
  cases command with
  | setCs status =>
    cases done
    obtain ⟨_, e, there, inner⟩ := serves
    cases status with
    | inoperative => exact absurd rfl cs
    | operative =>
      -- Setting the station triggers the callbacks of every EVSE, or of none.
      unfold setCsIndividualOperationalStatus triggerCallbacksCs
      split
      · exact ⟨rfl, _, by simp only [List.getElem?_map, there, Option.map_some]; rfl,
          inner.triggerCallbacks⟩
      · exact ⟨rfl, e, there, inner⟩
  | setEvse id status =>
    have done : m.setEvseIndividualOperationalStatus id status = .ok n := done
    refine serves.modifyEvse done fun positive here e inner => ?_
    cases status with
    | inoperative => exact absurd rfl (evse id positive here)
    | operative =>
      have set : EvseEntry.Serves j { e with individual := .operative } := ⟨rfl, inner.2⟩
      exact set.triggerCallbacks
  | setConnector id other status =>
    have done : m.setConnectorIndividualOperationalStatus id other status = .ok n := done
    refine serves.modifyConnector done fun positive positive' here here' _ c _ => ?_
    cases status with
    | inoperative => exact absurd rfl (connector id other positive positive' here here')
    | operative => rfl
  | submit link id other event =>
    have done : m.submitEvent link id other event = .ok n := done
    -- An event of a connector is about its other flags, and not about its operational status.
    refine serves.modifyConnector done fun _ _ _ _ _ c operative => ?_
    rw [(event.submit_operational link c).2]
    exact operative
  | sendOne link id other =>
    have done : m.sendStatusNotificationSingleConnector link id other = .ok n := done
    exact serves.modifyConnector done fun _ _ _ _ _ c operative => operative
  | sendAll link => cases done; exact serves.mapConnectors fun _ => rfl
  | sendChanged link => cases done; exact serves.mapConnectors fun _ => rfl

end ComponentStateManager

namespace ChargingStation

variable {s t : ChargingStation} {input : Input} {is : List Input} {evseId connectorId : ℤ}

/-- A transaction is not ended by an input, nor replaced by another on the same EVSE. -/
def Input.goesOn (evseId : ℤ) : Input → Bool
  | .transactionFinished id | .transactionStarted id _ => id ≠ evseId
  | _ => true

/-- A transaction that goes on stays where it is. -/
theorem transaction_step (goesOn : input.goesOn evseId) (moved : step s input = some t) :
    t.transaction evseId = s.transaction evseId := by
  -- Only the beginning and the end of a transaction touch the table of transactions.
  rcases step_cases moved with done | ⟨rfl, _⟩
  · cases input with
    | changeAvailability request => rw [(keeps_changeAvailability done).transaction]
    | reset id type isResetAllowed => rw [(keeps_reset done).transaction]
    | firmwareUpdateStatus requestId status => rw [(keeps_firmwareUpdateStatus done).transaction]
    | triggerStatusNotification id other =>
      have done : s.manage (·.apply (.sendOne s.link id other)) = .ok t := done
      rw [(keeps_command done rfl).transaction]
    | connectorEvent id other event =>
      have done : s.manage (·.apply (.submit s.link id other event)) = .ok t := done
      rw [(keeps_command done rfl).transaction]
    | updateFirmware | bootNotificationResponse | disconnected => cases done; rfl
    | connected now =>
      cases done
      simp only [websocketConnectedCallback]
      split <;> rfl
    | transactionStarted id other =>
      have other : evseId ≠ id := Ne.symm (of_decide_eq_true goesOn)
      rw [started_ok done]
      exact Function.update_of_ne other _ _
    | transactionFinished id =>
      have other : evseId ≠ id := Ne.symm (of_decide_eq_true goesOn)
      -- Without a transaction the end changes nothing, and otherwise it releases its own.
      rcases finished_cases done with ⟨_, rfl⟩ | ⟨_, keeps⟩
      · rfl
      · rw [keeps.transaction]
        exact Function.update_of_ne other _ _
  -- An input that throws leaves the station as it was.
  · rfl

/-- The identifiers of the EVSEs count up to their number. -/
theorem mem_evseIds : evseId ∈ s.evseIds ↔ 0 < evseId ∧ evseId ≤ s.manager.evses.length := by
  simp only [evseIds, List.mem_map, List.mem_range]
  constructor
  · rintro ⟨i, small, rfl⟩
    omega
  · rintro ⟨positive, small⟩
    exact ⟨(evseId - 1).toNat, by omega, by omega⟩

/-- Commands that respect a transaction keep its connector in operation. -/
theorem serves_moves {transaction : ℤ → Option ℤ} {link : Bool} {m : ComponentStateManager}
    (moves : s.manager.Moves (Permits transaction s.evseIds link) m)
    (charging : transaction evseId = some connectorId) (positive : 0 < evseId)
    (positive' : 0 < connectorId)
    (serves : s.manager.Serves (evseId - 1).toNat (connectorId - 1).toNat) :
    m.Serves (evseId - 1).toNat (connectorId - 1).toNat := by
  have member : evseId ∈ s.evseIds := by
    obtain ⟨_, e, there, _⟩ := serves
    have small := (List.getElem?_eq_some_iff.mp there).1
    exact mem_evseIds.mpr ⟨positive, by omega⟩
  -- The commands that are permitted spare the station, this EVSE and this connector.
  refine moves.keeps (fun command m n permitted done serves => ?_) serves
  refine serves.apply done ?_ ?_ ?_
  · -- The station is only made inoperative when nothing has a transaction.
    rintro rfl
    have none := permitted evseId member
    rw [charging] at none
    cases none
  · rintro id above here rfl
    -- The EVSE itself is made inoperative only without a transaction.
    obtain rfl : id = evseId := by omega
    have none : transaction id = none := permitted
    rw [charging] at none
    cases none
  · rintro id other above above' here here' rfl
    -- The same goes for the connector, unless another one of the EVSE is charging.
    obtain rfl : id = evseId := by omega
    obtain rfl : other = connectorId := by omega
    exact permitted charging

/-- No request, reset, firmware update or end of another transaction takes a connector out of
operation while a transaction uses it. -/
theorem charging_stays_in_service (charging : s.transaction evseId = some connectorId)
    (operative : s.manager.getConnectorEffectiveOperationalStatus evseId connectorId =
      .ok .operative)
    (goesOn : ∀ input ∈ is, input.goesOn evseId) (visited : Visits step s is t) :
    t.manager.getConnectorEffectiveOperationalStatus evseId connectorId = .ok .operative := by
  -- The transaction goes on along the run, and each step respects it while it does.
  refine (@visits_guarded_invariant _ _ _ _ _ _ (fun u =>
    u.transaction evseId = some connectorId ∧
      u.manager.getConnectorEffectiveOperationalStatus evseId connectorId = .ok .operative)
    _ ?_ ⟨charging, operative⟩ (meets_of_forall goesOn) visited).2
  rintro u input v ⟨charging, operative⟩ goesOn moved
  have still : v.transaction evseId = some connectorId :=
    (transaction_step goesOn moved).trans charging
  refine ⟨still, ?_⟩
  obtain ⟨positive, positive', serves⟩ :=
    ComponentStateManager.getConnectorEffectiveOperationalStatus_eq_operative.mp operative
  refine ComponentStateManager.getConnectorEffectiveOperationalStatus_eq_operative.mpr
    ⟨positive, positive', ?_⟩
  exact serves_moves (step_moves moved) still positive positive' serves

/-- The station is to be inoperative while a car is charging, which waits. -/
theorem charging_stays_in_service_scheduled :
    ∃ s ∈ step (started [2]) (.transactionStarted 1 2),
      ∃ t ∈ step s (.changeAvailability { operationalStatus := .inoperative }),
        t.manager.getConnectorEffectiveOperationalStatus 1 2 = .ok .operative := by
  obtain ⟨s, started⟩ : ∃ s, step (started [2]) (.transactionStarted 1 2) = some s := ⟨_, rfl⟩
  have charging : s.transaction 1 = some 2 := by cases started; rfl
  have operative : s.manager.getConnectorEffectiveOperationalStatus 1 2 = .ok .operative := by
    cases started; rfl
  obtain ⟨t, moved⟩ :
      ∃ t, step s (.changeAvailability { operationalStatus := .inoperative }) = some t := by
    cases started; exact ⟨_, rfl⟩
  have goesOn : ∀ input ∈ [Input.changeAvailability { operationalStatus := .inoperative }],
      input.goesOn 1 := by decide
  exact ⟨s, started, t, moved,
    charging_stays_in_service charging operative goesOn (visits_cons moved visits_start)⟩

end ChargingStation

end EasyEvse.Availability
