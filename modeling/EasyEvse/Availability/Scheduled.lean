import EasyEvse.Availability.Returns

/-! A change of availability that has to wait for a transaction is made when that ends. -/

namespace EasyEvse.Availability
open Transition
open ComponentStateManager (Command)

namespace ComponentStateManager

variable {m n : ComponentStateManager} {evseId connectorId : ℤ}

/-- What is addressed has a status of its own. -/
def HasStatus (m : ComponentStateManager) (status : OperationalStatusEnum) : Option EVSE → Prop
  | none => m.csIndividualStatus = status
  | some { id, connectorId := none } => ∃ e, m.evseEntry id = .ok e ∧ e.individual = status
  | some { id, connectorId := some connectorId } =>
    ∃ c, m.connectorEntry id connectorId = .ok c ∧
      c.individual.individualOperationalStatus = status

/-- A change of an EVSE is found where it was made. -/
theorem evseEntry_modifyEvse {change : EvseEntry → EvseEntry}
    (done : m.modifyEvse evseId change = .ok n) : ∃ e, n.evseEntry evseId = .ok (change e) := by
  -- The EVSE was found at its place, where the change is made.
  obtain ⟨e, found, _⟩ := returns_of_bind done
  obtain ⟨positive, there⟩ := evseEntry_eq_ok.mp found
  refine ⟨e, evseEntry_eq_ok.mpr ⟨positive, ?_⟩⟩
  rw [modifyEvse_ok done]
  simp only [List.getElem?_modify_eq, there, Option.map_eq_map, Option.map_some]

/-- A change of a connector is found where it was made. -/
theorem connectorEntry_modifyConnector
    {change : OperationalStatusEnum → ConnectorEntry → ConnectorEntry}
    (done : m.modifyConnector evseId connectorId change = .ok n) :
    ∃ evse c, n.connectorEntry evseId connectorId = .ok (change evse c) := by
  obtain ⟨c, found, _⟩ := returns_of_bind done
  obtain ⟨e, outer, positive, inner⟩ := connectorEntry_eq_ok.mp found
  obtain ⟨above, there⟩ := evseEntry_eq_ok.mp outer
  -- The vector of the EVSE is changed at the place of the connector.
  have outer : n.evseEntry evseId = .ok { e with
      connectors := e.connectors.modify (connectorId - 1).toNat
        (change (e.effectiveOperationalStatus m.csIndividualStatus)) } := by
    refine evseEntry_eq_ok.mpr ⟨above, ?_⟩
    rw [modifyConnector_ok done]
    simp only [List.getElem?_modify_eq, there, Option.map_eq_map, Option.map_some]
  refine ⟨e.effectiveOperationalStatus m.csIndividualStatus, c,
    connectorEntry_eq_ok.mpr ⟨_, outer, positive, ?_⟩⟩
  simp only [List.getElem?_modify_eq, inner, Option.map_eq_map, Option.map_some]

/-- Setting the status of the station changes no own status of its parts. -/
theorem HasStatus.setCs {status other : OperationalStatusEnum} {evse : EVSE}
    (has : m.HasStatus status (some evse)) :
    (m.setCsIndividualOperationalStatus other).HasStatus status (some evse) := by
  obtain ⟨id, target⟩ := evse
  -- The entries of an EVSE are told, or left alone.
  have told {e : EvseEntry} (found : m.evseEntry id = .ok e) :
      (m.setCsIndividualOperationalStatus other).evseEntry id = .ok e ∨
        (m.setCsIndividualOperationalStatus other).evseEntry id =
          .ok (e.triggerCallbacks other true) := by
    obtain ⟨positive, there⟩ := evseEntry_eq_ok.mp found
    unfold setCsIndividualOperationalStatus triggerCallbacksCs
    split
    · right
      refine evseEntry_eq_ok.mpr ⟨positive, ?_⟩
      simp only [List.getElem?_map, there, Option.map_some]
    · exact .inl found
  -- The own status of an EVSE or of a connector survives both.
  cases target with
  | none =>
    obtain ⟨e, found, own⟩ := has
    rcases told found with same | triggered
    · exact ⟨e, same, own⟩
    · exact ⟨_, triggered, by simp [own]⟩
  | some connectorId =>
    obtain ⟨c, found, own⟩ := has
    obtain ⟨e, outer, positive, inner⟩ := connectorEntry_eq_ok.mp found
    rcases told outer with same | triggered
    · exact ⟨c, connectorEntry_eq_ok.mpr ⟨e, same, positive, inner⟩, own⟩
    · obtain ⟨d, there, kept⟩ := EvseEntry.triggerCallbacks_connector inner
      exact ⟨d, connectorEntry_eq_ok.mpr ⟨_, triggered, positive, there⟩, by rw [kept]; exact own⟩

end ComponentStateManager

namespace ChargingStation

variable {s t u : ChargingStation} {evseId : ℤ} {request : ChangeAvailabilityRequest}
  {input : Input} {is : List Input}

/-- What is executed is the status afterwards. -/
theorem hasStatus_executed (done : s.executeChangeAvailabilityRequest request = .ok t) :
    t.manager.HasStatus request.operationalStatus request.evse := by
  obtain ⟨manager, applied, rest⟩ := returns_of_bind done
  cases rest
  -- A request for the station, for an EVSE or for a connector sets that one status.
  rcases request with ⟨status, _ | ⟨id, _ | connectorId⟩⟩
  · cases applied
    unfold ComponentStateManager.setCsIndividualOperationalStatus
      ComponentStateManager.triggerCallbacksCs
    split <;> rfl
  · have applied : s.manager.setEvseIndividualOperationalStatus id status = .ok manager := applied
    obtain ⟨e, found⟩ := ComponentStateManager.evseEntry_modifyEvse applied
    exact ⟨_, found, by simp⟩
  · have applied : s.manager.setConnectorIndividualOperationalStatus id connectorId status =
      .ok manager := applied
    obtain ⟨evse, c, found⟩ := ComponentStateManager.connectorEntry_modifyConnector applied
    exact ⟨_, found, rfl⟩

/-- The key under which a request waits. -/
def key (request : ChangeAvailabilityRequest) : ℤ := (request.evse.map EVSE.id).getD 0

/-- Every change that waits has its own key, and waits for a transaction that is active. -/
def Waiting (s : ChargingStation) : Prop :=
  ∀ id change, s.scheduledChangeAvailabilityRequests id = some change →
    key change.request = id ∧ Addressed s.manager.shape change.request.evse ∧
      s.IsActive change.request.evse

/-- What is active stays active as long as the transactions stay. -/
theorem IsActive.of_same {evse : Option EVSE} (active : s.IsActive evse)
    (shape : t.manager.shape = s.manager.shape) (transaction : t.transaction = s.transaction) :
    t.IsActive evse := by
  -- The station is active if any EVSE is, and the others by their own transaction.
  cases evse with
  | none =>
    obtain ⟨id, member, running⟩ := active
    rw [mem_evseIds_iff, ← shape, ← mem_evseIds_iff] at member
    exact ⟨id, member, transaction ▸ running⟩
  | some evse =>
    have running : t.transaction evse.id ≠ none := by rw [transaction]; exact active
    exact running

/-- The station waits for the same as long as its transactions stay. -/
theorem Waiting.of_same (waiting : s.Waiting) (shape : t.manager.shape = s.manager.shape)
    (transaction : t.transaction = s.transaction)
    (scheduled : t.scheduledChangeAvailabilityRequests = s.scheduledChangeAvailabilityRequests) :
    t.Waiting := by
  intro id change found
  rw [scheduled] at found
  obtain ⟨same, addressed, active⟩ := waiting id change found
  exact ⟨same, shape ▸ addressed, active.of_same shape transaction⟩

/-- A reset that is asked for leaves alone what waits. -/
theorem scheduled_resetIfScheduled (done : s.resetIfScheduled evseId = .ok t) :
    t.scheduledChangeAvailabilityRequests = s.scheduledChangeAvailabilityRequests := by
  unfold resetIfScheduled at done
  -- A reset makes connectors unavailable at most, or is only asked for.
  split at done
  · cases done; rfl
  · split at done
    · split at done
      · rw [(commands_unavailable done).frame]
      · cases done; rfl
    · split at done
      · cases done; rfl
      · cases done; rfl

/-- A change that waits under a key is made and removed, or nothing happens because there is no
such change or because it still has to wait. -/
theorem scheduled_effect (done : s.handleScheduledChangeAvailabilityRequests evseId = .ok t) :
    (t = s ∧ ∀ change, s.scheduledChangeAvailabilityRequests evseId = some change →
      s.anyTransactionActive change.request.evse = .ok true) ∨
    ∃ change, s.scheduledChangeAvailabilityRequests evseId = some change ∧
      t.scheduledChangeAvailabilityRequests =
        Function.update s.scheduledChangeAvailabilityRequests evseId none ∧
      ∃ u, s.executeChangeAvailabilityRequest change.request = .ok u ∧ t.manager = u.manager := by
  -- What is put out after a change that was made touches neither the manager nor the rest.
  rcases scheduled_cases done with nothing | ⟨change, u, found, _, executed, reported⟩
  · exact .inl nothing
  · have frame := (commands_execute executed).frame
    refine .inr ⟨change, found, ?_, u, executed, ?_⟩
    · rcases reportAllUnavailable_ok reported with rfl | rfl <;> rw [frame] <;> rfl
    · rcases reportAllUnavailable_ok reported with rfl | rfl <;> rfl

/-- A change that waits for an EVSE addresses it. -/
theorem Waiting.id_eq (waiting : s.Waiting) {change : AvailabilityChange}
    (found : s.scheduledChangeAvailabilityRequests evseId = some change) (other : evseId ≠ 0) :
    ∃ target, change.request.evse = some { id := evseId, connectorId := target } := by
  obtain ⟨same, _, _⟩ := waiting evseId change found
  -- A request that addresses no EVSE has the key of the whole station.
  rcases change with ⟨⟨status, _ | ⟨id, target⟩⟩, persist⟩
  · exact absurd same.symm other
  · exact ⟨target, by rw [show id = evseId from same]⟩

/-- A change that waits for the whole station addresses it. -/
theorem Waiting.station (waiting : s.Waiting) {change : AvailabilityChange}
    (found : s.scheduledChangeAvailabilityRequests 0 = some change) :
    change.request.evse = none := by
  obtain ⟨same, addressed, _⟩ := waiting 0 change found
  rcases change with ⟨⟨status, _ | ⟨id, target⟩⟩, persist⟩
  · rfl
  · -- There is no EVSE with this identifier.
    obtain rfl : id = 0 := same
    cases target with
    | none => exact absurd addressed.1 (by omega)
    | some connectorId => exact absurd addressed.1 (by omega)

/-- Executing a request for the whole station sets its status. -/
theorem manager_executed (station : request.evse = none)
    (done : s.executeChangeAvailabilityRequest request = .ok t) :
    t.manager = s.manager.setCsIndividualOperationalStatus request.operationalStatus := by
  obtain ⟨manager, applied, rest⟩ := returns_of_bind done
  rw [station] at applied
  cases applied
  cases rest
  rfl

/-- What the end of a transaction leaves behind. -/
structure Finished (s : ChargingStation) (evseId : ℤ) (t : ChargingStation) : Prop where
  keeps : Keeps { s with transaction := Function.update s.transaction evseId none } t
  /-- What waits for other EVSEs goes on waiting. -/
  others : ∀ id, id ≠ evseId → id ≠ 0 →
    t.scheduledChangeAvailabilityRequests id = s.scheduledChangeAvailabilityRequests id
  done : t.scheduledChangeAvailabilityRequests evseId = none
  /-- What waited for this EVSE is made. -/
  made : ∀ change, s.scheduledChangeAvailabilityRequests evseId = some change →
    t.manager.HasStatus change.request.operationalStatus change.request.evse
  /-- What waits for the whole station is made if nothing is active any more. -/
  station : t.scheduledChangeAvailabilityRequests 0 = s.scheduledChangeAvailabilityRequests 0 ∧
      (s.scheduledChangeAvailabilityRequests 0 ≠ none → t.IsActive none) ∨
    t.scheduledChangeAvailabilityRequests 0 = none ∧
      ∀ change, s.scheduledChangeAvailabilityRequests 0 = some change →
        t.manager.HasStatus change.request.operationalStatus change.request.evse

/-- What waits for an EVSE is made once its transaction is released. -/
theorem first_made (waiting : s.Waiting) (other : evseId ≠ 0) (idle : u.transaction evseId = none)
    (same : u.scheduledChangeAvailabilityRequests = s.scheduledChangeAvailabilityRequests)
    (done : u.handleScheduledChangeAvailabilityRequests evseId = .ok t) :
    t.scheduledChangeAvailabilityRequests =
        Function.update s.scheduledChangeAvailabilityRequests evseId none ∧
      ∀ change, s.scheduledChangeAvailabilityRequests evseId = some change →
        t.manager.HasStatus change.request.operationalStatus change.request.evse := by
  -- Either nothing was made, or the change that waited under this key.
  rcases scheduled_effect done with ⟨rfl, waits⟩ | ⟨change, found, scheduled, v, executed, manager⟩
  · -- What waited would be active, but the transaction is released.
    have nothing : s.scheduledChangeAvailabilityRequests evseId = none := by
      cases found : s.scheduledChangeAvailabilityRequests evseId with
      | none => rfl
      | some change =>
        have active := waits change (same ▸ found)
        obtain ⟨target, evse⟩ := waiting.id_eq found other
        rw [evse] at active
        obtain ⟨_, _, rest⟩ := returns_of_bind active
        have running : t.hasActiveTransaction evseId = true := Except.ok.inj rest
        simp [hasActiveTransaction, idle] at running
    refine ⟨?_, fun change found => by rw [nothing] at found; cases found⟩
    rw [same, ← nothing, Function.update_eq_self]
  · rw [same] at found scheduled
    -- What was made is the change that waited before the reset was looked at.
    refine ⟨scheduled, fun other again => ?_⟩
    rw [found] at again
    cases again
    rw [manager]
    exact hasStatus_executed executed

/-- The end of a transaction makes what waited for it. -/
theorem finished_facts (waiting : s.Waiting) (other : evseId ≠ 0)
    (active : s.transaction evseId ≠ none) (done : s.onTransactionFinished evseId = .ok t) :
    Finished s evseId t := by
  -- The transaction was active, so that the function went past its first check.
  have keeps := ((finished_cases done).resolve_left fun same => active same.1).2
  obtain ⟨_, _, rest⟩ := returns_of_bind done
  have running : s.hasActiveTransaction evseId = true := by
    simpa [hasActiveTransaction, Option.isSome_iff_ne_none] using active
  simp only [running, Bool.not_true, Bool.false_eq_true, if_false] at rest
  obtain ⟨u, reset, rest⟩ := returns_of_bind rest
  obtain ⟨v, first, second⟩ := returns_of_bind rest
  have released : Function.update s.transaction evseId none evseId = none := by simp
  have idle : u.transaction evseId = none := by
    rw [(keeps_resetIfScheduled released reset).transaction]
    exact released
  -- The reset and what waited for this EVSE come first, and neither touches the key zero.
  have same := scheduled_resetIfScheduled reset
  obtain ⟨removed, made⟩ := first_made waiting other idle same first
  have station : v.scheduledChangeAvailabilityRequests 0 =
      s.scheduledChangeAvailabilityRequests 0 := by
    rw [removed, Function.update_of_ne other.symm]
  -- What waits for the whole station is looked at last.
  rcases scheduled_effect second with
    ⟨rfl, waits⟩ | ⟨change, found, scheduled, w, executed, manager⟩
  · refine ⟨keeps, fun id here there => ?_, ?_, made, .inl ⟨station, fun some => ?_⟩⟩
    · rw [removed, Function.update_of_ne here]
    · rw [removed, Function.update_self]
    -- It still waits, because the transaction of some EVSE goes on.
    · obtain ⟨change, found⟩ := Option.ne_none_iff_exists'.mp some
      have active := waits change (station.trans found)
      rw [waiting.station found] at active
      simpa [IsActive, hasActiveTransaction, Option.isSome_iff_ne_none] using
        List.any_eq_true.mp (Except.ok.inj active)
  · rw [station] at found
    have whole := waiting.station found
    refine ⟨keeps, fun id here there => ?_, ?_, fun own first => ?_, .inr ⟨?_, fun own again => ?_⟩⟩
    -- It was made last, on top of what was made for this EVSE.
    · rw [scheduled, Function.update_of_ne there, removed, Function.update_of_ne here]
    · rw [scheduled, Function.update_of_ne other, removed, Function.update_self]
    · -- The status of the station is not one of its parts.
      have before := made own first
      obtain ⟨target, evse⟩ := waiting.id_eq first other
      rw [manager, manager_executed whole executed, evse]
      rw [evse] at before
      exact before.setCs
    · rw [scheduled, Function.update_self]
    · rw [found] at again
      cases again
      rw [manager]
      exact hasStatus_executed executed

/-- What is active was found to be so. -/
theorem isActive_of_anyTransactionActive {evse : Option EVSE}
    (found : s.anyTransactionActive evse = .ok true) : s.IsActive evse := by
  -- The search over the EVSEs found one, or the EVSE itself was looked up.
  cases evse with
  | none =>
    simpa [IsActive, hasActiveTransaction, Option.isSome_iff_ne_none] using
      List.any_eq_true.mp (Except.ok.inj found)
  | some evse =>
    obtain ⟨_, _, rest⟩ := returns_of_bind found
    have running : s.hasActiveTransaction evse.id = true := Except.ok.inj rest
    simpa [IsActive, hasActiveTransaction, Option.isSome_iff_ne_none] using running

/-- What is addressed exists if its status could be read. -/
theorem addressed_of_isAlreadyInState {b : Bool} (read : s.isAlreadyInState request = .ok b) :
    Addressed s.manager.shape request.evse := by
  -- Its status is that of the station, of an EVSE or of a connector, which were looked up.
  rcases request with ⟨status, _ | ⟨id, _ | connectorId⟩⟩
  · trivial
  · obtain ⟨e, found, _⟩ := returns_of_bind read
    exact ComponentStateManager.evseEntry_returns.mp ⟨e, found⟩
  · obtain ⟨c, found, _⟩ := returns_of_bind read
    exact ComponentStateManager.connectorEntry_returns.mp ⟨c, found⟩

/-- A request changes what waits under its own key only, and waits only for what is active. -/
theorem changeAvailability_effect (done : s.handleChangeAvailabilityReq request = .ok t) :
    ¬ Addressed s.manager.shape request.evse ∧
        t.scheduledChangeAvailabilityRequests = s.scheduledChangeAvailabilityRequests ∨
      ∃ change : Option AvailabilityChange,
        t.scheduledChangeAvailabilityRequests =
          Function.update s.scheduledChangeAvailabilityRequests (key request) change ∧
        Addressed s.manager.shape request.evse ∧
        ∀ waits, change = some waits → waits = { request, persist := true } ∧
          s.IsActive request.evse := by
  obtain ⟨valid, checked, rest⟩ := returns_of_bind done
  cases valid with
  | false =>
    -- Something that the station has would have been found valid.
    refine .inl ⟨fun addressed => ?_, by cases rest; rfl⟩
    cases evse : request.evse with
    | none => rw [evse] at checked; cases checked
    | some part =>
      rw [evse] at checked addressed
      exact absurd ((isValidEvse_addressed addressed).symm.trans checked) (by simp)
  | true =>
    obtain ⟨active, looked, rest⟩ := returns_of_bind rest
    obtain ⟨already, read, rest⟩ := returns_of_bind rest
    have addressed := addressed_of_isAlreadyInState read
    dsimp only at rest
    -- A request is accepted and forgets what waited, or waits itself.
    split at rest
    · refine .inr ⟨none, ?_, addressed, fun _ absurd => by cases absurd⟩
      cases active with
      | true => cases rest; rfl
      | false => rw [(commands_execute rest).frame]; rfl
    · rename_i refused
      refine .inr ⟨_, by rw [(commands_prevent rest).frame]; rfl, addressed, ?_⟩
      rintro _ ⟨⟩
      -- Only what has an active transaction has to wait.
      have active : active = true := by
        cases active with
        | true => rfl
        | false => simp at refused
      exact ⟨rfl, isActive_of_anyTransactionActive (active ▸ looked)⟩

/-- The change that waits for an EVSE before the installation of a firmware. -/
def firmwareChange (id : ℤ) : AvailabilityChange :=
  { request := { operationalStatus := .inoperative, evse := some { id } }, persist := false }

/-- Preparing a firmware update lets the EVSEs with a transaction wait. -/
theorem unavailableForUpdate_effect
    (done : s.changeAllConnectorsToUnavailableForFirmwareUpdate = .ok t) (id : ℤ) :
    t.scheduledChangeAvailabilityRequests id = s.scheduledChangeAvailabilityRequests id ∨
      t.scheduledChangeAvailabilityRequests id = some (firmwareChange id) ∧
        id ∈ s.evseIds ∧ s.transaction id ≠ none := by
  unfold changeAllConnectorsToUnavailableForFirmwareUpdate at done
  obtain ⟨active, looked, rest⟩ := returns_of_bind done
  cases active with
  | true =>
    -- Every round keeps the transactions, so each is judged as the first one was.
    refine (foldlM_keeps (P := fun u => u.transaction = s.transaction ∧
      (u.scheduledChangeAvailabilityRequests id = s.scheduledChangeAvailabilityRequests id ∨
        u.scheduledChangeAvailabilityRequests id = some (firmwareChange id) ∧
          id ∈ s.evseIds ∧ s.transaction id ≠ none)) ?_ ⟨rfl, .inl rfl⟩ rest).2
    rintro other member u v ⟨same, before⟩ round
    split at round
    · rename_i running
      cases round
      refine ⟨same, ?_⟩
      -- The round for the EVSE itself lets it wait, and the others leave it alone.
      by_cases here : id = other
      · subst here
        refine .inr ⟨by simp [schedule, firmwareChange], member, ?_⟩
        rw [← same]
        simpa [hasActiveTransaction, Option.isSome_iff_ne_none] using running
      · simpa [schedule, Function.update_of_ne here] using before
    -- Making an EVSE unavailable touches nothing that waits.
    · rw [(commands_unavailable round).frame]
      exact ⟨same, before⟩
  | false =>
    obtain ⟨u, loop, reported⟩ := returns_of_bind rest
    -- Without a transaction every EVSE is made unavailable, and none has to wait.
    have same : u.scheduledChangeAvailabilityRequests = s.scheduledChangeAvailabilityRequests := by
      refine foldlM_keeps (P := fun u => u.scheduledChangeAvailabilityRequests =
        s.scheduledChangeAvailabilityRequests) ?_ rfl loop
      intro other _ v w before round
      rw [(commands_unavailable round).frame]
      exact before
    rcases reportAllUnavailable_ok reported with rfl | rfl <;> exact .inl (congrFun same id)

/-- A status of a firmware update lets at most the EVSEs with a transaction wait. -/
theorem firmwareUpdateStatus_effect {requestId : ℤ} {status : FirmwareStatusEnum}
    (done : s.onFirmwareUpdateStatusNotification requestId status = .ok t) (id : ℤ) :
    t.scheduledChangeAvailabilityRequests id = s.scheduledChangeAvailabilityRequests id ∨
      t.scheduledChangeAvailabilityRequests id = some (firmwareChange id) ∧
        id ∈ s.evseIds ∧ s.transaction id ≠ none := by
  unfold onFirmwareUpdateStatusNotification at done
  split at done
  · cases done; exact .inl rfl
  · obtain ⟨u, restored, prepared⟩ := returns_of_bind done
    -- What is restored at the end of an update changes the manager alone.
    have commands := commands_restoreAtEnd restored
    have scheduled : u.scheduledChangeAvailabilityRequests =
        s.scheduledChangeAvailabilityRequests := by rw [commands.frame]; rfl
    have transaction : u.transaction = s.transaction := by rw [commands.frame]; rfl
    have ids : u.evseIds = s.evseIds := by simp only [evseIds, commands.moves.length]; rfl
    rw [← scheduled, ← transaction, ← ids]
    -- Both ways into the preparation run the same loop.
    unfold prepareInstallation at prepared
    split at prepared
    · split at prepared
      · exact unavailableForUpdate_effect prepared id
      · exact unavailableForUpdate_effect prepared id
    · cases prepared; exact .inl rfl

/-- The status of the firmware is known already, and nothing is done about it. -/
def Repeated (s : ChargingStation) (requestId : ℤ) (status : FirmwareStatusEnum) : Prop :=
  s.firmwareStatus = status ∧ (requestId = -1 ∨ s.firmwareStatusId = some requestId)

instance (s : ChargingStation) (requestId : ℤ) (status : FirmwareStatusEnum) :
    Decidable (s.Repeated requestId status) := inferInstanceAs (Decidable (_ ∧ _))

/--
An input replaces or removes what waits under a key.

A request does that for what it addresses, and the last status before the installation of a
firmware for every EVSE with a transaction.
-/
def Replaces (id : ℤ) (s : ChargingStation) : Input → Prop
  | .changeAvailability request => key request = id ∧ Addressed s.manager.shape request.evse
  | .firmwareUpdateStatus requestId status =>
    id ≠ 0 ∧ status = s.firmwareStatusBeforeInstalling ∧ ¬ s.Repeated requestId status
  | _ => False

instance (id : ℤ) (s : ChargingStation) : (input : Input) → Decidable (Replaces id s input)
  | .changeAvailability request => inferInstanceAs (Decidable (key request = id ∧ Addressed _ _))
  | .firmwareUpdateStatus _ _ => inferInstanceAs (Decidable (_ ∧ _ ∧ ¬ _))
  | .reset .. | .updateFirmware _ | .triggerStatusNotification .. | .bootNotificationResponse _
  | .transactionStarted .. | .transactionFinished _ | .connectorEvent .. | .connected _
  | .disconnected _ => isFalse not_false

/-- Any other status of a firmware update leaves alone what waits. -/
theorem firmwareUpdateStatus_leaves {id requestId : ℤ} {status : FirmwareStatusEnum}
    (leaves : ¬ Replaces id s (.firmwareUpdateStatus requestId status))
    (done : s.onFirmwareUpdateStatusNotification requestId status = .ok t) :
    t.scheduledChangeAvailabilityRequests id = s.scheduledChangeAvailabilityRequests id := by
  rcases firmwareUpdateStatus_effect done id with same | ⟨-, member, -⟩
  · exact same
  -- An EVSE that would wait has an identifier of its own.
  have other : id ≠ 0 := fun zero => absurd (mem_evseIds_iff.mp member).1 (by omega)
  unfold onFirmwareUpdateStatusNotification at done
  -- A status that is known already does nothing.
  split at done
  · cases done; rfl
  · rename_i fresh
    have differs : status ≠ s.firmwareStatusBeforeInstalling :=
      fun before => leaves ⟨other, before, fresh⟩
    obtain ⟨u, restored, prepared⟩ := returns_of_bind done
    have frame := (commands_restoreAtEnd restored).frame
    have before : u.firmwareStatusBeforeInstalling = s.firmwareStatusBeforeInstalling := by
      rw [frame]; rfl
    unfold prepareInstallation at prepared
    rw [before, if_neg differs.symm] at prepared
    cases prepared
    rw [frame]
    rfl

/-- A request for a reset leaves alone what waits. -/
theorem reset_effect {id : Option ℤ} {type : ResetEnum} {isResetAllowed : Bool}
    (done : s.handleResetReq id type isResetAllowed = .ok t) :
    t.scheduledChangeAvailabilityRequests = s.scheduledChangeAvailabilityRequests := by
  have outputs (l : List ℤ) (put : ℤ → Output) (u : ChargingStation) :
      (l.foldl (fun u id => u.output (put id)) u).scheduledChangeAvailabilityRequests =
        u.scheduledChangeAvailabilityRequests := by
    induction l generalizing u with
    | nil => rfl
    | cons id l ih => exact ih (u.output (put id))
  obtain ⟨_, _, rest⟩ := returns_of_bind done
  dsimp only at rest
  -- A reset is rejected, asked for at once, or scheduled.
  split at rest
  · cases rest; rfl
  · cases type with
    | immediate => cases rest; exact outputs _ .stopTransactionCallback _
    | onIdle =>
      dsimp only at rest
      split at rest
      · cases rest; rfl
      -- Scheduling it makes the EVSEs without a transaction unavailable, one after the other.
      · refine foldlM_keeps (P := fun u => u.scheduledChangeAvailabilityRequests =
          s.scheduledChangeAvailabilityRequests) ?_ rfl rest
        intro other _ u v before round
        rw [(commands_unavailable round).frame]
        exact before

/-- What is active stays so when a transaction is opened. -/
theorem IsActive.started {evse : Option EVSE} {id connectorId : ℤ} (active : s.IsActive evse) :
    { s with transaction := Function.update s.transaction id (some connectorId) }.IsActive
      evse := by
  -- The transaction that is opened may take the place of another one, but is one as well.
  have opened (other : ℤ) (running : s.transaction other ≠ none) :
      Function.update s.transaction id (some connectorId) other ≠ none := by
    by_cases here : other = id
    · subst here; simp
    · rwa [Function.update_of_ne here]
  cases evse with
  | none =>
    obtain ⟨other, member, running⟩ := active
    exact ⟨other, member, opened other running⟩
  | some evse => exact opened evse.id active

/-- The end of a transaction keeps it true that what waits, waits for an active one. -/
theorem Waiting.finished (waiting : s.Waiting) (other : evseId ≠ 0)
    (finished : Finished s evseId t) : t.Waiting := by
  intro id change found
  have shape : t.manager.shape = s.manager.shape := finished.keeps.moves.shape
  -- What waited for this EVSE is gone, and the station and the other EVSEs are left.
  by_cases here : id = evseId
  · subst here
    rw [finished.done] at found
    cases found
  · by_cases whole : id = 0
    · subst whole
      -- The station still waits, for an EVSE that is active after the end.
      rcases finished.station with ⟨same, active⟩ | ⟨nothing, _⟩
      · rw [same] at found
        obtain ⟨key, addressed, _⟩ := waiting 0 change found
        refine ⟨key, shape ▸ addressed, ?_⟩
        rw [waiting.station found]
        exact active (by simp [found])
      · rw [nothing] at found
        cases found
    · rw [finished.others id here whole] at found
      obtain ⟨key, addressed, active⟩ := waiting id change found
      refine ⟨key, shape ▸ addressed, ?_⟩
      -- Another EVSE still has its transaction.
      obtain ⟨target, evse⟩ := waiting.id_eq found whole
      rw [evse] at active ⊢
      have kept : t.transaction id = s.transaction id := by
        rw [finished.keeps.transaction]
        exact Function.update_of_ne here _ _
      have running : t.transaction id ≠ none := by rw [kept]; exact active
      exact running

/-- A command keeps it true that what waits, waits for an active transaction. -/
theorem Waiting.of_command {command : Command} (waiting : s.Waiting)
    (done : s.manage (·.apply command) = .ok t) : t.Waiting := by
  have commands : Commands (· = command) s t := .single rfl done
  exact waiting.of_same commands.moves.shape (by rw [commands.frame]) (by rw [commands.frame])

/-- Everything that happens keeps it true that what waits, waits for an active transaction. -/
theorem Waiting.step (waiting : s.Waiting) (moved : step s input = some t) : t.Waiting := by
  -- An input that throws changes nothing, and the others change the table as described above.
  rcases step_cases moved with done | ⟨rfl, _⟩
  · cases input with
    | changeAvailability request =>
      have keeps := keeps_changeAvailability done
      rcases changeAvailability_effect done with ⟨_, same⟩ | ⟨change, scheduled, addressed, waits⟩
      · exact waiting.of_same keeps.moves.shape keeps.transaction same
      · intro id other found
        rw [scheduled] at found
        -- Under its own key a request waits at most for what is active.
        by_cases here : id = key request
        · subst here
          rw [Function.update_self] at found
          obtain ⟨rfl, active⟩ := waits other found
          exact ⟨rfl, keeps.moves.shape ▸ addressed,
            active.of_same keeps.moves.shape keeps.transaction⟩
        · rw [Function.update_of_ne here] at found
          obtain ⟨same, addressed, active⟩ := waiting id other found
          exact ⟨same, keeps.moves.shape ▸ addressed,
            active.of_same keeps.moves.shape keeps.transaction⟩
    | firmwareUpdateStatus requestId status =>
      have keeps := keeps_firmwareUpdateStatus done
      intro id other found
      -- An update adds at most EVSEs that have a transaction.
      rcases firmwareUpdateStatus_effect done id with same | ⟨waits, member, running⟩
      · obtain ⟨key, addressed, active⟩ := waiting id other (same.symm.trans found)
        exact ⟨key, keeps.moves.shape ▸ addressed,
          active.of_same keeps.moves.shape keeps.transaction⟩
      · rw [waits] at found
        cases found
        refine ⟨rfl, ?_, ?_⟩
        · rw [keeps.moves.shape]
          exact mem_evseIds_iff.mp member
        · have running : t.transaction id ≠ none := by rw [keeps.transaction]; exact running
          exact running
    | reset id type isResetAllowed =>
      have keeps := keeps_reset done
      exact waiting.of_same keeps.moves.shape keeps.transaction (reset_effect done)
    | triggerStatusNotification id other =>
      have done : s.manage (·.apply (.sendOne s.link id other)) = .ok t := done
      exact waiting.of_command done
    | connectorEvent id other event =>
      have done : s.manage (·.apply (.submit s.link id other event)) = .ok t := done
      exact waiting.of_command done
    | updateFirmware | bootNotificationResponse | disconnected => cases done; exact waiting
    | connected now =>
      have moves := handle_moves done
      cases done
      refine waiting.of_same moves.shape ?_ ?_ <;> simp only [websocketConnectedCallback]
      · split <;> rfl
      · split <;> rfl
    | transactionStarted id other =>
      rw [started_ok done]
      intro key change found
      obtain ⟨same, addressed, active⟩ := waiting key change found
      exact ⟨same, addressed, active.started⟩
    | transactionFinished id =>
      -- The identifier was looked up, so it is not that of the whole station.
      obtain ⟨e, found, _⟩ := returns_of_bind done
      have positive := (ComponentStateManager.evseEntry_eq_ok.mp found).1
      rcases finished_cases done with ⟨_, rfl⟩ | ⟨active, _⟩
      · exact waiting
      · exact waiting.finished (by omega) (finished_facts waiting (by omega) active done)
  · exact waiting

/-- Nothing waits when the station is started. -/
theorem waiting_started (connectors : List ℕ) : (started connectors).Waiting := by
  intro id change found
  cases found

/-- The end of a transaction returns on every EVSE that the station has. -/
theorem finished_returns (waiting : s.Waiting) (has : HasEvse s.manager.shape evseId) :
    ∃ t, s.onTransactionFinished evseId = .ok t := by
  -- Without a transaction the function returns right after its first check.
  obtain ⟨e, found⟩ := ComponentStateManager.evseEntry_returns.mpr has
  by_cases active : s.hasActiveTransaction evseId
  · -- The transaction is released, and three things are done after that.
    let released := { s with transaction := Function.update s.transaction evseId none }
    have addressed (id : ℤ) (u : ChargingStation) (shape : u.manager.shape = s.manager.shape)
        (change : AvailabilityChange)
        (waits : s.scheduledChangeAvailabilityRequests id = some change) :
        Addressed u.manager.shape change.request.evse := by
      rw [shape]
      exact (waiting id change waits).2.1
    obtain ⟨u, reset, sameReset⟩ := resetIfScheduled_returns (s := released) has
    have afterReset := scheduled_resetIfScheduled reset
    obtain ⟨v, first, sameFirst⟩ := scheduled_returns fun change waits =>
      addressed evseId u sameReset change (afterReset ▸ waits)
    have afterFirst : ∀ change, v.scheduledChangeAvailabilityRequests 0 = some change →
        s.scheduledChangeAvailabilityRequests 0 = some change := by
      intro change waits
      rcases scheduled_effect first with ⟨rfl, _⟩ | ⟨_, _, removed, _⟩
      · exact afterReset ▸ waits
      · rw [removed, Function.update_of_ne (by have := has.1; omega)] at waits
        exact afterReset ▸ waits
    obtain ⟨t, second, _⟩ := scheduled_returns fun change waits =>
      addressed 0 v (sameFirst.trans sameReset) change (afterFirst change waits)
    refine ⟨t, ?_⟩
    simp only [onTransactionFinished, found, active, Bool.not_true, Bool.false_eq_true, if_false,
      bind, Except.bind]
    simp only [released] at reset
    simp only [reset, first, second]
  · refine ⟨s, ?_⟩
    simp only [onTransactionFinished, found, active, bind, Except.bind]
    rfl

/-- In every run what waits, waits for an active transaction, and the end of every transaction is
handled to its end. -/
theorem scheduled_waits (connectors : List ℕ) (is : List Input) :
    ∃ t, run step (started connectors) is = some t ∧ t.Waiting ∧
      ∀ id ∈ t.evseIds, ∃ u, t.handle (.transactionFinished id) = .ok u := by
  obtain ⟨t, ran⟩ := run_total (started connectors) is
  -- The invariant is carried along the run, which never stops.
  have waiting : t.Waiting :=
    run_invariant (fun before moved => before.step moved) (waiting_started connectors) ran
  exact ⟨t, ran, waiting, fun id member => finished_returns waiting (mem_evseIds_iff.mp member)⟩

/-- What waits is made by a step, or goes on waiting. -/
theorem made_or_waits {id : ℤ} {change : AvailabilityChange} (waiting : s.Waiting)
    (found : s.scheduledChangeAvailabilityRequests id = some change)
    (leaves : ¬ Replaces id s input) (moved : step s input = some t) :
    (t.scheduledChangeAvailabilityRequests id = none ∧
      t.manager.HasStatus change.request.operationalStatus change.request.evse) ∨
    t.scheduledChangeAvailabilityRequests id = some change := by
  have ofSame (same : t.scheduledChangeAvailabilityRequests =
      s.scheduledChangeAvailabilityRequests) :
      t.scheduledChangeAvailabilityRequests id = some change := by rw [same]; exact found
  -- Only requests, updates and ends of transactions can touch what waits.
  rcases step_cases moved with done | ⟨rfl, _⟩
  · cases input with
    | changeAvailability request =>
      rcases changeAvailability_effect done with ⟨_, same⟩ | ⟨other, scheduled, addressed, _⟩
      · exact .inr (ofSame same)
      · right
        -- What is addressed has another key, or its change would be replaced.
        have apart : id ≠ key request := fun here => leaves ⟨here.symm, addressed⟩
        rw [scheduled, Function.update_of_ne apart]
        exact found
    | firmwareUpdateStatus requestId status =>
      exact .inr ((firmwareUpdateStatus_leaves leaves done).trans found)
    | reset evseId type isResetAllowed => exact .inr (ofSame (reset_effect done))
    | triggerStatusNotification evseId other =>
      have done : s.manage (·.apply (.sendOne s.link evseId other)) = .ok t := done
      have commands : Commands (· = _) s t := .single rfl done
      exact .inr (ofSame (by rw [commands.frame]))
    | connectorEvent evseId other event =>
      have done : s.manage (·.apply (.submit s.link evseId other event)) = .ok t := done
      have commands : Commands (· = _) s t := .single rfl done
      exact .inr (ofSame (by rw [commands.frame]))
    | updateFirmware | bootNotificationResponse | disconnected => cases done; exact .inr found
    | connected now =>
      cases done
      refine .inr (ofSame ?_)
      simp only [websocketConnectedCallback]
      split <;> rfl
    | transactionStarted evseId other =>
      rw [started_ok done]
      exact .inr found
    | transactionFinished evseId =>
      obtain ⟨e, there, _⟩ := returns_of_bind done
      have positive := (ComponentStateManager.evseEntry_eq_ok.mp there).1
      rcases finished_cases done with ⟨_, rfl⟩ | ⟨active, _⟩
      · exact .inr found
      · have finished := finished_facts waiting (by omega) active done
        -- The change is made if it waited for this EVSE, or for the last one of the station.
        by_cases here : id = evseId
        · subst here
          exact .inl ⟨finished.done, finished.made change found⟩
        · by_cases whole : id = 0
          · subst whole
            rcases finished.station with ⟨same, _⟩ | ⟨removed, made⟩
            · exact .inr (same.trans found)
            · exact .inl ⟨removed, made change found⟩
          · exact .inr ((finished.others id here whole).trans found)
  · exact .inr found

/-- A change that was scheduled is made at some point of every run that goes on from there and does
not replace or remove it, unless it still waits for a transaction in the end. -/
theorem scheduled_made {connectors : List ℕ} {before : List Input} {id : ℤ}
    {change : AvailabilityChange} (ran : run step (started connectors) before = some s)
    (found : s.scheduledChangeAvailabilityRequests id = some change)
    (leaves : Meets (fun s input => ¬ Replaces id s input) step s is)
    (rest : run step s is = some t) :
    (∃ u, Visits step s is u ∧ u.scheduledChangeAvailabilityRequests id = none ∧
      u.manager.HasStatus change.request.operationalStatus change.request.evse) ∨
    (t.scheduledChangeAvailabilityRequests id = some change ∧ t.IsActive change.request.evse) := by
  have waiting : s.Waiting :=
    run_invariant (fun before moved => before.step moved) (waiting_started connectors) ran
  -- The run goes on in states where the change waits, until one in which it is made.
  have ends := @run_until _ _ _ _ _ _
    (fun u => u.Waiting ∧ u.scheduledChangeAvailabilityRequests id = some change)
    (fun u => u.scheduledChangeAvailabilityRequests id = none ∧
      u.manager.HasStatus change.request.operationalStatus change.request.evse) _
    (fun before leaves moved => (made_or_waits before.1 before.2 leaves moved).imp_right
      fun waits => ⟨before.1.step moved, waits⟩) ⟨waiting, found⟩ leaves rest
  refine ends.imp_right fun after => ⟨after.2, ?_⟩
  exact (after.1 id change after.2).2.2

/-- A change for one EVSE is made when its transaction ends, and not that of the other. -/
theorem scheduled_made_evse : ∃ s t change,
    run step (started [1, 1]) [.transactionStarted 1 1, .transactionStarted 2 1,
      .changeAvailability { operationalStatus := .inoperative, evse := some { id := 2 } }] =
        some s ∧
    run step s [.transactionFinished 1, .transactionFinished 2] = some t ∧
    ((∃ u, Visits step s [.transactionFinished 1, .transactionFinished 2] u ∧
      u.scheduledChangeAvailabilityRequests 2 = none ∧
      u.manager.HasStatus change.request.operationalStatus change.request.evse) ∨
    (t.scheduledChangeAvailabilityRequests 2 = some change ∧ t.IsActive change.request.evse)) := by
  have ran : run step (started [1, 1]) [.transactionStarted 1 1, .transactionStarted 2 1,
    .changeAvailability { operationalStatus := .inoperative, evse := some { id := 2 } }] =
      some _ := rfl
  obtain ⟨t, rest⟩ := run_total _ [.transactionFinished 1, .transactionFinished 2]
  exact ⟨_, t, _, ran, rest, scheduled_made ran rfl (by decide) rest⟩

end ChargingStation

end EasyEvse.Availability
