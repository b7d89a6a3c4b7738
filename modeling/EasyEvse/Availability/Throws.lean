import EasyEvse.Availability.Scheduled

/-! Which inputs throw: those that name something the station does not have, and no other. -/

namespace EasyEvse.Availability
open Transition
open ComponentStateManager (evseEntry_returns connectorEntry_returns modifyConnector_returns)

namespace ChargingStation

variable {s t : ChargingStation} {evseId : ℤ} {request : ChangeAvailabilityRequest} {evse : EVSE}
  {input : Input} {is : List Input}

/-- What is named but not there is not valid, if its identifiers are not zero. -/
theorem isValidEvse_absent (evseNonzero : evse.id ≠ 0)
    (connectorNonzero : HasEvse s.manager.shape evse.id → evse.connectorId ≠ some 0)
    (absent : ¬ Addressed s.manager.shape (some evse)) : s.isValidEvse evse = .ok false := by
  obtain ⟨id, target⟩ := evse
  by_cases has : HasEvse s.manager.shape id
  -- Without a connector the EVSE itself would be addressed, and it is there.
  · cases target with
    | none => exact absurd has absent
    | some connectorId =>
      have exists_ := doesEvseExist_iff.mpr (.inr has)
      obtain ⟨e, found⟩ := evseEntry_returns.mpr has
      obtain ⟨positive, there⟩ := ComponentStateManager.evseEntry_eq_ok.mp found
      simp only [isValidEvse, exists_, if_true, found]
      -- The check lets zero pass, and the hypothesis excludes it.
      have outside : (decide (0 ≤ connectorId) &&
          decide (connectorId ≤ (e.connectors.length : ℤ))) = false := by
        by_contra inside
        simp only [Bool.not_eq_false, Bool.and_eq_true, decide_eq_true_eq] at inside
        refine absent ⟨positive, e.connectors.length, ?_, ?_, inside.2⟩
        · simp only [ComponentStateManager.shape, List.getElem?_map, there, Option.map_some]
        · have nonzero : connectorId ≠ 0 := fun zero => connectorNonzero has (by rw [zero])
          omega
      exact congrArg Except.ok outside
  -- The check of an EVSE lets zero pass as well.
  · have absent : s.doesEvseExist id = false := by
      by_contra exists_
      rcases doesEvseExist_iff.mp (by simpa using exists_) with zero | has'
      · exact evseNonzero zero
      · exact has has'
    simp only [isValidEvse, absent]
    rfl

/-- The EVSE of what a request addresses is one that the station has. -/
theorem key_of_addressed (addressed : Addressed s.manager.shape request.evse) :
    key request = 0 ∨ HasEvse s.manager.shape (key request) := by
  rcases request with ⟨status, _ | ⟨id, _ | connectorId⟩⟩
  · exact .inl rfl
  · exact .inr addressed
  · exact .inr (HasConnector.evse addressed)

/-- A request that addresses something the station has returns. -/
theorem changeAvailability_returns (addressed : Addressed s.manager.shape request.evse) :
    ∃ t, s.handleChangeAvailabilityReq request = .ok t := by
  -- What is there is found valid, so that the request is not rejected.
  have valid : request.evse.elim (return true) s.isValidEvse = .ok true := by
    cases evse : request.evse with
    | none => rfl
    | some evse' => exact isValidEvse_addressed (evse ▸ addressed)
  obtain ⟨active, looked, _⟩ := anyTransactionActive_returns addressed
  obtain ⟨already, read⟩ := isAlreadyInState_returns addressed
  -- The request is executed at once, or what it addresses is prevented from new transactions.
  obtain ⟨t, executed, _⟩ := execute_returns (s := (s.schedule (key request) none).output
    (.changeAvailabilityResponse .accepted)) addressed
  obtain ⟨u, prevented, _⟩ := prevent_returns (s := (s.schedule (key request)
    (some { request, persist := true })).output (.changeAvailabilityResponse .scheduled))
    (key_of_addressed addressed)
  simp only [handleChangeAvailabilityReq, valid, looked, read, bind, Except.bind, Bool.not_true,
    Bool.false_eq_true, if_false]
  split
  · cases active with
    | true => exact ⟨_, rfl⟩
    | false => exact ⟨t, executed⟩
  · exact ⟨u, prevented⟩

/-- An EVSE with a transaction waits as soon as a firmware update is prepared. -/
theorem unavailableForUpdate_schedules {id : ℤ} (member : id ∈ s.evseIds)
    (running : s.transaction id ≠ none)
    (done : s.changeAllConnectorsToUnavailableForFirmwareUpdate = .ok t) :
    t.scheduledChangeAvailabilityRequests id = some (firmwareChange id) := by
  have active : s.hasActiveTransaction id = true := by
    simpa [hasActiveTransaction, Option.isSome_iff_ne_none] using running
  have some_ : s.evseIds.any s.hasActiveTransaction = true :=
    List.any_eq_true.mpr ⟨id, member, active⟩
  simp only [changeAllConnectorsToUnavailableForFirmwareUpdate, anyTransactionActive, some_, bind,
    Except.bind, pure, Except.pure, if_true] at done
  -- The loop comes to the EVSE, and what waits for it is left alone by the rest of the loop.
  suffices reaches : ∀ l : List ℤ, id ∈ l →
      ∀ u : ChargingStation, u.hasActiveTransaction id = true →
      l.foldlM (fun s id => if s.hasActiveTransaction id then
        .ok (s.schedule id (some (firmwareChange id))) else s.setEvseConnectorsUnavailable id) u =
          .ok t → t.scheduledChangeAvailabilityRequests id = some (firmwareChange id) from
    reaches s.evseIds member s active done
  intro l
  induction l with
  | nil => simp
  | cons head l ih =>
    intro member u active done
    rw [List.foldlM_cons] at done
    obtain ⟨v, round, rest⟩ := returns_of_bind done
    -- A round schedules a change or makes an EVSE unavailable, which ends no transaction.
    have kept : v.hasActiveTransaction id = true := by
      split at round
      · cases round; exact active
      · have frame := (commands_unavailable round).frame
        rw [hasActiveTransaction, frame]
        exact active
    by_cases here : id = head
    · subst here
      rw [if_pos active] at round
      cases round
      -- Later rounds for the same EVSE schedule the same, and others touch other keys.
      refine foldlM_keeps (P := fun u => u.scheduledChangeAvailabilityRequests id =
        some (firmwareChange id)) ?_ (by simp [schedule]) rest
      rintro other _ u v before round
      split at round
      · cases round
        by_cases again : id = other
        · subst again; simp [schedule]
        · simpa [schedule, Function.update_of_ne again] using before
      · rw [(commands_unavailable round).frame]
        exact before
    · exact ih ((List.mem_cons.mp member).resolve_left here) v kept rest

/-- An input names nothing that the station does not have, with zero for an identifier that is
taken for one. -/
def Names (s : ChargingStation) : Input → Prop
  | .changeAvailability request =>
    ∀ evse, request.evse = some evse → evse.id ≠ 0 ∧
      (HasEvse s.manager.shape evse.id → evse.connectorId ≠ some 0)
  | .reset evseId _ _ => ∀ id, evseId = some id → HasEvse s.manager.shape id
  | .triggerStatusNotification evseId connectorId | .transactionStarted evseId connectorId
  | .connectorEvent evseId connectorId _ => HasConnector s.manager.shape evseId connectorId
  | .transactionFinished evseId => HasEvse s.manager.shape evseId
  | .updateFirmware _ | .bootNotificationResponse _ | .firmwareUpdateStatus _ _ | .connected _
  | .disconnected _ => True

/-- A request throws if it names something with an identifier of zero, and no other does. -/
theorem changeAvailability_returns_iff :
    (∃ t, s.handleChangeAvailabilityReq request = .ok t) ↔
      s.Names (.changeAvailability request) := by
  constructor
  · rintro ⟨t, done⟩ evse same
    obtain ⟨valid, checked, rest⟩ := returns_of_bind done
    rw [same] at checked
    have checked : s.isValidEvse evse = .ok valid := checked
    -- A request found valid goes on to read the status of what it addresses.
    have read (exists_ : valid = true) : Addressed s.manager.shape (some evse) := by
      subst exists_
      obtain ⟨_, _, rest⟩ := returns_of_bind rest
      obtain ⟨_, read, _⟩ := returns_of_bind rest
      exact same ▸ addressed_of_isAlreadyInState read
    refine ⟨fun zero => ?_, fun has zero => ?_⟩
    · -- There is no EVSE with the identifier zero, although it is taken for one.
      obtain ⟨id, target⟩ := evse
      obtain rfl : id = 0 := zero
      have exists_ : s.doesEvseExist 0 = true := doesEvseExist_iff.mpr (.inl rfl)
      simp only [isValidEvse, exists_, if_true] at checked
      -- With a connector the entries of the EVSE are looked up for the check already.
      cases target with
      | none => exact absurd (read (Except.ok.inj checked).symm).1 (by omega)
      | some connectorId =>
        obtain ⟨e, found, _⟩ := returns_of_bind checked
        exact absurd (ComponentStateManager.evseEntry_eq_ok.mp found).1 (by omega)
    · -- There is no connector with the identifier zero, although it is small enough.
      obtain ⟨id, target⟩ := evse
      obtain rfl : target = some 0 := zero
      have exists_ := doesEvseExist_iff.mpr (.inr has)
      obtain ⟨e, found⟩ := evseEntry_returns.mpr has
      simp only [isValidEvse, exists_, if_true, found] at checked
      have inside : valid = true := by
        rw [← Except.ok.inj checked]
        simp
      obtain ⟨_, count, _, positive, _⟩ := read inside
      omega
  · intro names
    -- What is addressed is handled, and what is not is rejected without an exception.
    by_cases addressed : Addressed s.manager.shape request.evse
    · exact changeAvailability_returns addressed
    · cases same : request.evse with
      | none => rw [same] at addressed; exact absurd trivial addressed
      | some evse =>
        obtain ⟨evseNonzero, connectorNonzero⟩ := names evse same
        have invalid := isValidEvse_absent evseNonzero connectorNonzero (same ▸ addressed)
        refine ⟨s.output (.changeAvailabilityResponse .rejected), ?_⟩
        simp only [handleChangeAvailabilityReq, same, Option.elim_some, invalid, bind, Except.bind]
        rfl

/-- The EVSEs that a reset makes unavailable are EVSEs of the station. -/
theorem evseIds_of_mem_resetEvses {id : Option ℤ} {other : ℤ}
    (member : other ∈ (s.resetEvses id).2) : other ∈ s.evseIds := by
  unfold resetEvses at member
  split at member
  · cases member
  · rw [List.partition_eq_filter_filter] at member
    exact (List.mem_filter.mp member).1

/-- A request for a reset returns if it names an EVSE that the station has, or none. -/
theorem reset_returns_iff {id : Option ℤ} {type : ResetEnum} {isResetAllowed : Bool} :
    (∃ t, s.handleResetReq id type isResetAllowed = .ok t) ↔
      s.Names (.reset id type isResetAllowed) := by
  constructor
  -- The EVSE is looked up before anything else, and a missing one throws.
  · rintro ⟨t, done⟩ evseId rfl
    obtain ⟨_, looked, _⟩ := returns_of_bind done
    obtain ⟨e, found, _⟩ := returns_of_bind looked
    exact evseEntry_returns.mp ⟨e, found⟩
  · intro names
    have looked : ∃ e, id.mapM s.manager.evseEntry = .ok e := by
      cases id with
      | none => exact ⟨none, rfl⟩
      | some evseId =>
        obtain ⟨e, found⟩ := evseEntry_returns.mpr (names evseId rfl)
        exact ⟨some e, by rw [Option.mapM_some, found]; rfl⟩
    obtain ⟨e, looked⟩ := looked
    simp only [handleResetReq, looked, bind, Except.bind]
    -- Past the lookup only the loop over the EVSEs without a transaction could throw.
    split
    · exact ⟨_, rfl⟩
    · cases type with
      | immediate => exact ⟨_, rfl⟩
      | onIdle =>
        dsimp only
        split
        · exact ⟨_, rfl⟩
        · obtain ⟨t, loop, _⟩ := loop_returns (s := (s.scheduleReset id).output
            (.resetResponse .scheduled)) (l := (s.resetEvses id).2)
            (f := setEvseConnectorsUnavailable) fun other member u same =>
              unavailable_returns (same ▸ mem_evseIds_iff.mp (evseIds_of_mem_resetEvses member))
          exact ⟨t, loop⟩

/-- Preparing a firmware update returns. -/
theorem unavailableForUpdate_returns (s : ChargingStation) :
    ∃ t, s.changeAllConnectorsToUnavailableForFirmwareUpdate = .ok t := by
  have addressed : Addressed s.manager.shape none := trivial
  obtain ⟨active, looked, _⟩ := anyTransactionActive_returns addressed
  simp only [changeAllConnectorsToUnavailableForFirmwareUpdate, looked, bind, Except.bind]
  cases active with
  | true =>
    -- Each round schedules a change, or sets connectors of an EVSE that is there.
    obtain ⟨t, loop, _⟩ := loop_returns (s := s) (l := s.evseIds) (f := fun s id =>
      if s.hasActiveTransaction id then
        return s.schedule id (some (firmwareChange id))
      else s.setEvseConnectorsUnavailable id) fun id member u same => by
        split
        · exact ⟨_, rfl, rfl⟩
        · exact unavailable_returns (same ▸ mem_evseIds_iff.mp member)
    exact ⟨t, loop⟩
  | false =>
    obtain ⟨u, loop, _⟩ := loop_returns (s := s) (l := s.evseIds)
      (f := setEvseConnectorsUnavailable) fun id member u same =>
        unavailable_returns (same ▸ mem_evseIds_iff.mp member)
    obtain ⟨t, reported, _⟩ := report_returns u
    exact ⟨t, by simp only [Bool.false_eq_true, if_false, loop]; exact reported⟩

/-- Restoring the connectors returns. -/
theorem restore_returns (s : ChargingStation) : ∃ t, s.restoreAllConnectorStates = .ok t := by
  -- The connectors are those of EVSEs that are there, and setting them keeps them all.
  obtain ⟨t, loop, _⟩ := loop_returns (s := s) (l := s.evseIds) (f := fun s evseId => do
    (← s.connectorIds evseId).foldlM (fun s connectorId => s.manage fun m =>
      m.setConnectorIndividualOperationalStatus evseId connectorId .operative) s)
    fun id member u same => by
      obtain ⟨ids, found, all⟩ := connectorIds_returns (same ▸ mem_evseIds_iff.mp member)
      simp only [found, bind, Except.bind]
      exact loop_returns fun connectorId inner v again =>
        setConnector_returns .operative (again ▸ (all connectorId).mp inner)
  exact ⟨t, loop⟩

/-- A status of a firmware update returns. -/
theorem firmwareUpdateStatus_returns (s : ChargingStation) (requestId : ℤ)
    (status : FirmwareStatusEnum) :
    ∃ t, s.onFirmwareUpdateStatusNotification requestId status = .ok t := by
  unfold onFirmwareUpdateStatusNotification
  -- A status that is known already returns at once.
  split
  · exact ⟨s, rfl⟩
  · have restored (u : ChargingStation) : ∃ t, u.restoreAtEnd status = .ok t := by
      unfold restoreAtEnd
      split
      · exact restore_returns u
      · exact ⟨u, rfl⟩
    have prepared (u : ChargingStation) (id : Option ℤ) :
        ∃ t, u.prepareInstallation status id = .ok t := by
      unfold prepareInstallation
      split
      · split
        · exact unavailableForUpdate_returns _
        · exact unavailableForUpdate_returns u
      · exact ⟨u, rfl⟩
    -- Whatever the status has changed by then, both parts return.
    obtain ⟨u, first⟩ := restored <|
      { s with
        firmwareStatus := status
        firmwareStatusId := if requestId = -1 then s.firmwareStatusId else some requestId }.output
        (.firmwareStatusNotification status (if requestId = -1 then none else some requestId))
    obtain ⟨t, second⟩ := prepared u (if requestId = -1 then none else some requestId)
    exact ⟨t, by simp only [bind, Except.bind]; rw [first]; exact second⟩

/-- What waits under a key is replaced or removed by every input that is said to do so. -/
theorem replaced {id : ℤ} {change : AvailabilityChange} (waiting : s.Waiting)
    (found : s.scheduledChangeAvailabilityRequests id = some change)
    (replaces : Replaces id s input) (moved : step s input = some t) :
    t.scheduledChangeAvailabilityRequests id = none ∨
    (∃ request, input = .changeAvailability request ∧
      t.scheduledChangeAvailabilityRequests id = some { request, persist := true }) ∨
    t.scheduledChangeAvailabilityRequests id = some (firmwareChange id) := by
  cases input with
  | changeAvailability request =>
    obtain ⟨same, addressed⟩ := replaces
    obtain ⟨u, done⟩ := changeAvailability_returns addressed
    have handled : s.handle (.changeAvailability request) = .ok u := done
    rw [step, handled] at moved
    obtain rfl := Option.some.inj moved
    rcases changeAvailability_effect done with ⟨absent, _⟩ | ⟨new, scheduled, _, waits⟩
    · exact absurd addressed absent
    -- The request removes what waited under its key, or takes its place.
    · rw [scheduled, same, Function.update_self]
      cases new with
      | none => exact .inl rfl
      | some new =>
        obtain ⟨rfl, -⟩ := waits new rfl
        exact .inr (.inl ⟨request, rfl, rfl⟩)
  | firmwareUpdateStatus requestId status =>
    obtain ⟨other, before, fresh⟩ := replaces
    -- What waits for an EVSE waits for its transaction.
    obtain ⟨_, addressed, active⟩ := waiting id change found
    obtain ⟨target, evse⟩ := waiting.id_eq found other
    rw [evse] at addressed active
    have running : s.transaction id ≠ none := active
    have has : HasEvse s.manager.shape id := by
      cases target with
      | none => exact addressed
      | some connectorId => exact HasConnector.evse addressed
    obtain ⟨u, done⟩ := firmwareUpdateStatus_returns s requestId status
    have handled : s.handle (.firmwareUpdateStatus requestId status) = .ok u := done
    rw [step, handled] at moved
    obtain rfl := Option.some.inj moved
    -- The connectors are restored or not, and then the EVSEs with a transaction wait.
    unfold Repeated at fresh
    rw [onFirmwareUpdateStatusNotification, if_neg fresh] at done
    obtain ⟨v, restored, prepared⟩ := returns_of_bind done
    have commands := commands_restoreAtEnd restored
    have last : v.firmwareStatusBeforeInstalling = status := by rw [commands.frame, before]; rfl
    have member : id ∈ v.evseIds := by
      simp only [evseIds, commands.moves.length]
      exact mem_evseIds_iff.mpr has
    have running : v.transaction id ≠ none := by rw [commands.frame]; exact running
    rw [prepareInstallation, if_pos last] at prepared
    split at prepared
    · refine .inr (.inr (unavailableForUpdate_schedules ?_ ?_ prepared))
      · exact member
      · exact running
    · exact .inr (.inr (unavailableForUpdate_schedules member running prepared))
  | _ => exact replaces.elim

/-- The manager changes a connector if and only if the station has it. -/
theorem manageConnector_returns_iff {connectorId : ℤ}
    (change : ComponentStateManager → OperationalStatusEnum → ConnectorEntry → ConnectorEntry) :
    (∃ t, s.manage (fun m => m.modifyConnector evseId connectorId (change m)) = .ok t) ↔
      HasConnector s.manager.shape evseId connectorId := by
  -- The lookup of the connector is all that can throw.
  constructor
  · rintro ⟨t, done⟩
    obtain ⟨_, changed, _⟩ := returns_of_bind done
    obtain ⟨c, found, _⟩ := returns_of_bind changed
    exact connectorEntry_returns.mp ⟨c, found⟩
  · intro has
    obtain ⟨n, changed⟩ : ∃ n, s.manager.modifyConnector evseId connectorId (change s.manager) =
      .ok n := modifyConnector_returns has
    exact ⟨_, by simp only [manage, changed]; rfl⟩

/-- In every run an input is handled to its end, or names something that the station does not
have, and then it throws. -/
theorem handle_returns_iff (connectors : List ℕ) (is : List Input) (input : Input) :
    ∃ s, run step (started connectors) is = some s ∧
      ((∃ t, s.handle input = .ok t) ↔ s.Names input) := by
  obtain ⟨s, ran⟩ := run_total (started connectors) is
  refine ⟨s, ran, ?_⟩
  have waiting : s.Waiting :=
    run_invariant (fun before moved => before.step moved) (waiting_started connectors) ran
  -- Each input throws only in a lookup of the identifiers it names.
  cases input with
  | changeAvailability request => exact changeAvailability_returns_iff
  | reset id type isResetAllowed => exact reset_returns_iff
  | updateFirmware | bootNotificationResponse | connected | disconnected =>
    exact iff_of_true ⟨_, rfl⟩ trivial
  | firmwareUpdateStatus requestId status =>
    exact iff_of_true (firmwareUpdateStatus_returns s requestId status) trivial
  | triggerStatusNotification evseId connectorId =>
    exact manageConnector_returns_iff fun _ _ connector =>
      connector.sendStatusNotification s.link false
  | connectorEvent evseId connectorId event =>
    exact manageConnector_returns_iff fun _ _ => event.submit s.link
  | transactionStarted evseId connectorId =>
    constructor
    · rintro ⟨t, done⟩
      obtain ⟨c, found, _⟩ := returns_of_bind done
      exact connectorEntry_returns.mp ⟨c, found⟩
    · intro has
      obtain ⟨c, found⟩ := connectorEntry_returns.mpr has
      exact ⟨_, by simp only [handle, onTransactionStarted, found]; rfl⟩
  | transactionFinished evseId =>
    constructor
    · rintro ⟨t, done⟩
      obtain ⟨e, found, _⟩ := returns_of_bind done
      exact evseEntry_returns.mp ⟨e, found⟩
    · exact finished_returns waiting

end ChargingStation

end EasyEvse.Availability
