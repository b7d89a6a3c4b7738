import EasyEvse.Availability.InService

/-! Operations on what the station has return. -/

namespace EasyEvse.Availability
open Transition

/-- An EVSE that a station of this shape has. -/
def HasEvse (shape : List ℕ) (evseId : ℤ) : Prop := 0 < evseId ∧ evseId ≤ shape.length

/-- A connector that a station of this shape has. -/
def HasConnector (shape : List ℕ) (evseId connectorId : ℤ) : Prop :=
  0 < evseId ∧ ∃ count, shape[(evseId - 1).toNat]? = some count ∧
    0 < connectorId ∧ connectorId ≤ (count : ℤ)

/-- What a request addresses is something that a station of this shape has. -/
def Addressed (shape : List ℕ) : Option EVSE → Prop
  | none => True
  | some { id, connectorId := none } => HasEvse shape id
  | some { id, connectorId := some connectorId } => HasConnector shape id connectorId

instance (shape : List ℕ) (evseId : ℤ) : Decidable (HasEvse shape evseId) :=
  inferInstanceAs (Decidable (_ ∧ _))

instance (shape : List ℕ) (evseId connectorId : ℤ) :
    Decidable (HasConnector shape evseId connectorId) :=
  inferInstanceAs (Decidable (_ ∧ ∃ count, count ∈ shape[(evseId - 1).toNat]? ∧ _))

instance (shape : List ℕ) : DecidablePred (Addressed shape)
  | none => isTrue trivial
  | some { id, connectorId := none } => inferInstanceAs (Decidable (HasEvse shape id))
  | some { id, connectorId := some connectorId } =>
    inferInstanceAs (Decidable (HasConnector shape id connectorId))

/-- A connector is part of an EVSE. -/
theorem HasConnector.evse {shape : List ℕ} {evseId connectorId : ℤ}
    (has : HasConnector shape evseId connectorId) : HasEvse shape evseId := by
  obtain ⟨positive, count, found, _⟩ := has
  have small := (List.getElem?_eq_some_iff.mp found).1
  exact ⟨positive, by omega⟩

namespace ComponentStateManager

variable {m : ComponentStateManager} {evseId connectorId : ℤ}

/-- The entries of an EVSE are found if and only if the station has it. -/
theorem evseEntry_returns : (∃ e, m.evseEntry evseId = .ok e) ↔ HasEvse m.shape evseId := by
  -- An entry is found exactly at the places within the vector.
  simp only [evseEntry_eq_ok, HasEvse, shape, List.length_map]
  constructor
  · rintro ⟨e, positive, found⟩
    have small := (List.getElem?_eq_some_iff.mp found).1
    exact ⟨positive, by omega⟩
  · rintro ⟨positive, small⟩
    exact ⟨_, positive, List.getElem?_eq_getElem (by omega)⟩

/-- The entries of a connector are found if and only if the station has it. -/
theorem connectorEntry_returns :
    (∃ c, m.connectorEntry evseId connectorId = .ok c) ↔
      HasConnector m.shape evseId connectorId := by
  -- The EVSE is looked up first, and then the connector among those it has.
  simp only [connectorEntry_eq_ok, evseEntry_eq_ok, HasConnector, shape, List.getElem?_map,
    Option.map_eq_some_iff]
  constructor
  · rintro ⟨c, e, ⟨above, there⟩, positive, found⟩
    have small := (List.getElem?_eq_some_iff.mp found).1
    exact ⟨above, _, ⟨e, there, rfl⟩, positive, by omega⟩
  · rintro ⟨above, _, ⟨e, there, rfl⟩, positive, small⟩
    exact ⟨_, e, ⟨above, there⟩, positive, List.getElem?_eq_getElem (by omega)⟩

/-- Changing an EVSE that the station has returns. -/
theorem modifyEvse_returns {change : EvseEntry → EvseEntry} (has : HasEvse m.shape evseId) :
    ∃ n, m.modifyEvse evseId change = .ok n := by
  obtain ⟨e, found⟩ := evseEntry_returns.mpr has
  simp only [modifyEvse, found]
  exact ⟨_, rfl⟩

/-- Changing a connector that the station has returns. -/
theorem modifyConnector_returns
    {change : OperationalStatusEnum → ConnectorEntry → ConnectorEntry}
    (has : HasConnector m.shape evseId connectorId) :
    ∃ n, m.modifyConnector evseId connectorId change = .ok n := by
  obtain ⟨c, found⟩ := connectorEntry_returns.mpr has
  simp only [modifyConnector, found]
  exact ⟨_, rfl⟩

/-- The effective status of a connector that the station has is found. -/
theorem getConnectorEffectiveOperationalStatus_returns
    (has : HasConnector m.shape evseId connectorId) :
    ∃ status, m.getConnectorEffectiveOperationalStatus evseId connectorId = .ok status := by
  obtain ⟨e, found⟩ := evseEntry_returns.mpr has.evse
  obtain ⟨c, inner⟩ := connectorEntry_returns.mpr has
  simp only [getConnectorEffectiveOperationalStatus, getEvseEffectiveOperationalStatus, found,
    inner, bind, Except.bind, pure, Except.pure]
  -- An EVSE that is inoperative decides, and its connector is not asked.
  split
  · exact ⟨_, rfl⟩
  · exact ⟨_, rfl⟩

end ComponentStateManager

namespace ChargingStation

open ComponentStateManager (Command evseEntry_returns connectorEntry_returns modifyEvse_returns
  modifyConnector_returns getConnectorEffectiveOperationalStatus_returns)

variable {s t : ChargingStation} {evseId connectorId : ℤ} {request : ChangeAvailabilityRequest}
  {evse : EVSE}

/-- A station keeps its shape. -/
abbrev SameShape (s t : ChargingStation) : Prop := t.manager.shape = s.manager.shape

/-- The connectors of an EVSE are those that the station has. -/
theorem connectorIds_returns (has : HasEvse s.manager.shape evseId) :
    ∃ ids, s.connectorIds evseId = .ok ids ∧
      ∀ connectorId, connectorId ∈ ids ↔ HasConnector s.manager.shape evseId connectorId := by
  obtain ⟨e, found⟩ := evseEntry_returns.mpr has
  obtain ⟨positive, there⟩ := ComponentStateManager.evseEntry_eq_ok.mp found
  -- The identifiers count from one up to the number of entries.
  refine ⟨_, by simp only [connectorIds, found]; rfl, fun connectorId => ?_⟩
  simp only [List.mem_map, List.mem_range, HasConnector, ComponentStateManager.shape,
    List.getElem?_map, there, Option.map_some, Option.some.injEq, exists_eq_left']
  constructor
  · rintro ⟨i, small, rfl⟩
    exact ⟨positive, by omega, by omega⟩
  · rintro ⟨_, above, small⟩
    exact ⟨(connectorId - 1).toNat, by omega, by omega⟩

/-- The EVSEs are those that the station has. -/
theorem mem_evseIds_iff : evseId ∈ s.evseIds ↔ HasEvse s.manager.shape evseId := by
  rw [mem_evseIds, HasEvse, ComponentStateManager.shape, List.length_map]

/-- Something done by the manager that returns keeps the shape. -/
theorem manage_returns {command : Command}
    (applies : ∃ n, s.manager.apply command = .ok n) :
    ∃ t, s.manage (·.apply command) = .ok t ∧ SameShape s t := by
  -- What the manager does is a command, and commands keep the number of entries.
  obtain ⟨n, applied⟩ := applies
  have done : s.manage (·.apply command) = .ok { s with manager := n } := by
    simp only [manage, applied]
    rfl
  have commands : Commands (· = command) s _ := .single rfl done
  exact ⟨_, done, commands.moves.shape⟩

/-- Setting the status of a connector that the station has returns. -/
theorem setConnector_returns (status : OperationalStatusEnum)
    (has : HasConnector s.manager.shape evseId connectorId) :
    ∃ t, s.manage (·.apply (.setConnector evseId connectorId status)) = .ok t ∧
      SameShape s t := by
  have applies : ∃ n, s.manager.setConnectorIndividualOperationalStatus evseId connectorId status =
    .ok n := modifyConnector_returns has
  exact manage_returns applies

/-- Setting the status of an EVSE that the station has returns. -/
theorem setEvse_returns (status : OperationalStatusEnum) (has : HasEvse s.manager.shape evseId) :
    ∃ t, s.manage (·.apply (.setEvse evseId status)) = .ok t ∧ SameShape s t := by
  have applies : ∃ n, s.manager.setEvseIndividualOperationalStatus evseId status = .ok n :=
    modifyEvse_returns has
  exact manage_returns applies

/-- Executing a request returns if the station has what it addresses. -/
theorem execute_returns (addressed : Addressed s.manager.shape request.evse) :
    ∃ t, s.executeChangeAvailabilityRequest request = .ok t ∧ SameShape s t := by
  -- The request is for the station, for an EVSE, or for a connector of one.
  rcases request with ⟨status, _ | ⟨id, _ | connectorId⟩⟩
  · have applies : ∃ n, s.manager.apply (.setCs status) = .ok n := ⟨_, rfl⟩
    exact manage_returns applies
  · exact setEvse_returns status addressed
  · exact setConnector_returns status addressed

/-- Making an EVSE unavailable returns if the station has it. -/
theorem unavailable_returns (has : HasEvse s.manager.shape evseId) :
    ∃ t, s.setEvseConnectorsUnavailable evseId = .ok t ∧ SameShape s t := by
  obtain ⟨ids, found, all⟩ := connectorIds_returns has
  simp only [setEvseConnectorsUnavailable, found]
  -- Every round sets a connector that the station still has, since the shape stays.
  refine foldlM_returns (P := SameShape s) ?_ rfl
  intro connectorId member u same
  have has := (all connectorId).mp member
  rw [← same] at has
  obtain ⟨v, moved, again⟩ := setConnector_returns .inoperative has
  exact ⟨v, moved, again.trans same⟩

/-- A loop over what the station has returns if every round does. -/
theorem loop_returns {l : List ℤ} {f : ChargingStation → ℤ → Except OutOfRange ChargingStation}
    (round : ∀ id ∈ l, ∀ u, SameShape s u → ∃ v, f u id = .ok v ∧ SameShape u v) :
    ∃ t, l.foldlM f s = .ok t ∧ SameShape s t := by
  -- The shape of the first state is that of all states of the loop.
  refine foldlM_returns (P := SameShape s) ?_ rfl
  intro id member u same
  obtain ⟨v, moved, again⟩ := round id member u same
  exact ⟨v, moved, again.trans same⟩

/-- Preventing transactions returns on an EVSE that the station has, and on the station. -/
theorem prevent_returns (has : evseId = 0 ∨ HasEvse s.manager.shape evseId) :
    ∃ t, s.preventTransactions evseId = .ok t ∧ SameShape s t := by
  -- The station's case goes over the EVSEs, and the other one over the connectors.
  unfold preventTransactions
  split
  · refine loop_returns fun id member u same => ?_
    split
    · exact ⟨u, rfl, rfl⟩
    · exact setEvse_returns .inoperative (same ▸ mem_evseIds_iff.mp member)
  · rename_i other
    obtain ⟨ids, found, all⟩ := connectorIds_returns (has.resolve_left other)
    rw [found]
    refine loop_returns fun id member u same => ?_
    split
    · exact ⟨u, rfl, rfl⟩
    · exact setConnector_returns .inoperative (same ▸ (all id).mp member)

/-- Looking for what is operative returns. -/
theorem report_returns (s : ChargingStation) :
    ∃ t, s.reportAllUnavailable = .ok t ∧ SameShape s t := by
  -- The search looks at every connector of every EVSE, all of which are there.
  have looked : ∃ b, s.areAllConnectorsEffectivelyInoperative = .ok b := by
    refine allM_returns fun id member => ?_
    obtain ⟨ids, found, all⟩ := connectorIds_returns (mem_evseIds_iff.mp member)
    rw [found]
    refine allM_returns fun connectorId inner => ?_
    obtain ⟨status, read⟩ :=
      getConnectorEffectiveOperationalStatus_returns ((all connectorId).mp inner)
    rw [read]
    exact ⟨_, rfl⟩
  obtain ⟨b, looked⟩ := looked
  unfold reportAllUnavailable
  rw [looked]
  cases b with
  | true => exact ⟨_, rfl, rfl⟩
  | false => exact ⟨s, rfl, rfl⟩

/-- Something is active on what a request addresses. -/
def IsActive (s : ChargingStation) : Option EVSE → Prop
  | none => ∃ id ∈ s.evseIds, s.transaction id ≠ none
  | some evse => s.transaction evse.id ≠ none

/-- Looking for transactions finds them, where the station has what is addressed. -/
theorem anyTransactionActive_returns {evse : Option EVSE}
    (addressed : Addressed s.manager.shape evse) :
    ∃ b, s.anyTransactionActive evse = .ok b ∧ (b = true ↔ s.IsActive evse) := by
  -- For a single EVSE its entry is looked up before its transaction.
  rcases evse with _ | ⟨id, connectorId⟩
  · refine ⟨_, rfl, ?_⟩
    simp [IsActive, hasActiveTransaction, Option.isSome_iff_ne_none]
  · have has : HasEvse s.manager.shape id := by
      cases connectorId with
      | none => exact addressed
      | some connectorId => exact HasConnector.evse addressed
    obtain ⟨e, found⟩ := evseEntry_returns.mpr has
    refine ⟨_, by simp only [anyTransactionActive, found]; rfl, ?_⟩
    simp [IsActive, hasActiveTransaction, Option.isSome_iff_ne_none]

/-- What is addressed is looked up, where the station has it. -/
theorem isAlreadyInState_returns (addressed : Addressed s.manager.shape request.evse) :
    ∃ b, s.isAlreadyInState request = .ok b := by
  -- The status that is compared is that of the station, the EVSE or the connector.
  rcases request with ⟨status, _ | ⟨id, _ | connectorId⟩⟩
  · exact ⟨_, rfl⟩
  · obtain ⟨e, found⟩ := evseEntry_returns.mpr addressed
    exact ⟨_, by simp only [isAlreadyInState, found]; rfl⟩
  · obtain ⟨c, found⟩ := connectorEntry_returns.mpr addressed
    exact ⟨_, by simp only [isAlreadyInState, found]; rfl⟩

/-- Making a change that waits returns if the station has what it addresses. -/
theorem scheduled_returns (addressed : ∀ change,
      s.scheduledChangeAvailabilityRequests evseId = some change →
        Addressed s.manager.shape change.request.evse) :
    ∃ t, s.handleScheduledChangeAvailabilityRequests evseId = .ok t ∧ SameShape s t := by
  -- Without a scheduled change, or while a transaction waits for it, nothing is done.
  unfold handleScheduledChangeAvailabilityRequests
  split
  · exact ⟨s, rfl, rfl⟩
  · rename_i change found
    obtain ⟨b, looked, _⟩ := anyTransactionActive_returns (addressed change found)
    rw [looked]
    cases b with
    | true => exact ⟨s, rfl, rfl⟩
    | false =>
      obtain ⟨u, executed, same⟩ := execute_returns (addressed change found)
      obtain ⟨t, reported, again⟩ := report_returns (u.schedule evseId none)
      exact ⟨t, by simp only [bind, Except.bind, executed]; exact reported, again.trans same⟩

/-- Asking for a reset that waits returns. -/
theorem resetIfScheduled_returns (has : HasEvse s.manager.shape evseId) :
    ∃ t, s.resetIfScheduled evseId = .ok t ∧ SameShape s t := by
  -- A reset that was scheduled is for the whole station, or for this EVSE alone.
  unfold resetIfScheduled
  split
  · exact ⟨s, rfl, rfl⟩
  · split
    · split
      · exact unavailable_returns has
      · exact ⟨_, rfl, rfl⟩
    · split
      · exact ⟨_, rfl, rfl⟩
      · exact ⟨s, rfl, rfl⟩

/-- An EVSE that the station has can be addressed, and so can the one with the identifier zero. -/
theorem doesEvseExist_iff : s.doesEvseExist evseId = true ↔
    evseId = 0 ∨ HasEvse s.manager.shape evseId := by
  simp only [doesEvseExist, HasEvse, ComponentStateManager.shape, List.length_map,
    Bool.and_eq_true, decide_eq_true_eq]
  omega

/-- What the station has is valid. -/
theorem isValidEvse_addressed (addressed : Addressed s.manager.shape (some evse)) :
    s.isValidEvse evse = .ok true := by
  obtain ⟨id, _ | connectorId⟩ := evse
  · have exists_ := doesEvseExist_iff.mpr (.inr addressed)
    simp only [isValidEvse, exists_, if_true]
    rfl
  · have exists_ := doesEvseExist_iff.mpr (.inr addressed.evse)
    obtain ⟨e, found⟩ := evseEntry_returns.mpr addressed.evse
    obtain ⟨_, there⟩ := ComponentStateManager.evseEntry_eq_ok.mp found
    obtain ⟨_, count, shape, positive, small⟩ := addressed
    have same : e.connectors.length = count := by
      simpa only [ComponentStateManager.shape, List.getElem?_map, there, Option.map_some,
        Option.some.injEq] using shape
    simp only [isValidEvse, exists_, if_true, found]
    have inside : (decide (0 ≤ connectorId) &&
        decide (connectorId ≤ (e.connectors.length : ℤ))) = true := by
      simp only [Bool.and_eq_true, decide_eq_true_eq]
      omega
    exact congrArg Except.ok inside

end ChargingStation

end EasyEvse.Availability
