import EasyEvse.Availability.ComponentStateManager
import EasyEvse.Transition.Fallible
import Mathlib.Logic.Relation

/-! What the component state manager keeps, whatever it is asked to do. -/

namespace EasyEvse.Availability
open Transition

/-- What holds of every member of a list holds of them after a change that keeps it. -/
theorem forall_mem_modify {α : Type*} {P : α → Prop} {change : α → α} {l : List α} {i : ℕ}
    (all : ∀ a ∈ l, P a) (keeps : ∀ a ∈ l, P a → P (change a)) : ∀ a ∈ l.modify i change, P a := by
  intro a member
  obtain ⟨j, found⟩ := List.mem_iff_getElem?.mp member
  rw [List.getElem?_modify] at found
  obtain ⟨b, there, rfl⟩ := Option.map_eq_some_iff.mp found
  have old := List.mem_of_getElem? there
  -- The member is the changed one, or one that was there before.
  split
  · exact keeps b old (all b old)
  · exact all b old

namespace ComponentStateManager

/-- Everything that a functional block can ask of the component state manager. -/
inductive Command
  | setCs (status : OperationalStatusEnum)
  | setEvse (evseId : ℤ) (status : OperationalStatusEnum)
  | setConnector (evseId connectorId : ℤ) (status : OperationalStatusEnum)
  | submit (link : Bool) (evseId connectorId : ℤ) (event : ConnectorEvent)
  | sendOne (link : Bool) (evseId connectorId : ℤ)
  | sendAll (link : Bool)
  | sendChanged (link : Bool)

/-- What the manager does when it is asked. -/
def apply (m : ComponentStateManager) : Command → Except OutOfRange ComponentStateManager
  | .setCs status => return m.setCsIndividualOperationalStatus status
  | .setEvse evseId status => m.setEvseIndividualOperationalStatus evseId status
  | .setConnector evseId connectorId status =>
    m.setConnectorIndividualOperationalStatus evseId connectorId status
  | .submit link evseId connectorId event => m.submitEvent link evseId connectorId event
  | .sendOne link evseId connectorId =>
    m.sendStatusNotificationSingleConnector link evseId connectorId
  | .sendAll link => return m.sendStatusNotificationAllConnectors link
  | .sendChanged link => return m.sendStatusNotificationChangedConnectors link

/-- The manager gets from one state to another by commands that are allowed. -/
def Moves (allowed : Command → Prop) (m n : ComponentStateManager) : Prop :=
  Relation.ReflTransGen (fun m n => ∃ command, allowed command ∧ m.apply command = .ok n) m n

variable {allowed more : Command → Prop} {m n : ComponentStateManager} {command : Command}
  {evseId connectorId : ℤ}

/-- One allowed command is a move. -/
theorem Moves.single (may : allowed command) (done : m.apply command = .ok n) :
    m.Moves allowed n :=
  Relation.ReflTransGen.single ⟨command, may, done⟩

/-- Moves stay moves when more is allowed. -/
theorem Moves.mono (moves : m.Moves allowed n)
    (weaker : ∀ command, allowed command → more command) : m.Moves more n :=
  Relation.ReflTransGen.mono
    (fun _ _ step => step.imp fun command => .imp_left (weaker command)) _ _ moves

/-- What every allowed command keeps, moves keep. -/
theorem Moves.keeps {P : ComponentStateManager → Prop} (moves : m.Moves allowed n)
    (keeps : ∀ command m n, allowed command → m.apply command = .ok n → P m → P n)
    (start : P m) : P n := by
  -- The induction is on the number of commands.
  induction moves with
  | refl => exact start
  | tail _ last ih =>
    obtain ⟨command, may, done⟩ := last
    exact keeps command _ _ may done ih

/-- Changing an EVSE changes its entries, and nothing else. -/
theorem modifyEvse_ok {change : EvseEntry → EvseEntry}
    (done : m.modifyEvse evseId change = .ok n) :
    n = { m with evses := m.evses.modify (evseId - 1).toNat change } := by
  -- The EVSE was found, or the function would have thrown.
  obtain ⟨_, _, rest⟩ := returns_of_bind done
  cases rest
  rfl

/-- Changing a connector changes its entries, and nothing else. -/
theorem modifyConnector_ok {change : OperationalStatusEnum → ConnectorEntry → ConnectorEntry}
    (done : m.modifyConnector evseId connectorId change = .ok n) :
    n = { m with evses := m.evses.modify (evseId - 1).toNat fun e => { e with
      connectors := e.connectors.modify (connectorId - 1).toNat
        (change (e.effectiveOperationalStatus m.csIndividualStatus)) } } := by
  obtain ⟨_, _, rest⟩ := returns_of_bind done
  cases rest
  rfl

/-- How many connectors there are at each EVSE. -/
def shape (m : ComponentStateManager) : List ℕ := m.evses.map (·.connectors.length)

/-- Changing an EVSE but not the number of its connectors keeps the shape. -/
theorem shape_modify {change : EvseEntry → EvseEntry} {i : ℕ}
    (keeps : ∀ e, (change e).connectors.length = e.connectors.length) :
    (m.evses.modify i change).map (·.connectors.length) = m.shape := by
  -- The lists of numbers agree at every index, whether or not an EVSE is there.
  refine List.ext_getElem? fun j => ?_
  simp only [shape, List.getElem?_map, List.getElem?_modify]
  cases m.evses[j]? with
  | none => rfl
  | some e =>
    simp only [Option.map_eq_map, Option.map_some]
    split
    · rw [keeps]
    · rfl

/-- Triggering callbacks adds or removes no connector. -/
theorem length_triggerCallbacks (e : EvseEntry) (cs : OperationalStatusEnum)
    (onlyIfStateChanged : Bool) :
    (e.triggerCallbacks cs onlyIfStateChanged).connectors.length = e.connectors.length := by
  -- Either every connector is triggered in its place, or none is.
  dsimp only [EvseEntry.triggerCallbacks]
  split
  · exact List.length_map _
  · rfl

/-- Changing a connector adds or removes none. -/
theorem shape_modifyConnector {change : OperationalStatusEnum → ConnectorEntry → ConnectorEntry}
    (done : m.modifyConnector evseId connectorId change = .ok n) : n.shape = m.shape := by
  rw [modifyConnector_ok done]
  exact shape_modify fun e => List.length_modify _ _ _

/-- Changing every connector adds or removes none. -/
theorem shape_mapConnectors (m : ComponentStateManager) (change : ConnectorEntry → ConnectorEntry) :
    (m.mapConnectors change).shape = m.shape := by
  simp only [shape, mapConnectors, List.map_map, Function.comp_def, List.length_map]

/-- No command adds or removes a part of the station. -/
theorem Moves.shape (moves : m.Moves allowed n) : n.shape = m.shape := by
  refine moves.keeps (P := fun k => k.shape = m.shape) ?_ rfl
  intro command k l _ done same
  rw [← same]
  -- Setting a status and telling one both work on entries that are there.
  cases command with
  | setCs status =>
    cases done
    unfold setCsIndividualOperationalStatus triggerCallbacksCs
    split
    · simp only [ComponentStateManager.shape, List.map_map, Function.comp_def,
        length_triggerCallbacks]
    · rfl
  | setEvse evseId status =>
    rw [modifyEvse_ok done]
    exact shape_modify fun e => length_triggerCallbacks { e with individual := status } _ _
  | setConnector evseId connectorId status =>
    have done : k.setConnectorIndividualOperationalStatus evseId connectorId status = .ok l := done
    exact shape_modifyConnector done
  | submit link evseId connectorId event =>
    have done : k.submitEvent link evseId connectorId event = .ok l := done
    exact shape_modifyConnector done
  | sendOne link evseId connectorId =>
    have done : k.sendStatusNotificationSingleConnector link evseId connectorId = .ok l := done
    exact shape_modifyConnector done
  | sendAll link => cases done; exact shape_mapConnectors _ _
  | sendChanged link => cases done; exact shape_mapConnectors _ _

/-- No command adds or removes an EVSE. -/
theorem Moves.length (moves : m.Moves allowed n) : n.evses.length = m.evses.length := by
  simpa [ComponentStateManager.shape] using congrArg List.length moves.shape

end ComponentStateManager

/-! Every callback is told the effective status. -/

section Told

/-- The callback for a connector was told its effective status last, and no status twice. -/
structure ConnectorEntry.Told (evse : OperationalStatusEnum) (c : ConnectorEntry) : Prop where
  latest : c.effective.Latest
  distinct : c.effective.NoRepeat
  current : c.effective.cached = c.effectiveOperationalStatus evse

/-- The callbacks for an EVSE and its connectors were told what fits together. -/
structure EvseEntry.Consistent (e : EvseEntry) : Prop where
  latest : e.effective.Latest
  distinct : e.effective.NoRepeat
  /-- The connectors go by the status that the EVSE is known to have. -/
  connectors : ∀ c ∈ e.connectors, c.Told e.effective.cached

/-- The callbacks for an EVSE and its connectors were told the effective statuses last. -/
structure EvseEntry.Told (cs : OperationalStatusEnum) (e : EvseEntry) : Prop
    extends e.Consistent where
  current : e.effective.cached = e.effectiveOperationalStatus cs

/-- The callbacks for the station and its parts were told what fits together. -/
structure ComponentStateManager.Consistent (m : ComponentStateManager) : Prop where
  latest : m.cs.Latest
  distinct : m.cs.NoRepeat
  /-- The EVSEs go by the status that the station is known to have. -/
  evses : ∀ e ∈ m.evses, e.Told m.cs.cached

/-- Every callback was told the effective status of its part last, and no status twice. -/
structure ComponentStateManager.Told (m : ComponentStateManager) : Prop extends m.Consistent where
  current : m.cs.cached = m.csIndividualStatus

variable {cs evse : OperationalStatusEnum} {c : ConnectorEntry} {e : EvseEntry}
  {m : ComponentStateManager}

/-- A connector whose callback is triggered has told it its status. -/
theorem ConnectorEntry.told_triggerCallbacks (latest : c.effective.Latest)
    (distinct : c.effective.NoRepeat) : (c.triggerCallbacks evse true).Told evse where
  latest := latest.refresh
  distinct := distinct.refresh latest
  current := Watch.refresh_cached

/-- Triggering the callbacks of an EVSE reaches every connector whose effective status changed. -/
theorem EvseEntry.Consistent.triggerCallbacks (fits : e.Consistent) :
    (e.triggerCallbacks cs true).Told cs := by
  -- The callbacks of the connectors are triggered with the status that was told just now.
  dsimp only [EvseEntry.triggerCallbacks]
  split
  · exact {
      latest := fits.latest.refresh
      distinct := fits.distinct.refresh fits.latest
      connectors := by
        intro c member
        obtain ⟨d, old, rfl⟩ := List.mem_map.mp member
        rw [Watch.refresh_cached]
        exact ConnectorEntry.told_triggerCallbacks (fits.connectors d old).latest
          (fits.connectors d old).distinct
      current := Watch.refresh_cached }
  -- An unchanged status is not told again, and was the effective one before.
  · rename_i same
    exact { fits with current := by simpa using same }

/-- Triggering the callbacks of the station reaches every part whose effective status changed. -/
theorem ComponentStateManager.Consistent.triggerCallbacksCs (fits : m.Consistent) :
    (m.triggerCallbacksCs true).Told := by
  -- The EVSEs are triggered after the station has told its own status.
  unfold ComponentStateManager.triggerCallbacksCs
  split
  · exact {
      latest := fits.latest.refresh
      distinct := fits.distinct.refresh fits.latest
      evses := by
        intro e member
        obtain ⟨d, old, rfl⟩ := List.mem_map.mp member
        rw [Watch.refresh_cached]
        exact (fits.evses d old).toConsistent.triggerCallbacks
      current := Watch.refresh_cached }
  · rename_i same
    exact { fits with current := by simpa using same }

/-- What a connector was told stays right as long as its own operational status is not set. -/
theorem ConnectorEntry.Told.of_same {d : ConnectorEntry} (told : c.Told evse)
    (heard : d.effective = c.effective)
    (own : d.individual.individualOperationalStatus = c.individual.individualOperationalStatus) :
    d.Told evse where
  latest := heard ▸ told.latest
  -- The status of a connector depends on its own and on that of the EVSE alone.
  distinct := heard ▸ told.distinct
  current := by
    simp only [ConnectorEntry.effectiveOperationalStatus, heard, own]
    exact told.current

/-- A change of the connectors that keeps what they were told, keeps it for their EVSE. -/
theorem EvseEntry.Told.withConnectors {connectors : List ConnectorEntry} (told : e.Told cs)
    (all : ∀ c ∈ connectors, c.Told (e.effectiveOperationalStatus cs)) :
    { e with connectors }.Told cs where
  latest := told.latest
  distinct := told.distinct
  connectors := told.current ▸ all
  current := told.current

/-- An event at a connector does not touch its operational status. -/
theorem ComponentStateManager.ConnectorEvent.submit_operational (event : ConnectorEvent)
    (link : Bool) (c : ConnectorEntry) :
    (event.submit link c).effective = c.effective ∧
      (event.submit link c).individual.individualOperationalStatus =
        c.individual.individualOperationalStatus := by
  cases event <;> simp only [submit, ConnectorEntry.setOccupied, ConnectorEntry.setReserved,
    ConnectorEntry.setFaulted, ConnectorEntry.setUnavailable, ConnectorEntry.update,
    ConnectorEntry.sendStatusNotification]
  -- Plugging in and out looks at the reservation first.
  case plugIn | plugOut => split <;> exact ⟨rfl, rfl⟩
  all_goals trivial

namespace ComponentStateManager

variable {n : ComponentStateManager} {command : Command} {evseId connectorId : ℤ}

/-- Changing a connector keeps what everybody was told, if it keeps what the connector was told. -/
theorem Told.modifyConnector {change : OperationalStatusEnum → ConnectorEntry → ConnectorEntry}
    (told : m.Told) (keeps : ∀ evse c, c.Told evse → (change evse c).Told evse)
    (done : m.modifyConnector evseId connectorId change = .ok n) : n.Told := by
  -- The change is given the status of the EVSE, which is the one its connectors go by.
  rw [modifyConnector_ok done]
  have current := told.current
  refine { told with evses := forall_mem_modify told.evses ?_ }
  intro e _ old
  refine old.withConnectors (forall_mem_modify ?_ ?_)
  · exact old.current ▸ old.connectors
  · intro c _ before
    rw [current] at before
    have := keeps _ c before
    rw [current]
    exact this

/-- Changing every connector keeps what everybody was told, if it keeps what they were told. -/
theorem Told.mapConnectors {change : ConnectorEntry → ConnectorEntry} (told : m.Told)
    (keeps : ∀ evse c, c.Told evse → (change c).Told evse) : (m.mapConnectors change).Told := by
  -- Nothing above the connectors changes, so they still go by the same statuses.
  refine { told with evses := ?_ }
  intro e member
  obtain ⟨d, old, rfl⟩ := List.mem_map.mp member
  have before := told.evses d old
  refine before.withConnectors fun c member => ?_
  obtain ⟨b, there, rfl⟩ := List.mem_map.mp member
  exact keeps _ b (before.current ▸ before.connectors b there)

/-- Whatever the manager is asked to do, everybody knows the effective statuses afterwards. -/
theorem Told.apply (told : m.Told) (done : m.apply command = .ok n) : n.Told := by
  cases command with
  | setCs status =>
    cases done
    -- What is known fits together, whatever the station is set to.
    have fits : Consistent { m with csIndividualStatus := status } :=
      { latest := told.latest, distinct := told.distinct, evses := told.evses }
    exact fits.triggerCallbacksCs
  | setEvse evseId status =>
    -- The EVSE is triggered with the status of the station, which was told before.
    rw [modifyEvse_ok done]
    refine { told with evses := forall_mem_modify told.evses ?_ }
    intro e _ old
    have fits : EvseEntry.Consistent { e with individual := status } :=
      { latest := old.latest, distinct := old.distinct, connectors := old.connectors }
    rw [told.current]
    exact fits.triggerCallbacks
  | setConnector evseId connectorId status =>
    have done : m.setConnectorIndividualOperationalStatus evseId connectorId status = .ok n := done
    refine told.modifyConnector ?_ done
    exact fun _ _ old => ConnectorEntry.told_triggerCallbacks old.latest old.distinct
  | submit link evseId connectorId event =>
    -- What is only said to the CSMS leaves the operational status and the callbacks alone.
    have done : m.submitEvent link evseId connectorId event = .ok n := done
    refine told.modifyConnector (fun evse c old => ?_) done
    obtain ⟨heard, own⟩ := event.submit_operational link c
    exact old.of_same heard own
  | sendOne link evseId connectorId =>
    have done : m.sendStatusNotificationSingleConnector link evseId connectorId = .ok n := done
    refine told.modifyConnector ?_ done
    exact fun _ _ old => old.of_same rfl rfl
  | sendAll link =>
    cases done
    exact told.mapConnectors fun _ _ old => old.of_same rfl rfl
  | sendChanged link =>
    cases done
    exact told.mapConnectors fun _ _ old => old.of_same rfl rfl

/-- Everybody knows the effective statuses after any number of commands. -/
theorem Moves.told {allowed : Command → Prop} (moves : m.Moves allowed n) (told : m.Told) :
    n.Told :=
  moves.keeps (fun _ _ _ _ done before => before.apply done) told

/-- Everybody is told that everything is operative when the station is started. -/
theorem told_started (connectors : List ℕ) :
    (constructed connectors).triggerAllEffectiveAvailabilityChangedCallbacks.Told where
  latest := rfl
  distinct := List.isChain_singleton _
  current := rfl
  evses := by
    -- Every entry is new, and was triggered once, which told it that it is operative.
    intro e member
    obtain ⟨d, old, rfl⟩ := List.mem_map.mp member
    obtain ⟨count, _, rfl⟩ := List.mem_map.mp old
    refine ⟨⟨rfl, List.isChain_singleton _, ?_⟩, rfl⟩
    intro c member
    obtain ⟨b, there, rfl⟩ := List.mem_map.mp member
    rw [List.eq_of_mem_replicate there]
    exact ⟨rfl, List.isChain_singleton _, rfl⟩

end ComponentStateManager

end Told

/-! What the CSMS was told of the connectors. -/

section Shown

namespace ConnectorEntry

variable {c : ConnectorEntry} {link onlyIfChanged : Bool}

/-- The status notification sent last shows the status of the connector. -/
def Reported (c : ConnectorEntry) : Prop := c.reported.cached = c.individual.toConnectorStatus

/-- A car came to or left a reserved connector, which was not sent. -/
def ReservedUnseen (c : ConnectorEntry) : Prop :=
  c.individual.reserved ∧ c.individual.faulted = false ∧ c.individual.unavailable = false ∧
    (c.reported.cached = .occupied ∨ c.reported.cached = .reserved)

/-- The CSMS has the status of the connector, but for a car at a reserved one. -/
def Shown (c : ConnectorEntry) : Prop := c.Reported ∨ c.ReservedUnseen

/-- A notification that can be sent shows the status. -/
theorem reported_sendStatusNotification :
    (c.sendStatusNotification true onlyIfChanged).Reported :=
  Watch.refresh_cached

/-- A reserved connector without a fault that is not unavailable is reserved or occupied. -/
theorem toConnectorStatus_of_reserved {s : FullConnectorStatus} (reserved : s.reserved)
    (noFault : s.faulted = false) (available : s.unavailable = false) :
    s.toConnectorStatus = .occupied ∨ s.toConnectorStatus = .reserved := by
  simp only [FullConnectorStatus.toConnectorStatus, noFault, available, reserved]
  cases s.occupied <;> simp

/-- A car that comes or goes is shown, unless the connector is reserved. -/
theorem Shown.setOccupied (shown : c.Shown) (isOccupied : Bool) :
    (c.setOccupied true isOccupied).Shown := by
  -- A reserved connector sends no notification when a car comes or goes.
  unfold ConnectorEntry.setOccupied
  split
  · rename_i reserved
    rcases shown with same | unseen
    · cases noFault : c.individual.faulted with
      | true =>
        -- A fault hides the car, before and after.
        left
        simp_all [Reported, FullConnectorStatus.toConnectorStatus]
      | false =>
        cases available : c.individual.unavailable with
        -- So does being unavailable, which also comes before the car.
        | true =>
          left
          simp_all [Reported, FullConnectorStatus.toConnectorStatus]
        | false =>
          right
          refine ⟨reserved, noFault, available, ?_⟩
          rw [same]
          exact toConnectorStatus_of_reserved reserved noFault available
    · exact Or.inr unseen
  · exact Or.inl reported_sendStatusNotification

/-- An event at a connector is shown while there is a link, but for a car at a reserved one. -/
theorem Shown.submit (shown : c.Shown) (event : ComponentStateManager.ConnectorEvent) :
    (event.submit true c).Shown := by
  -- Every other event sends a notification after it has set its flag.
  cases event with
  | plugIn => exact shown.setOccupied true
  | plugOut => exact shown.setOccupied false
  | _ => exact Or.inl reported_sendStatusNotification

end ConnectorEntry

/-- Something holds of every connector of an EVSE. -/
def EvseEntry.Each (P : ConnectorEntry → Prop) (e : EvseEntry) : Prop := ∀ c ∈ e.connectors, P c

namespace ComponentStateManager

variable {P : ConnectorEntry → Prop} {m n : ComponentStateManager} {command : Command}
  {evseId connectorId : ℤ}

/-- Something holds of every connector. -/
def Each (P : ConnectorEntry → Prop) (m : ComponentStateManager) : Prop :=
  ∀ e ∈ m.evses, e.Each P

/-- The link that a command finds, if it sends anything. -/
def Command.link : Command → Bool
  | .submit link _ _ _ | .sendOne link _ _ | .sendAll link | .sendChanged link => link
  | .setCs _ | .setEvse _ _ | .setConnector _ _ _ => true

/-- Triggering the callbacks of an EVSE keeps what triggering those of a connector keeps. -/
theorem each_triggerCallbacks {cs : OperationalStatusEnum} {onlyIfChanged : Bool}
    {e : EvseEntry} (each : e.Each P)
    (trigger : ∀ evse only c, P c → P (c.triggerCallbacks evse only)) :
    (e.triggerCallbacks cs onlyIfChanged).Each P := by
  -- Only the connectors that are triggered change.
  dsimp only [EvseEntry.triggerCallbacks]
  split
  · intro c member
    obtain ⟨d, old, rfl⟩ := List.mem_map.mp member
    exact trigger _ _ d (each d old)
  · exact each

/-- Changing a connector keeps what the change keeps. -/
theorem Each.modifyConnector {change : OperationalStatusEnum → ConnectorEntry → ConnectorEntry}
    (each : m.Each P) (keeps : ∀ evse c, P c → P (change evse c))
    (done : m.modifyConnector evseId connectorId change = .ok n) : n.Each P := by
  rw [modifyConnector_ok done]
  refine forall_mem_modify each fun e _ (old : e.Each P) => ?_
  exact forall_mem_modify old fun c _ before => keeps _ c before

/-- Changing every connector keeps what the change keeps. -/
theorem Each.mapConnectors {change : ConnectorEntry → ConnectorEntry} (each : m.Each P)
    (keeps : ∀ c, P c → P (change c)) : (m.mapConnectors change).Each P := by
  intro e member c inner
  obtain ⟨d, old, rfl⟩ := List.mem_map.mp member
  obtain ⟨b, there, rfl⟩ := List.mem_map.mp inner
  exact keeps b (each d old b there)

/-- What operational statuses, events and notifications keep, every command keeps. -/
theorem Each.apply (each : m.Each P) (done : m.apply command = .ok n)
    (trigger : ∀ evse only c, P c → P (c.triggerCallbacks evse only))
    (set : ∀ status c, P c → P { c with individual.individualOperationalStatus := status })
    (submit : ∀ event c, P c → P (ConnectorEvent.submit command.link event c))
    (send : ∀ only c, P c → P (c.sendStatusNotification command.link only)) : n.Each P := by
  cases command with
  | setCs status =>
    cases done
    unfold setCsIndividualOperationalStatus triggerCallbacksCs
    split
    · intro e member
      obtain ⟨d, old, rfl⟩ := List.mem_map.mp member
      exact each_triggerCallbacks (each d old) trigger
    · exact each
  | setEvse evseId status =>
    rw [modifyEvse_ok done]
    exact forall_mem_modify each fun e _ (old : e.Each P) => each_triggerCallbacks old trigger
  | setConnector evseId connectorId status =>
    have done : m.setConnectorIndividualOperationalStatus evseId connectorId status = .ok n := done
    refine each.modifyConnector ?_ done
    exact fun evse c old => trigger evse true _ (set status c old)
  | submit link evseId connectorId event =>
    have done : m.submitEvent link evseId connectorId event = .ok n := done
    refine each.modifyConnector ?_ done
    exact fun _ c old => submit event c old
  | sendOne link evseId connectorId =>
    have done : m.sendStatusNotificationSingleConnector link evseId connectorId = .ok n := done
    refine each.modifyConnector ?_ done
    exact fun _ c old => send false c old
  | sendAll link =>
    cases done
    exact each.mapConnectors (send false)
  | sendChanged link =>
    cases done
    exact each.mapConnectors (send true)

end ComponentStateManager

end Shown

end EasyEvse.Availability
