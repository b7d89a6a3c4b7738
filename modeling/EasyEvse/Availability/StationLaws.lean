import EasyEvse.Availability.ChargingStation
import EasyEvse.Availability.ManagerLaws

/-! What each input makes the component state manager do. -/

namespace EasyEvse.Availability
open Transition
open ComponentStateManager (Command Moves)

namespace ChargingStation

variable {allowed more : Command → Prop} {s t u : ChargingStation} {command : Command}
  {evseId connectorId : ℤ} {request : ChangeAvailabilityRequest}

/-- The station gives the manager allowed commands, and does nothing else. -/
structure Commands (allowed : Command → Prop) (s t : ChargingStation) : Prop where
  moves : s.manager.Moves allowed t.manager
  frame : t = { s with manager := t.manager }

namespace Commands

/-- No command is given. -/
theorem refl (s : ChargingStation) : Commands allowed s s := ⟨.refl, rfl⟩

/-- One row of commands after the other. -/
theorem trans (first : Commands allowed s t) (second : Commands allowed t u) :
    Commands allowed s u where
  moves := first.moves.trans second.moves
  frame := by rw [second.frame, first.frame]

/-- Commands stay allowed when more is allowed. -/
theorem mono (commands : Commands allowed s t)
    (weaker : ∀ command, allowed command → more command) : Commands more s t :=
  ⟨commands.moves.mono weaker, commands.frame⟩

/-- One command is given. -/
theorem single (may : allowed command) (done : s.manage (·.apply command) = .ok t) :
    Commands allowed s t := by
  -- What the manager does is the command, and the rest of the station is put back around it.
  obtain ⟨manager, applied, rest⟩ := returns_of_bind done
  cases rest
  exact ⟨.single may applied, rfl⟩

end Commands

/-- The command that a request comes to. -/
def ofRequest (request : ChangeAvailabilityRequest) : Command :=
  match request.evse with
  | none => .setCs request.operationalStatus
  | some { id, connectorId := none } => .setEvse id request.operationalStatus
  | some { id, connectorId := some connectorId } =>
    .setConnector id connectorId request.operationalStatus

/-- Executing a request is one command. -/
theorem commands_execute (done : s.executeChangeAvailabilityRequest request = .ok t) :
    Commands (· = ofRequest request) s t := by
  -- Each kind of request calls the function of the manager that its command stands for.
  refine .single rfl (Eq.trans ?_ done)
  simp only [executeChangeAvailabilityRequest]
  congr 1
  funext m
  rcases request with ⟨status, _ | ⟨id, _ | connectorId⟩⟩ <;> rfl

/-- Making an EVSE unavailable makes its connectors inoperative. -/
theorem commands_unavailable (done : s.setEvseConnectorsUnavailable evseId = .ok t) :
    Commands (fun command => ∃ c, command = .setConnector evseId c .inoperative) s t := by
  -- Every round of the loop is one more command of the same kind.
  obtain ⟨ids, _, loop⟩ := returns_of_bind done
  refine foldlM_keeps (P := Commands _ s) ?_ (.refl s) loop
  intro connectorId _ u v before round
  exact before.trans (.single ⟨connectorId, rfl⟩ round)

/-- What is made inoperative to prevent transactions has none. -/
theorem commands_prevent (done : s.preventTransactions evseId = .ok t) :
    Commands (fun command => (∃ e, command = .setEvse e .inoperative ∧ s.transaction e = none) ∨
      ∃ c, command = .setConnector evseId c .inoperative ∧ s.transaction evseId ≠ some c) s t := by
  unfold preventTransactions at done
  -- The station goes over its EVSEs, and an EVSE over its connectors.
  split at done
  · refine foldlM_keeps (P := Commands _ s) ?_ (.refl s) done
    intro id _ u v before round
    split at round
    · cases round; exact before
    · rename_i idle
      -- The transactions are looked up in a state with the transactions of the first one.
      have idle : s.transaction id = none := by
        rw [before.frame] at idle
        simpa [hasActiveTransaction] using idle
      exact before.trans (.single (.inl ⟨id, rfl, idle⟩) round)
  · obtain ⟨ids, _, loop⟩ := returns_of_bind done
    refine foldlM_keeps (P := Commands _ s) ?_ (.refl s) loop
    intro id _ u v before round
    split at round
    · cases round; exact before
    · rename_i idle
      -- An EVSE may charge at one connector while its others are made inoperative.
      have idle : s.transaction evseId ≠ some id := by
        rw [before.frame] at idle
        simpa [hasActiveTransactionAt] using idle
      exact before.trans (.single (.inr ⟨id, rfl, idle⟩) round)

/-- Restoring the connectors makes nothing inoperative. -/
theorem commands_restore (done : s.restoreAllConnectorStates = .ok t) :
    Commands (fun command => ∃ e c, command = .setConnector e c .operative) s t := by
  -- The loop over the EVSEs contains one over the connectors of each of them.
  refine foldlM_keeps (P := Commands _ s) ?_ (.refl s) done
  intro e _ u v before round
  obtain ⟨ids, _, loop⟩ := returns_of_bind round
  refine before.trans (foldlM_keeps (P := Commands _ u) ?_ (.refl u) loop)
  intro c _ x y before round
  exact before.trans (.single ⟨e, c, rfl⟩ round)

/-- The end of a firmware update makes nothing inoperative. -/
theorem commands_restoreAtEnd {status : FirmwareStatusEnum} (done : s.restoreAtEnd status = .ok t) :
    Commands (fun command => ∃ e c, command = .setConnector e c .operative) s t := by
  unfold restoreAtEnd at done
  split at done
  · exact commands_restore done
  · cases done; exact .refl s

/-- A command leaves alone what has a transaction, and finds the link as it is. -/
def Permits (transaction : ℤ → Option ℤ) (ids : List ℤ) (link : Bool) : Command → Prop
  | .setCs .inoperative => ∀ id ∈ ids, transaction id = none
  | .setEvse id .inoperative => transaction id = none
  | .setConnector id connectorId .inoperative => transaction id ≠ some connectorId
  | .setCs .operative | .setEvse _ .operative | .setConnector _ _ .operative => True
  | .submit used _ _ _ | .sendOne used _ _ | .sendAll used | .sendChanged used => used = link

/-- The transactions and the link stay as they are, and the manager respects them. -/
structure Keeps (s t : ChargingStation) : Prop where
  moves : s.manager.Moves (Permits s.transaction s.evseIds s.link) t.manager
  transaction : t.transaction = s.transaction
  link : t.link = s.link

namespace Keeps

/-- Nothing happens. -/
theorem refl (s : ChargingStation) : Keeps s s := ⟨.refl, rfl, rfl⟩

/-- The EVSEs stay the same. -/
theorem evseIds (keeps : Keeps s t) : t.evseIds = s.evseIds := by
  simp only [ChargingStation.evseIds, Moves.length keeps.moves]

/-- One change after the other. -/
theorem trans (first : Keeps s t) (second : Keeps t u) : Keeps s u where
  moves := by
    -- What the second part respects is what the first part has left as it was.
    have moves := second.moves
    rw [first.transaction, first.evseIds, first.link] at moves
    exact Relation.ReflTransGen.trans first.moves moves
  transaction := second.transaction.trans first.transaction
  link := second.link.trans first.link

/-- It does not matter what else is changed first. -/
theorem after (keeps : Keeps u t) (manager : u.manager = s.manager)
    (transaction : u.transaction = s.transaction) (link : u.link = s.link) : Keeps s t := by
  have first : Keeps s u := ⟨by rw [manager]; exact .refl, transaction, link⟩
  exact first.trans keeps

end Keeps

/-- Commands that respect the transactions and the link keep them. -/
theorem Commands.keeps (commands : Commands allowed s t)
    (permitted : ∀ command, allowed command → Permits s.transaction s.evseIds s.link command) :
    Keeps s t where
  moves := commands.moves.mono permitted
  transaction := by rw [commands.frame]
  link := by rw [commands.frame]; rfl

/-- What has no transaction may be made inoperative. -/
theorem permits_ofRequest {link : Bool} (idle : s.anyTransactionActive request.evse = .ok false) :
    Permits s.transaction s.evseIds link (ofRequest request) := by
  -- Only setting something to inoperative can be forbidden.
  rcases request with ⟨_ | _, _ | ⟨id, target⟩⟩
  · -- The whole station is idle.
    intro id member
    have none := List.any_eq_false.mp (Except.ok.inj idle) id member
    simpa [hasActiveTransaction] using none
  -- An EVSE without a transaction has none at any of its connectors.
  · obtain ⟨_, _, rest⟩ := returns_of_bind idle
    have none : s.transaction id = none := by
      have inactive := Except.ok.inj rest
      simpa [hasActiveTransaction] using inactive
    cases target with
    | none => exact none
    | some connectorId =>
      intro same
      rw [none] at same
      cases same
  · trivial
  · cases target <;> trivial

/-- A change that waits is made if nothing it waits for is active, and stays otherwise. -/
theorem scheduled_cases (done : s.handleScheduledChangeAvailabilityRequests evseId = .ok t) :
    (t = s ∧ ∀ change, s.scheduledChangeAvailabilityRequests evseId = some change →
      s.anyTransactionActive change.request.evse = .ok true) ∨
    ∃ change u, s.scheduledChangeAvailabilityRequests evseId = some change ∧
      s.anyTransactionActive change.request.evse = .ok false ∧
      s.executeChangeAvailabilityRequest change.request = .ok u ∧
      (u.schedule evseId none).reportAllUnavailable = .ok t := by
  unfold handleScheduledChangeAvailabilityRequests at done
  -- Nothing is scheduled, or a transaction is active, or the change is made.
  split at done
  · rename_i nothing
    cases done
    exact .inl ⟨rfl, fun change found => by simp [nothing] at found⟩
  · rename_i change found
    obtain ⟨active, looked, rest⟩ := returns_of_bind done
    cases active with
    | true =>
      cases rest
      refine .inl ⟨rfl, fun other same => ?_⟩
      rw [found] at same
      cases same
      exact looked
    | false =>
      obtain ⟨u, executed, reported⟩ := returns_of_bind rest
      exact .inr ⟨change, u, found, looked, executed, reported⟩

/-- A report changes nothing but what is put out. -/
theorem reportAllUnavailable_ok (done : s.reportAllUnavailable = .ok t) :
    t = s ∨ t = s.output .allConnectorsUnavailableCallback := by
  -- The callback is called if nothing is operative any more.
  obtain ⟨all, _, rest⟩ := returns_of_bind done
  cases all with
  | true => cases rest; exact .inr rfl
  | false => cases rest; exact .inl rfl

/-- A report changes nothing that the manager is about. -/
theorem keeps_report (done : s.reportAllUnavailable = .ok t) : Keeps s t := by
  rcases reportAllUnavailable_ok done with rfl | rfl
  · exact .refl _
  · exact ⟨.refl, rfl, rfl⟩

/-- Making the changes that wait respects the transactions that go on. -/
theorem keeps_scheduled (done : s.handleScheduledChangeAvailabilityRequests evseId = .ok t) :
    Keeps s t := by
  rcases scheduled_cases done with ⟨rfl, _⟩ | ⟨change, u, _, idle, executed, reported⟩
  · exact .refl t
  · have made : Keeps s u := (commands_execute executed).keeps fun command same =>
      same ▸ permits_ofRequest idle
    -- That the change waits no longer is nothing to the manager.
    have scheduled : Keeps u (u.schedule evseId none) := ⟨.refl, rfl, rfl⟩
    exact (made.trans scheduled).trans (keeps_report reported)

/-- Making an EVSE unavailable respects the transactions if it has none. -/
theorem keeps_unavailable (idle : s.transaction evseId = none)
    (done : s.setEvseConnectorsUnavailable evseId = .ok t) : Keeps s t := by
  refine (commands_unavailable done).keeps ?_
  -- A connector that is made inoperative belongs to the EVSE, which is idle.
  rintro _ ⟨connectorId, rfl⟩ same
  rw [idle] at same
  cases same

/-- Resetting what waited respects the transactions that go on. -/
theorem keeps_resetIfScheduled (idle : s.transaction evseId = none)
    (done : s.resetIfScheduled evseId = .ok t) : Keeps s t := by
  unfold resetIfScheduled at done
  -- Only a reset of the whole station sets statuses, while other EVSEs still charge.
  split at done
  · cases done; exact .refl s
  · split at done
    · split at done
      · exact keeps_unavailable idle done
      · cases done; exact ⟨.refl, rfl, rfl⟩
    · split at done
      · cases done; exact ⟨.refl, rfl, rfl⟩
      · cases done; exact .refl s

/-- A request for a change keeps what has a transaction as it is. -/
theorem keeps_changeAvailability (done : s.handleChangeAvailabilityReq request = .ok t) :
    Keeps s t := by
  -- A request for something the station has not is rejected before anything is done.
  obtain ⟨valid, _, rest⟩ := returns_of_bind done
  cases valid with
  | false => cases rest; exact ⟨.refl, rfl, rfl⟩
  | true =>
    obtain ⟨active, looked, rest⟩ := returns_of_bind rest
    obtain ⟨already, _, rest⟩ := returns_of_bind rest
    dsimp only at rest
    split at rest
    -- While a transaction is active, nothing is executed that is accepted without waiting.
    · cases active with
      | true => cases rest; exact ⟨.refl, rfl, rfl⟩
      | false =>
        -- The change is made at once, because nothing addressed has a transaction.
        refine ((commands_execute rest).keeps fun command same => ?_).after rfl rfl rfl
        subst same
        exact permits_ofRequest looked
    -- What cannot be done at once is prepared by preventing new transactions.
    · refine ((commands_prevent rest).keeps ?_).after rfl rfl rfl
      rintro _ (⟨id, rfl, idle⟩ | ⟨connectorId, rfl, idle⟩)
      · exact idle
      · exact idle

/-- A loop keeps what every round of it keeps. -/
theorem keeps_loop {l : List ℤ} {f : ChargingStation → ℤ → Except OutOfRange ChargingStation}
    (round : ∀ id ∈ l, ∀ u v, Keeps s u → f u id = .ok v → Keeps u v)
    (done : l.foldlM f s = .ok t) : Keeps s t :=
  foldlM_keeps (P := Keeps s)
    (fun id member u v before moved => before.trans (round id member u v before moved))
    (.refl s) done

/-- What is put out is nothing to the manager. -/
theorem keeps_outputs (l : List ℤ) (put : ℤ → Output) (s : ChargingStation) :
    Keeps s (l.foldl (fun s id => s.output (put id)) s) := by
  -- Each output changes the list of outputs only, so the rest is as before.
  induction l generalizing s with
  | nil => exact .refl s
  | cons id l ih => exact (ih (s.output (put id))).after rfl rfl rfl

/-- A request for a reset makes only those EVSEs unavailable that have no transaction. -/
theorem idle_of_mem_resetEvses {id : Option ℤ} {other : ℤ} (member : other ∈ (s.resetEvses id).2) :
    s.transaction other = none := by
  -- The second list is what is left of all EVSEs without those that charge.
  unfold resetEvses at member
  split at member
  · cases member
  · rw [List.partition_eq_filter_filter] at member
    simpa [hasActiveTransaction] using (List.mem_filter.mp member).2

/-- A request for a reset keeps what has a transaction as it is. -/
theorem keeps_reset {id : Option ℤ} {type : ResetEnum} {isResetAllowed : Bool}
    (done : s.handleResetReq id type isResetAllowed = .ok t) : Keeps s t := by
  -- A reset that is not allowed is rejected, and nothing else happens.
  obtain ⟨_, _, rest⟩ := returns_of_bind done
  dsimp only at rest
  split at rest
  · cases rest; exact ⟨.refl, rfl, rfl⟩
  · cases type with
    | immediate =>
      -- An immediate reset asks the application to stop the transactions, and does not wait.
      cases rest
      have asked := (keeps_outputs (s.resetEvses id).1 .stopTransactionCallback
        (s.output (.resetResponse .accepted))).after (s := s) rfl rfl rfl
      exact ⟨asked.moves, asked.transaction, asked.link⟩
    | onIdle =>
      dsimp only at rest
      -- A reset on idle either is done at once or makes what is idle unavailable.
      split at rest
      · cases rest; exact ⟨.refl, rfl, rfl⟩
      · refine (keeps_loop (fun other member u v before round => ?_) rest).after rfl rfl rfl
        refine keeps_unavailable ?_ round
        rw [before.transaction]
        exact idle_of_mem_resetEvses member

/-- Preparing a firmware update keeps what has a transaction as it is. -/
theorem keeps_unavailableForUpdate
    (done : s.changeAllConnectorsToUnavailableForFirmwareUpdate = .ok t) : Keeps s t := by
  unfold changeAllConnectorsToUnavailableForFirmwareUpdate at done
  obtain ⟨active, looked, rest⟩ := returns_of_bind done
  cases active with
  | true =>
    -- The EVSEs that charge are scheduled, and the others made unavailable at once.
    refine keeps_loop ?_ rest
    intro id _ u v before round
    split at round
    · cases round; exact ⟨.refl, rfl, rfl⟩
    · rename_i idle
      exact keeps_unavailable (by simpa [hasActiveTransaction] using idle) round
  | false =>
    obtain ⟨u, loop, reported⟩ := returns_of_bind rest
    refine Keeps.trans (keeps_loop ?_ loop) (keeps_report reported)
    intro id member v w before round
    -- There is no transaction at all, and the loop does not start one.
    have none := List.any_eq_false.mp (Except.ok.inj looked) id member
    refine keeps_unavailable ?_ round
    rw [before.transaction]
    simpa [hasActiveTransaction] using none

/-- What a firmware update does keeps what has a transaction as it is. -/
theorem keeps_firmwareUpdateStatus {requestId : ℤ} {status : FirmwareStatusEnum}
    (done : s.onFirmwareUpdateStatusNotification requestId status = .ok t) : Keeps s t := by
  unfold onFirmwareUpdateStatusNotification at done
  -- A status that is known already is ignored.
  split at done
  · cases done; exact .refl s
  · obtain ⟨u, restored, prepared⟩ := returns_of_bind done
    have restores : Keeps s u := by
      refine ((commands_restoreAtEnd restored).keeps ?_).after rfl rfl rfl
      rintro _ ⟨id, connectorId, rfl⟩
      trivial
    refine restores.trans ?_
    -- Only before an installation the connectors are taken out of service.
    unfold prepareInstallation at prepared
    split at prepared
    · split at prepared
      · exact (keeps_unavailableForUpdate prepared).after rfl rfl rfl
      · exact keeps_unavailableForUpdate prepared
    · cases prepared; exact .refl _

/-- The end of a transaction keeps the others as they are. -/
theorem finished_cases (done : s.onTransactionFinished evseId = .ok t) :
    (s.transaction evseId = none ∧ t = s) ∨ (s.transaction evseId ≠ none ∧
      Keeps { s with transaction := Function.update s.transaction evseId none } t) := by
  -- The EVSE is looked up first, and a missing one throws.
  obtain ⟨_, _, rest⟩ := returns_of_bind done
  split at rest
  · rename_i inactive
    cases rest
    exact .inl ⟨by simpa [hasActiveTransaction] using inactive, rfl⟩
  · rename_i active
    obtain ⟨u, reset, rest⟩ := returns_of_bind rest
    obtain ⟨v, first, second⟩ := returns_of_bind rest
    -- The transaction is released before anything that waits for it is done.
    have idle : Function.update s.transaction evseId none evseId = none := by simp
    refine .inr ⟨by simpa [hasActiveTransaction, Option.isSome_iff_ne_none] using active, ?_⟩
    exact ((keeps_resetIfScheduled idle reset).trans (keeps_scheduled first)).trans
      (keeps_scheduled second)

/-- A transaction is opened, and nothing else is done. -/
theorem started_ok (done : s.onTransactionStarted evseId connectorId = .ok t) :
    t = { s with transaction := Function.update s.transaction evseId (some connectorId) } := by
  obtain ⟨_, _, rest⟩ := returns_of_bind done
  cases rest
  rfl

/-- An event at a connector, and a notification that is asked for, are one command. -/
theorem keeps_command (done : s.manage (·.apply command) = .ok t)
    (permitted : Permits s.transaction s.evseIds s.link command) : Keeps s t :=
  (Commands.single rfl done).keeps fun _ same => same ▸ permitted

/-- Whatever happens, the commands respect the transactions and the link there are then. -/
theorem handle_moves {input : Input} (done : s.handle input = .ok t) :
    s.manager.Moves (Permits t.transaction s.evseIds t.link) t.manager := by
  have ofKeeps (keeps : Keeps s t) :
      s.manager.Moves (Permits t.transaction s.evseIds t.link) t.manager := by
    rw [keeps.transaction, keeps.link]
    exact keeps.moves
  -- Only a transaction that begins or ends changes what has to be respected.
  cases input with
  | changeAvailability request => exact ofKeeps (keeps_changeAvailability done)
  | reset id type isResetAllowed => exact ofKeeps (keeps_reset done)
  | firmwareUpdateStatus requestId status => exact ofKeeps (keeps_firmwareUpdateStatus done)
  | triggerStatusNotification evseId connectorId =>
    have done : s.manage (·.apply (.sendOne s.link evseId connectorId)) = .ok t := done
    exact ofKeeps (keeps_command done rfl)
  | connectorEvent evseId connectorId event =>
    have done : s.manage (·.apply (.submit s.link evseId connectorId event)) = .ok t := done
    exact ofKeeps (keeps_command done rfl)
  | updateFirmware signed => cases done; exact .refl
  | bootNotificationResponse status => cases done; exact .refl
  | transactionStarted evseId connectorId => rw [started_ok done]; exact .refl
  | transactionFinished evseId =>
    rcases finished_cases done with ⟨_, rfl⟩ | ⟨_, keeps⟩
    · exact .refl
    · rw [keeps.transaction, keeps.link]
      exact keeps.moves
  | connected now =>
    cases done
    -- A new connection sends all statuses after a long time offline, and else what changed.
    simp only [websocketConnectedCallback]
    split
    · split
      · exact @ComponentStateManager.Moves.single _ _ _ (.sendAll _) rfl rfl
      · exact @ComponentStateManager.Moves.single _ _ _ (.sendChanged _) rfl rfl
    · exact .refl
  | disconnected now => cases done; exact .refl

/-- The connection is neither lost nor is the station refused by the CSMS. -/
def Input.keepsLink : Input → Bool
  | .disconnected _ | .bootNotificationResponse .pending | .bootNotificationResponse .rejected =>
    false
  | _ => true

/-- A link that nothing ends stays. -/
theorem link_handle {input : Input} (keepsLink : input.keepsLink) (linked : s.link = true)
    (done : s.handle input = .ok t) : t.link = true := by
  obtain ⟨connected, accepted⟩ : s.websocketConnected ∧ s.registrationStatus = .accepted := by
    simpa [link] using linked
  have ofKeeps (keeps : Keeps s t) : t.link = true := keeps.link.trans linked
  cases input with
  | changeAvailability request => exact ofKeeps (keeps_changeAvailability done)
  | reset id type isResetAllowed => exact ofKeeps (keeps_reset done)
  | firmwareUpdateStatus requestId status => exact ofKeeps (keeps_firmwareUpdateStatus done)
  | triggerStatusNotification evseId connectorId =>
    have done : s.manage (·.apply (.sendOne s.link evseId connectorId)) = .ok t := done
    exact ofKeeps (keeps_command done rfl)
  | connectorEvent evseId connectorId event =>
    have done : s.manage (·.apply (.submit s.link evseId connectorId event)) = .ok t := done
    exact ofKeeps (keeps_command done rfl)
  | updateFirmware signed => cases done; exact linked
  | transactionStarted evseId connectorId => rw [started_ok done]; exact linked
  | transactionFinished evseId =>
    rcases finished_cases done with ⟨_, rfl⟩ | ⟨_, keeps⟩
    · exact linked
    · exact keeps.link.trans linked
  | bootNotificationResponse status =>
    cases done
    cases status with
    | accepted => simp [link, connected]
    | pending | rejected => cases keepsLink
  | connected now =>
    cases done
    simp only [link, websocketConnectedCallback]
    split <;> simp [accepted]
  | disconnected => cases keepsLink

end ChargingStation

end EasyEvse.Availability
