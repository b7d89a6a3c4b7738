import EasyEvse.Availability.StationLaws

/-! In every run the callbacks know what is operative, and the CSMS knows what is shown of it. -/

namespace EasyEvse.Availability
open Transition
open ComponentStateManager (Command Each)

namespace ChargingStation

variable {s t : ChargingStation} {input : Input} {is : List Input} {connectors : List ℕ}

/-- Something is done about every input. -/
theorem step_total (s : ChargingStation) (input : Input) : ∃ t, step s input = some t := by
  unfold step
  split
  · exact ⟨_, rfl⟩
  · exact ⟨s, rfl⟩

/-- Every sequence of inputs is a run. -/
theorem run_total (s : ChargingStation) (is : List Input) : ∃ t, run step s is = some t := by
  -- No input ends the run, so that the induction only has to go on.
  induction is generalizing s with
  | nil => exact ⟨s, rfl⟩
  | cons input is ih =>
    obtain ⟨next, moved⟩ := step_total s input
    obtain ⟨t, ran⟩ := ih next
    exact ⟨t, by simp [moved, ran]⟩

/-- An input is handled, or it throws and nothing changes. -/
theorem step_cases (moved : step s input = some t) :
    s.handle input = .ok t ∨ t = s ∧ ∃ error, s.handle input = .error error := by
  unfold step at moved
  split at moved
  · rename_i next handled
    cases moved
    exact .inl handled
  · rename_i error handled
    cases moved
    exact .inr ⟨rfl, error, handled⟩

/-- The manager moves by commands that respect the transactions and the link. -/
theorem step_moves (moved : step s input = some t) :
    s.manager.Moves (Permits t.transaction s.evseIds t.link) t.manager := by
  rcases step_cases moved with handled | ⟨rfl, _⟩
  · exact handle_moves handled
  · exact .refl

/-- In every run every callback was told the effective status last, and no status twice. -/
theorem callbacks_told (connectors : List ℕ) (is : List Input) :
    ∃ t, run step (started connectors) is = some t ∧ t.manager.Told := by
  obtain ⟨t, ran⟩ := run_total (started connectors) is
  refine ⟨t, ran, ?_⟩
  -- Each step is a row of commands, and every command keeps everybody informed.
  exact @run_invariant _ _ _ _ _ _ (fun s => s.manager.Told)
    (fun told moved => (step_moves moved).told told) (ComponentStateManager.told_started connectors)
    ran

/-- What is remembered as reported of a connector is what was sent of it last. -/
def Remembered (c : ConnectorEntry) : Prop := c.reported.Honest .available

/-- A car that comes or goes changes what is remembered as it is sent. -/
theorem remembered_setOccupied {c : ConnectorEntry} (old : Remembered c) (link isOccupied : Bool) :
    Remembered (c.setOccupied link isOccupied) := by
  -- At a reserved connector nothing is sent, and what is remembered stays.
  unfold ConnectorEntry.setOccupied
  split
  · exact old
  · exact Watch.Honest.refresh old

/-- Commands change what is remembered as it is sent. -/
theorem remembered_moves {allowed : Command → Prop} {m n : ComponentStateManager}
    (moves : m.Moves allowed n) (each : m.Each Remembered) : n.Each Remembered := by
  -- Commands for operational statuses send nothing, and the others remember what they send.
  refine moves.keeps (P := Each Remembered) ?_ each
  intro command m n _ done each
  refine each.apply done (fun _ _ _ old => old) (fun _ _ old => old) ?_ ?_
  · intro event c old
    cases event with
    | plugIn | plugOut => exact remembered_setOccupied old _ _
    | _ => exact Watch.Honest.refresh old
  · exact fun _ _ old => Watch.Honest.refresh old

/-- Commands that find a link keep the CSMS informed. -/
theorem shown_moves {transaction : ℤ → Option ℤ} {ids : List ℤ} {m n : ComponentStateManager}
    (moves : m.Moves (Permits transaction ids true) n) (each : m.Each ConnectorEntry.Shown) :
    n.Each ConnectorEntry.Shown := by
  refine moves.keeps (P := Each ConnectorEntry.Shown) ?_ each
  intro command m n permitted done each
  -- The commands that send something find the link that is there.
  have linked : command.link = true := by
    cases command with
    | setCs | setEvse | setConnector => rfl
    | submit | sendOne | sendAll | sendChanged => exact permitted
  refine each.apply done (fun _ _ _ old => old) (fun _ _ old => old) ?_ ?_
  · rw [linked]
    exact fun event c old => old.submit event
  · rw [linked]
    exact fun _ _ _ => .inl ConnectorEntry.reported_sendStatusNotification

/-- A link that nothing ends stays. -/
theorem link_step (keepsLink : input.keepsLink) (linked : s.link = true)
    (moved : step s input = some t) : t.link = true := by
  rcases step_cases moved with handled | ⟨rfl, _⟩
  · exact link_handle keepsLink linked handled
  · exact linked

/-- A reconnection after a loss sends what the CSMS has to know. -/
theorem websocketConnectedCallback_eq {now : ℕ} (accepted : s.registrationStatus = .accepted)
    (lost : s.timeDisconnected ≠ 0) :
    s.websocketConnectedCallback now = { s with
      websocketConnected := true
      timeDisconnected := 0
      manager := if offlineThreshold < now - s.timeDisconnected then
          s.manager.sendStatusNotificationAllConnectors true
        else s.manager.sendStatusNotificationChangedConnectors true } := by
  simp [websocketConnectedCallback, link, accepted, lost]

/-- Sending a status notification for every connector leaves the CSMS with every status. -/
theorem reported_mapConnectors (m : ComponentStateManager) (onlyIfChanged : Bool) :
    (m.mapConnectors (·.sendStatusNotification true onlyIfChanged)).Each
      ConnectorEntry.Reported := by
  -- Every connector was just sent a notification, as the link is there.
  intro e member c inner
  obtain ⟨d, _, rfl⟩ := List.mem_map.mp member
  obtain ⟨b, _, rfl⟩ := List.mem_map.mp inner
  exact ConnectorEntry.reported_sendStatusNotification

/-- A reconnection after a loss leaves the CSMS with every status. -/
theorem reported_connected (now : ℕ) (accepted : s.registrationStatus = .accepted)
    (lost : s.timeDisconnected ≠ 0) :
    (s.websocketConnectedCallback now).manager.Each ConnectorEntry.Reported ∧
      (s.websocketConnectedCallback now).link = true := by
  rw [websocketConnectedCallback_eq accepted lost]
  refine ⟨?_, by simp [link, accepted]⟩
  -- A long time offline and a short one differ in what is sent although it did not change.
  dsimp only
  split
  · exact reported_mapConnectors s.manager false
  · exact reported_mapConnectors s.manager true

/-- Nothing was sent of a connector that is available in the beginning. -/
theorem remembered_started (connectors : List ℕ) :
    (started connectors).manager.Each Remembered := by
  -- In the beginning every connector is remembered as available, and nothing was sent.
  have constructed : (ComponentStateManager.constructed connectors).Each Remembered := by
    intro e member c inner
    obtain ⟨count, _, rfl⟩ := List.mem_map.mp member
    rw [List.eq_of_mem_replicate inner]
    exact rfl
  intro e member
  obtain ⟨d, old, rfl⟩ := List.mem_map.mp member
  exact ComponentStateManager.each_triggerCallbacks (constructed d old) fun _ _ _ old => old

/-- After a reconnection the CSMS has the status of every connector, as it was sent last, except
that it may miss a car at a reserved connector, as long as the link lasts. -/
theorem connectors_shown {before : List Input} (now : ℕ)
    (ran : run step (started connectors) before = some s)
    (accepted : s.registrationStatus = .accepted) (lost : s.timeDisconnected ≠ 0)
    (keepsLink : ∀ input ∈ is, input.keepsLink) :
    ∃ t, run step s (.connected now :: is) = some t ∧
      t.manager.Each fun c => Remembered c ∧ c.Shown := by
  obtain ⟨t, rest⟩ := run_total s (.connected now :: is)
  refine ⟨t, rest, ?_⟩
  -- What is remembered is right in every state, with a link and without.
  have remembered : t.manager.Each Remembered :=
    @run_invariant _ _ _ _ _ _ (fun s => s.manager.Each Remembered)
      (fun old moved => remembered_moves (step_moves moved) old) (remembered_started connectors)
      (run_trans ran rest)
  have shown : t.manager.Each ConnectorEntry.Shown := by
    -- The reconnection shows everything, and what follows keeps it shown.
    obtain ⟨reported, linked⟩ := reported_connected now accepted lost
    have after : run step (s.websocketConnectedCallback now) is = some t := rest
    refine (@run_guarded_invariant _ _ _ _ _ _
      (fun u => u.manager.Each ConnectorEntry.Shown ∧ u.link = true) _ ?_
      ⟨fun e member c inner => .inl (reported e member c inner), linked⟩
      (meets_of_forall keepsLink) after).1
    -- The link lasts, so that every command that sends something finds it.
    intro u input v old allowed moved
    have linked := link_step allowed old.2 moved
    have moves := step_moves moved
    rw [linked] at moves
    exact ⟨shown_moves moves old.1, linked⟩
  exact fun e member c inner => ⟨remembered e member c inner, shown e member c inner⟩

/-- That a car left a reserved connector is what the CSMS misses. -/
theorem connectors_shown_reserved : ∃ s t,
    run step (started [1]) [.bootNotificationResponse .accepted, .disconnected 5] = some s ∧
      run step s [.connected 9, .connectorEvent 1 1 .plugIn, .connectorEvent 1 1 .reserve,
        .connectorEvent 1 1 .plugOut] = some t ∧
      t.manager.Each fun c => Remembered c ∧ c.Shown := by
  have ran : run step (started [1]) [.bootNotificationResponse .accepted, .disconnected 5] =
    some _ := rfl
  have keep : ∀ input ∈ [Input.connectorEvent 1 1 .plugIn, .connectorEvent 1 1 .reserve,
    .connectorEvent 1 1 .plugOut], input.keepsLink := by decide
  obtain ⟨t, rest, shown⟩ := connectors_shown 9 ran rfl (by decide) keep
  exact ⟨_, t, ran, rest, shown⟩

end ChargingStation

end EasyEvse.Availability
