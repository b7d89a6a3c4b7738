import EasyEvse.Ocpp.TaskLaws

/-! Disconnections and periods without a connection: which transactions are left open. -/

namespace EasyEvse.Ocpp

open ChargePointCall Transition

variable {t u : OcppTask} {op : TaskOp} {n : ℕ}

/-- The steps that do not drop the disconnection of a vehicle whose session is running. -/
def HeedsDisconnection (t : OcppTask) : TaskOp → Prop
  | .wait => ¬ (t.connectionState ≠ .connected ∧ .evDisconnected ∈ t.eventBits ∧
      t.session.transactionHandler ≠ none)
  | _ => True

instance : ∀ t op, Decidable (HeedsDisconnection t op)
  | t, .wait => inferInstanceAs (Decidable (¬ (t.connectionState ≠ _ ∧ _ ∧ _)))
  | _, .setEvent _ | _, .handle _ | _, .response _ _ | _, .meterValue _ | _, .getAuthResponse _ _
  | _, .stopTransaction _ _ | _, .remoteStartTransaction _ _ | _, .connectionStateChanged _ =>
    inferInstanceAs (Decidable True)

/-- An event that was posted and is neither handled nor dropped. -/
def Pending (t : OcppTask) (event : OcppEvent) : Prop :=
  event ∈ t.eventBits ∨ event ∈ t.batch

/-- How many transactions were started so far. -/
def OcppTask.started (t : OcppTask) : ℕ :=
  t.session.chargePoint.calls.countP fun call => call.Starts

/-- How many transactions were finished so far. -/
def OcppTask.finished (t : OcppTask) : ℕ :=
  t.session.chargePoint.calls.countP fun call => call.Finishes

/-- No call both starts and finishes a transaction. -/
theorem starts_not_finishes (call : ChargePointCall) : call.Starts → ¬ call.Finishes := by
  intro starts
  cases call <;> simp_all [Starts, Finishes]

/-- Without a session nothing is left open. -/
theorem TaskSound.all_finished (sound : TaskSound t) (idle : t.session.transactionHandler = none) :
    t.started = t.finished := by
  simpa [OcppTask.started, OcppTask.finished] using
    (sound.session.idle idle).count starts_not_finishes

/-- A handler is there exactly while the outline is running. -/
theorem running_iff (s : Session) : s.outline.running = false ↔ s.transactionHandler = none := by
  simp [Session.outline]

/-- Handling a disconnection leaves no session. -/
theorem disconnected_idle {i : HandlerInputs} {s s' : Session} (sound : s.Sound)
    (handled : s.handle i .evDisconnected = .ok s') : s'.transactionHandler = none := by
  rw [← running_iff, (handle_sound sound handled).2]
  rfl

/-- Without a connection no event starts a session. -/
theorem stays_idle {i : HandlerInputs} {s s' : Session} {event : OcppEvent} (sound : s.Sound)
    (handled : s.handle i event = .ok s') (other : event ≠ .evConnected)
    (idle : s.transactionHandler = none) : s'.transactionHandler = none := by
  rw [← running_iff] at idle ⊢
  rw [(handle_sound sound handled).2]
  -- Only a connection makes the outline run.
  cases event <;> simp_all [Outline.handle]

/-- The disconnection is still pending, or the first transactions are all finished. -/
structure Settles (n : ℕ) (t : OcppTask) : Prop where
  sound : TaskSound t
  started : n ≤ t.started
  settled : Pending t .evDisconnected ∨ n ≤ t.finished

/-- No step that heeds disconnections loses sight of the transactions to be finished. -/
theorem Settles.step (settles : Settles n t) (heeds : HeedsDisconnection t op)
    (moved : taskStep t op = some u) : Settles n u := by
  obtain ⟨sound, started, settled⟩ := settles
  have move := taskStep_moves moved
  have sound' := move.sound sound
  have started' : n ≤ u.started := started.trans (move.calls.sublist.countP_le)
  have finished' : t.finished ≤ u.finished := move.calls.sublist.countP_le
  refine ⟨sound', started', ?_⟩
  -- Only a pending disconnection can be lost.
  rcases settled with pending | settled
  · cases move with
    | @handles i event next result bits =>
      by_cases disconnects : event = .evDisconnected
      · subst disconnects
        have idle := disconnected_idle sound.session result
        exact .inr (started'.trans_eq (sound'.all_finished idle))
      · refine .inl (pending.imp (bits ▸ ·) fun member => ?_)
        rw [next] at member
        exact (List.mem_cons.mp member).resolve_left (Ne.symm disconnects)
    | fetches done bits batch idles =>
      have posted : .evDisconnected ∈ t.eventBits := by
        rcases pending with posted | member
        · exact posted
        · simp [done] at member
      by_cases online : t.connectionState = .connected
      · rw [if_pos online] at batch
        exact .inl (.inr (by simp [batch, inOrder, handlingOrder, posted]))
      · -- Without a connection the event is dropped, and there was nothing to be finished.
        have idle : t.session.transactionHandler = none := by
          by_contra running
          exact heeds ⟨online, posted, running⟩
        have idle' : u.session.transactionHandler = none := idles.handler.trans idle
        exact .inr (started'.trans_eq (sound'.all_finished idle'))
    | notes batch bits kept posted idles =>
      exact .inl (pending.imp (kept ·) (batch ▸ ·))
  · exact .inr (settled.trans finished')

/--
What is known about the next vehicle after a disconnection was posted.

The number is how many connections were posted since then.
-/
structure Awaits (posted : ℕ) (t : OcppTask) : Prop where
  sound : TaskSound t
  fetched : .evDisconnected ∉ t.eventBits → .evDisconnected ∈ t.batch → posted = 0 →
    .evConnected ∉ t.eventBits
  nobody : ¬ Pending t .evDisconnected → posted = 0 →
    t.session.transactionHandler = none ∧ ¬ Pending t .evConnected
  waiting : ¬ Pending t .evDisconnected → posted = 1 → Pending t .evConnected →
    t.session.transactionHandler = none ∧
      ¬ (.evConnected ∈ t.eventBits ∧ .evConnected ∈ t.batch)

/-- How many connections are posted by a step. -/
def connections (op : TaskOp) : ℕ := if op = .setEvent .evConnected then 1 else 0

/-- An event that no callback sets is pending after a step only if it was, or is posted by it. -/
theorem notes_iff {event : OcppEvent}
    (bits : ∀ event, event ∈ u.eventBits → event ∈ t.eventBits ∨ op = .setEvent event ∨
      FromStack event)
    (kept : t.eventBits ⊆ u.eventBits) (own : ¬ FromStack event) (other : op ≠ .setEvent event) :
    event ∈ u.eventBits ↔ event ∈ t.eventBits := by
  -- No step but a fetch clears a bit.
  constructor
  · intro member
    rcases bits event member with before | is | stack
    · exact before
    · exact absurd is other
    · exact absurd stack own
  · exact fun member => kept member

/-- Handling an event keeps what is known about the next vehicle. -/
theorem Awaits.handles {posted : ℕ} {i : HandlerInputs} {event : OcppEvent}
    (awaits : Awaits posted t) (sound' : TaskSound u) (next : t.batch = event :: u.batch)
    (result : t.session.handle i event = .ok u.session) (bits : u.eventBits = t.eventBits) :
    Awaits posted u := by
  obtain ⟨sound, fetched, nobody, waiting⟩ := awaits
  by_cases disconnects : event = .evDisconnected
  · -- The disconnection itself is handled after a connection of the same batch.
    subst disconnects
    have idle := disconnected_idle sound.session result
    have gone : .evConnected ∉ u.batch := sound.rest next (by decide)
    have last : .evDisconnected ∉ u.batch := sound.rest next (by decide)
    refine ⟨sound', fun _ member => absurd member last, fun consumed none => ⟨idle, ?_⟩,
      fun _ _ _ => ⟨idle, fun both => gone both.2⟩⟩
    intro pending
    rcases pending with member | member
    · rw [bits] at member
      exact fetched (fun m => consumed (.inl (bits ▸ m))) (by simp [next]) none member
    · exact gone member
  · have same : Pending u .evDisconnected ↔ Pending t .evDisconnected := by
      simp [Pending, bits, next, Ne.symm disconnects]
    refine ⟨sound', fun absent member => ?_, fun consumed none => ?_,
      fun consumed once pending => ?_⟩
    · rw [bits] at absent ⊢
      exact fetched absent (by simp [next, member])
    · obtain ⟨idle, nothing⟩ := nobody (same.not.mp consumed) none
      have other : event ≠ .evConnected := by
        intro same
        subst same
        exact nothing (.inr (by simp [next]))
      refine ⟨stays_idle sound.session result other idle, ?_⟩
      intro pending
      rcases pending with member | member
      · exact nothing (.inl (bits ▸ member))
      · exact nothing (.inr (by simp [next, member]))
    · have before : Pending t .evConnected :=
        pending.imp (bits ▸ ·) (fun member => by simp [next, member])
      obtain ⟨idle, never⟩ := waiting (same.not.mp consumed) once before
      have other : event ≠ .evConnected := by
        -- The only connection posted since then is being handled, so none is left.
        intro same
        subst same
        rcases pending with member | member
        · exact never ⟨bits ▸ member, by simp [next]⟩
        · exact sound.rest next (by decide) member
      refine ⟨stays_idle sound.session result other idle, fun both => never ?_⟩
      exact ⟨bits ▸ both.1, by simp [next, both.2]⟩

/-- Fetching a batch keeps what is known, if it does not drop the disconnection. -/
theorem Awaits.fetches {posted : ℕ} (awaits : Awaits posted t)
    (heeds : HeedsDisconnection t .wait) (sound' : TaskSound u) (done : t.batch = [])
    (bits : u.eventBits = ∅)
    (batch : u.batch = if t.connectionState = .connected then inOrder t.eventBits else [])
    (idles : t.session.Idles u.session) : Awaits posted u := by
  obtain ⟨sound, fetched, nobody, waiting⟩ := awaits
  have handler := idles.handler
  have taken : ∀ event, event ∈ u.batch → event ∈ t.eventBits := by
    intro event member
    rw [batch] at member
    split at member
    · exact of_decide_eq_true (List.mem_filter.mp member).2
    · simp at member
  have absent : ∀ event, event ∉ u.eventBits := by simp [bits]
  -- A disconnection that is consumed by the fetching was dropped, or was consumed before.
  have cases_ : ¬ Pending u .evDisconnected →
      ¬ Pending t .evDisconnected ∨ t.session.transactionHandler = none ∧ u.batch = [] := by
    intro consumed
    by_cases online : t.connectionState = .connected
    · refine .inl fun pending => consumed (.inr ?_)
      rcases pending with member | member
      · simp [batch, online, inOrder, handlingOrder, member]
      · simp [done] at member
    · by_cases posted : .evDisconnected ∈ t.eventBits
      · refine .inr ⟨?_, by simp [batch, online]⟩
        by_contra running
        exact heeds ⟨online, posted, running⟩
      · exact .inl fun pending => pending.elim posted (by simp [done])
  refine ⟨sound', fun _ _ _ => absent _, fun consumed none => ?_, fun consumed once pending => ?_⟩
  · rcases cases_ consumed with before | ⟨idle, dropped⟩
    · obtain ⟨idle, nothing⟩ := nobody before none
      refine ⟨handler.trans idle, ?_⟩
      intro pending
      rcases pending with member | member
      · exact absent _ member
      · exact nothing (.inl (taken _ member))
    · exact ⟨handler.trans idle, by simp [Pending, bits, dropped]⟩
  · refine ⟨?_, fun both => absent _ both.1⟩
    rcases cases_ consumed with before | ⟨idle, -⟩
    · have earlier : Pending t .evConnected :=
        pending.elim (fun member => absurd member (absent _)) (fun member => .inl (taken _ member))
      exact handler.trans (waiting before once earlier).1
    · exact handler.trans idle

/-- Noting something keeps what is known, and counts the connections that are posted. -/
theorem Awaits.notes {posted : ℕ} (awaits : Awaits posted t) (sound' : TaskSound u)
    (last : op ≠ .setEvent .evDisconnected) (batch : u.batch = t.batch)
    (bits : ∀ event, event ∈ u.eventBits → event ∈ t.eventBits ∨ op = .setEvent event ∨
      FromStack event)
    (kept : t.eventBits ⊆ u.eventBits) (idles : t.session.Idles u.session) :
    Awaits (posted + connections op) u := by
  obtain ⟨sound, fetched, nobody, waiting⟩ := awaits
  have handler := idles.handler
  have same := notes_iff bits kept (show ¬ FromStack .evDisconnected by simp [FromStack]) last
  have samePending : Pending u .evDisconnected ↔ Pending t .evDisconnected := by
    simp [Pending, batch, same]
  by_cases connects : op = .setEvent .evConnected
  · have count : connections op = 1 := by simp [connections, connects]
    rw [count]
    refine ⟨sound', fun _ _ zero => by omega, fun _ zero => by omega, fun consumed once _ => ?_⟩
    -- It is the first one since then, so nobody was there before.
    obtain ⟨idle, nothing⟩ := nobody (samePending.not.mp consumed) (by omega)
    exact ⟨handler.trans idle, fun both => nothing (.inr (batch ▸ both.2))⟩
  · have count : connections op = 0 := by simp [connections, connects]
    have connected := notes_iff bits kept (show ¬ FromStack .evConnected by simp [FromStack])
      connects
    have sameConnected : Pending u .evConnected ↔ Pending t .evConnected := by
      simp [Pending, batch, connected]
    rw [count, Nat.add_zero]
    refine ⟨sound', ?_, ?_, ?_⟩
    · rw [same, batch, connected]
      exact fetched
    · rw [samePending, sameConnected, handler]
      exact nobody
    · rw [samePending, sameConnected, handler, connected, batch]
      exact waiting

/-- Every step after the disconnection was posted keeps what is known about the next vehicle. -/
theorem Awaits.step {posted : ℕ} (awaits : Awaits posted t) (heeds : HeedsDisconnection t op)
    (last : op ≠ .setEvent .evDisconnected) (moved : taskStep t op = some u) :
    Awaits (posted + connections op) u := by
  have move := taskStep_moves moved
  have sound' := move.sound awaits.sound
  cases move with
  | handles next result bits => exact awaits.handles sound' next result bits
  | fetches done bits batch idles => exact awaits.fetches heeds sound' done bits batch idles
  | notes batch bits kept posted idles => exact awaits.notes sound' last batch bits kept idles

/-- The session and the batch are in order wherever a run leads. -/
theorem taskSound_run {ops : List TaskOp} (ran : run taskStep {} ops = some t) : TaskSound t :=
  run_invariant (fun sound moved => (taskStep_moves moved).sound sound) taskSound_init ran

/--
Once the last disconnection is consumed, the transactions started before it are finished once each.

The next vehicle that is connected then starts a transaction under its own new identifier. No step
after the disconnection may have dropped it.
-/
theorem disconnection_finishes {front back : List TaskOp} {before after : OcppTask}
    (arrived : run taskStep {} front = some before)
    (ran : run taskStep before (.setEvent .evDisconnected :: back) = some after)
    (last : TaskOp.setEvent .evDisconnected ∉ back)
    (heeds : Meets HeedsDisconnection taskStep before (.setEvent .evDisconnected :: back))
    (consumed : ¬ Pending after .evDisconnected) :
    (∀ span ∈ (spans Starts Finishes after.session.chargePoint.calls).take before.started,
      span.2 = 1) ∧
    (back.count (.setEvent .evConnected) ≤ 1 → ∀ batch, after.batch = .evConnected :: batch →
      ∀ i : HandlerInputs, ∃ next, taskStep after (.handle i) = some next ∧
        next.session.chargePoint.calls = after.session.chargePoint.calls ++
          [.onTransactionStarted connectorId i.uuid .cablePluggedIn .evConnected,
            .onSessionStarted]) := by
  have sound := taskSound_run arrived
  obtain ⟨posted, moved, ran⟩ := Option.bind_eq_some_iff.mp ran
  obtain rfl := Option.some.inj moved
  obtain ⟨-, heeds⟩ := heeds _ rfl
  -- The posting itself touches nothing but the event bits.
  have sound : TaskSound (before.setEvent .evDisconnected) := ⟨sound.session, sound.ordered⟩
  have here : Pending (before.setEvent .evDisconnected) .evDisconnected :=
    .inl (Finset.mem_insert_self ..)
  constructor
  · have settles : Settles before.started after :=
      run_guarded_invariant Settles.step ⟨sound, le_rfl, .inl here⟩ heeds ran
    have finished := settles.settled.resolve_left consumed
    cases running : after.session.transactionHandler with
    | none =>
      exact (settles.sound.session.idle running).take_closed starts_not_finishes finished
    | some h =>
      exact (settles.sound.session.inSession h running).kept.take_closed starts_not_finishes
        finished
  · intro once batch next i
    have awaits : Awaits (back.count (.setEvent .evConnected)) after := by
      refine @run_history_invariant _ _ taskStep _ _ back
        (fun ops t => Awaits (ops.count (.setEvent .evConnected)) t) _ ?_ ?_
        (heeds.and_all fun op member => (show op ≠ .setEvent .evDisconnected by
          intro same; exact last (same ▸ member))) ran
      · intro ops t op u awaits allowed moved
        simpa [List.count_append, connections, List.count_singleton] using
          awaits.step allowed.1 allowed.2 moved
      · exact ⟨sound, fun absent => absurd (Finset.mem_insert_self ..) absent,
          fun absent => absurd here absent, fun absent => absurd here absent⟩
    have pending : Pending after .evConnected := .inr (by simp [next])
    -- A connection that is being handled was posted, so it is the only one.
    have first : back.count (.setEvent .evConnected) = 1 := by
      by_contra other
      exact (awaits.nobody consumed (by omega)).2 pending
    have idle := (awaits.waiting consumed first pending).1
    obtain ⟨h, handled, -⟩ := Session.handleEvConnected_new i awaits.sound.session idle
    refine ⟨_, by simp only [taskStep, next, Session.handle, handled, Except.toOption,
      Option.map_some]; rfl, ?_⟩
    simp [ChargePoint.onTransactionStarted, ChargePoint.record, ChargePoint.transactionEventReq]

/-- A vehicle is connected while the management system is. -/
def arrival : List TaskOp :=
  [.connectionStateChanged true, .setEvent .evConnected, .wait, .handle ⟨"first", 1, true⟩]

/-- It leaves, and the next one is connected. -/
def departure : List TaskOp := [.wait, .handle ⟨"second", 2, true⟩, .setEvent .evConnected, .wait]

/-- The task after the arrival. -/
def arrived : OcppTask := (run taskStep {} arrival).getD {}

/-- The task when the next vehicle is about to be handled. -/
def departed : OcppTask := (run taskStep arrived (.setEvent .evDisconnected :: departure)).getD {}

/-- The transaction of the vehicle that left is finished, and the next one gets its own. -/
theorem disconnection_finishes_departure :
    (∀ span ∈ (spans Starts Finishes departed.session.chargePoint.calls).take arrived.started,
      span.2 = 1) ∧
    ∃ next, taskStep departed (.handle ⟨"third", 3, true⟩) = some next ∧
      next.session.chargePoint.calls = departed.session.chargePoint.calls ++
        [.onTransactionStarted connectorId "third" .cablePluggedIn .evConnected,
          .onSessionStarted] := by
  have finishes := disconnection_finishes (show run taskStep {} arrival = some arrived by
      decide +kernel)
    (show run taskStep arrived (.setEvent .evDisconnected :: departure) = some departed by
      decide +kernel)
    (by decide) (by decide +kernel) (by unfold Pending; decide +kernel)
  exact ⟨finishes.1, finishes.2 (by decide) [] (by decide +kernel) ⟨"third", 3, true⟩⟩

/-- The vehicle leaves while there is no connection, and then the connection comes back. -/
def unheardDeparture : List TaskOp :=
  [.connectionStateChanged false, .setEvent .evDisconnected, .wait, .connectionStateChanged true]

/-- The task when the connection is back. -/
def unheard : OcppTask := (run taskStep arrived unheardDeparture).getD {}

/-- Its transaction stays open, and the next vehicle that is connected gets none of its own. -/
theorem unheard_departure_left_open :
    run taskStep {} (arrival ++ unheardDeparture) = some unheard ∧
      unheard.connectionState = .connected ∧ unheard.eventBits = ∅ ∧ unheard.batch = [] ∧
      spans Starts Finishes unheard.session.chargePoint.calls =
        [(.onTransactionStarted connectorId "first" .cablePluggedIn .evConnected, 0)] ∧
      ∃ next, run taskStep unheard
          [.setEvent .evConnected, .wait, .handle ⟨"second", 2, true⟩] = some next ∧
        next.session.chargePoint.calls = unheard.session.chargePoint.calls :=
  ⟨by decide +kernel, by decide +kernel, by decide +kernel, by decide +kernel, by decide +kernel,
    (run taskStep unheard
      [.setEvent .evConnected, .wait, .handle ⟨"second", 2, true⟩]).getD {},
    by decide +kernel, by decide +kernel⟩

end EasyEvse.Ocpp
