import EasyEvse.Ocpp.SessionLaws
import EasyEvse.Transition.Run

/-! Whole batches of events: transactions alternate, and which batches miss transaction data. -/

namespace EasyEvse.Ocpp

open ChargePointCall Transition

variable {i : HandlerInputs} {s t : Session} {o : Outline} {bits : EventBits}

/-- A batch as the session task meets it: its events, and the answer recorded at the time. -/
structure Batch where
  bits : EventBits
  isEvAuthorized : Bool
  inputs : HandlerInputs

/-- Handle a batch with the answer that is recorded when it is fetched. -/
def consume (s : Session) (batch : Batch) : Except Fault Session :=
  processBatch batch.inputs batch.bits { s with isEvAuthorized := batch.isEvAuthorized }

namespace Outline

/-- Some event of a sequence is handled where the outline has a fault. -/
def FaultsAlong (o : Outline) : List OcppEvent → Prop
  | [] => False
  | event :: events => o.Faults event ∨ (o.handle event).FaultsAlong events

/-- Handle an event if a batch has it. -/
def handleIf (o : Outline) (bits : EventBits) (event : OcppEvent) : Outline :=
  if event ∈ bits then o.handle event else o

/-- The flags once the connection and the answer of a batch are handled. -/
def opening (o : Outline) (bits : EventBits) : Outline :=
  (o.handleIf bits .evConnected).handleIf bits .evAuthorized

/-- A batch reports that charging stopped to a session that was told it had started. -/
def StopsLocally (o : Outline) (bits : EventBits) : Prop :=
  .chargingStopped ∈ bits ∧ (o.charging = true ∨ .chargingStarted ∈ bits)

/--
A batch reports the end of charging to a running session whose transaction is finished by then.

It was finished before the batch, or by a report of the same batch that came without authorization.
-/
def MissesData (o : Outline) (bits : EventBits) : Prop :=
  let o := o.opening bits
  let gone := o.isOpen = false ∨
    (o.authorized = false ∧ (.chargingStarted ∈ bits ∨ .chargingStartRemote ∈ bits))
  o.running = true ∧ ((o.StopsLocally bits ∧ gone) ∨
    (.chargingStopRemote ∈ bits ∧ (gone ∨ (o.authorized = false ∧ o.StopsLocally bits))))

/-- Some event that a batch has is handled where the outline has a fault. -/
def FaultsIn (o : Outline) (bits : EventBits) : List OcppEvent → Prop
  | [] => False
  | event :: events =>
    (event ∈ bits ∧ o.Faults event) ∨ (o.handleIf bits event).FaultsIn bits events

/-- Going through all events and skipping those a batch does not have comes to the same. -/
theorem faultsAlong_filter (events : List OcppEvent) :
    o.FaultsAlong (events.filter (· ∈ bits)) ↔ o.FaultsIn bits events := by
  -- An event that the batch does not have neither moves the flags nor faults.
  induction events generalizing o with
  | nil => rfl
  | cons event events ih =>
    by_cases member : event ∈ bits <;> simp [member, FaultsAlong, FaultsIn,
      handleIf, ih]

/-- Once the batch is opened, only the two reports of an end can fault. -/
theorem faultsIn_reports {opened : Outline} :
    opened.FaultsIn bits [.chargingStarted, .chargingStartRemote, .telemetryReady,
      .chargingStopped, .chargingStopRemote, .evDisconnected, .networkDown, .reconnect] ↔
    opened.running = true ∧
      let gone := opened.isOpen = false ∨ (opened.authorized = false ∧
        (.chargingStarted ∈ bits ∨ .chargingStartRemote ∈ bits))
      ((opened.StopsLocally bits ∧ gone) ∨ (.chargingStopRemote ∈ bits ∧
        (gone ∨ (opened.authorized = false ∧ opened.StopsLocally bits)))) := by
  -- Without a session nothing faults, and the other flags and bits are few.
  obtain ⟨running, isOpen, authorized, charging, accepted⟩ := opened
  cases running with
  | false => simp [FaultsIn, Faults, handleIf, handle]
  | true =>
    by_cases started : OcppEvent.chargingStarted ∈ bits <;>
    by_cases remote : OcppEvent.chargingStartRemote ∈ bits <;>
    by_cases stopped : OcppEvent.chargingStopped ∈ bits <;>
    cases charging <;> cases isOpen <;>
    simp [FaultsIn, Faults, handleIf, handle, report, StopsLocally, started, remote, stopped]

/-- Handling a batch in order meets a fault exactly when it misses data. -/
theorem faultsAlong_inOrder : o.FaultsAlong (inOrder bits) ↔ o.MissesData bits := by
  have opened : o.FaultsIn bits handlingOrder ↔ (o.opening bits).FaultsIn bits
      [.chargingStarted, .chargingStartRemote, .telemetryReady, .chargingStopped,
        .chargingStopRemote, .evDisconnected, .networkDown, .reconnect] := by
    have unmoved : ∀ o : Outline, o.handleIf bits .evAuthNeeded = o := by
      intro o
      simp [handleIf, handle]
    simp only [handlingOrder, FaultsIn, Faults, and_false, false_or, unmoved, opening]
  rw [inOrder, faultsAlong_filter, opened, faultsIn_reports]
  rfl

end Outline

/-- Along any sequence of events the session follows its outline. -/
theorem foldlM_follows (sound : s.Sound) (events : List OcppEvent) :
    match events.foldlM (fun s event => s.handle i event) s with
    | .ok t => t.Sound ∧ t.outline = events.foldl Outline.handle s.outline ∧
        ¬ s.outline.FaultsAlong events
    | .error fault => fault = .nullTransactionData ∧ s.outline.FaultsAlong events := by
  -- Each event follows the outline, and the first that faults ends the batch.
  induction events generalizing s with
  | nil => exact ⟨sound, rfl, id⟩
  | cons event events ih =>
    have first := s.handle_follows i sound event
    simp only [List.foldlM_cons, bind, Except.bind]
    cases handled : s.handle i event with
    | error fault =>
      rw [handled] at first
      exact ⟨first.1, .inl first.2⟩
    | ok next =>
      rw [handled] at first
      obtain ⟨sound, moved, fine⟩ := first
      have rest := ih sound
      rw [moved] at rest
      simp only
      split at rest
      · rename_i t done
        obtain ⟨sound, flags, never⟩ := rest
        simp only [Outline.FaultsAlong, not_or]
        exact ⟨sound, flags, fine, never⟩
      · exact ⟨rest.1, .inr rest.2⟩

/-- A batch follows its outline, and faults exactly when it misses data. -/
theorem consume_follows (sound : s.Sound) (batch : Batch) :
    match consume s batch with
    | .ok t => t.Sound ∧
        t.outline = (inOrder batch.bits).foldl Outline.handle
          { s.outline with accepted := batch.isEvAuthorized } ∧
        ¬ { s.outline with accepted := batch.isEvAuthorized }.MissesData batch.bits
    | .error fault => fault = .nullTransactionData ∧
        { s.outline with accepted := batch.isEvAuthorized }.MissesData batch.bits := by
  -- The answer is no part of what makes a session sound.
  have answered : { s with isEvAuthorized := batch.isEvAuthorized }.Sound :=
    ⟨sound.plugged, sound.charging, sound.idle, sound.inSession⟩
  have followed := foldlM_follows (i := batch.inputs) answered (inOrder batch.bits)
  simp only [Outline.faultsAlong_inOrder] at followed
  exact followed

/-- A session stays sound over every sequence of batches without a fault. -/
theorem consume_sound {batches : List Batch} (sound : s.Sound)
    (ran : batches.foldlM consume s = .ok t) : t.Sound := by
  -- A run without a fault goes from one sound session to the next.
  induction batches generalizing s with
  | nil => cases ran; exact sound
  | cons batch batches ih =>
    have first := consume_follows sound batch
    simp only [List.foldlM_cons, bind, Except.bind] at ran
    cases handled : consume s batch with
    | error fault => simp [handled] at ran
    | ok next =>
      rw [handled] at first ran
      exact ih first.1 ran

/-- Handling the events a batch has is going through all of them and skipping the others. -/
theorem foldl_inOrder : (inOrder bits).foldl Outline.handle o =
    handlingOrder.foldl (fun o event => o.handleIf bits event) o := by
  rw [inOrder, List.foldl_filter]
  simp [Outline.handleIf]

/-- After a batch with a disconnection no session is running. -/
theorem foldl_disconnected (disconnected : .evDisconnected ∈ bits) :
    ((inOrder bits).foldl Outline.handle o).running = false := by
  rw [foldl_inOrder]
  simp [handlingOrder, Outline.handleIf, Outline.handle, disconnected]

/--
Transactions are started and finished in turns, a start first, in every run without a fault.

After every batch a vehicle counts as plugged in exactly while there is a handler, and after a batch
with a disconnection every started transaction is finished.
-/
theorem transactions_alternate {batches : List Batch} (ran : batches.foldlM consume {} = .ok s) :
    Alternates Starts Finishes false s.chargePoint.calls ∧
    (s.evPluggedIn = true ↔ s.transactionHandler ≠ none) ∧
    ∀ front last, batches = front ++ [last] → .evDisconnected ∈ last.bits →
      s.chargePoint.calls.countP (fun call => call.Starts) =
        s.chargePoint.calls.countP (fun call => call.Finishes) := by
  have sound : s.Sound := consume_sound Session.sound_init ran
  refine ⟨?_, ?_, ?_⟩
  · cases running : s.transactionHandler with
    | none => exact (sound.idle running).alternates.1
    | some h => exact (sound.inSession h running).kept.alternates.1
  · rw [sound.plugged, Option.isSome_iff_ne_none]
  · intro front last split disconnected
    subst split
    -- The last batch ran from where the batches before it led.
    rw [List.foldlM_append] at ran
    cases before : front.foldlM consume {} with
    | error fault => simp [before, bind, Except.bind] at ran
    | ok u =>
      have consumed : consume u last = .ok s := by
        simp only [before, bind, Except.bind, List.foldlM_cons, List.foldlM_nil, pure,
          Except.pure] at ran
        cases handled : consume u last with
        | error fault => simp [handled] at ran
        | ok v => simpa [handled] using ran
      have follows := consume_follows (consume_sound Session.sound_init before) last
      rw [consumed] at follows
      have stopped : s.outline.running = false := by
        rw [follows.2.1, foldl_disconnected disconnected]
      have idle : s.transactionHandler = none := by simpa [Session.outline] using stopped
      have apart : ∀ call : ChargePointCall, call.Starts → ¬ call.Finishes := by
        intro call starts
        cases call <;> simp_all [Starts, Finishes]
      simpa using (sound.idle idle).count apart

/-- One batch after the other, a fault ending them all. -/
def consumeStep : Step (Except Fault Session) Batch :=
  fun result batch => some (result >>= fun s => consume s batch)

/-- A batch that does not miss transaction data in the session it meets. -/
def HasData : Except Fault Session → Batch → Prop
  | .ok s, batch =>
    ¬ { s.outline with accepted := batch.isEvAuthorized }.MissesData batch.bits
  | .error _, _ => True

/-- The results that a run without a fault goes through. -/
def SoundResult : Except Fault Session → Prop
  | .ok s => s.Sound
  | .error _ => False

/-- No batch faults if and only if none misses the data of its session's transaction. -/
theorem faultless_iff_hasData (batches : List Batch) :
    (∀ result, Visits consumeStep (.ok {}) batches result → ∃ s, result = .ok s) ↔
      Meets HasData consumeStep (.ok {}) batches := by
  have keeps : ∀ {result batch next}, SoundResult result → HasData result batch →
      consumeStep result batch = some next → SoundResult next := by
    intro result batch next sound data moved
    obtain rfl := Option.some.inj moved
    cases result with
    | error fault => exact sound.elim
    | ok s =>
      -- A batch with the data it needs does not fault, and leaves a sound session.
      have follows := consume_follows sound batch
      cases handled : consume s batch with
      | error fault => rw [handled] at follows; exact absurd follows.2 data
      | ok t =>
        rw [handled] at follows
        simp only [bind, Except.bind, handled]
        exact follows.1
  have good : ∀ {result}, SoundResult result → ∃ s, result = .ok s := by
    intro result sound
    cases result with
    | error fault => exact sound.elim
    | ok s => exact ⟨s, rfl⟩
  have breaks : ∀ {result batch next}, SoundResult result → ¬ HasData result batch →
      consumeStep result batch = some next → ¬ ∃ s, next = .ok s := by
    intro result batch next sound missing moved
    obtain rfl := Option.some.inj moved
    cases result with
    | error fault => exact sound.elim
    | ok s =>
      have follows := consume_follows sound batch
      cases handled : consume s batch with
      | error fault => simp [bind, Except.bind, handled]
      | ok t => rw [handled] at follows; exact absurd follows.2.2 missing
  exact always_good_iff_meets keeps good breaks Session.sound_init

/-- The batches of a vehicle that is plugged in, accepted, charged and unplugged. -/
def customerVisit : List Batch :=
  [⟨{.evConnected, .evAuthNeeded}, false, ⟨"first", 1, true⟩⟩,
    ⟨{.evAuthorized}, true, ⟨"second", 2, true⟩⟩, ⟨{.chargingStarted}, true, ⟨"third", 3, true⟩⟩,
    ⟨{.chargingStopped, .evDisconnected}, true, ⟨"fourth", 4, true⟩⟩]

/-- The session task after the visit. -/
def afterVisit : Session := ((customerVisit.foldlM consume {}).toOption).getD {}

/-- The calls of a visit take turns, and leave nothing open. -/
theorem transactions_alternate_customerVisit :
    Alternates Starts Finishes false afterVisit.chargePoint.calls ∧
      afterVisit.chargePoint.calls.countP (fun call => call.Starts) =
        afterVisit.chargePoint.calls.countP (fun call => call.Finishes) := by
  have ran : customerVisit.foldlM consume {} = .ok afterVisit := by decide +kernel
  obtain ⟨turns, -, finished⟩ := transactions_alternate ran
  exact ⟨turns, finished (customerVisit.take 3) (customerVisit.getLast (by simp [customerVisit]))
    rfl (by decide)⟩

/-- Charging that is reported before the authorization ends with a null pointer that is followed. -/
theorem stopped_without_data :
    ([⟨{.evConnected}, false, ⟨"first", 1, true⟩⟩, ⟨{.chargingStarted}, false, ⟨"second", 2, true⟩⟩,
      ⟨{.chargingStopped}, false, ⟨"third", 3, true⟩⟩] : List Batch).foldlM consume {} =
        .error .nullTransactionData := by
  decide +kernel

end EasyEvse.Ocpp
