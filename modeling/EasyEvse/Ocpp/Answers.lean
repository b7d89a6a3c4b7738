import EasyEvse.Ocpp.TaskLaws

/-! Which vehicle an authorization answer is for: late answers, and answers nobody asked for. -/

namespace EasyEvse.Ocpp

open Transition

variable {t u : OcppTask} {request : ℕ} {op : TaskOp}

/--
A request that asked for the authorization of the vehicle connected last.

Only such requests carry a token, and they are sent after the connection was reported.
-/
def Fresh (t : OcppTask) (request : ℕ) : Prop :=
  ∃ before ∈ t.plugIn, before ≤ request ∧
    ∃ sent ∈ t.session.chargePoint.requests[request]?, sent.idToken = true

/-- The vehicle connected last was accepted in response to such a request. -/
def Answered (t : OcppTask) : Prop :=
  ∃ request, (request, some .accepted) ∈ t.answers ∧ Fresh t request

/-- An acceptance that could be handed out now is one for the vehicle connected last. -/
def HandsOutOwn (t : OcppTask) : Prop :=
  t.authSem = true → t.session.isEvAuthorized = true → Answered t

/--
The steps that keep answers with their vehicles.

A connection must not be reported while an acceptance waits to be handed out, and an acceptance must
not arrive for another request before one has arrived for the vehicle itself.
-/
def KeepsOwn (t : OcppTask) : TaskOp → Prop
  | .setEvent event =>
    event = .evConnected → ¬ (t.authSem = true ∧ t.session.isEvAuthorized = true)
  | .response request idTokenInfo =>
    idTokenInfo = some .accepted → Answered t ∨ Fresh t request
  | _ => True

/-- A request stays fresh until another connection is reported. -/
theorem Fresh.mono (fresh : Fresh t request) (plugIn : u.plugIn = t.plugIn)
    (grows : t.session.chargePoint.requests <+: u.session.chargePoint.requests) :
    Fresh u request := by
  obtain ⟨before, since, later, sent, found, token⟩ := fresh
  refine ⟨before, by rw [plugIn]; exact since, later, sent, ?_, token⟩
  -- The requests that were sent keep their numbers.
  obtain ⟨more, split⟩ := grows
  obtain ⟨inside, -⟩ := List.getElem?_eq_some_iff.mp found
  rw [← split, Option.mem_def, List.getElem?_append_left inside]
  exact found

/-- An answer stays with its vehicle until another connection is reported. -/
theorem Answered.mono (answered : Answered t) (plugIn : u.plugIn = t.plugIn)
    (grows : t.session.chargePoint.requests <+: u.session.chargePoint.requests)
    (answers : t.answers ⊆ u.answers) : Answered u := by
  obtain ⟨request, accepted, fresh⟩ := answered
  exact ⟨request, answers accepted, fresh.mono plugIn grows⟩

/-- Handling a response touches the judgement, the semaphore and one event bit. -/
theorem handleTransactionEventResponse_frame (t : OcppTask) (sent : TransactionEventRequest)
    (idTokenInfo : Option AuthorizationStatus) :
    (t.handleTransactionEventResponse sent idTokenInfo).plugIn = t.plugIn ∧
    (t.handleTransactionEventResponse sent idTokenInfo).session.chargePoint =
      t.session.chargePoint ∧
    (t.handleTransactionEventResponse sent idTokenInfo).session.isEvAuthorized =
      idTokenInfo.elim t.session.isEvAuthorized (fun status => status = .accepted) ∧
    (t.handleTransactionEventResponse sent idTokenInfo).authSem =
      (idTokenInfo.isSome || t.authSem) := by
  rw [handleTransactionEventResponse_eq]
  cases idTokenInfo with
  | none => simp [OcppTask.transactionEventResponseCb]
  | some status => simp [OcppTask.transactionEventResponseCb, OcppTask.setEvent]

/-- Fetching a batch touches no answer, and makes the stack forget nothing. -/
theorem waitEvents_frame (t : OcppTask) :
    t.waitEvents.plugIn = t.plugIn ∧ t.waitEvents.answers = t.answers ∧
    t.waitEvents.authSem = t.authSem ∧
    t.waitEvents.session.isEvAuthorized = t.session.isEvAuthorized ∧
    t.waitEvents.session.chargePoint.requests = t.session.chargePoint.requests := by
  unfold OcppTask.waitEvents
  dsimp only
  split_ifs <;> simp [ChargePoint.record]

/-- Asking for an answer takes the semaphore, and hands out an acceptance that was waiting. -/
theorem getAuthResponse_frame (t : OcppTask) (timeoutMs unixTime : UInt32) :
    (t.getAuthResponse timeoutMs unixTime).1.authSem = false ∧
    ((t.getAuthResponse timeoutMs unixTime).2 = some true ↔
      t.authSem = true ∧ t.session.isEvAuthorized = true) := by
  unfold OcppTask.getAuthResponse
  dsimp only
  -- A time that is over hands out a refusal, which is no acceptance either.
  split_ifs <;> simp_all

/-- No step but a connection and a response changes what is handed out to whom. -/
theorem HandsOutOwn.quiet (own : HandsOutOwn t) (plugIn : u.plugIn = t.plugIn)
    (grows : t.session.chargePoint.requests <+: u.session.chargePoint.requests)
    (answers : t.answers ⊆ u.answers) (given : u.authSem = true → t.authSem = true)
    (accepted : u.session.isEvAuthorized = true → t.session.isEvAuthorized = true) :
    HandsOutOwn u :=
  fun sem acceptance => (own (given sem) (accepted acceptance)).mono plugIn grows answers

/-- An event is quiet unless it connects a vehicle while an acceptance waits for another one. -/
theorem HandsOutOwn.setEvent (own : HandsOutOwn t) {event : OcppEvent}
    (keeps : event = .evConnected → ¬ (t.authSem = true ∧ t.session.isEvAuthorized = true)) :
    HandsOutOwn (t.setEvent event) := by
  by_cases connects : event = .evConnected
  · -- Nothing is waiting to be handed out when a connection is reported.
    intro sem accepted
    exact absurd ⟨sem, accepted⟩ (keeps connects)
  · exact own.quiet (by simp [OcppTask.setEvent, connects]) (List.prefix_refl _)
      (List.Subset.refl _) id id

/-- An acceptance that arrives is the vehicle's own, or comes after one that was. -/
theorem HandsOutOwn.response (own : HandsOutOwn t) {idTokenInfo : Option AuthorizationStatus}
    (keeps : idTokenInfo = some .accepted → Answered t ∨ Fresh t request)
    (sent : TransactionEventRequest) :
    HandsOutOwn { t.handleTransactionEventResponse sent idTokenInfo with
      answers := t.answers ++ [(request, idTokenInfo)] } := by
  obtain ⟨plugIn, chargePoint, accepted, sem⟩ :=
    handleTransactionEventResponse_frame t sent idTokenInfo
  have grows : t.session.chargePoint.requests <+:
      (t.handleTransactionEventResponse sent idTokenInfo).session.chargePoint.requests := by
    rw [chargePoint]
  intro given acceptance
  simp only at given acceptance
  rw [sem] at given
  rw [accepted] at acceptance
  cases idTokenInfo with
  | none =>
    -- Without a judgement the semaphore is not given.
    exact (own (by simpa using given) (by simpa using acceptance)).mono plugIn grows (by simp)
  | some status =>
    have accepts : status = .accepted := by simpa using acceptance
    subst accepts
    rcases keeps rfl with before | fresh
    · exact before.mono plugIn grows (by simp)
    · exact ⟨request, by simp, fresh.mono plugIn grows⟩

/-- A step that keeps answers with their vehicles hands out no other vehicle's. -/
theorem taskStep_keepsOwn (own : HandsOutOwn t) (keeps : KeepsOwn t op)
    (moved : taskStep t op = some u) : HandsOutOwn u := by
  cases op with
  | setEvent event =>
    obtain rfl := Option.some.inj moved
    exact own.setEvent keeps
  | wait =>
    simp only [taskStep] at moved
    split at moved
    · obtain rfl := Option.some.inj moved
      obtain ⟨plugIn, answers, sem, accepted, requests⟩ := waitEvents_frame t
      exact own.quiet plugIn (by rw [requests]) (by rw [answers]; exact List.Subset.refl _)
        (by rw [sem]; exact id) (by rw [accepted]; exact id)
    · cases moved
  | handle inputs =>
    simp only [taskStep] at moved
    split at moved
    · cases moved
    · rename_i event batch fetched
      cases handled : t.session.handle inputs event with
      | error fault => simp [handled, Except.toOption] at moved
      | ok session =>
        simp only [handled, Except.toOption, Option.map_some, Option.some.injEq] at moved
        subst moved
        obtain ⟨grows, accepted⟩ := handle_grows handled
        exact own.quiet rfl grows.requests (List.Subset.refl _) id accepted
  | response request idTokenInfo =>
    simp only [taskStep] at moved
    split at moved
    · cases moved
    · obtain ⟨sent, found, rfl⟩ := Option.map_eq_some_iff.mp moved
      exact own.response keeps sent
  | meterValue context =>
    obtain rfl := Option.some.inj moved
    have grows := (grows_transactionMeterValueCallback t.session.chargePoint context).1
    exact own.quiet rfl grows.requests (List.Subset.refl _) id id
  | getAuthResponse timeoutMs unixTime =>
    obtain rfl := Option.some.inj moved
    -- The semaphore is taken, so the next poll hands out nothing.
    intro sem
    rw [(getAuthResponse_frame t timeoutMs unixTime).1] at sem
    cases sem
  | stopTransaction evse stopReason =>
    obtain rfl := Option.some.inj moved
    unfold OcppTask.stopTransactionCb
    split_ifs
    · exact own
    · exact own.quiet (by simp [OcppTask.setEvent]) (List.prefix_refl _) (List.Subset.refl _) id id
    · exact own
  | remoteStartTransaction evse authorizeRemoteStart =>
    obtain rfl := Option.some.inj moved
    unfold OcppTask.remoteStartTransactionCb
    split_ifs
    · exact own
    · exact own
    · exact own
    · exact own.quiet (by simp [OcppTask.setEvent]) (List.prefix_refl _) (List.Subset.refl _) id id
  | connectionStateChanged isConnected =>
    obtain rfl := Option.some.inj moved
    unfold OcppTask.connectionStateChangedCb
    split_ifs
    · exact own.quiet rfl (List.prefix_refl _) (List.Subset.refl _) id id
    · exact own.quiet rfl (List.prefix_refl _) (List.Subset.refl _) id id

/-- A step that does not keep answers with their vehicles makes the next poll a wrong one. -/
theorem taskStep_breaksOwn (breaks : ¬ KeepsOwn t op) (moved : taskStep t op = some u) :
    ¬ HandsOutOwn u := by
  cases op with
  | setEvent event =>
    obtain ⟨rfl, sem, accepted⟩ : event = .evConnected ∧ t.authSem = true ∧
        t.session.isEvAuthorized = true := by
      simpa [KeepsOwn] using breaks
    obtain rfl := Option.some.inj moved
    intro own
    -- Every request so far was sent before the new connection.
    obtain ⟨request, -, before, since, later, sent, found, -⟩ := own sem accepted
    have total : before = t.session.chargePoint.requests.length := by
      simpa [OcppTask.setEvent, eq_comm] using since
    have inside := (List.getElem?_eq_some_iff.mp found).1
    simp only [OcppTask.setEvent] at inside
    omega
  | response request idTokenInfo =>
    obtain ⟨rfl, never, stale⟩ : idTokenInfo = some .accepted ∧ ¬ Answered t ∧
        ¬ Fresh t request := by
      simpa [KeepsOwn] using breaks
    simp only [taskStep] at moved
    split at moved
    · cases moved
    · obtain ⟨sent, found, rfl⟩ := Option.map_eq_some_iff.mp moved
      obtain ⟨plugIn, chargePoint, accepted, sem⟩ :=
        handleTransactionEventResponse_frame t sent (some .accepted)
      -- The answer it is said to have is an earlier one, or the one that just arrived.
      intro own
      obtain ⟨answered, member, fresh⟩ := own (by simp [sem]) (by simp [accepted])
      have before : Fresh t answered := by simpa [Fresh, plugIn, chargePoint] using fresh
      have split : (answered, some AuthorizationStatus.accepted) ∈ t.answers ∨
          answered = request := by simpa using member
      rcases split with earlier | rfl
      · exact never ⟨answered, earlier, before⟩
      · exact stale before
  | _ => simp [KeepsOwn] at breaks

/--
A poll never hands out an acceptance that is not for the vehicle connected last, if and only if
every step of the run keeps answers with their vehicles.
-/
theorem own_answers_iff (ops : List TaskOp) :
    (∀ t, Visits taskStep {} ops t → ∀ unixTime,
      (t.getAuthResponse 0 unixTime).2 = some true → Answered t) ↔
      Meets KeepsOwn taskStep {} ops := by
  have start : HandsOutOwn {} := fun sem => by simp at sem
  -- What a poll would hand out is a property of the state, which every step keeps or breaks.
  rw [← always_good_iff_meets taskStep_keepsOwn id (fun _ => taskStep_breaksOwn) start]
  constructor
  · intro polls t visited sem accepted
    exact polls t visited 0 ((getAuthResponse_frame t 0 0).2.mpr ⟨sem, accepted⟩)
  · intro always t visited unixTime handed
    obtain ⟨sem, accepted⟩ := (getAuthResponse_frame t 0 unixTime).2.mp handed
    exact always t visited sem accepted

/-- A vehicle leaves before it is judged, and its acceptance arrives when the next one is there. -/
def lateAnswerRun : List TaskOp :=
  [.connectionStateChanged true, .setEvent .evConnected, .setEvent .evAuthNeeded, .wait,
    .handle ⟨"first", 1, true⟩, .handle ⟨"first", 1, true⟩, .setEvent .evDisconnected, .wait,
    .handle ⟨"first", 2, true⟩, .setEvent .evConnected, .response 1 (some .accepted)]

/-- The task when the late answer has arrived. -/
def lateAnswer : OcppTask := (run taskStep {} lateAnswerRun).getD {}

/-- The acceptance of the first vehicle is handed out for the second. -/
theorem late_answer_handed_out :
    Visits taskStep {} lateAnswerRun lateAnswer ∧
      (lateAnswer.getAuthResponse 0 3).2 = some true ∧ ¬ Answered lateAnswer := by
  refine ⟨⟨lateAnswerRun, List.prefix_refl _, by decide +kernel⟩, by decide +kernel, ?_⟩
  intro ⟨request, member, before, since, later, _⟩
  -- Three requests were sent before the second connection, and only the second one is answered.
  have answers : lateAnswer.answers = [(1, some .accepted)] := by decide +kernel
  have plugIn : lateAnswer.plugIn = some 3 := by decide +kernel
  rw [answers] at member
  rw [plugIn] at since
  have first : request = 1 := by simpa using member
  have second : before = 3 := by simpa [eq_comm] using since
  omega

end EasyEvse.Ocpp
