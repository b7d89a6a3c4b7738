import EasyEvse.Csms.ChargePoint
import EasyEvse.Csms.MessageQueueLaws
import EasyEvse.Transition.Run

/-! A received message reaches only what was created, unless it is logged or asks for control. -/

namespace EasyEvse.Csms

open Transition

/-- Every object that the charge point has reached through a pointer has been created. -/
def ReachesCreated (s : ChargePoint) : Prop :=
  ∀ object ∈ s.dereferenced, object ∈ s.objects

instance : DecidablePred ReachesCreated := fun s =>
  inferInstanceAs (Decidable (∀ object ∈ s.dereferenced, object ∈ s.objects))

/-- What the station creates at its start. -/
def created : List Object := initialization chargingStationBase

/-- The charge point holds what its start creates, and has reached nothing else. -/
structure Clean (s : ChargePoint) : Prop where
  objects : s.objects = created
  reaches : ReachesCreated s

/-- An access through a null pointer has ended the program. -/
def Faulted (s : ChargePoint) : Prop :=
  ∃ object, s.stop = some (.nullAccess object) ∧ object ∈ s.dereferenced ∧ object ∉ s.objects

/-- A program that a null pointer has ended has reached what was not created. -/
theorem Faulted.not_reaches {s : ChargePoint} (faulted : Faulted s) : ¬ ReachesCreated s := by
  obtain ⟨object, -, reached, missing⟩ := faulted
  exact fun reaches => missing (reaches object reached)

/-- The object that a branch reaches without asking whether it is there. -/
def Branch.unguarded : Branch → List Object
  | .block object => [object]
  | .guarded _ | .notImplemented => []

namespace ChargePoint

variable {s : ChargePoint} {rest : ChargePoint → ChargePoint} {object : Object}
  {message : EnhancedMessage} {handling : Handling} {text : Text} {errorCode what : String}

section Faulted

/-- Nothing follows an access through a null pointer. -/
theorem andThen_faulted (faulted : Faulted s) : s.andThen rest = s := by
  obtain ⟨object, stopped, -⟩ := faulted
  -- The sequence looks at the stop before it goes on.
  simp [andThen, stopped]

/-- No handler catches an access through a null pointer. -/
theorem catching_faulted {handler : Exception → ChargePoint → ChargePoint} (faulted : Faulted s) :
    s.catching handler = s := by
  obtain ⟨object, stopped, -⟩ := faulted
  -- Handlers are for exceptions, and this stop is none.
  simp [catching, stopped]

/-- The pointer to an object that was not created is null. -/
theorem access_faulted (clean : Clean s) (missing : object ∉ created) :
    Faulted (s.access object) := by
  have missing : object ∉ s.objects := clean.objects ▸ missing
  refine ⟨object, ?_⟩
  simp [access, missing]

/-- A message for a block that was not created ends the program. -/
theorem block_faulted (clean : Clean s) (missing : object ∉ created) :
    Faulted (s.block object handling) := by
  have faulted := access_faulted clean missing
  -- The block does not get to run, whatever it would have done.
  rw [block, andThen_faulted faulted]
  exact faulted

end Faulted

section Clean

/-- What is changed beside the objects keeps the charge point clean. -/
theorem clean_of_same {t : ChargePoint} (clean : Clean s) (objects : t.objects = s.objects)
    (dereferenced : t.dereferenced = s.dereferenced) : Clean t where
  objects := objects.trans clean.objects
  reaches := by
    intro object reached
    rw [objects]
    exact clean.reaches object (dereferenced ▸ reached)

/-- A sequence is clean when its parts are. -/
theorem andThen_clean (clean : Clean s) (next : ∀ {t}, Clean t → Clean (rest t)) :
    Clean (s.andThen rest) := by
  unfold andThen
  split
  · exact next clean
  -- A stopped execution leaves the state as it is.
  · exact clean

/-- Handlers that keep clean what they catch leave the whole clean. -/
theorem catching_clean {handler : Exception → ChargePoint → ChargePoint} (clean : Clean s)
    (handled : ∀ e {t}, Clean t → Clean (handler e t)) : Clean (s.catching handler) := by
  unfold catching
  split
  · exact handled _ (clean_of_same clean rfl rfl)
  · exact clean

/-- To have reached an object that was created is no harm. -/
theorem reached_clean (clean : Clean s) (member : object ∈ created) :
    Clean { s with dereferenced := s.dereferenced ++ [object] } where
  objects := clean.objects
  reaches := by
    intro other reached
    -- The log grows by the one object, at its end.
    rcases List.mem_append.mp reached with before | now
    · exact clean.reaches other before
    · obtain rfl := List.mem_singleton.mp now
      exact clean.objects.symm ▸ member

/-- The pointer to an object that was created can be followed. -/
theorem access_clean (clean : Clean s) (member : object ∈ created) : Clean (s.access object) := by
  have present : object ∈ s.objects := clean.objects ▸ member
  simp only [access, present, if_true]
  exact reached_clean clean member

/-- After an object that was created the execution goes on. -/
theorem access_andThen (clean : Clean s) (running : s.stop = none) (member : object ∈ created) :
    (s.access object).andThen rest =
      rest { s with dereferenced := s.dereferenced ++ [object] } := by
  have member : object ∈ s.objects := clean.objects ▸ member
  simp [access, andThen, member, running]

/-- Answers go through the dispatcher, which was created. -/
theorem dispatch_clean {answer : Answer} (clean : Clean s) : Clean (s.dispatch answer) :=
  andThen_clean (access_clean clean (by decide)) fun clean => clean_of_same clean rfl rfl

/-- A block that was created can be handed a message. -/
theorem block_clean (clean : Clean s) (member : object ∈ created) :
    Clean (s.block object handling) :=
  andThen_clean (access_clean clean member) fun clean => clean_of_same clean rfl rfl

/-- The answer to a call that no block handles reaches the dispatcher at most. -/
theorem sendNotImplementedError_clean (clean : Clean s) :
    Clean (s.sendNotImplementedError message) := by
  unfold sendNotImplementedError
  split
  · exact dispatch_clean clean
  · exact clean

/-- A text is refused through the dispatcher and the security block. -/
theorem refuse_clean (clean : Clean s) : Clean (s.refuse errorCode what text handling) :=
  andThen_clean (dispatch_clean clean) fun clean =>
    andThen_clean (access_clean clean (by decide)) fun clean => clean_of_same clean rfl rfl

/-- The error that answers a call reaches the dispatcher at most. -/
theorem answerCall_clean (clean : Clean s) : Clean (s.answerCall message errorCode what) := by
  unfold answerCall
  split
  · exact dispatch_clean clean
  · exact clean

/-- To throw an exception reaches nothing. -/
theorem throwing_clean {e : Exception} (clean : Clean s) : Clean (s.throwing e) :=
  clean_of_same clean rfl rfl

/-- No handler of an exception reaches more than the dispatcher. -/
theorem answerException_clean {e : Exception} (clean : Clean s) :
    Clean (s.answerException message e) := by
  cases e with
  | evseOutOfRange | connectorOutOfRange | stringConversion | enumConversion | timePointParse =>
    exact answerCall_clean clean
  | deviceModelError => exact dispatch_clean clean
  | json =>
    simp only [answerException]
    -- The length of the array is asked for once more before the call is answered.
    split
    · split
      · exact answerCall_clean clean
      · exact clean
    · exact clean
  | malformedRpcMessage | messageTypeNotImplemented | other => exact throwing_clean clean

end Clean

section Switch

/-- The switch asks no block for more than was created, but for the messages of control. -/
theorem branch_created (m : MessageType) :
    m ∈ remoteControl ∨ ∀ object ∈ (branch m).unguarded, object ∈ created := by
  cases m <;> decide

/-- The messages that ask for control are handed to a block that was not created. -/
theorem branch_control {m : MessageType} (remote : m ∈ remoteControl) :
    branch m = .block .remoteTransactionControl := by
  simp only [remoteControl, List.mem_cons, List.not_mem_nil, or_false] at remote
  rcases remote with rfl | rfl | rfl | rfl <;> rfl

/-- The switch keeps to what was created while it sees no message of control. -/
theorem handleMessage_clean (clean : Clean s) (uncontrolled : message.messageType ∉ remoteControl) :
    Clean (s.handleMessage message handling) := by
  have handed := (branch_created message.messageType).resolve_left uncontrolled
  unfold handleMessage
  refine catching_clean ?_ fun e t clean => ?_
  · -- The branch that is taken decides what is reached.
    split
    case h_1 object same =>
      exact block_clean clean (handed object (by simp [same, Branch.unguarded]))
    case h_2 object _ =>
      split
      case isTrue member => exact block_clean clean (clean.objects ▸ member)
      case isFalse => exact sendNotImplementedError_clean clean
    case h_3 => exact sendNotImplementedError_clean clean
  · -- One exception is answered here, and the others leave the switch.
    split
    · exact sendNotImplementedError_clean clean
    · exact throwing_clean clean

/-- A message of control that gets to the switch ends the program. -/
theorem handleMessage_faulted (clean : Clean s) (remote : message.messageType ∈ remoteControl) :
    Faulted (s.handleMessage message handling) := by
  have faulted : Faulted (s.block .remoteTransactionControl handling) :=
    block_faulted clean (by decide)
  simp only [handleMessage, branch_control remote]
  rw [catching_faulted faulted]
  exact faulted

end Switch

section Status

/-- A message asks for remote control at a time when the switch gets to see it. -/
def AsksControl (status : RegistrationStatusEnum) (json : Json) : Prop :=
  match status with
  | .accepted => ∃ m ∈ remoteControl, callType json = some m
  | .pending => callType json = some .triggerMessage
  | .rejected => callType json = some .triggerMessage ∧
      ∃ call, callOfJson json = .ok call ∧ call.1.requestedMessage = .bootNotification

/-- A message that asks for nothing of the kind is handled by what was created. -/
theorem dispatchByStatus_clean (clean : Clean s)
    (type : callType message.message = some message.messageType ∨
      message.messageType ∉ remoteControl)
    (unasked : ¬ AsksControl s.registrationStatus message.message) :
    Clean (s.dispatchByStatus message handling) := by
  have named : message.messageType ∈ remoteControl →
      callType message.message = some message.messageType :=
    fun remote => type.resolve_right (not_not_intro remote)
  unfold dispatchByStatus
  split
  case h_1 accepted =>
    -- The switch sees every message.
    rw [accepted] at unasked
    exact handleMessage_clean clean fun remote => unasked ⟨_, remote, named remote⟩
  case h_2 pending =>
    rw [pending] at unasked
    split
    case h_1 => exact block_clean clean (by decide)
    case h_7 same =>
      -- A trigger is let through in this state, so it asks for control.
      have trigger : callType message.message = some .triggerMessage :=
        same ▸ named (by rw [same]; decide)
      exact (unasked trigger).elim
    case h_8 | h_9 | h_10 => exact dispatch_clean clean
    -- The other types that are let through are reports and variables.
    all_goals
      rename_i same
      exact handleMessage_clean clean (by rw [same]; decide)
  case h_3 rejected =>
    rw [rejected] at unasked
    split
    case h_1 => exact block_clean clean (by decide)
    case h_2 same =>
      have trigger : callType message.message = some .triggerMessage :=
        same ▸ named (by rw [same]; decide)
      split
      case h_1 call read =>
        -- Only the request for a boot notification goes on to the switch.
        split
        case isTrue boot => exact (unasked ⟨trigger, call, read, boot⟩).elim
        case isFalse => exact dispatch_clean clean
      case h_2 => exact throwing_clean clean
    case h_3 => exact dispatch_clean clean

/-- Only a call can ask for remote control. -/
theorem AsksControl.typed {status : RegistrationStatusEnum} {json : Json}
    (asked : AsksControl status json) : ∃ m, callType json = some m := by
  cases status with
  | accepted =>
    obtain ⟨m, -, named⟩ := asked
    exact ⟨m, named⟩
  | pending => exact ⟨_, asked⟩
  | rejected => exact ⟨_, asked.1⟩

/-- A message that asks for control is handed to the block for it, which is not there. -/
theorem dispatchByStatus_faulted (clean : Clean s)
    (type : ∀ {m}, callType message.message = some m → message.messageType = m)
    (asked : AsksControl s.registrationStatus message.message) :
    Faulted (s.dispatchByStatus message handling) := by
  unfold dispatchByStatus
  cases status : s.registrationStatus with
  | accepted =>
    rw [status] at asked
    obtain ⟨m, remote, named⟩ := asked
    exact handleMessage_faulted clean (type named ▸ remote)
  | pending =>
    rw [status] at asked
    -- Of the messages of control only a trigger is let through.
    have trigger := type asked
    simp only [trigger]
    exact handleMessage_faulted clean (by rw [trigger]; decide)
  | rejected =>
    rw [status] at asked
    obtain ⟨named, call, read, boot⟩ := asked
    have trigger := type named
    simp only [trigger, read, boot, if_true]
    exact handleMessage_faulted clean (by rw [trigger]; decide)

end Status

section Callback

variable {parse : Text → Except String Json}

/-- A text is read, and asks for no remote control at a time when the switch gets to see it. -/
def Answerable (parse : Text → Except String Json) (status : RegistrationStatusEnum)
    (text : Text) : Prop :=
  ∃ json, parse text = .ok json ∧ Framed json ∧ ¬ AsksControl status json

/-- An answerable text is handled, or refused with an error, by what was created. -/
theorem messageCallback_clean (clean : Clean s) (running : s.stop = none)
    (answerable : Answerable parse s.registrationStatus text) :
    Clean (s.messageCallback parse text handling) := by
  obtain ⟨json, parsed, framed, unasked⟩ := answerable
  -- The queue is the first object that every text reaches.
  have reached : Clean { s with dereferenced := s.dereferenced ++ [.messageQueue] } :=
    reached_clean clean (by decide)
  rw [messageCallback, access_andThen clean running (by decide)]
  rcases receive_framed s.inFlight parsed framed with
    ⟨e, failed, unlogged, -⟩ | ⟨message, next, received, rfl, type⟩
  · -- What a framed document fails with is answered without the log.
    simp only [failed]
    cases e with
    | json | stringConversion => exact (unlogged trivial).elim
    | enumConversion | malformedRpcMessage => exact refuse_clean reached
    | _ => exact throwing_clean reached
  · simp only [received]
    -- The pairing with the waiting call changes nothing else than that call.
    have paired : Clean { s with
        dereferenced := s.dereferenced ++ [.messageQueue]
        inFlight := next } :=
      clean_of_same reached rfl rfl
    split
    · exact refuse_clean paired
    -- What the handling throws is answered through the dispatcher.
    · refine catching_clean ?_ fun e t clean => answerException_clean clean
      exact dispatchByStatus_clean paired (type.imp And.left And.right) unasked

/-- Any other text runs into a pointer that nothing was created for. -/
theorem messageCallback_faulted (clean : Clean s) (running : s.stop = none)
    (unanswerable : ¬ Answerable parse s.registrationStatus text) :
    Faulted (s.messageCallback parse text handling) := by
  have reached : Clean { s with dereferenced := s.dereferenced ++ [.messageQueue] } :=
    reached_clean clean (by decide)
  rw [messageCallback, access_andThen clean running (by decide)]
  by_cases read : ∃ json, parse text = .ok json ∧ Framed json
  · -- A text that can be read fails to be answerable by what it asks for.
    obtain ⟨json, parsed, framed⟩ := read
    have asked : AsksControl s.registrationStatus json := by
      by_contra unasked
      exact unanswerable ⟨json, parsed, framed, unasked⟩
    obtain ⟨m, typed⟩ := asked.typed
    rcases receive_framed s.inFlight parsed framed with
      ⟨e, -, -, untyped⟩ | ⟨message, next, received, rfl, type⟩
    · -- A text that fails to be read is no call with a type.
      rw [typed] at untyped
      cases untyped
    · rcases type with ⟨named, call⟩ | ⟨untyped, -⟩
      · have known : message.messageTypeId ≠ .unknown := by
          rw [call]
          decide
        have paired : Clean { s with
            dereferenced := s.dereferenced ++ [.messageQueue]
            inFlight := next } :=
          clean_of_same reached rfl rfl
        simp only [received, known, if_false]
        -- The null pointer is behind the handling, and the handlers do not catch it.
        have faulted : Faulted (dispatchByStatus message handling _) :=
          dispatchByStatus_faulted paired
            (fun same => Option.some.inj (named.symm.trans same)) asked
        rw [catching_faulted faulted]
        exact faulted
      · rw [typed] at untyped
        cases untyped
  · obtain ⟨e, failed, logged⟩ := receive_unframed s.inFlight read
    -- The exception is written to a log that was not created.
    have faulted := access_faulted reached (show Object.logging ∉ created by decide)
    simp only [failed]
    cases e with
    | json | stringConversion =>
      simp only [andThen_faulted faulted]
      exact faulted
    | _ => exact logged.elim

end Callback

end ChargePoint

section Runs

variable {parse : Text → Except String Json} {s t : ChargePoint} {event : CsmsEvent}

/-- A received text that the charge point answers with what was created. -/
def KeepsToCreated (parse : Text → Except String Json) (s : ChargePoint) : CsmsEvent → Prop
  | .received text _ => ChargePoint.Answerable parse s.registrationStatus text
  | .inFlight _ => True

/-- A program that has not ended is the one that takes a step. -/
theorem running_of_csmsStep (stepped : csmsStep parse s event = some t) : s.stop = none := by
  by_contra ended
  simp [csmsStep, ended] at stepped

/-- A step that keeps to what was created leaves the charge point clean. -/
theorem csmsStep_clean (clean : Clean s) (keeps : KeepsToCreated parse s event)
    (stepped : csmsStep parse s event = some t) : Clean t := by
  have running := running_of_csmsStep stepped
  simp only [csmsStep, running, if_true] at stepped
  cases event with
  | received text handling =>
    obtain rfl := Option.some.inj stepped
    exact ChargePoint.messageCallback_clean clean running keeps
  -- The queue keeps its calls apart from the objects.
  | inFlight call =>
    obtain rfl := Option.some.inj stepped
    exact ChargePoint.clean_of_same clean rfl rfl

/-- Any other step reaches what was not created. -/
theorem csmsStep_breaks (clean : Clean s) (breaks : ¬ KeepsToCreated parse s event)
    (stepped : csmsStep parse s event = some t) : ¬ ReachesCreated t := by
  have running := running_of_csmsStep stepped
  simp only [csmsStep, running, if_true] at stepped
  cases event with
  | received text handling =>
    obtain rfl := Option.some.inj stepped
    exact (ChargePoint.messageCallback_faulted clean running breaks).not_reaches
  | inFlight call => exact (breaks trivial).elim

/-- Nothing has been reached at the start. -/
theorem clean_initialized (status : RegistrationStatusEnum) :
    Clean (.initialized status) where
  objects := rfl
  reaches := fun _ reached => absurd reached List.not_mem_nil

/--
The charge point reaches only objects that were created, in every run of answerable texts.

A text is answerable when it is a framed document that asks for no remote control at a time
when the switch gets to see it, and the first other text reaches a pointer that is null.
-/
theorem reaches_created_iff (parse : Text → Except String Json)
    (status : RegistrationStatusEnum) (events : List CsmsEvent) :
    (∀ t, Visits (csmsStep parse) (.initialized status) events t → ReachesCreated t) ↔
      Meets (KeepsToCreated parse) (csmsStep parse) (.initialized status) events :=
  always_good_iff_meets (fun clean keeps stepped => csmsStep_clean clean keeps stepped)
    (fun clean => clean.reaches)
    (fun clean breaks stepped => csmsStep_breaks clean breaks stepped) (clean_initialized status)

end Runs

/-- A request to unlock a connector, as it is received. -/
def unlockText : Text :=
  "[2,\"1\",\"UnlockConnector\",\x7b\"evseId\":1,\"connectorId\":1\x7d]".toUTF8.toList

/-- An opening brace, and nothing else. -/
def braceText : Text := "\x7b".toUTF8.toList

/-- What the library parses a request to unlock a connector to, and that it parses no brace. -/
def parseUnlock (text : Text) : Except String Json :=
  if text = unlockText then
    .ok (.array [.number 2, .string "1", .string "UnlockConnector",
      .object [("connectorId", .number 1), ("evseId", .number 1)]])
  else
    .error ("[json.exception.parse_error.101] parse error at line 1, column 2: syntax error " ++
      "while parsing object key - unexpected end of input; expected string literal")

/-- An accepted station is asked to unlock a connector, and one not accepted receives a brace. -/
theorem null_pointer_reached :
    (∃ t, Visits (csmsStep parseUnlock) (.initialized .accepted)
      [.received unlockText ⟨.accepted, none⟩] t ∧ ¬ ReachesCreated t) ∧
    ∃ t, Visits (csmsStep parseUnlock) (.initialized .rejected)
      [.received braceText ⟨.rejected, none⟩] t ∧ ¬ ReachesCreated t := by
  constructor
  · exact ⟨_, visits_end rfl, by decide +kernel⟩
  · exact ⟨_, visits_end rfl, by decide +kernel⟩

end EasyEvse.Csms
