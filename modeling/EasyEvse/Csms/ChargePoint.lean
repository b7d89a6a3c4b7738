import EasyEvse.Csms.TriggerMessage

/-! The handling of received messages, with the objects that it reaches through pointers. -/

namespace EasyEvse.Csms

/-- The objects that the charge point holds pointers to. -/
inductive Object
  | evseSecurity | logging | componentStateManager | evseManager | connectivityManager
  | messageQueue | messageDispatcher | functionalBlockContext | dataTransfer | security
  | reservation | authorization | diagnostics | displayMessage | meterValues | availability
  | smartCharging | tariffAndCost | firmwareUpdate | transaction | provisioning
  | remoteTransactionControl
  deriving DecidableEq, Repr

/-- What the base of the station creates, which leaves the logging out. -/
def chargingStationBase : List Object := [.evseSecurity]

/--
What the initialization adds to the objects that the base has created.

The format of the logging is not configured, and neither the reservations nor the display
messages nor the remote control of transactions is created.
-/
def initialization (base : List Object) : List Object :=
  base ++ [.componentStateManager, .evseManager, .connectivityManager, .messageQueue,
    .messageDispatcher, .functionalBlockContext, .dataTransfer, .security, .authorization,
    .diagnostics, .meterValues, .availability, .smartCharging, .tariffAndCost, .firmwareUpdate,
    .transaction, .provisioning]

/-- How far the management system has accepted the station. -/
inductive RegistrationStatusEnum
  | accepted | pending | rejected
  deriving DecidableEq, Repr

/-- What the station sends or reports on receiving a message. -/
inductive Answer
  | callError (uniqueId errorCode errorDescription : String)
  | callResult (uniqueId : String) (payload : Json)
  | securityEvent (type : String) (techInfo : Text) (critical : Bool)

/-- What ends the execution of a piece of code early. -/
inductive Stop
  | threw (e : Exception)
  | nullAccess (object : Object)
  deriving DecidableEq, Repr

/-- The charge point as far as the handling of messages reads and changes it. -/
structure ChargePoint where
  /-- The objects that have been created. -/
  objects : List Object
  registrationStatus : RegistrationStatusEnum
  inFlight : Option InFlight
  /-- The objects that have been reached through their pointers, the latest last. -/
  dereferenced : List Object
  sent : List Answer
  /-- The exception on its way, or the access that has ended the program. -/
  stop : Option Stop

/-- What a functional block does with a message that it is given. -/
structure Handling where
  registrationStatus : RegistrationStatusEnum
  throws : Option Exception
  deriving DecidableEq, Repr

namespace ChargePoint

/-- Goes on unless an exception or an access has stopped the execution. -/
def andThen (s : ChargePoint) (rest : ChargePoint → ChargePoint) : ChargePoint :=
  if s.stop = none then rest s else s

/-- Hands an exception to its handlers, which no access through a null pointer reaches. -/
def catching (s : ChargePoint) (handler : Exception → ChargePoint → ChargePoint) : ChargePoint :=
  match s.stop with
  | some (.threw e) => handler e { s with stop := none }
  | _ => s

/-- An exception leaves the code. -/
def throwing (e : Exception) (s : ChargePoint) : ChargePoint :=
  { s with stop := some (.threw e) }

/-- Follows the pointer to an object. -/
def access (object : Object) (s : ChargePoint) : ChargePoint :=
  -- The access is on record whether the pointer is null or not.
  let s := { s with dereferenced := s.dereferenced ++ [object] }
  if object ∈ s.objects then s else { s with stop := some (.nullAccess object) }

/-- The dispatcher sends an answer. -/
def dispatch (answer : Answer) (s : ChargePoint) : ChargePoint :=
  (s.access .messageDispatcher).andThen fun s => { s with sent := s.sent ++ [answer] }

/-- A functional block handles the message, which may change the registration or fail. -/
def block (object : Object) (handling : Handling) (s : ChargePoint) : ChargePoint :=
  (s.access object).andThen fun s =>
    { s with
      registrationStatus := handling.registrationStatus
      stop := handling.throws.map .threw }

/-- Answers a call that no block handles, and nothing else. -/
def sendNotImplementedError (message : EnhancedMessage) (s : ChargePoint) : ChargePoint :=
  if message.messageTypeId = .call then
    s.dispatch (.callError message.uniqueId "NotImplemented" "")
  else s

end ChargePoint

/-- What the switch over the message types does in a branch. -/
inductive Branch
  /-- Hands the message to a block. -/
  | block (object : Object)
  /-- Hands the message to a block that is there, and answers an error otherwise. -/
  | guarded (object : Object)
  | notImplemented
  deriving DecidableEq, Repr

/-- The branch of the switch that a message type takes. -/
def branch : MessageType → Branch
  | .bootNotificationResponse | .setVariables | .getVariables | .getBaseReport | .getReport
  | .reset | .setNetworkProfile => .block .provisioning
  | .changeAvailability | .heartbeatResponse => .block .availability
  | .transactionEventResponse | .getTransactionStatus => .block .transaction
  | .requestStartTransaction | .requestStopTransaction | .unlockConnector | .triggerMessage =>
    .block .remoteTransactionControl
  | .dataTransfer => .block .dataTransfer
  | .getLog | .customerInformation | .setMonitoringBase | .setMonitoringLevel
  | .setVariableMonitoring | .getMonitoringReport | .clearVariableMonitoring =>
    .block .diagnostics
  | .clearCache | .sendLocalList | .getLocalListVersion => .block .authorization
  | .updateFirmware => .block .firmwareUpdate
  | .reserveNow | .cancelReservation => .guarded .reservation
  | .certificateSigned | .signCertificateResponse | .getInstalledCertificateIds
  | .installCertificate | .deleteCertificate => .block .security
  | .setChargingProfile | .clearChargingProfile | .getChargingProfiles
  | .getCompositeSchedule => .guarded .smartCharging
  | .getDisplayMessages | .setDisplayMessage | .clearDisplayMessage => .guarded .displayMessage
  | .costUpdated => .guarded .tariffAndCost
  -- The switch lists every other type by its name.
  | _ => .notImplemented

namespace ChargePoint

/-- The switch over the message types hands a message to the block for it. -/
def handleMessage (message : EnhancedMessage) (handling : Handling) (s : ChargePoint) :
    ChargePoint :=
  let handled := match branch message.messageType with
    | .block object => s.block object handling
    -- These branches compare the pointer with null first.
    | .guarded object =>
      if object ∈ s.objects then s.block object handling else s.sendNotImplementedError message
    | .notImplemented => s.sendNotImplementedError message
  handled.catching fun e s => match e with
    | .messageTypeNotImplemented _ => s.sendNotImplementedError message
    -- No other exception is caught by the switch itself.
    | e => s.throwing e

/-- The security events that the management system must hear of. -/
def isCritical (securityEvent : String) : Bool :=
  securityEvent ∈ ["FirmwareUpdated", "SettingSystemTime", "StartupOfTheDevice", "ResetOrReboot",
    "SecurityLogWasCleared", "MemoryExhaustion", "TamperDetectionActivated",
    "InvalidFirmwareSignature", "InvalidFirmwareSigningCertificate", "InvalidCsmsCertificate",
    "InvalidChargingStationCertificate", "InvalidTLSVersion", "InvalidTLSCipherSuite",
    "MaintenanceLoginAccepted", "MaintenanceLoginFailed"]

/-- The error that refuses a text without a call to answer, and the security event about it. -/
def refuse (errorCode what : String) (text : Text) (handling : Handling) (s : ChargePoint) :
    ChargePoint :=
  -- The text has no identifier that could be trusted, so the error carries none.
  (s.dispatch (.callError "-1" errorCode what)).andThen fun s =>
  (s.access .security).andThen fun s =>
    { s with
      sent := s.sent ++
        [.securityEvent "InvalidMessages" (text.take 255) (isCritical "InvalidMessages")]
      stop := handling.throws.map .threw }

/-- The message is handled as far as the registration status lets it. -/
def dispatchByStatus (message : EnhancedMessage) (handling : Handling) (s : ChargePoint) :
    ChargePoint :=
  match s.registrationStatus with
  | .accepted => s.handleMessage message handling
  | .pending =>
    match message.messageType with
    | .bootNotificationResponse => s.block .provisioning handling
    | .getVariables | .setVariables | .getBaseReport | .getReport | .notifyReportResponse
    | .triggerMessage => s.handleMessage message handling
    -- A transaction is refused by a result, and not by an error.
    | .requestStartTransaction | .requestStopTransaction =>
      s.dispatch (.callResult message.uniqueId (.object [("status", .string "Rejected")]))
    | messageType =>
      s.dispatch (.callError message.uniqueId "SecurityError"
        ("Received invalid MessageType: " ++ messagetypeToString messageType ++
          " from CSMS while in state Pending"))
  | .rejected =>
    match message.messageType with
    | .bootNotificationResponse => s.block .provisioning handling
    -- The request is read here already, to see which message it asks for.
    | .triggerMessage =>
      match callOfJson message.message with
      | .ok call =>
        if call.1.requestedMessage = .bootNotification then s.handleMessage message handling
        else s.dispatch (.callError message.uniqueId "SecurityError" "")
      | .error e => s.throwing e
    | _ => s.dispatch (.callError message.uniqueId "SecurityError" "")

/-- An error answers a call, and nothing else. -/
def answerCall (message : EnhancedMessage) (errorCode what : String) (s : ChargePoint) :
    ChargePoint :=
  if message.messageTypeId = .call then s.dispatch (.callError message.uniqueId errorCode what)
  else s

/-- The handlers of the exceptions that leave the handling of a message. -/
def answerException (message : EnhancedMessage) (e : Exception) (s : ChargePoint) : ChargePoint :=
  match e with
  | .evseOutOfRange what | .connectorOutOfRange what =>
    s.answerCall message "OccurrenceConstraintViolation" what
  | .stringConversion what | .enumConversion what | .timePointParse what =>
    s.answerCall message "FormationViolation" what
  -- This handler answers whatever the kind of the message is.
  | .deviceModelError what => s.dispatch (.callError message.uniqueId "GenericError" what)
  | .json what =>
    match message.message with
    | .array elements =>
      if messageId < elements.length then s.answerCall message "FormationViolation" what else s
    | _ => s
  | e => s.throwing e

/-- What the charge point does with a received text. -/
def messageCallback (parse : Text → Except String Json) (text : Text) (handling : Handling)
    (s : ChargePoint) : ChargePoint :=
  (s.access .messageQueue).andThen fun s =>
  match receive parse s.inFlight text with
  -- These two handlers write the text to the log before they answer it.
  | .error (.json what) | .error (.stringConversion what) =>
    (s.access .logging).andThen fun s => s.refuse "RpcFrameworkError" what text handling
  | .error (.enumConversion what) => s.refuse "FormationViolation" what text handling
  | .error (.malformedRpcMessage what) => s.refuse "RpcFrameworkError" what text handling
  | .error e => s.throwing e
  | .ok (message, inFlight) =>
    let s := { s with inFlight }
    if message.messageTypeId = .unknown then
      s.refuse "MessageTypeNotSupported" "" text handling
    else
      (s.dispatchByStatus message handling).catching (answerException message)

end ChargePoint

/-- What happens to the charge point from outside. -/
inductive CsmsEvent
  /-- A text is received, and the block that it reaches handles it in its own way. -/
  | received (text : Text) (handling : Handling)
  /-- The queue sends a call, or gives up the one that waits. -/
  | inFlight (call : Option InFlight)

/-- One event, as long as the program has not ended. -/
def csmsStep (parse : Text → Except String Json) (s : ChargePoint) (event : CsmsEvent) :
    Option ChargePoint :=
  if s.stop = none then
    match event with
    | .received text handling => some (s.messageCallback parse text handling)
    | .inFlight call => some { s with inFlight := call }
  else none

/-- The charge point after its initialization, with the registration as it may be by now. -/
def ChargePoint.initialized (registrationStatus : RegistrationStatusEnum) : ChargePoint where
  objects := initialization chargingStationBase
  registrationStatus := registrationStatus
  inFlight := none
  dereferenced := []
  sent := []
  stop := none

end EasyEvse.Csms
