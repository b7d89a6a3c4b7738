import EasyEvse.Csms.MessageQueue

/-! How a request for a message of the station is read. -/

namespace EasyEvse.Csms

/-- Where the payload of a call stands in its array. -/
def callPayload : ℕ := 3

/-- The kind of trigger that a message asks the station for. -/
inductive MessageTriggerEnum
  | bootNotification | logStatusNotification | firmwareStatusNotification | heartbeat
  | meterValues | signChargingStationCertificate | signV2GCertificate | signV2G20Certificate
  | statusNotification | transactionEvent | signCombinedCertificate
  | publishFirmwareStatusNotification | customTrigger
  deriving DecidableEq, Repr

/-- The trigger that a text names. -/
def stringToMessageTriggerEnum (s : String) : Except Exception MessageTriggerEnum :=
  if s = "BootNotification" then .ok .bootNotification
  else if s = "LogStatusNotification" then .ok .logStatusNotification
  else if s = "FirmwareStatusNotification" then .ok .firmwareStatusNotification
  else if s = "Heartbeat" then .ok .heartbeat
  else if s = "MeterValues" then .ok .meterValues
  else if s = "SignChargingStationCertificate" then .ok .signChargingStationCertificate
  else if s = "SignV2GCertificate" then .ok .signV2GCertificate
  else if s = "SignV2G20Certificate" then .ok .signV2G20Certificate
  else if s = "StatusNotification" then .ok .statusNotification
  else if s = "TransactionEvent" then .ok .transactionEvent
  else if s = "SignCombinedCertificate" then .ok .signCombinedCertificate
  else if s = "PublishFirmwareStatusNotification" then .ok .publishFirmwareStatusNotification
  else if s = "CustomTrigger" then .ok .customTrigger
  else .error (stringToEnumException s "MessageTriggerEnum")

/-- The part of the station that a request is about. -/
structure Evse where
  id : ℤ
  connectorId : Option ℤ
  customData : Option Json

/-- Reads the part of the station that a request is about. -/
def Evse.fromJson (j : Json) : Except Exception Evse := do
  let id ← (← j.atKey "id").getInt
  let connectorId ← j.atKey? "connectorId" Json.getInt
  let customData ← j.atKey? "customData" .ok
  return { id, connectorId, customData }

/-- A request for the station to send a message of its own. -/
structure TriggerMessageRequest where
  requestedMessage : MessageTriggerEnum
  evse : Option Evse
  customTrigger : Option String
  customData : Option Json

/-- Reads a request for a message of the station. -/
def TriggerMessageRequest.fromJson (j : Json) : Except Exception TriggerMessageRequest := do
  let requestedMessage ←
    stringToMessageTriggerEnum (← (← j.atKey "requestedMessage").getString)
  -- The members that may be missing are read after the one that must be there.
  let evse ← j.atKey? "evse" Evse.fromJson
  let customTrigger ← j.atKey? "customTrigger" fun text => do ciString 50 (← text.getString)
  let customData ← j.atKey? "customData" .ok
  return { requestedMessage, evse, customTrigger, customData }

/-- Reads the request that a call carries, and then the identifier of the call. -/
def callOfJson (j : Json) : Except Exception (TriggerMessageRequest × String) := do
  let msg ← TriggerMessageRequest.fromJson (← j.atIndex callPayload)
  let uniqueId ← ciString 36 (← (← j.atIndex messageId).getString)
  return (msg, uniqueId)

end EasyEvse.Csms
