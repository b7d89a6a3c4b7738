import EasyEvse.Csms.Json

/-! The types of the messages between the station and the management system, and their names. -/

namespace EasyEvse.Csms

/-- What a message is about. -/
inductive MessageType
  | authorize | authorizeResponse | bootNotification | bootNotificationResponse | cancelReservation
  | cancelReservationResponse | certificateSigned | certificateSignedResponse | changeAvailability
  | changeAvailabilityResponse | clearCache | clearCacheResponse | clearChargingProfile
  | clearChargingProfileResponse | clearDisplayMessage | clearDisplayMessageResponse
  | clearedChargingLimit | clearedChargingLimitResponse | clearVariableMonitoring
  | clearVariableMonitoringResponse | costUpdated | costUpdatedResponse | customerInformation
  | customerInformationResponse | dataTransfer | dataTransferResponse | deleteCertificate
  | deleteCertificateResponse | firmwareStatusNotification | firmwareStatusNotificationResponse
  | get15118EVCertificate | get15118EVCertificateResponse | getBaseReport | getBaseReportResponse
  | getCertificateStatus | getCertificateStatusResponse | getChargingProfiles
  | getChargingProfilesResponse | getCompositeSchedule | getCompositeScheduleResponse
  | getDisplayMessages | getDisplayMessagesResponse | getInstalledCertificateIds
  | getInstalledCertificateIdsResponse | getLocalListVersion | getLocalListVersionResponse | getLog
  | getLogResponse | getMonitoringReport | getMonitoringReportResponse | getReport
  | getReportResponse | getTransactionStatus | getTransactionStatusResponse | getVariables
  | getVariablesResponse | heartbeat | heartbeatResponse | installCertificate
  | installCertificateResponse | logStatusNotification | logStatusNotificationResponse
  | meterValues | meterValuesResponse | notifyChargingLimit | notifyChargingLimitResponse
  | notifyCustomerInformation | notifyCustomerInformationResponse | notifyDisplayMessages
  | notifyDisplayMessagesResponse | notifyEVChargingNeeds | notifyEVChargingNeedsResponse
  | notifyEVChargingSchedule | notifyEVChargingScheduleResponse | notifyEvent | notifyEventResponse
  | notifyMonitoringReport | notifyMonitoringReportResponse | notifyReport | notifyReportResponse
  | publishFirmware | publishFirmwareResponse | publishFirmwareStatusNotification
  | publishFirmwareStatusNotificationResponse | reportChargingProfiles
  | reportChargingProfilesResponse | requestStartTransaction | requestStartTransactionResponse
  | requestStopTransaction | requestStopTransactionResponse | reservationStatusUpdate
  | reservationStatusUpdateResponse | reserveNow | reserveNowResponse | reset | resetResponse
  | securityEventNotification | securityEventNotificationResponse | sendLocalList
  | sendLocalListResponse | setChargingProfile | setChargingProfileResponse | setDisplayMessage
  | setDisplayMessageResponse | setMonitoringBase | setMonitoringBaseResponse | setMonitoringLevel
  | setMonitoringLevelResponse | setNetworkProfile | setNetworkProfileResponse
  | setVariableMonitoring | setVariableMonitoringResponse | setVariables | setVariablesResponse
  | signCertificate | signCertificateResponse | statusNotification | statusNotificationResponse
  | transactionEvent | transactionEventResponse | triggerMessage | triggerMessageResponse
  | unlockConnector | unlockConnectorResponse | unpublishFirmware | unpublishFirmwareResponse
  | updateFirmware | updateFirmwareResponse | adjustPeriodicEventStream
  | adjustPeriodicEventStreamResponse | afrrSignal | afrrSignalResponse | batterySwap
  | batterySwapResponse | changeTransactionTariff | changeTransactionTariffResponse
  | clearDERControl | clearDERControlResponse | clearTariffs | clearTariffsResponse
  | closePeriodicEventStream | closePeriodicEventStreamResponse | getCRL | getCRLResponse
  | getDERControl | getDERControlResponse | getPeriodicEventStream | getPeriodicEventStreamResponse
  | getTariffs | getTariffsResponse | notifyAllowedEnergyTransfer
  | notifyAllowedEnergyTransferResponse | notifyCRL | notifyCRLResponse | notifyDERAlarm
  | notifyDERAlarmResponse | notifyDERStartStop | notifyDERStartStopResponse
  | notifyPeriodicEventStream | notifyPeriodicEventStreamResponse | notifyPriorityCharging
  | notifyPriorityChargingResponse | notifyQRCodeScanned | notifyQRCodeScannedResponse
  | notifySettlement | notifySettlementResponse | openPeriodicEventStream
  | openPeriodicEventStreamResponse | pullDynamicScheduleUpdate | pullDynamicScheduleUpdateResponse
  | requestBatterySwap | requestBatterySwapResponse | setDefaultTariff | setDefaultTariffResponse
  | setDERControl | setDERControlResponse | updateDynamicSchedule | updateDynamicScheduleResponse
  | usePriorityCharging | usePriorityChargingResponse | vatNumberValidation
  | vatNumberValidationResponse | internalError
  deriving DecidableEq, Repr

/-- The names of the message types, in the order in which they are compared with a text. -/
def messageTypeNames : List (String × MessageType) :=
  [("Authorize", .authorize), ("AuthorizeResponse", .authorizeResponse),
   ("BootNotification", .bootNotification),
   ("BootNotificationResponse", .bootNotificationResponse),
   ("CancelReservation", .cancelReservation),
   ("CancelReservationResponse", .cancelReservationResponse),
   ("CertificateSigned", .certificateSigned),
   ("CertificateSignedResponse", .certificateSignedResponse),
   ("ChangeAvailability", .changeAvailability),
   ("ChangeAvailabilityResponse", .changeAvailabilityResponse), ("ClearCache", .clearCache),
   ("ClearCacheResponse", .clearCacheResponse), ("ClearChargingProfile", .clearChargingProfile),
   ("ClearChargingProfileResponse", .clearChargingProfileResponse),
   ("ClearDisplayMessage", .clearDisplayMessage),
   ("ClearDisplayMessageResponse", .clearDisplayMessageResponse),
   ("ClearedChargingLimit", .clearedChargingLimit),
   ("ClearedChargingLimitResponse", .clearedChargingLimitResponse),
   ("ClearVariableMonitoring", .clearVariableMonitoring),
   ("ClearVariableMonitoringResponse", .clearVariableMonitoringResponse),
   ("CostUpdated", .costUpdated), ("CostUpdatedResponse", .costUpdatedResponse),
   ("CustomerInformation", .customerInformation),
   ("CustomerInformationResponse", .customerInformationResponse), ("DataTransfer", .dataTransfer),
   ("DataTransferResponse", .dataTransferResponse), ("DeleteCertificate", .deleteCertificate),
   ("DeleteCertificateResponse", .deleteCertificateResponse),
   ("FirmwareStatusNotification", .firmwareStatusNotification),
   ("FirmwareStatusNotificationResponse", .firmwareStatusNotificationResponse),
   ("Get15118EVCertificate", .get15118EVCertificate),
   ("Get15118EVCertificateResponse", .get15118EVCertificateResponse),
   ("GetBaseReport", .getBaseReport), ("GetBaseReportResponse", .getBaseReportResponse),
   ("GetCertificateStatus", .getCertificateStatus),
   ("GetCertificateStatusResponse", .getCertificateStatusResponse),
   ("GetChargingProfiles", .getChargingProfiles),
   ("GetChargingProfilesResponse", .getChargingProfilesResponse),
   ("GetCompositeSchedule", .getCompositeSchedule),
   ("GetCompositeScheduleResponse", .getCompositeScheduleResponse),
   ("GetDisplayMessages", .getDisplayMessages),
   ("GetDisplayMessagesResponse", .getDisplayMessagesResponse),
   ("GetInstalledCertificateIds", .getInstalledCertificateIds),
   ("GetInstalledCertificateIdsResponse", .getInstalledCertificateIdsResponse),
   ("GetLocalListVersion", .getLocalListVersion),
   ("GetLocalListVersionResponse", .getLocalListVersionResponse), ("GetLog", .getLog),
   ("GetLogResponse", .getLogResponse), ("GetMonitoringReport", .getMonitoringReport),
   ("GetMonitoringReportResponse", .getMonitoringReportResponse), ("GetReport", .getReport),
   ("GetReportResponse", .getReportResponse), ("GetTransactionStatus", .getTransactionStatus),
   ("GetTransactionStatusResponse", .getTransactionStatusResponse),
   ("GetVariables", .getVariables), ("GetVariablesResponse", .getVariablesResponse),
   ("Heartbeat", .heartbeat), ("HeartbeatResponse", .heartbeatResponse),
   ("InstallCertificate", .installCertificate),
   ("InstallCertificateResponse", .installCertificateResponse),
   ("LogStatusNotification", .logStatusNotification),
   ("LogStatusNotificationResponse", .logStatusNotificationResponse),
   ("MeterValues", .meterValues), ("MeterValuesResponse", .meterValuesResponse),
   ("NotifyChargingLimit", .notifyChargingLimit),
   ("NotifyChargingLimitResponse", .notifyChargingLimitResponse),
   ("NotifyCustomerInformation", .notifyCustomerInformation),
   ("NotifyCustomerInformationResponse", .notifyCustomerInformationResponse),
   ("NotifyDisplayMessages", .notifyDisplayMessages),
   ("NotifyDisplayMessagesResponse", .notifyDisplayMessagesResponse),
   ("NotifyEVChargingNeeds", .notifyEVChargingNeeds),
   ("NotifyEVChargingNeedsResponse", .notifyEVChargingNeedsResponse),
   ("NotifyEVChargingSchedule", .notifyEVChargingSchedule),
   ("NotifyEVChargingScheduleResponse", .notifyEVChargingScheduleResponse),
   ("NotifyEvent", .notifyEvent), ("NotifyEventResponse", .notifyEventResponse),
   ("NotifyMonitoringReport", .notifyMonitoringReport),
   ("NotifyMonitoringReportResponse", .notifyMonitoringReportResponse),
   ("NotifyReport", .notifyReport), ("NotifyReportResponse", .notifyReportResponse),
   ("PublishFirmware", .publishFirmware), ("PublishFirmwareResponse", .publishFirmwareResponse),
   ("PublishFirmwareStatusNotification", .publishFirmwareStatusNotification),
   ("PublishFirmwareStatusNotificationResponse", .publishFirmwareStatusNotificationResponse),
   ("ReportChargingProfiles", .reportChargingProfiles),
   ("ReportChargingProfilesResponse", .reportChargingProfilesResponse),
   ("RequestStartTransaction", .requestStartTransaction),
   ("RequestStartTransactionResponse", .requestStartTransactionResponse),
   ("RequestStopTransaction", .requestStopTransaction),
   ("RequestStopTransactionResponse", .requestStopTransactionResponse),
   ("ReservationStatusUpdate", .reservationStatusUpdate),
   ("ReservationStatusUpdateResponse", .reservationStatusUpdateResponse),
   ("ReserveNow", .reserveNow), ("ReserveNowResponse", .reserveNowResponse), ("Reset", .reset),
   ("ResetResponse", .resetResponse), ("SecurityEventNotification", .securityEventNotification),
   ("SecurityEventNotificationResponse", .securityEventNotificationResponse),
   ("SendLocalList", .sendLocalList), ("SendLocalListResponse", .sendLocalListResponse),
   ("SetChargingProfile", .setChargingProfile),
   ("SetChargingProfileResponse", .setChargingProfileResponse),
   ("SetDisplayMessage", .setDisplayMessage),
   ("SetDisplayMessageResponse", .setDisplayMessageResponse),
   ("SetMonitoringBase", .setMonitoringBase),
   ("SetMonitoringBaseResponse", .setMonitoringBaseResponse),
   ("SetMonitoringLevel", .setMonitoringLevel),
   ("SetMonitoringLevelResponse", .setMonitoringLevelResponse),
   ("SetNetworkProfile", .setNetworkProfile),
   ("SetNetworkProfileResponse", .setNetworkProfileResponse),
   ("SetVariableMonitoring", .setVariableMonitoring),
   ("SetVariableMonitoringResponse", .setVariableMonitoringResponse),
   ("SetVariables", .setVariables), ("SetVariablesResponse", .setVariablesResponse),
   ("SignCertificate", .signCertificate), ("SignCertificateResponse", .signCertificateResponse),
   ("StatusNotification", .statusNotification),
   ("StatusNotificationResponse", .statusNotificationResponse),
   ("TransactionEvent", .transactionEvent),
   ("TransactionEventResponse", .transactionEventResponse), ("TriggerMessage", .triggerMessage),
   ("TriggerMessageResponse", .triggerMessageResponse), ("UnlockConnector", .unlockConnector),
   ("UnlockConnectorResponse", .unlockConnectorResponse),
   ("UnpublishFirmware", .unpublishFirmware),
   ("UnpublishFirmwareResponse", .unpublishFirmwareResponse), ("UpdateFirmware", .updateFirmware),
   ("UpdateFirmwareResponse", .updateFirmwareResponse), ("InternalError", .internalError),
   ("AdjustPeriodicEventStream", .adjustPeriodicEventStream),
   ("AdjustPeriodicEventStreamResponse", .adjustPeriodicEventStreamResponse),
   ("AFRRSignal", .afrrSignal), ("AFRRSignalResponse", .afrrSignalResponse),
   ("BatterySwap", .batterySwap), ("BatterySwapResponse", .batterySwapResponse),
   ("ChangeTransactionTariff", .changeTransactionTariff),
   ("ChangeTransactionTariffResponse", .changeTransactionTariffResponse),
   ("ClearDERControl", .clearDERControl), ("ClearDERControlResponse", .clearDERControlResponse),
   ("ClearTariffs", .clearTariffs), ("ClearTariffsResponse", .clearTariffsResponse),
   ("ClosePeriodicEventStream", .closePeriodicEventStream),
   ("ClosePeriodicEventStreamResponse", .closePeriodicEventStreamResponse), ("GetCRL", .getCRL),
   ("GetCRLResponse", .getCRLResponse), ("GetDERControl", .getDERControl),
   ("GetDERControlResponse", .getDERControlResponse),
   ("GetPeriodicEventStream", .getPeriodicEventStream),
   ("GetPeriodicEventStreamResponse", .getPeriodicEventStreamResponse),
   ("GetTariffs", .getTariffs), ("GetTariffsResponse", .getTariffsResponse),
   ("NotifyAllowedEnergyTransfer", .notifyAllowedEnergyTransfer),
   ("NotifyAllowedEnergyTransferResponse", .notifyAllowedEnergyTransferResponse),
   ("NotifyCRL", .notifyCRL), ("NotifyCRLResponse", .notifyCRLResponse),
   ("NotifyDERAlarm", .notifyDERAlarm), ("NotifyDERAlarmResponse", .notifyDERAlarmResponse),
   ("NotifyDERStartStop", .notifyDERStartStop),
   ("NotifyDERStartStopResponse", .notifyDERStartStopResponse),
   ("NotifyPeriodicEventStream", .notifyPeriodicEventStream),
   ("NotifyPeriodicEventStreamResponse", .notifyPeriodicEventStreamResponse),
   ("NotifyPriorityCharging", .notifyPriorityCharging),
   ("NotifyPriorityChargingResponse", .notifyPriorityChargingResponse),
   ("NotifyQRCodeScanned", .notifyQRCodeScanned),
   ("NotifyQRCodeScannedResponse", .notifyQRCodeScannedResponse),
   ("NotifySettlement", .notifySettlement),
   ("NotifySettlementResponse", .notifySettlementResponse),
   ("OpenPeriodicEventStream", .openPeriodicEventStream),
   ("OpenPeriodicEventStreamResponse", .openPeriodicEventStreamResponse),
   ("PullDynamicScheduleUpdate", .pullDynamicScheduleUpdate),
   ("PullDynamicScheduleUpdateResponse", .pullDynamicScheduleUpdateResponse),
   ("RequestBatterySwap", .requestBatterySwap),
   ("RequestBatterySwapResponse", .requestBatterySwapResponse),
   ("SetDefaultTariff", .setDefaultTariff),
   ("SetDefaultTariffResponse", .setDefaultTariffResponse), ("SetDERControl", .setDERControl),
   ("SetDERControlResponse", .setDERControlResponse),
   ("UpdateDynamicSchedule", .updateDynamicSchedule),
   ("UpdateDynamicScheduleResponse", .updateDynamicScheduleResponse),
   ("UsePriorityCharging", .usePriorityCharging),
   ("UsePriorityChargingResponse", .usePriorityChargingResponse),
   ("VatNumberValidation", .vatNumberValidation),
   ("VatNumberValidationResponse", .vatNumberValidationResponse)]

/-- The message type that a text names. -/
def stringToMessagetype (s : String) : Except Exception MessageType :=
  match messageTypeNames.find? fun entry => s == entry.1 with
  | some entry => .ok entry.2
  | none => .error (stringToEnumException s "MessageType")

/-- The name of a message type. -/
def messagetypeToString (m : MessageType) : String :=
  match messageTypeNames.find? fun entry => entry.2 == m with
  | some entry => entry.1
  | none => ""

/-- A text that is read as a message type is one of its names. -/
theorem mem_of_stringToMessagetype {s : String} {m : MessageType}
    (read : stringToMessagetype s = .ok m) : (s, m) ∈ messageTypeNames := by
  unfold stringToMessagetype at read
  split at read
  case h_1 entry found =>
    -- The entry that was found compares equal with the text.
    have named : s = entry.1 := by simpa using List.find?_some found
    obtain rfl : entry.2 = m := Except.ok.inj read
    exact named ▸ List.mem_of_find?_eq_some found
  case h_2 => cases read

end EasyEvse.Csms
