import EasyEvse.Calendar.Gregorian
import EasyEvse.Calendar.Rfc3339
import EasyEvse.J1772.Safety
import EasyEvse.J1772.Authorization
import EasyEvse.J1772.StopRequest
import EasyEvse.J1772.ControlPilot
import EasyEvse.Ocpp.ChargePoint
import EasyEvse.Ocpp.Session
import EasyEvse.Ocpp.Outline
import EasyEvse.Ocpp.SessionLaws
import EasyEvse.Ocpp.Batches
import EasyEvse.Ocpp.Transactions
import EasyEvse.Ocpp.Task
import EasyEvse.Ocpp.TaskLaws
import EasyEvse.Ocpp.Answers
import EasyEvse.Ocpp.Offline
import EasyEvse.J1772.Reports
import EasyEvse.Station.Tasks
import EasyEvse.Station.Agreement
import EasyEvse.J1772.StopOpens
import EasyEvse.Station.RemoteStop
import EasyEvse.Meter.Buffers
import EasyEvse.Meter.Task
import EasyEvse.Meter.Ownership
import EasyEvse.Meter.Counts
import EasyEvse.Meter.Delivery
import EasyEvse.Meter.LifeCycle
import EasyEvse.Meter.Serving
import EasyEvse.Meter.Shutdown
import EasyEvse.Meter.OneLife
import EasyEvse.Ocpp.AlignedTimer
import EasyEvse.Ocpp.PeriodicMeter
import EasyEvse.J1772.Pwm
import EasyEvse.J1772.Advertised
import EasyEvse.J1772.Stays
import EasyEvse.J1772.Ventilation
import EasyEvse.Station.Register
import EasyEvse.Station.ChargingReports
import EasyEvse.Csms.ChargePoint
import EasyEvse.Csms.MessageQueueLaws
import EasyEvse.Csms.Dispatch
import EasyEvse.Clock.OcppTimepoint
import EasyEvse.Clock.Conversion
import EasyEvse.Clock.Addition
import EasyEvse.Clock.Order
import EasyEvse.Csms.Outgoing
import EasyEvse.Csms.Retries
import EasyEvse.Timers.Service
import EasyEvse.Csms.InFlight
import EasyEvse.Clock.UnixTime
import EasyEvse.J1772.DutyCycle
import EasyEvse.J1772.PwmOutput
import EasyEvse.Ocpp.DisplayMessages
import EasyEvse.Ocpp.MeterValues
import EasyEvse.Transition.Observation
import EasyEvse.Ocpp.Rejections
import EasyEvse.Timers.Settled
import EasyEvse.Csms.SteadyTimer
import EasyEvse.Ocpp.TimerRestarts
import EasyEvse.Connectivity.CheckNetwork
import EasyEvse.Text.Tokens
import EasyEvse.Text.StdString
import EasyEvse.Ocpp.StartStopPoints
import EasyEvse.Clock.Loops
import EasyEvse.J1772.TriggerPoint
import EasyEvse.Availability.Throws
import EasyEvse.Availability.Notified
import EasyEvse.Availability.InService
import EasyEvse.Delivery.Blocked
import EasyEvse.Delivery.Refines
import EasyEvse.Threads.Signals
import EasyEvse.Delivery.Worker
import EasyEvse.Websocket.DeferredCallbacks
import EasyEvse.Websocket.ReceiveLoop
import EasyEvse.Websocket.SendingLaws
import EasyEvse.Provisioning.ReportSplitter
import EasyEvse.Connectivity.LinkShown
import EasyEvse.Connectivity.GivesUp
