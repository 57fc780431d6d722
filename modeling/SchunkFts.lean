import SchunkFts.Foundation.Hex
import SchunkFts.Library.Packet
import SchunkFts.Library.PacketAgreement
import SchunkFts.Dummy.OutputRate
import SchunkFts.Dummy.UdpStream
import SchunkFts.Library.Messages
import SchunkFts.Library.MessageRoundTrip
import SchunkFts.Library.Requests
import SchunkFts.Dummy.Sensor
import SchunkFts.Dummy.Session
import SchunkFts.Foundation.Queue
import SchunkFts.Library.DataBuffer
import SchunkFts.Library.BufferLedger
import SchunkFts.Library.DriverSettings
import SchunkFts.Node.PublishLoop
import SchunkFts.Foundation.WrappingCounter
import SchunkFts.Node.StampOrder
import SchunkFts.Library.UpdateLoop
import SchunkFts.Node.Loops
import SchunkFts.Node.Survival
import SchunkFts.Node.Conservation
import SchunkFts.Node.StateTopic
import SchunkFts.Foundation.Scripts
import SchunkFts.Library.Control
import SchunkFts.Library.ControlCalls
import SchunkFts.Library.Reconnect
import SchunkFts.Library.CallScripts
import SchunkFts.Library.CallsAlone
import SchunkFts.Library.CallAccounts
import SchunkFts.Library.SharedConnection
import SchunkFts.Library.LoopSteps
import SchunkFts.Library.OpenSocket
import SchunkFts.Library.SingleLoop
import SchunkFts.Foundation.Fair
import SchunkFts.Library.StreamingOff
import SchunkFts.Library.StreamingOnFailure
import SchunkFts.Library.OpenWhileStreaming
import SchunkFts.Library.SessionSamples
import SchunkFts.Node.HeldResources
import SchunkFts.Node.SampleStamps
import SchunkFts.Node.Reanchoring
import SchunkFts.Node.SampleStatus
import SchunkFts.Node.SkipCount
import SchunkFts.Dummy.RequestLength
import SchunkFts.Library.ArrivalOrder
import SchunkFts.Library.PersistentOpen
import SchunkFts.Library.ReplyHandling
import SchunkFts.Library.StartHandshake
import SchunkFts.Library.StreamHolders
import SchunkFts.Foundation.Unwinding
import SchunkFts.Library.SourceFilter
import SchunkFts.Node.ServiceCallbacks
import SchunkFts.Dummy.DriverRequests
import SchunkFts.Foundation.Threads
import SchunkFts.Library.BufferAccounts
import SchunkFts.Library.BufferUsers
import SchunkFts.Whole.DataPath
import SchunkFts.Whole.Delivery
import SchunkFts.Dummy.SharedRate
import SchunkFts.Foundation.LockOrder
import SchunkFts.Whole.ActiveNode
import SchunkFts.Whole.Waiting
import SchunkFts.Whole.ActiveDelivery
import SchunkFts.Whole.SensorHistory
import SchunkFts.Whole.AnsweredCalls
import SchunkFts.Whole.ServiceAnswers
