import TuyaBleMesh.Lib.EventSystem
import TuyaBleMesh.Lib.NumberRange
import TuyaBleMesh.Exceptions
import TuyaBleMesh.Sequence.Store
import TuyaBleMesh.Sequence.Interleaving
import TuyaBleMesh.Sequence.Persistence
import TuyaBleMesh.Sequence.Freshness
import TuyaBleMesh.Lib.Bytes
import TuyaBleMesh.Mesh.Crypto
import TuyaBleMesh.Mesh.Codec
import TuyaBleMesh.Mesh.Protocol
import TuyaBleMesh.Mesh.NetworkRoundTrip
import TuyaBleMesh.Lib.OrderedDict
import TuyaBleMesh.Mesh.SegmentRoundTrip
import TuyaBleMesh.Mesh.Messages
import TuyaBleMesh.Mesh.SegmentLayout
import TuyaBleMesh.SigMesh.Commands
import TuyaBleMesh.SigMesh.Device
import TuyaBleMesh.SigMesh.Rules
import TuyaBleMesh.SigMesh.Contract
import TuyaBleMesh.SigMesh.Attribution
import TuyaBleMesh.SigMesh.Payloads
import TuyaBleMesh.Device.Receive
import TuyaBleMesh.Device.Layers
import TuyaBleMesh.Device.Robustness
import TuyaBleMesh.Device.Run
import TuyaBleMesh.Device.Reassembly
import TuyaBleMesh.Device.Expiry
import TuyaBleMesh.Device.Isolation
import TuyaBleMesh.Device.Replay
import TuyaBleMesh.Device.Filter
import TuyaBleMesh.Transport.Request
import TuyaBleMesh.Transport.Correlation
import TuyaBleMesh.Transport.Dispatcher
import TuyaBleMesh.Transport.Lifecycle
import TuyaBleMesh.Transport.Accounting
import TuyaBleMesh.Transport.Completion
import TuyaBleMesh.Transport.Cancellation
import TuyaBleMesh.Bridge.Client
import TuyaBleMesh.Bridge.Freshness
import TuyaBleMesh.Bridge.Recognition
import TuyaBleMesh.Bridge.Polling
import TuyaBleMesh.Bridge.Queue
import TuyaBleMesh.Lib.Program
import TuyaBleMesh.Lib.Coroutine
import TuyaBleMesh.Lib.RelyGuarantee
import TuyaBleMesh.Light.Order
import TuyaBleMesh.Mesh.Cmac
import TuyaBleMesh.Provisioning.Delivery
import TuyaBleMesh.Provisioning.KeyRelease
import TuyaBleMesh.Provisioning.Reflection
import TuyaBleMesh.Provisioning.Segmentation
import TuyaBleMesh.Provisioning.ErrorContract
import TuyaBleMesh.Transport.Retry
import TuyaBleMesh.Transport.InFlight
import TuyaBleMesh.Transport.LastRequest
import TuyaBleMesh.Telink.Packet
import TuyaBleMesh.Telink.StateRuns
import TuyaBleMesh.Telink.DisconnectEvents
import TuyaBleMesh.Telink.WaitLoop
import TuyaBleMesh.Lib.Solo
import TuyaBleMesh.Telink.WriteRetry
import TuyaBleMesh.Transport.PriorityOrder
import TuyaBleMesh.Telink.CommandRuns
import TuyaBleMesh.Bridge.Framing
import TuyaBleMesh.Connection.ErrorClass
import TuyaBleMesh.Connection.Backoff
import TuyaBleMesh.Connection.SingleAttempt
import TuyaBleMesh.Telink.Notifications
import TuyaBleMesh.Lib.Utf8
import TuyaBleMesh.Lib.Records
import TuyaBleMesh.Telink.DataPoints
import TuyaBleMesh.Lib.Inside
import TuyaBleMesh.ConfigFlow.RunProvision
import TuyaBleMesh.Lib.Outcome
import TuyaBleMesh.SigMesh.LinkRelease
import TuyaBleMesh.Provisioning.Connection
import TuyaBleMesh.Provisioning.LinkRelease
import TuyaBleMesh.Lib.Restart
import TuyaBleMesh.Connection.Advertisements
import TuyaBleMesh.Telink.CompactDp
import TuyaBleMesh.SigMesh.VendorFrame
import TuyaBleMesh.ConfigFlow.Elements
import TuyaBleMesh.Lib.QuotientWord
import TuyaBleMesh.Mesh.Rfc4493
import TuyaBleMesh.Light.Command
import TuyaBleMesh.Light.Transition
import TuyaBleMesh.Bridge.Tracked
import TuyaBleMesh.Connection.Dispatch
import TuyaBleMesh.Connection.CommandRetry
import TuyaBleMesh.Transport.CorrelationRuns
import TuyaBleMesh.Lib.Delimited
import TuyaBleMesh.Sniffer.Slip
import TuyaBleMesh.Sequence.Restore
import TuyaBleMesh.Connection.RssiPolling
import TuyaBleMesh.Connection.Wrapping
import TuyaBleMesh.Lib.Regex
import TuyaBleMesh.Diagnostics.Redaction
import TuyaBleMesh.Lib.IpAddress
import TuyaBleMesh.ConfigFlow.BridgeHost
import TuyaBleMesh.Lib.Turns
import TuyaBleMesh.Telink.Keystream
import TuyaBleMesh.Telink.KeystreamRuns
import TuyaBleMesh.MeshProxyCmd.Keys
import TuyaBleMesh.MeshProxyCmd.Pdus
import TuyaBleMesh.MeshProxyCmd.Receive
import TuyaBleMesh.MeshProxyCmd.Session
import TuyaBleMesh.MeshProxyCmd.Sequence
import TuyaBleMesh.MeshProxyCmd.SharedFile
import TuyaBleMesh.Lib.BoundedLog
import TuyaBleMesh.Connection.Repairs
import TuyaBleMesh.Telink.Pairing
import TuyaBleMesh.Telink.PairingAgreement
import TuyaBleMesh.Provisioning.SimulatedDevice
import TuyaBleMesh.Provisioning.DeviceAgreement
import TuyaBleMesh.Provisioning.ProvisioningRuns
import TuyaBleMesh.PbGattProvision.Exchange
import TuyaBleMesh.PbGattProvision.Agreement
import TuyaBleMesh.PbGattProvision.Run
import TuyaBleMesh.ConfigFlow.EntryRuns
