import GaiaCom.Lib.Table
import GaiaCom.Lib.Run
import GaiaCom.Lib.FixedWindow
import GaiaCom.Lib.Calendar
import GaiaCom.Lib.Text
import GaiaCom.Lib.Digits
import GaiaCom.Lib.Json
import GaiaCom.Lib.Utf8
import GaiaCom.Lib.Marshal
import GaiaCom.Store.Time
import GaiaCom.Store.Column
import GaiaCom.Core.Uuid
import GaiaCom.Core.Validate
import GaiaCom.TransportQueue.Envelope
import GaiaCom.TransportQueue.Outbox
import GaiaCom.TransportQueue.Lifecycle
import GaiaCom.TransportQueue.Lease
import GaiaCom.TransportQueue.Inbox
import GaiaCom.Federation.Pdu
import GaiaCom.Federation.ReplayGuard
import GaiaCom.Federation.Fencing
import GaiaCom.Federation.Receive
import GaiaCom.Federation.Acknowledge
import GaiaCom.Federation.Replay
import GaiaCom.Federation.Isolation
import GaiaCom.Federation.Handshake
import GaiaCom.Federation.Peers
import GaiaCom.Federation.Transcript
import GaiaCom.Federation.Wire
import GaiaCom.Federation.Admission
import GaiaCom.Gsn.Store
import GaiaCom.Federation.Authorization
import GaiaCom.Federation.Delivery
import GaiaCom.Gsn.Service
import GaiaCom.Gsn.Agreement
import GaiaCom.Gsn.Flood
import GaiaCom.Gsn.Attribution
import GaiaCom.Security.RateLimit
import GaiaCom.Lib.HashChain
import GaiaCom.Security.AuditChain
import GaiaCom.Governance.Roles
import GaiaCom.Messaging.Deletion
import GaiaCom.Trustmesh.Proofs
import GaiaCom.Trustmesh.Reports
import GaiaCom.Messaging.Posting
import GaiaCom.Messaging.Blocking
import GaiaCom.Messaging.Correlation
import GaiaCom.Messaging.ReadReceipts
import GaiaCom.Messaging.SlowMode
import GaiaCom.Mailbox.Ownership
import GaiaCom.Auth.Password
import GaiaCom.Devices.Pairing
import GaiaCom.Envelope.Exchange
import GaiaCom.Envelope.Binding
import GaiaCom.Presence.Typing
import GaiaCom.Rooms.Membership
import GaiaCom.Rooms.Escalation
import GaiaCom.Rooms.Requests
import GaiaCom.Rooms.Invites
import GaiaCom.Rooms.TopSecret
import GaiaCom.Rooms.Secrets
import GaiaCom.Storage.Integrity
import GaiaCom.Storage.Quota
import GaiaCom.Storage.Sweep
import GaiaCom.Governance.Appeals
import GaiaCom.Governance.Decisions
import GaiaCom.Governance.Votes
import GaiaCom.Governance.Grants
import GaiaCom.Governance.AutoGovernance
import GaiaCom.NodeRegistry.Binding
import GaiaCom.Auth.Deletion
import GaiaCom.Auth.Names
import GaiaCom.Security.MessageGuard
import GaiaCom.Messaging.Sending
import GaiaCom.Messaging.SendMessage
import GaiaCom.Messaging.DeviceProof
import GaiaCom.Auth.Throttle
import GaiaCom.Gsn.Signed
import GaiaCom.Storage.Access
import GaiaCom.PublicChannels.Schedule
import GaiaCom.Storage.ObjectKey
import GaiaCom.Storage.ObjectStore
