import NetworkGateway.Dal.Bench
import NetworkGateway.Proofs.Jobs
import NetworkGateway.Proofs.Routes
import NetworkGateway.Proofs.References
import NetworkGateway.Proofs.RoleCredentials
import NetworkGateway.Proofs.Secrecy
import NetworkGateway.Proofs.Access
import NetworkGateway.Proofs.Attempts
import NetworkGateway.Proofs.Logins
import NetworkGateway.Proofs.Negotiation
import NetworkGateway.Proofs.TelnetReads
import NetworkGateway.Proofs.Prompts
import NetworkGateway.Proofs.DeviceAccess
import NetworkGateway.Proofs.Endpoints
import NetworkGateway.Proofs.Socks
import NetworkGateway.Proofs.TextProtocols
import NetworkGateway.Proofs.Containment
import NetworkGateway.Proofs.TransactionLog
import NetworkGateway.Proofs.Masking
import NetworkGateway.Proofs.BearerRedaction
import NetworkGateway.Proofs.KeyRedaction
import NetworkGateway.Proofs.LogQueries
import NetworkGateway.Proofs.SettingsModels
import NetworkGateway.Proofs.RouteModels
import NetworkGateway.Proofs.Exports
import NetworkGateway.Proofs.ConnectReplies
import NetworkGateway.Proofs.Startup
import NetworkGateway.Proofs.FailedConnects
import NetworkGateway.Proofs.MappingKeys
import NetworkGateway.Proofs.ProxyRouting
import NetworkGateway.Proofs.PublicFlags
import NetworkGateway.Proofs.Conflicts
import NetworkGateway.Proofs.DeviceViews
import NetworkGateway.Proofs.Deadlines
import NetworkGateway.Proofs.BatchIsolation
import NetworkGateway.Proofs.PartialUpdates
import NetworkGateway.Proofs.Attendance
import NetworkGateway.Proofs.AuditTrail
import NetworkGateway.Demo.LoopbackPeer
import NetworkGateway.Library.Conversation
import NetworkGateway.Proofs.Conversations
import NetworkGateway.Proofs.SocksAgreement
