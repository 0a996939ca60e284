import DVoD.Async.Scheduler
import DVoD.Arc.HonestPayment
import DVoD.Relay.TunnelSafety
import DVoD.Async.Exception
import DVoD.Orchestrator.Tokens
import DVoD.Orchestrator.Interleaving
import DVoD.Orchestrator.Refunds
import DVoD.Orchestrator.Failover
import DVoD.Ens.WatchdogRevoker
import DVoD.Orchestrator.RelayCache
import DVoD.Orchestrator.Restarts
import DVoD.Relay.Delivery
import DVoD.Relay.Expiry
import DVoD.Ens.Revocations
import DVoD.Ens.OperationalKeys
import DVoD.Orchestrator.Metadata
import DVoD.Orchestrator.EndedAccess
import DVoD.Relay.Lifecycle
import DVoD.Relay.TokenIntegrity
import DVoD.MacClient.AppDelegate
import DVoD.MacClient.ActiveService
import DVoD.Ens.NodeOfName
import DVoD.Ens.ReadBack
import DVoD.Orchestrator.Stream
import DVoD.Ens.DnsName
import DVoD.MacClient.HeaderReader
import DVoD.MacClient.BytePipe
import DVoD.Orchestrator.RpcLoad
import DVoD.Web.SessionPage
import DVoD.Web.PurchasePage
import DVoD.Web.WalletContext
import DVoD.Orchestrator.Migrate
import DVoD.MacClient.ConnectLink
import DVoD.Ens.ReceiverTemplate
import DVoD.Orchestrator.RelayFreshness
import DVoD.Relay.Backpressure
import DVoD.MacClient.ConnectionHistory
import DVoD.Relay.InOrder
import DVoD.MacClient.Replies
import DVoD.Route.EndToEnd
import DVoD.Route.Admission
import DVoD.Arc.Custody
import DVoD.Orchestrator.Grants
import DVoD.Orchestrator.WatchedRelays
import DVoD.Web.Price
import DVoD.Ens.RefreshWorkflow
