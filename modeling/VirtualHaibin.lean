import VirtualHaibin.Foundation.Transition
import VirtualHaibin.Foundation.Lease
import VirtualHaibin.Authority.System
import VirtualHaibin.Authority.Process
import VirtualHaibin.Authority.Budget
import VirtualHaibin.Authority.Decision
import VirtualHaibin.Authority.Fencing
import VirtualHaibin.Authority.Fences
import VirtualHaibin.Authority.Binding
import VirtualHaibin.Authority.Soundness
import VirtualHaibin.Authority.History
import VirtualHaibin.Authority.Joining
import VirtualHaibin.Authority.Receipts
import VirtualHaibin.Foundation.Canonical
import VirtualHaibin.Evidence.Encoding
import VirtualHaibin.Messages
import VirtualHaibin.Payments.Settlement
import VirtualHaibin.Evidence.Tamper
import VirtualHaibin.Evidence.Accepted
import VirtualHaibin.Evidence.Attempts
import VirtualHaibin.Recorded
import VirtualHaibin.Authority.Alone
import VirtualHaibin.Authority.Refusals
import VirtualHaibin.Mandate.Verified
import VirtualHaibin.Evidence.Exact
import VirtualHaibin.Agent.Sessions
import VirtualHaibin.Agent.Ownership
import VirtualHaibin.Agent.Server
import VirtualHaibin.Foundation.Program
import VirtualHaibin.Foundation.TextDecoder
import VirtualHaibin.Payments.Provider
import VirtualHaibin.Authority.Executing
import VirtualHaibin.Payments.Ledger
import VirtualHaibin.Authority.Verdict
import VirtualHaibin.Foundation.Base64Url
import VirtualHaibin.Evidence.Headers
import VirtualHaibin.Evidence.Strictness
import VirtualHaibin.Foundation.Numeral
import VirtualHaibin.Web.Format
import VirtualHaibin.Authority.Denials
import VirtualHaibin.Web.Timeline
import VirtualHaibin.Authority.Reconcile
import VirtualHaibin.Authority.Independence
import VirtualHaibin.Authority.Agreement
import VirtualHaibin.Authority.Solo
import VirtualHaibin.Authority.Replay
import VirtualHaibin.Evidence.ServiceCheck
import VirtualHaibin.Service.App
import VirtualHaibin.Authority.Issuing
import VirtualHaibin.Service.Exchange
import VirtualHaibin.Service.Honest
import VirtualHaibin.Evidence.Proven
import VirtualHaibin.Authority.Documents
import VirtualHaibin.Authority.Exportable
import VirtualHaibin.Approver.Deployment
