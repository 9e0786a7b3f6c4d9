import ConfidentialWorker.Library.Program
import ConfidentialWorker.Library.History
import ConfidentialWorker.Library.Utf8
import ConfidentialWorker.Host.Interface
import ConfidentialWorker.Host.Http
import ConfidentialWorker.Host.Evaluation
import ConfidentialWorker.Host.ClientRuns
import ConfidentialWorker.OffchainUtils.FetchGuarantees
import ConfidentialWorker.OffchainUtils.OffchainApiKey
import ConfidentialWorker.Pallets.OffchainWorker
import ConfidentialWorker.Pallets.Template
import ConfidentialWorker.Pallets.HookRuns
import ConfidentialWorker.Pallets.KeyHandling
import ConfidentialWorker.Node.Service
import ConfidentialWorker.Runtime.Runtime
import ConfidentialWorker.System.World
import ConfidentialWorker.System.KeyRotation
import ConfidentialWorker.ApiServer.Server
import ConfidentialWorker.System.OnChainState
import ConfidentialWorker.ApiServer.Authentication
import ConfidentialWorker.ApiServer.Credentials
import ConfidentialWorker.InjectApiKey.Script
import ConfidentialWorker.InjectApiKey.Availability
import ConfidentialWorker.Library.Sequence
import ConfidentialWorker.OffchainUtils.WholeRequests
import ConfidentialWorker.ApiServer.RouteTable
import ConfidentialWorker.Library.Rounding
import ConfidentialWorker.Library.Unsigned
import ConfidentialWorker.Runtime.Fees
import ConfidentialWorker.Runtime.FeeGuarantees
import ConfidentialWorker.Library.Periods
import ConfidentialWorker.Library.PowersOfTwo
import ConfidentialWorker.Runtime.Era
import ConfidentialWorker.Runtime.BlockHashes
import ConfidentialWorker.Runtime.SignedTransactions
import ConfidentialWorker.Runtime.Mortality
import ConfidentialWorker.Xcm.Instructions
import ConfidentialWorker.Xcm.ComputedOrigin
import ConfidentialWorker.Xcm.Barriers
import ConfidentialWorker.Xcm.Executor
import ConfidentialWorker.Runtime.XcmConfig
import ConfidentialWorker.Runtime.FreeExecution
import ConfidentialWorker.Runtime.ReserveTransfers
import ConfidentialWorker.Xcm.ExecutionCost
import ConfidentialWorker.Runtime.AdmittedMessages
import ConfidentialWorker.Runtime.ExecutionBounds
import ConfidentialWorker.Xcm.ActingOrigins
import ConfidentialWorker.Runtime.XcmOrigins
import ConfidentialWorker.Runtime.Transacts
import ConfidentialWorker.Library.Overlapping
import ConfidentialWorker.System.OverlappingRuns
import ConfidentialWorker.Library.JsonGrammar
import ConfidentialWorker.Library.JsonReading
import ConfidentialWorker.ApiServer.ResponseBodies
import ConfidentialWorker.InjectApiKey.RequestBodies
import ConfidentialWorker.System.EndToEnd
import ConfidentialWorker.Library.Plans
import ConfidentialWorker.Node.ChainSpecs
import ConfidentialWorker.Node.Startup
import ConfidentialWorker.Node.StartupOrder
import ConfidentialWorker.ApiServer.Guessing
import ConfidentialWorker.Runtime.PalletCalls
import ConfidentialWorker.System.MessageEffects
