import BifrostApi.Py.Dict
import BifrostApi.Py.Lower
import BifrostApi.Py.Upper
import BifrostApi.Py.Text
import BifrostApi.Py.Number
import BifrostApi.Py.Rounding
import BifrostApi.Py.Printing
import BifrostApi.Py.Json
import BifrostApi.Py.Date
import BifrostApi.Py.DateText
import BifrostApi.Py.Url
import BifrostApi.Py.Quote
import BifrostApi.Lib.Run
import BifrostApi.Lib.Patch
import BifrostApi.Lib.Stage
import BifrostApi.Lib.Batch
import BifrostApi.Lib.FirstByKey
import BifrostApi.Lib.StableSort
import BifrostApi.Lib.Latest
import BifrostApi.Lib.Loop
import BifrostApi.Lib.GreedyPattern
import BifrostApi.Lib.Hoare
import BifrostApi.Lib.Transaction
import BifrostApi.Lib.Broadcast
import BifrostApi.Lib.Gate
import BifrostApi.Lib.Keyset
import BifrostApi.Lib.History
import BifrostApi.Lib.ReadThrough
import BifrostApi.Docs.MergeOpenapi
import BifrostApi.Docs.MergeSpec
import BifrostApi.Docs.Refs
import BifrostApi.Docs.MergedDocument
import BifrostApi.Common.QueryVocab
import BifrostApi.Common.RequestBodies
import BifrostApi.Ops.Auth
import BifrostApi.Ops.TokenTable
import BifrostApi.WriteGuard
import BifrostApi.Ops.Capabilities
import BifrostApi.Deprecations
import BifrostApi.ReplacedRoutes
import BifrostApi.MiddlewareStack
import BifrostApi.Ops.HealthHash
import BifrostApi.Ops.ExecutorKubernetes
import BifrostApi.Ops.MarketIngestServices
import BifrostApi.Ops.LeasePolls
import BifrostApi.Ops.MarketIngestConfig
import BifrostApi.Ops.MarketIngestDisplay
import BifrostApi.Monitor.ConfigIb
import BifrostApi.Monitor.Messages
import BifrostApi.Monitor.MessageCenter
import BifrostApi.Monitor.StatusCache
import BifrostApi.Monitor.StatusRuns
import BifrostApi.Monitor.UtilizedServices
import BifrostApi.Market.QuoteStream
import BifrostApi.Market.OnDemand
import BifrostApi.Trading.ExecutionsFetch
import BifrostApi.Trading.ExecutionPages
import BifrostApi.Research.ContractKey
import BifrostApi.Research.ContractKeyBridge
import BifrostApi.Research.ExpiryReaders
import BifrostApi.Research.Screener
import BifrostApi.Research.ScreenerFilters
import BifrostApi.Research.ScreenerIsolation
import BifrostApi.Research.ScreenerRanking
import BifrostApi.Research.MarketDataClient
import BifrostApi.Research.OptionSnapshots
import BifrostApi.Research.SnapshotRuns
import BifrostApi.Research.FiscalQuarter
import BifrostApi.Research.IncomeRows
import BifrostApi.Research.SymbolStatements
import BifrostApi.Research.ReadinessReads
import BifrostApi.Research.Greeks
import BifrostApi.Research.StockOptionPcr
import BifrostApi.Research.PcrTrend
import BifrostApi.Research.PcrChain
import BifrostApi.Research.FeedbackStore
import BifrostApi.Research.FeedbackTriage
import BifrostApi.Research.FeedbackContract
import BifrostApi.Research.FeedbackList
import BifrostApi.Strategy.ReadNames
import BifrostApi.Lib.LastWrite
import BifrostApi.Common.WriteErrors
import BifrostApi.Common.WriteRoutes
import BifrostApi.Market.Watchlist
