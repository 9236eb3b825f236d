import LlmopsGateway.Machine.Run
import LlmopsGateway.Math.TokenBucket
import LlmopsGateway.Model.RateLimit
import LlmopsGateway.Soundness.RateLimitWindow
import LlmopsGateway.Model.Coalescing
import LlmopsGateway.Soundness.CoalescingLock
import LlmopsGateway.Model.CircuitBreaker
import LlmopsGateway.Soundness.CoalescingOnce
import LlmopsGateway.Soundness.FailureHistory
import LlmopsGateway.Model.BaseProvider
import LlmopsGateway.Soundness.ProviderCircuit
import LlmopsGateway.Model.Auth
import LlmopsGateway.Soundness.Revocation
import LlmopsGateway.Math.Words
import LlmopsGateway.Model.PyText
import LlmopsGateway.Model.ChatRequest
import LlmopsGateway.Soundness.PyTextReading
import LlmopsGateway.Soundness.CacheKeySound
import LlmopsGateway.Machine.Logged
import LlmopsGateway.Model.ChatResponse
import LlmopsGateway.Model.Routing
import LlmopsGateway.Model.Gateway
import LlmopsGateway.Soundness.HandlerRuns
import LlmopsGateway.Soundness.Attribution
import LlmopsGateway.Model.Upstream
import LlmopsGateway.Soundness.SpendLedger
import LlmopsGateway.Soundness.ReplyShape
import LlmopsGateway.Soundness.TypedFailure
import LlmopsGateway.Soundness.RetryRuns
import LlmopsGateway.Math.TakeThrough
import LlmopsGateway.Soundness.RetryFallback
import LlmopsGateway.Soundness.StreamDelivery
import LlmopsGateway.Model.PyUuid
import LlmopsGateway.Soundness.UuidText
import LlmopsGateway.Machine.Table
import LlmopsGateway.Model.AdapterRoutes
import LlmopsGateway.Model.Scopes
import LlmopsGateway.Model.Admin
import LlmopsGateway.Soundness.TenantEscalation
import LlmopsGateway.Model.TracePersistence
import LlmopsGateway.Soundness.TraceOnce
import LlmopsGateway.Soundness.AuditTrail
import LlmopsGateway.Model.Pricing
import LlmopsGateway.Soundness.PriceSentinel
import LlmopsGateway.Model.Faults
import LlmopsGateway.Soundness.FaultTolerance
import LlmopsGateway.Machine.Expiring
import LlmopsGateway.Model.CacheLayer
import LlmopsGateway.Soundness.CacheCommands
import LlmopsGateway.Soundness.TenantIsolation
import LlmopsGateway.Model.History
import LlmopsGateway.Soundness.CacheProvenance
import LlmopsGateway.Soundness.OneHop
import LlmopsGateway.Soundness.PinnedProvider
import LlmopsGateway.Soundness.SemanticFilter
import LlmopsGateway.Math.FirstOccurrences
import LlmopsGateway.Soundness.AttemptOrder
import LlmopsGateway.Soundness.TraceAtomicity
import LlmopsGateway.Soundness.SequentialBucket
import LlmopsGateway.Soundness.ClientErrors
import LlmopsGateway.Model.BackgroundJobs
import LlmopsGateway.Soundness.JobScheduling
import LlmopsGateway.Model.Payloads
import LlmopsGateway.Model.TraceExporters
import LlmopsGateway.Soundness.PayloadRoundTrip
import LlmopsGateway.Soundness.WorkerParity
import LlmopsGateway.Machine.Coherent
import LlmopsGateway.Model.PrincipalCache
import LlmopsGateway.Soundness.PrincipalCaching
import LlmopsGateway.Model.Middleware
import LlmopsGateway.Soundness.AccessControl
import LlmopsGateway.Machine.Scanner
import LlmopsGateway.Model.ProviderPayload
import LlmopsGateway.Soundness.ConversationKept
import LlmopsGateway.Soundness.KeyWhitespace
import LlmopsGateway.Model.AdapterRouting
import LlmopsGateway.Soundness.CanarySplit
import LlmopsGateway.Soundness.RouteSelection
import LlmopsGateway.Soundness.CacheBypass
import LlmopsGateway.Soundness.RetryAfter
import LlmopsGateway.Model.ProviderStream
import LlmopsGateway.Soundness.AnthropicBlocks
import LlmopsGateway.Soundness.AnthropicStream
import LlmopsGateway.Model.JsonText
import LlmopsGateway.Soundness.JsonReading
import LlmopsGateway.Soundness.OpenAIStream
import LlmopsGateway.Soundness.JsonRoundTrip
import LlmopsGateway.Model.ChatStream
import LlmopsGateway.Soundness.StreamRoundTrip
import LlmopsGateway.Soundness.PartialStream
import LlmopsGateway.Soundness.StreamMarkers
import LlmopsGateway.Machine.Selection
import LlmopsGateway.Model.PriceTable
import LlmopsGateway.Soundness.ListedPrice
import LlmopsGateway.Machine.Assembly
import LlmopsGateway.Model.SemanticCollections
import LlmopsGateway.Soundness.CollectionBootstrap
import LlmopsGateway.Soundness.VectorSpaces
import LlmopsGateway.Machine.Linking
import LlmopsGateway.Model.Tracing
import LlmopsGateway.Soundness.SpanForest
import LlmopsGateway.Machine.Amortized
import LlmopsGateway.Soundness.Overtaking
import LlmopsGateway.Soundness.RetryAmplification
import LlmopsGateway.Soundness.CoalescingProgress
import LlmopsGateway.Machine.Simulation
import LlmopsGateway.Model.RateLimitKeyspace
import LlmopsGateway.Soundness.TenantBuckets
import LlmopsGateway.Machine.Staleness
import LlmopsGateway.Soundness.PriceFreshness
import LlmopsGateway.Soundness.PrincipalFreshness
import LlmopsGateway.Machine.Instrumented
import LlmopsGateway.Model.TracedGateway
import LlmopsGateway.Soundness.HandlerSpans
import LlmopsGateway.Soundness.StreamConsumer
import LlmopsGateway.Soundness.ModelLoading
import LlmopsGateway.Soundness.ResponseContract
import LlmopsGateway.Machine.Observed
import LlmopsGateway.Model.StreamFaults
import LlmopsGateway.Soundness.StreamResilience
import LlmopsGateway.Soundness.Throttle
import LlmopsGateway.Machine.Outbox
import LlmopsGateway.Model.Bookkeeping
import LlmopsGateway.Soundness.Books
import LlmopsGateway.Model.ProviderTraffic
import LlmopsGateway.Soundness.ProviderLoad
import LlmopsGateway.Model.LangfuseExporter
import LlmopsGateway.Soundness.TraceExport
import LlmopsGateway.Soundness.BreakerLoad
import LlmopsGateway.Soundness.SerialCalls
