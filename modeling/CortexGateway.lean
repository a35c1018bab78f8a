import CortexGateway.Core.Exceptions
import CortexGateway.Core.Text
import CortexGateway.Core.Datetime
import CortexGateway.Lib.Run
import CortexGateway.Lib.Holds
import CortexGateway.Budget.Model
import CortexGateway.Budget.Service
import CortexGateway.Budget.Calls
import CortexGateway.Budget.Rejection
import CortexGateway.Budget.Runs
import CortexGateway.Budget.LostUpdate
import CortexGateway.Budget.Ledger
import CortexGateway.Budget.Overspend
import CortexGateway.Routing.Router
import CortexGateway.Reliability.CircuitBreaker
import CortexGateway.Reliability.Failover
import CortexGateway.Reliability.Executor
import CortexGateway.Reliability.Trials
import CortexGateway.Reliability.Recording
import CortexGateway.Budget.Cost
import CortexGateway.Experiment.Assigner
import CortexGateway.Services.ChatService
import CortexGateway.Lib.Exits
import CortexGateway.Services.Stages
import CortexGateway.Services.Settlement
import CortexGateway.Services.PolicyAction
import CortexGateway.Core.Json
import CortexGateway.SemanticCache.Similarity
import CortexGateway.SemanticCache.Cache
import CortexGateway.SemanticCache.Hits
import CortexGateway.SemanticCache.Keys
import CortexGateway.Providers.Errors
import CortexGateway.Reliability.ClientErrors
import CortexGateway.Reliability.Targets
import CortexGateway.Services.FailoverCost
import CortexGateway.Services.Downgrade
import CortexGateway.Reliability.Responses
import CortexGateway.Services.Strategy
import CortexGateway.Services.Capabilities
import CortexGateway.Reliability.Operations
import CortexGateway.Reliability.Episodes
import CortexGateway.Reliability.Cooldown
import CortexGateway.Services.Manual
import CortexGateway.RateLimit.Models
import CortexGateway.RateLimit.Limiter
import CortexGateway.Lib.SlidingWindow
import CortexGateway.RateLimit.Windows
import CortexGateway.RateLimit.Burst
import CortexGateway.Guardrails.Runner
import CortexGateway.Observability.LogWriter
import CortexGateway.Api.Chat
import CortexGateway.Api.Logging
import CortexGateway.Services.Caching
import CortexGateway.Services.FrozenLedger
import CortexGateway.RateLimit.TeamLimits
import CortexGateway.RateLimit.Overrides
import CortexGateway.Auth.Models
import CortexGateway.Auth.Service
import CortexGateway.Api.Bootstrap
import CortexGateway.ModelRegistry.Models
import CortexGateway.Routing.Metadata
import CortexGateway.ModelRegistry.Refresh
import CortexGateway.Routing.Candidates
import CortexGateway.Lib.Isolation
import CortexGateway.Database.Tables
import CortexGateway.Core.Calendar
import CortexGateway.Observability.Analytics
import CortexGateway.Api.Admin
import CortexGateway.Api.Isolation
import CortexGateway.Providers.Conversation
import CortexGateway.Budget.Warning
import CortexGateway.Budget.Cover
import CortexGateway.Routing.Prices
import CortexGateway.Routing.Ranking
import CortexGateway.Services.Cheapest
import CortexGateway.Reliability.Invariant
import CortexGateway.Reliability.Deadline
import CortexGateway.Lib.Blocks
import CortexGateway.Routing.Stats
import CortexGateway.Reliability.Attempts
import CortexGateway.Reliability.Accounts
import CortexGateway.Services.Attempts
import CortexGateway.RateLimit.RetryAfter
import CortexGateway.SemanticCache.Concurrent
import CortexGateway.SemanticCache.TeamIsolation
import CortexGateway.Routing.Dominance
import CortexGateway.Services.Discovery
import CortexGateway.SemanticCache.Selection
import CortexGateway.SemanticCache.Index
import CortexGateway.Guardrails.Patterns
import CortexGateway.Routing.Lookup
import CortexGateway.Policy.Resolver
import CortexGateway.Api.PolicyBody
import CortexGateway.Experiment.Buckets
import CortexGateway.Budget.Periods
import CortexGateway.Api.Organizations
import CortexGateway.Api.Effects
import CortexGateway.Api.KeyLifecycle
import CortexGateway.Budget.Validity
import CortexGateway.Api.WellFormed
import CortexGateway.Lib.Protocol
import CortexGateway.Services.Protocol
import CortexGateway.Lib.Grouping
import CortexGateway.Observability.Totals
import CortexGateway.SemanticCache.Provenance
import CortexGateway.Api.Books
import CortexGateway.RateLimit.Callers
import CortexGateway.Lib.Refinement
import CortexGateway.Api.TeamSettings
import CortexGateway.Policy.Export
import CortexGateway.Experiment.RampUp
import CortexGateway.Routing.History
import CortexGateway.Reliability.Outages
import CortexGateway.Reliability.Availability
import CortexGateway.Lib.Relational
import CortexGateway.Services.Degraded
import CortexGateway.Lib.Counter
import CortexGateway.Observability.Metrics
import CortexGateway.Api.Metrics
import CortexGateway.Providers.Ollama
import CortexGateway.SemanticCache.Embedding
