import SupplyPlatform.OutboxOwnership
import SupplyPlatform.OutboxStranding
import SupplyPlatform.OutboxRetry
import SupplyPlatform.CompensationBound
import SupplyPlatform.IdempotencyReplay
import SupplyPlatform.SettlementSerial
import SupplyPlatform.Lib.Versions
import SupplyPlatform.SettlementVersions
import SupplyPlatform.SettlementIsolation
import SupplyPlatform.Account
import SupplyPlatform.SettlementMemory
import SupplyPlatform.Package
import SupplyPlatform.PackageQuota
import SupplyPlatform.VersionConflict
import SupplyPlatform.TokenStatus
import SupplyPlatform.TokenStatusHistory
import SupplyPlatform.TokenBackend
import SupplyPlatform.TokenRevocation
import SupplyPlatform.BruteForce
import SupplyPlatform.TokenSubjectRevocation
import SupplyPlatform.BruteForceLock
import SupplyPlatform.RateLimit
import SupplyPlatform.RateLimitWindow
import SupplyPlatform.CatalogMemory
import SupplyPlatform.CatalogStatus
import SupplyPlatform.Iam
import SupplyPlatform.IamRevocation
import SupplyPlatform.PackageInsert
import SupplyPlatform.IamDatabase
import SupplyPlatform.IamAssignment
import SupplyPlatform.IamRoleUpdate
import SupplyPlatform.IamScopes
import SupplyPlatform.BatchBuffer
import SupplyPlatform.BatchBufferInvariant
import SupplyPlatform.BatchBufferDelivery
import SupplyPlatform.BatchBufferFlush
import SupplyPlatform.AuditIdempotency
import SupplyPlatform.AuditQuery
import SupplyPlatform.Lib.Strings
import SupplyPlatform.ScopeAuthorizer
import SupplyPlatform.WebRequest
import SupplyPlatform.CacheLock
import SupplyPlatform.QueryKeys
import SupplyPlatform.CacheRateLimit
import SupplyPlatform.Kms
import SupplyPlatform.TokenRuntime
import SupplyPlatform.TokenRuntimeStep
import SupplyPlatform.TokenRuntimeLifecycle
import SupplyPlatform.TokenRuntimeIssue
import SupplyPlatform.TokenAuth
import SupplyPlatform.TokenAuthStep
import SupplyPlatform.TokenAuthSafety
import SupplyPlatform.GatewayRouter
import SupplyPlatform.GatewayHealth
import SupplyPlatform.GatewayHandler
import SupplyPlatform.GatewayAnswers
import SupplyPlatform.Lib.Windows
import SupplyPlatform.SlidingWindow
import SupplyPlatform.SlidingWindowBound
import SupplyPlatform.RemoteRevocation
import SupplyPlatform.TokenApi
import SupplyPlatform.AlertStore
import SupplyPlatform.AlertService
import SupplyPlatform.AlertResolution
import SupplyPlatform.AlertAgreement
import SupplyPlatform.DurationText
import SupplyPlatform.IssueHash
import SupplyPlatform.AuditLog
import SupplyPlatform.TokenLifetime
import SupplyPlatform.Lib.Slices
import SupplyPlatform.TokenAuditStore
import SupplyPlatform.GatewayRoundRobin
import SupplyPlatform.GatewayFallback
import SupplyPlatform.SlidingWindowExact
import SupplyPlatform.Lib.Buckets
import SupplyPlatform.TokenBucket
import SupplyPlatform.TokenBucketBound
import SupplyPlatform.TokenBucketCleanup
import SupplyPlatform.TokenBucketRemaining
import SupplyPlatform.GatewayRateLimitErrors
import SupplyPlatform.GatewayStreamRequest
import SupplyPlatform.CatalogPriceBatch
import SupplyPlatform.CatalogPriceRule
import SupplyPlatform.CatalogDeletion
import SupplyPlatform.GatewayCors
import SupplyPlatform.ComplianceRules
import SupplyPlatform.ComplianceMatch
import SupplyPlatform.GatewayPasswords
import SupplyPlatform.Lib.JsonDecoder
import SupplyPlatform.GatewayBodyLimit
import SupplyPlatform.GatewayStreamLines
import SupplyPlatform.StatusWriteBack
import SupplyPlatform.CreatedEntity
import SupplyPlatform.IdempotencyScope
import SupplyPlatform.CompensationCounts
import SupplyPlatform.RateLimitPolling
import SupplyPlatform.Lib.Calendar
import SupplyPlatform.Partition
import SupplyPlatform.PartitionCreation
import SupplyPlatform.PartitionRetention
import SupplyPlatform.EarningPages
import SupplyPlatform.BillingSummary
import SupplyPlatform.Lib.Ipv4
import SupplyPlatform.TrustedProxy
import SupplyPlatform.MemoryExpiry
import SupplyPlatform.AuditRetention
import SupplyPlatform.AuditCoherence
import SupplyPlatform.AuditReplay
import SupplyPlatform.AuditBatch
import SupplyPlatform.AuditMetrics
import SupplyPlatform.BatchBufferOrder
import SupplyPlatform.BatchBufferBarrier
import SupplyPlatform.Lib.Patterns
import SupplyPlatform.Sanitizer
import SupplyPlatform.SanitizerMap
import SupplyPlatform.SanitizerShape
import SupplyPlatform.OutboxBackoff
import SupplyPlatform.GatewayLatency
import SupplyPlatform.IamScopeGuards
import SupplyPlatform.Lib.Bytes
import SupplyPlatform.TraceParent
import SupplyPlatform.SmsCodes
import SupplyPlatform.Lib.UrlQuery
import SupplyPlatform.QueryWhitelist
import SupplyPlatform.AlertColumns
import SupplyPlatform.AlertScan
import SupplyPlatform.AlertReadBack
import SupplyPlatform.Lib.Columns
import SupplyPlatform.IamRoleListing
import SupplyPlatform.IamUnreadRoles
import SupplyPlatform.AlertRefinement
import SupplyPlatform.AlertRuns
import SupplyPlatform.Lib.Related
import SupplyPlatform.Startup
import SupplyPlatform.StartupWorkers
import SupplyPlatform.ScopeGrants
import SupplyPlatform.LogFields
import SupplyPlatform.GatewayPrincipal
import SupplyPlatform.TokenBucketPool
import SupplyPlatform.TokenBucketPoolRefinement
import SupplyPlatform.GatewayServer
import SupplyPlatform.GatewayAdmission
import SupplyPlatform.GatewayTokenLimits
import SupplyPlatform.CatalogTenants
import SupplyPlatform.CatalogIsolation
