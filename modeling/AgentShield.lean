import AgentShield.Auth.Admission
import AgentShield.Auth.AuditTrail
import AgentShield.Auth.Authority
import AgentShield.Auth.Callers
import AgentShield.Auth.Constraints
import AgentShield.Auth.Csrf
import AgentShield.Auth.Enrolment
import AgentShield.Auth.Gateway
import AgentShield.Auth.History
import AgentShield.Auth.IngestAuthorization
import AgentShield.Auth.KeyRotation
import AgentShield.Auth.KeyScope
import AgentShield.Auth.Leads
import AgentShield.Auth.Lockout
import AgentShield.Auth.LockoutPaths
import AgentShield.Auth.LogSteps
import AgentShield.Auth.MigrationFiredrill
import AgentShield.Auth.Passwords
import AgentShield.Auth.Principals
import AgentShield.Auth.RateLimit
import AgentShield.Auth.Revocation
import AgentShield.Auth.Routes
import AgentShield.Auth.SecondFactor
import AgentShield.Auth.Secrets
import AgentShield.Auth.Sessions
import AgentShield.Auth.SingleUse
import AgentShield.Auth.StaleSessions
import AgentShield.Auth.Steps
import AgentShield.Auth.Tables
import AgentShield.Auth.TenantIsolation
import AgentShield.Auth.Users
import AgentShield.Auth.World
import AgentShield.Console.LiveGovernance
import AgentShield.Eval.Budget
import AgentShield.Eval.Caps
import AgentShield.Eval.Enforcement
import AgentShield.Eval.MockDecide
import AgentShield.Governance.Agreement
import AgentShield.Governance.AirGap
import AgentShield.Governance.Channel2
import AgentShield.Governance.Delivery
import AgentShield.Governance.Graph
import AgentShield.Governance.IbanErrors
import AgentShield.Governance.Memory
import AgentShield.Governance.ModelRouter
import AgentShield.Governance.MoneyRules
import AgentShield.Governance.Rulings
import AgentShield.Governance.Structuring
import AgentShield.Governance.Tenants
import AgentShield.Governance.TrackerExactness
import AgentShield.Governance.Urls
import AgentShield.Lib.Acyclic
import AgentShield.Lib.Alone
import AgentShield.Lib.Async
import AgentShield.Lib.Bag
import AgentShield.Lib.CheckDigits
import AgentShield.Lib.Course
import AgentShield.Lib.Delimited
import AgentShield.Lib.Digits
import AgentShield.Lib.Groups
import AgentShield.Lib.Keyset
import AgentShield.Lib.Matching
import AgentShield.Lib.Obligation
import AgentShield.Lib.Once
import AgentShield.Lib.Relational
import AgentShield.Lib.Rows
import AgentShield.Lib.Sha2
import AgentShield.Lib.Since
import AgentShield.Lib.Utf16
import AgentShield.Lib.Window
import AgentShield.Sdk.AuditTrail
import AgentShield.Sdk.Base64url
import AgentShield.Sdk.Envelope
import AgentShield.Sdk.JsonLoads
import AgentShield.Sdk.Mediation
import AgentShield.Sdk.Outcomes
import AgentShield.Sdk.PresentNull
import AgentShield.Sdk.Rfc8785
import AgentShield.Sdk.Rollback
import AgentShield.Sdk.RoundTrip
import AgentShield.Sdk.RunId
import AgentShield.Sdk.SigningString
import AgentShield.Sdk.TextLength
import AgentShield.Server.Agents
import AgentShield.Server.Archive
import AgentShield.Server.AsyncVerdictWorker
import AgentShield.Server.Attribution
import AgentShield.Server.AuditVerdict
import AgentShield.Server.Base64
import AgentShield.Server.CacheTransport
import AgentShield.Server.ChainInput
import AgentShield.Server.Completeness
import AgentShield.Server.Cursor
import AgentShield.Server.Dashboard
import AgentShield.Server.Documents
import AgentShield.Server.EnvelopeRoundTrip
import AgentShield.Server.EpochCommitment
import AgentShield.Server.EpochStore
import AgentShield.Server.ExportRuns
import AgentShield.Server.FailedIngest
import AgentShield.Server.Forbidden
import AgentShield.Server.Incidents
import AgentShield.Server.Interference
import AgentShield.Server.Isolation
import AgentShield.Server.KillSwitch
import AgentShield.Server.LateVerdicts
import AgentShield.Server.Ledger
import AgentShield.Server.Merkle
import AgentShield.Server.ObjectKeys
import AgentShield.Server.Outbox
import AgentShield.Server.Pagination
import AgentShield.Server.PayloadBinding
import AgentShield.Server.Platform
import AgentShield.Server.Provenance
import AgentShield.Server.Reads
import AgentShield.Server.Redelivery
import AgentShield.Server.Registry
import AgentShield.Server.Replay
import AgentShield.Server.Resolution
import AgentShield.Server.RouterGuardians
import AgentShield.Server.SignableParity
import AgentShield.Server.SingleVerdict
import AgentShield.Server.Verification
import AgentShield.Storage.MemoryDatabase
import AgentShield.Storage.Schema
import AgentShield.System.ChainHead
import AgentShield.System.Uuid7
