import AegisOs.Lib.Decimal
import AegisOs.Lib.Ttl
import AegisOs.Lib.Co
import AegisOs.Lib.Contract
import AegisOs.Lib.Handling
import AegisOs.Lib.Twin
import AegisOs.Lib.EState
import AegisOs.Lib.Runs
import AegisOs.Lib.Probe
import AegisOs.Lib.Instrument
import AegisOs.Lib.Regex
import AegisOs.Lib.Redact
import AegisOs.Lib.Rego
import AegisOs.Lib.Code
import AegisOs.Lib.FixedWidth
import AegisOs.Lib.Calendar
import AegisOs.Lib.Trail
import AegisOs.Lib.Bisim
import AegisOs.Lib.Shards
import AegisOs.Lib.JsonSchema
import AegisOs.Lib.JsonAccess
import AegisOs.Basic
import AegisOs.Http
import AegisOs.Governance.Jwk
import AegisOs.Governance.Base64
import AegisOs.Governance.Thumbprint
import AegisOs.Governance.ReplayStore
import AegisOs.Governance.SessionMgr
import AegisOs.Governance.TokenSpec
import AegisOs.Governance.Revocation
import AegisOs.Governance.Rotation
import AegisOs.Governance.Supersession
import AegisOs.Governance.Atomicity
import AegisOs.Governance.Issuance
import AegisOs.Governance.KeyCoordinates
import AegisOs.Governance.Dpop
import AegisOs.Governance.Acceptance
import AegisOs.Governance.Replicas
import AegisOs.Governance.PolicyEngine
import AegisOs.Governance.OpaClient
import AegisOs.Governance.PolicyDocuments
import AegisOs.Governance.Guardrails
import AegisOs.Governance.Masking
import AegisOs.Governance.Rescan
import AegisOs.Adapters.Base
import AegisOs.Adapters.Security
import AegisOs.Adapters.Exchange
import AegisOs.Watchdog.BudgetEnforcer
import AegisOs.Watchdog.Ledger
import AegisOs.Watchdog.Replay
import AegisOs.Watchdog.Metering
import AegisOs.Watchdog.BudgetRuns
import AegisOs.Watchdog.LoopDetector
import AegisOs.Watchdog.LoopRuns
import AegisOs.Watchdog.Isolation
import AegisOs.Watchdog.Gauge
import AegisOs.AuditVault.Logger
import AegisOs.AuditVault.Stream
import AegisOs.AuditVault.Isolation
import AegisOs.AuditVault.Timestamps
import AegisOs.AuditVault.EventSchema
import AegisOs.ControlPlane.World
import AegisOs.ControlPlane.Orchestrator
import AegisOs.ControlPlane.Pipeline
import AegisOs.ControlPlane.Frame
import AegisOs.ControlPlane.Refusal
import AegisOs.ControlPlane.RefusalRecord
import AegisOs.ControlPlane.ConcurrentBudget
import AegisOs.ControlPlane.Activities
import AegisOs.ControlPlane.ActivityFrame
import AegisOs.ControlPlane.DurableBudget
import AegisOs.ControlPlane.TokenMetering
import AegisOs.ControlPlane.MeteringRuns
import AegisOs.ControlPlane.DurableLoop
import AegisOs.ControlPlane.Workflow
import AegisOs.ControlPlane.Durable
import AegisOs.ControlPlane.DurableCap
import AegisOs.ControlPlane.AuditTrail
import AegisOs.ControlPlane.TokenIssue
import AegisOs.ControlPlane.TokenLife
import AegisOs.ControlPlane.RetryRotation
import AegisOs.ControlPlane.ApprovalGate
import AegisOs.ControlPlane.LoopGuard
import AegisOs.ControlPlane.Lifecycle
import AegisOs.ControlPlane.Approval
import AegisOs.ControlPlane.ApprovalAgreement
import AegisOs.ControlPlane.PendingApprovals
import AegisOs.ControlPlane.Hitl
import AegisOs.ControlPlane.HitlAuthority
import AegisOs.ControlPlane.Attribution
import AegisOs.ControlPlane.ApprovalSystem
import AegisOs.ControlPlane.SenderBinding
import AegisOs.ControlPlane.DataConverter
import AegisOs.ControlPlane.Egress
import AegisOs.ControlPlane.PromptSecrecy
import AegisOs.ControlPlane.Router
import AegisOs.ControlPlane.Governed
import AegisOs.ControlPlane.PipelineAgreement
import AegisOs.ControlPlane.Transcript
import AegisOs.ControlPlane.ConcurrentLoop
import AegisOs.ControlPlane.StageErrors
import AegisOs.ControlPlane.PublishedTrail
import AegisOs.ControlPlane.Wire
