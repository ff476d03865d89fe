import AgentCompanyOS.Foundation.Text
import AgentCompanyOS.Foundation.Journal
import AgentCompanyOS.Foundation.Registry
import AgentCompanyOS.Foundation.DepthSearch
import AgentCompanyOS.Foundation.Transaction
import AgentCompanyOS.Foundation.Looking
import AgentCompanyOS.Foundation.Scanning
import AgentCompanyOS.Foundation.Printing
import AgentCompanyOS.Foundation.Encoding
import AgentCompanyOS.Foundation.Ascent
import AgentCompanyOS.Foundation.Scopes
import AgentCompanyOS.Foundation.Upserts
import AgentCompanyOS.Foundation.Sorting
import AgentCompanyOS.Foundation.Comparing
import AgentCompanyOS.Domain.Values
import AgentCompanyOS.Domain.Audit
import AgentCompanyOS.Domain.Store
import AgentCompanyOS.Domain.Service
import AgentCompanyOS.Domain.Replay
import AgentCompanyOS.Domain.StoreCalls
import AgentCompanyOS.Domain.Lineage
import AgentCompanyOS.Domain.Outcomes
import AgentCompanyOS.Runtime.Tool
import AgentCompanyOS.Runtime.Agent
import AgentCompanyOS.Runtime.Decision
import AgentCompanyOS.Runtime.Governance
import AgentCompanyOS.Runtime.Organization
import AgentCompanyOS.Runtime.Reporting
import AgentCompanyOS.Runtime.Store
import AgentCompanyOS.Runtime.Review
import AgentCompanyOS.Runtime.Dispatch
import AgentCompanyOS.Runtime.Drive
import AgentCompanyOS.Runtime.Recovery
import AgentCompanyOS.Runtime.Operations
import AgentCompanyOS.Runtime.System
import AgentCompanyOS.Runtime.Writes
import AgentCompanyOS.Runtime.Footprints
import AgentCompanyOS.Runtime.Claim
import AgentCompanyOS.Runtime.Effects
import AgentCompanyOS.Runtime.RunSteps
import AgentCompanyOS.Runtime.Calls
import AgentCompanyOS.Runtime.Authority
import AgentCompanyOS.Runtime.WriteSafety
import AgentCompanyOS.Runtime.RunBudgets
import AgentCompanyOS.Runtime.RunCoupling
import AgentCompanyOS.Runtime.Receipts
import AgentCompanyOS.Runtime.Completion
import AgentCompanyOS.Runtime.Quarantine
import AgentCompanyOS.Runtime.Release
import AgentCompanyOS.Runtime.Normalization
import AgentCompanyOS.Runtime.Proposals
import AgentCompanyOS.Runtime.References
import AgentCompanyOS.Runtime.Chunking
import AgentCompanyOS.Operator.Identity
import AgentCompanyOS.Operator.Store
import AgentCompanyOS.Operator.Service
import AgentCompanyOS.Operator.Sessions
import AgentCompanyOS.Operator.Access
import AgentCompanyOS.Orchestration.Plans
import AgentCompanyOS.Orchestration.Records
import AgentCompanyOS.Orchestration.Store
import AgentCompanyOS.Orchestration.Selection
import AgentCompanyOS.Orchestration.Planning
import AgentCompanyOS.Orchestration.Delegating
import AgentCompanyOS.Orchestration.Settling
import AgentCompanyOS.Orchestration.System
import AgentCompanyOS.Orchestration.Lineage
import AgentCompanyOS.Orchestration.Checks
import AgentCompanyOS.Orchestration.Results
import AgentCompanyOS.Orchestration.Width
import AgentCompanyOS.Orchestration.Validation
import AgentCompanyOS.Orchestration.Readiness
import AgentCompanyOS.Orchestration.Cancelling
import AgentCompanyOS.Orchestration.Assignments
import AgentCompanyOS.Orchestration.ChildAccounts
import AgentCompanyOS.Runtime.Traces
import AgentCompanyOS.Runtime.GovernedHistory
import AgentCompanyOS.Orchestration.Writes
import AgentCompanyOS.Orchestration.Classification
import AgentCompanyOS.Orchestration.Recovery
import AgentCompanyOS.Memory.Records
import AgentCompanyOS.Memory.Store
import AgentCompanyOS.Memory.Service
import AgentCompanyOS.Memory.Changes
import AgentCompanyOS.Memory.Lifecycle
import AgentCompanyOS.Memory.Provenance
import AgentCompanyOS.Memory.Conflicts
import AgentCompanyOS.Orchestration.AgentRegistry
import AgentCompanyOS.Orchestration.Selector
import AgentCompanyOS.Orchestration.AgentChoice
import AgentCompanyOS.Orchestration.Audit
import AgentCompanyOS.Orchestration.Isolation
import AgentCompanyOS.Runtime.Lexical
import AgentCompanyOS.Runtime.CrashRecovery
import AgentCompanyOS.Runtime.DriveSteps
import AgentCompanyOS.Runtime.Ownership
import AgentCompanyOS.Durable.Containers
import AgentCompanyOS.Durable.Database
import AgentCompanyOS.Durable.Group
import AgentCompanyOS.Durable.Loading
import AgentCompanyOS.Durable.Working
import AgentCompanyOS.Durable.Flushing
import AgentCompanyOS.Durable.FlushingRecords
import AgentCompanyOS.Durable.Refinement
