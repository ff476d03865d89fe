import AgentCompanyOS.Domain.Audit
import AgentCompanyOS.Foundation.Json

/-!
# Tools, invocations and receipts

Published tool versions, the three kinds of validated input, the claim that an
invocation is and the receipt that ends it. The constructors of the source check
what they are given; here the checks are the `Valid` predicate that every
invocation and receipt carries, and `create` is the constructor that may raise.
-/

set_option autoImplicit false

namespace AgentCompanyOS.Runtime

open Foundation Domain

abbrev AgentDefinitionId := OpaqueId .agentDefinition
abbrev AgentRunId := OpaqueId .agentRun
abbrev ActionId := OpaqueId .action
abbrev ObservationId := OpaqueId .observation
abbrev ToolId := OpaqueId .tool
abbrev ToolInvocationId := OpaqueId .toolInvocation
abbrev ToolReceiptId := OpaqueId .toolReceipt
abbrev ActionIntentId := OpaqueId .actionIntent
abbrev ReviewerId := OpaqueId .reviewer

/-- A keyed value with its source. -/
structure Fact where
  key : PyStr
  value : PyStr
  sourceId : PyStr
deriving DecidableEq

/-! ## Published tools -/

inductive ToolRisk where
  | readOnly | internalWrite | externalWrite | highRisk
deriving DecidableEq

def ToolRisk.value : ToolRisk → Text
  | readOnly => txt "read_only"
  | internalWrite => txt "internal_write"
  | externalWrite => txt "external_write"
  | highRisk => txt "high_risk"

inductive ExecutorKind where
  | sendFixtureMessage | companyLookup | sourceLookup
deriving DecidableEq

def ExecutorKind.value : ExecutorKind → Text
  | sendFixtureMessage => txt "send_fixture_message"
  | companyLookup => txt "company_lookup"
  | sourceLookup => txt "source_lookup"

/-- Permission for one exact tool version. -/
structure ToolGrant where
  toolId : ToolId
  version : Version
deriving DecidableEq

structure ToolDefinition where
  id : ToolId
  workspaceId : WorkspaceId
  name : Text
  description : Text
  risk : ToolRisk
deriving DecidableEq

/-- A published tool version. The schema names and the trust class are fixed by the
executor kind (`unsupported_tool_contract`, `stage3_fixture_trust_only`). -/
structure ToolVersion where
  definition : ToolDefinition
  version : Version
  executorKind : ExecutorKind
  timeoutSeconds : Nat
  maxInputBytes : Nat
  maxOutputBytes : Nat
  limits : (1 ≤ timeoutSeconds ∧ timeoutSeconds ≤ 30) ∧ (1 ≤ maxInputBytes ∧ maxInputBytes ≤ 4096) ∧
    (1 ≤ maxOutputBytes ∧ maxOutputBytes ≤ 16384)
deriving DecidableEq

namespace ToolVersion

def grant (tool : ToolVersion) : ToolGrant := ⟨tool.definition.id, tool.version⟩

def inputSchema (tool : ToolVersion) : PyStr := tool.executorKind.value.val ++ py ".v1"

def outputSchema (_ : ToolVersion) : PyStr := py "facts.v1"

end ToolVersion

/-- Validated tool input. -/
inductive ToolInput where
  | companyLookup (companyName : PyStr)
  | sourceLookup (sourceId : PyStr) (keys : List PyStr)
  | fixtureMessage (destination message : PyStr)
deriving DecidableEq

/-- Whether the input is a `FixtureMessageInput`. -/
def ToolInput.isFixtureMessage : ToolInput → Bool
  | fixtureMessage .. => true
  | _ => false

structure ToolOutput where
  subject : PyStr
  facts : List Fact
  notes : PyStr
deriving DecidableEq

/-! ## Invocations -/

inductive ToolInvocationStatus where
  | running | succeeded | failed | cancelled
deriving DecidableEq

def ToolInvocationStatus.value : ToolInvocationStatus → Text
  | running => txt "running" running_visible
  | succeeded => txt "succeeded" succeeded_visible
  | failed => txt "failed" failed_visible
  | cancelled => txt "cancelled" cancelled_visible

/-- The fields of a `ToolInvocation`. -/
structure InvocationFields where
  id : ToolInvocationId
  workspaceId : WorkspaceId
  runId : AgentRunId
  actionId : ActionId
  taskAttemptId : TaskAttemptId
  executionId : ExecutionId
  toolVersion : ToolVersion
  validatedInput : ToolInput
  requestFingerprint : PyStr
  runVersion : Version
  parentVersions : List Version
  registryRevision : Nat
  startedAt : Instant
  version : Version
  status : ToolInvocationStatus
  endedAt : Option Instant
  errorCode : Option ToolError
deriving DecidableEq

/-- A text is checked code point by code point, and not by a search of all code points. -/
instance (priority := high) textDecidable (text : PyStr) (p : CodePoint → Prop)
    [DecidablePred p] : Decidable (∀ c ∈ text, p c) := List.decidableBAll p text

/-- `c in "0123456789abcdef"`. -/
def isLowerHex (c : CodePoint) : Bool :=
  (48 ≤ c.val && c.val ≤ 57) || (97 ≤ c.val && c.val ≤ 102)

/-- `ToolInvocation.__post_init__`. -/
structure InvocationFields.Valid (f : InvocationFields) : Prop where
  ended : f.status ≠ .running ↔ f.endedAt ≠ none
  scope : f.toolVersion.definition.workspaceId = f.workspaceId
  timeOrder : ∀ t ∈ f.endedAt, f.startedAt ≤ t
  reason : (f.status = .failed ∨ f.status = .cancelled) ↔ f.errorCode ≠ none
  digest : f.requestFingerprint.length = 64 ∧ ∀ c ∈ f.requestFingerprint, isLowerHex c = true

/-- One claimed tool call. -/
structure ToolInvocation extends InvocationFields where
  valid : toInvocationFields.Valid
deriving DecidableEq

/-- `ToolInvocation(...)`. -/
def ToolInvocation.create (f : InvocationFields) : Except DomainError ToolInvocation :=
  if ended : f.status ≠ .running ↔ f.endedAt ≠ none then
    if scope : f.toolVersion.definition.workspaceId = f.workspaceId then
      if timeOrder : ∀ t ∈ f.endedAt, f.startedAt ≤ t then
        if reason : (f.status = .failed ∨ f.status = .cancelled) ↔ f.errorCode ≠ none then
          if digest : f.requestFingerprint.length = 64 ∧
              ∀ c ∈ f.requestFingerprint, isLowerHex c = true then
            .ok ⟨f, ended, scope, timeOrder, reason, digest⟩
          else .error (.invariantViolation "tool_request_digest" [])
        else .error (.invariantViolation "tool_failure_reason" [])
      else .error (.invariantViolation "tool_time_order" [])
    else .error (.invariantViolation "tool_invocation_scope" [])
  else .error (.invariantViolation "tool_terminal_end_time" [])

theorem ToolInvocation.create_eq_ok {f : InvocationFields} {i : ToolInvocation}
    (h : ToolInvocation.create f = .ok i) : i.toInvocationFields = f := by
  unfold ToolInvocation.create at h
  repeat' split at h
  all_goals cases h
  rfl

/-- The status that `finish` gives. -/
def finishedStatus : Option ToolError → ToolInvocationStatus
  | none => .succeeded
  | some .cancelled => .cancelled
  | some _ => .failed

/-- `ToolInvocation.finish`. -/
def ToolInvocation.finish (self : ToolInvocation) (at' : Instant) (error : Option ToolError) :
    Except DomainError ToolInvocation :=
  if self.status ≠ .running then
    .error (.invariantViolation "terminal_tool_invocation_immutable" [])
  else if at' < self.startedAt then .error (.invariantViolation "tool_time_order" [])
  else ToolInvocation.create { self.toInvocationFields with
    status := finishedStatus error
    endedAt := some at'
    errorCode := error
    version := self.version.next }

/-- A finished invocation is the running one with its end, its error and the next
version. -/
theorem ToolInvocation.finish_eq_ok {i j : ToolInvocation} {at' : Instant}
    {error : Option ToolError} (h : i.finish at' error = .ok j) :
    i.status = .running ∧ j.toInvocationFields = { i.toInvocationFields with
      status := finishedStatus error
      endedAt := some at'
      errorCode := error
      version := i.version.next } := by
  unfold ToolInvocation.finish at h
  split at h
  · cases h
  · next running =>
      split at h
      · cases h
      · exact ⟨not_not.mp running, ToolInvocation.create_eq_ok h⟩

theorem finishedStatus_ne_running (error : Option ToolError) : finishedStatus error ≠ .running := by
  cases error with
  | none => simp [finishedStatus]
  | some e => cases e <;> simp [finishedStatus]

/-! ## Receipts -/

/-- What is known of the remote effect. -/
inductive RemoteOutcome where
  | observed | observedFailure | unknown
deriving DecidableEq

/-- The fields of a `ToolReceipt`. -/
structure ReceiptFields where
  id : ToolReceiptId
  invocation : ToolInvocation
  output : Option ToolOutput
  inputBytes : Nat
  outputBytes : Nat
  remoteOutcome : RemoteOutcome
deriving DecidableEq

/-- The outcome that `__post_init__` asks for. -/
def ReceiptFields.expectedOutcome (f : ReceiptFields) : RemoteOutcome :=
  if f.output.isSome then .observed
  else if f.invocation.errorCode = some .rejected then .observedFailure
  else .unknown

/-- `ToolReceipt.__post_init__`. -/
structure ReceiptFields.Valid (f : ReceiptFields) : Prop where
  terminal : f.invocation.status ≠ .running
  success : f.invocation.status = .succeeded ↔ f.output.isSome = true
  metadata : 0 < f.inputBytes ∧ f.inputBytes ≤ f.invocation.toolVersion.maxInputBytes ∧
    f.outputBytes ≤ f.invocation.toolVersion.maxOutputBytes ∧ f.remoteOutcome = f.expectedOutcome

/-- The one receipt of an invocation. -/
structure ToolReceipt extends ReceiptFields where
  valid : toReceiptFields.Valid
deriving DecidableEq

/-- `ToolReceipt(...)`. -/
def ToolReceipt.create (f : ReceiptFields) : Except DomainError ToolReceipt :=
  if terminal : f.invocation.status ≠ .running then
    if success : f.invocation.status = .succeeded ↔ f.output.isSome = true then
      if metadata : 0 < f.inputBytes ∧ f.inputBytes ≤ f.invocation.toolVersion.maxInputBytes ∧
          f.outputBytes ≤ f.invocation.toolVersion.maxOutputBytes ∧
          f.remoteOutcome = f.expectedOutcome then
        .ok ⟨f, terminal, success, metadata⟩
      else .error (.invariantViolation "receipt_metadata_contract" [])
    else .error (.invariantViolation "receipt_success_requires_validated_output" [])
  else .error (.invariantViolation "receipt_requires_terminal_invocation" [])

theorem ToolReceipt.create_eq_ok {f : ReceiptFields} {r : ToolReceipt}
    (h : ToolReceipt.create f = .ok r) : r.toReceiptFields = f := by
  unfold ToolReceipt.create at h
  repeat' split at h
  all_goals cases h
  rfl

/-! ## Observed results -/

/-- What an agent is shown of a tool call. -/
structure ToolObservationData where
  receiptId : Option ToolReceiptId
  toolId : ToolId
  toolVersion : Option Version
  errorCode : Option ToolError
  facts : List Fact
  notes : PyStr
deriving DecidableEq

/-- `ToolObservationData(...)`: the constructor's checks. -/
def ToolObservationData.create (d : ToolObservationData) : Except DomainError ToolObservationData :=
  if 5 < d.facts.length ∨ 512 < d.notes.length then
    .error (.invariantViolation "tool_observation_bounds" [])
  else if d.errorCode = none ∧ d.receiptId = none then
    .error (.invariantViolation "tool_success_requires_receipt" [])
  else if d.errorCode ≠ none ∧ d.facts ≠ [] then
    .error (.invariantViolation "failed_tool_has_no_evidence" [])
  else .ok d

end AgentCompanyOS.Runtime
