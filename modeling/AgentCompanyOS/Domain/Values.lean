import AgentCompanyOS.Foundation.Text

/-!
# Values of the domain: text, identifiers, versions, instants, errors

The source's scalar values. Identifiers are opaque text tagged with their class
(`OpaqueId`), versions are positive numbers (`Version`), and an instant is
a number of microseconds since the epoch in UTC: every timestamp of the source
passes `require_utc` before it is stored. The validation helpers return the
cleaned text together with the fact they establish, so that an entity built
from it cannot hold blank text.
-/

set_option autoImplicit false

namespace AgentCompanyOS.Domain

open Foundation

/-- Text that is not blank. -/
abbrev Text := { s : PyStr // strip s ≠ [] }

/-! ## Instants -/

/-- Microseconds since 1970-01-01T00:00:00 UTC. -/
abbrev Instant := Int

/-- Microseconds of a number of seconds. -/
def seconds (n : Int) : Int := n * 1000000

/-- Year, month and day of a day number counted from the epoch, in the proleptic
Gregorian calendar. -/
def civil (day : Int) : Int × Nat × Nat :=
  let z := day + 719468
  let era := z.fdiv 146097
  let doe := (z - era * 146097).toNat
  let yoe := (doe - doe / 1460 + doe / 36524 - doe / 146096) / 365
  let doy := doe - (365 * yoe + yoe / 4 - yoe / 100)
  let mp := (5 * doy + 2) / 153
  let month := if mp < 10 then mp + 3 else mp - 9
  (yoe + era * 400 + (if month ≤ 2 then 1 else 0), month, doy - (153 * mp + 2) / 5 + 1)

/-- A number with leading zeros up to a width. -/
def padded (width n : Nat) : String :=
  let digits := toString n
  String.ofList (List.replicate (width - digits.length) '0') ++ digits

/-- `datetime.isoformat()` of an aware UTC timestamp. -/
def isoformat (t : Instant) : PyStr :=
  let day := t.fdiv 86400000000
  let rest := (t - day * 86400000000).toNat
  let (year, month, dayOfMonth) := civil day
  let micros := rest % 1000000
  let fraction := if micros = 0 then "" else "." ++ padded 6 micros
  py (padded 4 year.toNat ++ "-" ++ padded 2 month ++ "-" ++ padded 2 dayOfMonth ++ "T" ++
    padded 2 (rest / 3600000000) ++ ":" ++ padded 2 (rest / 60000000 % 60) ++ ":" ++
    padded 2 (rest / 1000000 % 60) ++ fraction ++ "+00:00")

/-! ## Errors -/

/-- The domain errors with the data their constructors take. -/
inductive DomainError where
  | invalidStateTransition (entityType entityId currentStatus targetStatus : PyStr)
  | workspaceMismatch (relationship expected actual : PyStr)
  | entityNotFound (entityType entityId : PyStr)
  | versionConflict (entityType entityId : PyStr) (expected actual : Nat)
  | invariantViolation (rule : String) (details : List (String × PyStr))
deriving DecidableEq

namespace DomainError

/-- The stable code of the error's class. -/
def code : DomainError → PyStr
  | invalidStateTransition .. => py "invalid_state_transition"
  | workspaceMismatch .. => py "workspace_mismatch"
  | entityNotFound .. => py "entity_not_found"
  | versionConflict .. => py "version_conflict"
  | invariantViolation .. => py "invariant_violation"

/-- The error's message. -/
def message : DomainError → PyStr
  | invalidStateTransition entity id current target =>
      py "Cannot transition " ++ entity ++ py " " ++ id ++ py " from " ++ current ++ py " to " ++
        target ++ py "."
  | workspaceMismatch relationship _ _ =>
      py "Cross-workspace relationship rejected for " ++ relationship ++ py "."
  | entityNotFound entity id => entity ++ py " " ++ id ++ py " was not found."
  | versionConflict entity id expected actual =>
      py "Version conflict for " ++ entity ++ py " " ++ id ++ py ": expected " ++ pyNat expected ++
        py ", actual " ++ pyNat actual ++ py "."
  | invariantViolation rule _ => py "Domain invariant violated: " ++ py rule ++ py "."

/-- The error's serialization-safe details. -/
def details : DomainError → List (String × PyStr)
  | invalidStateTransition entity id current target =>
      [("entity_type", entity), ("entity_id", id), ("current_status", current),
        ("target_status", target)]
  | workspaceMismatch relationship expected actual =>
      [("relationship", relationship), ("expected_workspace_id", expected),
        ("actual_workspace_id", actual)]
  | entityNotFound entity id => [("entity_type", entity), ("entity_id", id)]
  | versionConflict entity id expected actual =>
      [("entity_type", entity), ("entity_id", id), ("expected_version", pyNat expected),
        ("actual_version", pyNat actual)]
  | invariantViolation rule details => ("rule", py rule) :: details

end DomainError

/-- Error categories of a tool call. -/
inductive ToolError where
  | rejected | validationError | unauthorized | notFound | timeout | rateLimited
  | upstreamUnavailable | malformedOutput | cancelled | internalExecutorError | outputTooLarge
  | staleResult
deriving DecidableEq

/-- The wire value of a tool error. -/
def ToolError.value : ToolError → PyStr
  | rejected => py "rejected"
  | validationError => py "validation_error"
  | unauthorized => py "unauthorized"
  | notFound => py "not_found"
  | timeout => py "timeout"
  | rateLimited => py "rate_limited"
  | upstreamUnavailable => py "upstream_unavailable"
  | malformedOutput => py "malformed_output"
  | cancelled => py "cancelled"
  | internalExecutorError => py "internal_executor_error"
  | outputTooLarge => py "output_too_large"
  | staleResult => py "stale_result"

/-- Failure categories of a model call. -/
inductive ModelCode where
  | consequentialActionUnresolved | schemaViolation | unsupportedSchemaVersion | emptyResponse
  | responseTooLarge | malformedOutput | unauthorizedAction | unsupportedCompletion
  | ungroundedFact | contextOverflow | autonomyDenied | unsupportedContextRequest | modelTimeout
  | providerUnavailable | rateLimited | modelRefused | versionConflict | deadlineExceeded
  | toolBudgetExceeded
deriving DecidableEq

/-- The wire value of a model failure. -/
def ModelCode.value : ModelCode → PyStr
  | consequentialActionUnresolved => py "consequential_action_unresolved"
  | schemaViolation => py "schema_violation"
  | unsupportedSchemaVersion => py "unsupported_schema_version"
  | emptyResponse => py "empty_response"
  | responseTooLarge => py "response_too_large"
  | malformedOutput => py "malformed_output"
  | unauthorizedAction => py "unauthorized_action"
  | unsupportedCompletion => py "unsupported_completion"
  | ungroundedFact => py "ungrounded_fact"
  | contextOverflow => py "context_overflow"
  | autonomyDenied => py "autonomy_denied"
  | unsupportedContextRequest => py "unsupported_context_request"
  | modelTimeout => py "model_timeout"
  | providerUnavailable => py "provider_unavailable"
  | rateLimited => py "rate_limited"
  | modelRefused => py "model_refused"
  | versionConflict => py "version_conflict"
  | deadlineExceeded => py "deadline_exceeded"
  | toolBudgetExceeded => py "tool_budget_exceeded"

/-- What a call of the source can raise: a domain error, a model or tool failure,
a timeout, a cancellation (`asyncio.CancelledError`, not an `Exception`), or any
other exception. -/
inductive Exc where
  | domain (e : DomainError)
  | model (code : ModelCode)
  | tool (code : ToolError)
  | timeout
  | cancelled
  | other
deriving DecidableEq

/-- `InvariantViolation(rule)`. -/
def violation (rule : String) : Exc := .domain (.invariantViolation rule [])

/-! ## Identifiers and versions -/

/-- The subclasses of `OpaqueId`. -/
inductive IdKind where
  | workspace | goal | task | taskAttempt | execution | event | stateTransition
  | orchestrationRun | orchestrationPlan | delegation | agentMessage | messageThread | handoff
  | organizationGraph | department | orgRole | capability | actionIntent | reviewer
  | memoryCandidate | memoryEntry | memoryContextPack | knowledgeSource | knowledgeChunk
  | evidencePack | operator | agentDefinition | agentRun | action | observation | tool
  | toolInvocation | toolReceipt
deriving DecidableEq

/-- The class name that `identifier_non_empty` reports. -/
def IdKind.name : IdKind → String
  | workspace => "WorkspaceId"
  | goal => "GoalId"
  | task => "TaskId"
  | taskAttempt => "TaskAttemptId"
  | execution => "ExecutionId"
  | event => "EventId"
  | stateTransition => "StateTransitionId"
  | orchestrationRun => "OrchestrationRunId"
  | orchestrationPlan => "OrchestrationPlanId"
  | delegation => "DelegationId"
  | agentMessage => "AgentMessageId"
  | messageThread => "MessageThreadId"
  | handoff => "HandoffId"
  | organizationGraph => "OrganizationGraphId"
  | department => "DepartmentId"
  | orgRole => "OrgRoleId"
  | capability => "CapabilityId"
  | actionIntent => "ActionIntentId"
  | reviewer => "ReviewerId"
  | memoryCandidate => "MemoryCandidateId"
  | memoryEntry => "MemoryEntryId"
  | memoryContextPack => "MemoryContextPackId"
  | knowledgeSource => "KnowledgeSourceId"
  | knowledgeChunk => "KnowledgeChunkId"
  | evidencePack => "EvidencePackId"
  | operator => "OperatorId"
  | agentDefinition => "AgentDefinitionId"
  | agentRun => "AgentRunId"
  | action => "ActionId"
  | observation => "ObservationId"
  | tool => "ToolId"
  | toolInvocation => "ToolInvocationId"
  | toolReceipt => "ToolReceiptId"

/-- `OpaqueId.__post_init__`: the text is not empty and has no outer space. -/
def OpaqueId.Valid (value : PyStr) : Prop := value ≠ [] ∧ strip value = value

instance (value : PyStr) : Decidable (OpaqueId.Valid value) :=
  inferInstanceAs (Decidable (_ ∧ _))

/-- An identifier; its class is part of its type, as it is part of the source's
equality. -/
structure OpaqueId (kind : IdKind) where
  value : PyStr
  valid : OpaqueId.Valid value
deriving DecidableEq

instance {kind : IdKind} : LawfulBEq (OpaqueId kind) := inferInstance

/-- The identifier with a given text, if the text is well formed. -/
def OpaqueId.parse (kind : IdKind) (value : PyStr) : Except DomainError (OpaqueId kind) :=
  if h : OpaqueId.Valid value then .ok ⟨value, h⟩
  else .error (.invariantViolation "identifier_non_empty" [("identifier_type", py kind.name)])

theorem OpaqueId.ext_value {kind : IdKind} {a b : OpaqueId kind} (h : a.value = b.value) :
    a = b := by
  cases a; cases b; cases h; rfl

abbrev WorkspaceId := OpaqueId .workspace
abbrev GoalId := OpaqueId .goal
abbrev TaskId := OpaqueId .task
abbrev TaskAttemptId := OpaqueId .taskAttempt
abbrev ExecutionId := OpaqueId .execution
abbrev EventId := OpaqueId .event
abbrev StateTransitionId := OpaqueId .stateTransition

/-- Positive optimistic-concurrency token. -/
structure Version where
  value : Nat
  positive : 1 ≤ value

namespace Version

theorem ext {a b : Version} (h : a.value = b.value) : a = b := by
  cases a
  cases b
  cases h
  rfl

instance : DecidableEq Version := fun v w =>
  decidable_of_iff (v.value = w.value) ⟨ext, congrArg value⟩

/-- The version of a new record. -/
def initial : Version := ⟨1, Nat.le_refl 1⟩

/-- The version after one change. -/
def next (v : Version) : Version := ⟨v.value + 1, Nat.le_add_left 1 v.value⟩

@[simp] theorem value_initial : initial.value = 1 := rfl

@[simp] theorem value_next (v : Version) : v.next.value = v.value + 1 := rfl

theorem ext_value {v w : Version} (h : v.value = w.value) : v = w := by
  cases v; cases w; cases h; rfl

end Version

/-! ## Validation helpers -/

theorem except_bind_ok {ε α β : Type} {r : Except ε α} {f : α → Except ε β} {b : β}
    (h : (r >>= f) = .ok b) : ∃ a, r = .ok a ∧ f a = .ok b := by
  cases r with
  | ok a => exact ⟨a, rfl, h⟩
  | error e => cases h

/-- `clean_required_text`. -/
def cleanRequiredText (value : PyStr) (field : String) : Except DomainError Text :=
  if h : strip value = [] then .error (.invariantViolation "required_text" [("field", py field)])
  else .ok ⟨strip value, by rwa [strip_strip]⟩

/-- `clean_optional_texts`. -/
def cleanOptionalTexts (values : List PyStr) (field : String) : Except DomainError (List Text) :=
  match values with
  | [] => .ok []
  | value :: rest =>
      if h : strip value = [] then
        .error (.invariantViolation "non_empty_text_items" [("field", py field)])
      else do
        let cleaned ← cleanOptionalTexts rest field
        .ok (⟨strip value, by rwa [strip_strip]⟩ :: cleaned)

/-- `clean_required_texts`. -/
def cleanRequiredTexts (values : List PyStr) (field : String) :
    Except DomainError { texts : List Text // texts ≠ [] } := do
  let cleaned ← cleanOptionalTexts values field
  if h : cleaned = [] then
    .error (.invariantViolation "required_text_items" [("field", py field)])
  else .ok ⟨cleaned, h⟩

/-- `require_monotonic_time`. -/
def requireMonotonicTime (previous current : Instant) (field : String) :
    Except DomainError Unit :=
  if current < previous then
    .error (.invariantViolation "monotonic_time"
      [("field", py field), ("previous", isoformat previous)])
  else .ok ()

example : isoformat 1719878399000001 = py "2024-07-01T23:59:59.000001+00:00" := by decide +kernel

end AgentCompanyOS.Domain
