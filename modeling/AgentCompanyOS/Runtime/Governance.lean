import AgentCompanyOS.Runtime.Decision

/-!
# Intents, approval policies and review decisions

A consequential tool call is stored as an intent before it may run: the exact tool,
input and policy, with a fingerprint over them. A governed action is the intent, the
request for approval that its effect may ask for, and the append-only decisions. The
record carries the checks of its constructor, so a stored decision list is empty, one
decision, or an approval that was revoked or has expired.
-/

set_option autoImplicit false

namespace AgentCompanyOS.Runtime

open Foundation Domain

/-! ## Platform -/

/-- What the modelled code takes from outside: identifiers, clock, the hexadecimal
SHA-256 of a byte string, Python's text for a JSON float and for a score, and the
floating-point `int(delta.total_seconds() * 1000)` of a difference of instants. -/
structure Platform extends Env where
  sha256 : List Nat → PyStr
  floatRepr : PyStr → PyStr
  scoreText : Rat → PyStr
  milliseconds : Int → Int

/-- `sha256(text.encode()).hexdigest()`. -/
def Platform.hexdigest (platform : Platform) (text : PyStr) : Except Exc PyStr :=
  match utf8 text with
  | some bytes => .ok (platform.sha256 bytes)
  | none => .error .other

/-! ## Policies -/

inductive ApprovalEffect where
  | deny | required | allow
deriving DecidableEq

inductive DecisionKind where
  | approved | rejected | expired | revoked
deriving DecidableEq

structure ReviewerPrincipal where
  id : ReviewerId
  workspaceId : WorkspaceId
deriving DecidableEq

/-- Who may approve what. The bounds are those of `__post_init__`. -/
structure ApprovalPolicy where
  workspaceId : WorkspaceId
  version : Version
  tools : List ToolGrant
  destinations : List PyStr
  reviewers : List ReviewerPrincipal
  boundedExecute : Bool
  enabled : Bool
  expirySeconds : Nat
  expiry : 1 ≤ expirySeconds ∧ expirySeconds ≤ 300
  sizes : tools.length ≤ 3 ∧ destinations.length ≤ 10 ∧ reviewers.length ≤ 10
  reviewersDistinct : reviewers.Nodup
  reviewersLocal : ∀ r ∈ reviewers, r.workspaceId = workspaceId
  destinationsBounded : ∀ d ∈ destinations, strip d ≠ [] ∧ d.length ≤ 128
deriving DecidableEq

/-- `ApprovalPolicy.evaluate`. -/
def ApprovalPolicy.evaluate (policy : ApprovalPolicy) (autonomy : Nat) (tool : ToolVersion)
    (destination : PyStr) : ApprovalEffect :=
  if policy.enabled = false ∨ tool.definition.workspaceId ≠ policy.workspaceId ∨
      tool.grant ∉ policy.tools ∨ destination ∉ policy.destinations ∨
      tool.executorKind ≠ .sendFixtureMessage ∨ tool.definition.risk ≠ .externalWrite ∨
      ¬(autonomy = 2 ∨ autonomy = 3) then .deny
  else if autonomy = 3 ∧ policy.boundedExecute = true then .allow
  else .required

/-- A policy lets through only external writes of the message tool. -/
theorem ApprovalPolicy.risk_of_evaluate {policy : ApprovalPolicy} {autonomy : Nat}
    {tool : ToolVersion} {destination : PyStr}
    (h : policy.evaluate autonomy tool destination ≠ .deny) :
    tool.definition.risk = .externalWrite ∧ tool.executorKind = .sendFixtureMessage := by
  unfold evaluate at h
  split at h
  · exact absurd rfl h
  · next allowed =>
      simp only [not_or, not_not] at allowed
      exact ⟨allowed.2.2.2.2.2.1, allowed.2.2.2.2.1⟩

/-! ## Intents -/

/-- The text that `fingerprint` hashes. -/
def fingerprintText (workspace : WorkspaceId) (actor : AgentRunId) (action : ActionId)
    (tool : ToolVersion) (argumentsJson : PyStr) : PyStr :=
  Json.dumps (.compact false) (.arr [.str workspace.value, .str actor.value, .str action.value,
    .str tool.definition.id.value, .int tool.version.value, .str tool.executorKind.value.val,
    .str tool.definition.risk.value.val, .str argumentsJson])

/-- `fingerprint`. -/
def fingerprint (platform : Platform) (workspace : WorkspaceId) (actor : AgentRunId)
    (action : ActionId) (tool : ToolVersion) (argumentsJson : PyStr) : Except Exc PyStr :=
  platform.hexdigest (fingerprintText workspace actor action tool argumentsJson)

/-- The exact consequential call that a record is about. -/
structure ActionIntent where
  id : ActionIntentId
  workspaceId : WorkspaceId
  runId : AgentRunId
  actionId : ActionId
  goalId : GoalId
  taskId : TaskId
  executionId : ExecutionId
  tool : ToolVersion
  argumentsJson : PyStr
  destination : PyStr
  fingerprint : PyStr
  policy : ApprovalPolicy
  effect : ApprovalEffect
  createdAt : Instant
  expiresAt : Instant
deriving DecidableEq

/-- The checks of `ActionIntent.__post_init__` on the intent alone. -/
def ActionIntent.bound (intent : ActionIntent) : Prop :=
  intent.createdAt < intent.expiresAt ∧
    intent.expiresAt - intent.createdAt ≤ seconds intent.policy.expirySeconds ∧
    intent.policy.workspaceId = intent.workspaceId ∧
    intent.tool.definition.workspaceId = intent.workspaceId

instance (intent : ActionIntent) : Decidable intent.bound :=
  inferInstanceAs (Decidable (_ ∧ _))

/-- `ActionIntent(...)`: the constructor's checks. -/
def ActionIntent.create (platform : Platform) (intent : ActionIntent) :
    Except Exc ActionIntent :=
  if ¬intent.bound then .error (violation "intent_binding")
  else
    match utf8 intent.argumentsJson with
    | none => .error .other
    | some bytes =>
        if intent.tool.maxInputBytes < bytes.length then .error (violation "intent_binding")
        else do
          let expected ← Runtime.fingerprint platform intent.workspaceId intent.runId
            intent.actionId intent.tool intent.argumentsJson
          if intent.fingerprint ≠ expected then .error (violation "intent_binding")
          else .ok intent

theorem ActionIntent.create_eq_ok {platform : Platform} {intent intent' : ActionIntent}
    (h : ActionIntent.create platform intent = .ok intent') :
    intent' = intent ∧ Runtime.fingerprint platform intent.workspaceId intent.runId
      intent.actionId intent.tool intent.argumentsJson = .ok intent.fingerprint := by
  unfold ActionIntent.create at h
  split at h
  · cases h
  · split at h
    · cases h
    · split at h
      · cases h
      · obtain ⟨expected, computed, h⟩ := except_bind_ok h
        split at h
        · cases h
        · next same =>
            cases h
            exact ⟨rfl, by rw [computed, not_not.mp same]⟩

/-! ## Requests and decisions -/

structure ApprovalRequest where
  intentId : ActionIntentId
  fingerprint : PyStr
  expiresAt : Instant
  preview : PyStr
deriving DecidableEq

/-- A reviewer's decision, or the record that the intent ran out of time. -/
structure ApprovalDecision where
  intentId : ActionIntentId
  fingerprint : PyStr
  policyVersion : Version
  kind : DecisionKind
  reviewer : Option ReviewerPrincipal
  at' : Instant
  reason : PyStr
  reasonBound : reason.length ≤ 256
  reviewed : kind ≠ .expired → reviewer ≠ none
deriving DecidableEq

/-- `ApprovalDecision(...)`. -/
def ApprovalDecision.create (intentId : ActionIntentId) (fingerprint : PyStr)
    (policyVersion : Version) (kind : DecisionKind) (reviewer : Option ReviewerPrincipal)
    (at' : Instant) (reason : PyStr) : Except DomainError ApprovalDecision :=
  if reasonBound : reason.length ≤ 256 then
    if reviewed : kind ≠ .expired → reviewer ≠ none then
      .ok ⟨intentId, fingerprint, policyVersion, kind, reviewer, at', reason, reasonBound, reviewed⟩
    else .error (.invariantViolation "approval_decision_schema" [])
  else .error (.invariantViolation "approval_decision_schema" [])

/-- The order that `__post_init__` allows: a first decision that revokes nothing, and
after an approval its revocation or expiry. -/
def orderly : List ApprovalDecision → Prop
  | [] => True
  | [first] => first.kind ≠ .revoked
  | [first, second] => first.kind = .approved ∧
      (second.kind = .revoked ∨ second.kind = .expired) ∧ first.at' ≤ second.at'
  | _ => False

instance : (decisions : List ApprovalDecision) → Decidable (orderly decisions)
  | [] => inferInstanceAs (Decidable True)
  | [_] => inferInstanceAs (Decidable (¬_))
  | [_, _] => inferInstanceAs (Decidable (_ ∧ _))
  | _ :: _ :: _ :: _ => inferInstanceAs (Decidable False)

/-! ## Governed actions -/

/-- The fields of a `GovernedAction`. -/
structure GovernedFields where
  intent : ActionIntent
  request : Option ApprovalRequest
  decisions : List ApprovalDecision
  cancelled : Bool
  invocationId : Option ToolInvocationId
  consumed : Bool
  version : Version
deriving DecidableEq

/-- What `__post_init__` asks of one decision. -/
structure GovernedFields.Binds (f : GovernedFields) (d : ApprovalDecision) : Prop where
  requested : f.request ≠ none
  intent : d.intentId = f.intent.id ∧ d.fingerprint = f.intent.fingerprint ∧
    d.policyVersion = f.intent.policy.version
  created : f.intent.createdAt ≤ d.at'
  approvedInTime : d.kind = .approved → d.at' < f.intent.expiresAt
  expiredLate : d.kind = .expired → f.intent.expiresAt ≤ d.at'
  reviewer : ∀ r ∈ d.reviewer, r ∈ f.intent.policy.reviewers

instance (f : GovernedFields) (d : ApprovalDecision) : Decidable (f.Binds d) :=
  decidable_of_iff
    (f.request ≠ none ∧ (d.intentId = f.intent.id ∧ d.fingerprint = f.intent.fingerprint ∧
      d.policyVersion = f.intent.policy.version) ∧ f.intent.createdAt ≤ d.at' ∧
      (d.kind = .approved → d.at' < f.intent.expiresAt) ∧
      (d.kind = .expired → f.intent.expiresAt ≤ d.at') ∧
      ∀ r ∈ d.reviewer, r ∈ f.intent.policy.reviewers)
    ⟨fun ⟨a, b, c, d, e, g⟩ => ⟨a, b, c, d, e, g⟩, fun ⟨a, b, c, d, e, g⟩ => ⟨a, b, c, d, e, g⟩⟩

/-- `GovernedAction.__post_init__`. -/
structure GovernedFields.Valid (f : GovernedFields) : Prop where
  atMostTwo : f.decisions.length ≤ 2
  claimedWhenConsumed : f.consumed = true → f.invocationId ≠ none
  requestWhenRequired : f.intent.effect = .required ↔ f.request ≠ none
  requestBinding : ∀ r ∈ f.request, r.intentId = f.intent.id ∧
    r.fingerprint = f.intent.fingerprint ∧ r.expiresAt = f.intent.expiresAt ∧
    r.preview.length ≤ 600
  decisionBinding : ∀ d ∈ f.decisions, f.Binds d
  decisionOrder : orderly f.decisions

/-- An intent with its review. -/
structure GovernedAction extends GovernedFields where
  valid : toGovernedFields.Valid
deriving DecidableEq

/-- `GovernedAction(...)`. -/
def GovernedAction.create (f : GovernedFields) : Except DomainError GovernedAction :=
  if schema : f.decisions.length ≤ 2 ∧ (f.consumed = true → f.invocationId ≠ none) ∧
      (f.intent.effect = .required ↔ f.request ≠ none) then
    if request : ∀ r ∈ f.request, r.intentId = f.intent.id ∧
        r.fingerprint = f.intent.fingerprint ∧ r.expiresAt = f.intent.expiresAt ∧
        r.preview.length ≤ 600 then
      if decisions : (∀ d ∈ f.decisions, f.Binds d) ∧ orderly f.decisions then
        .ok ⟨f, schema.1, schema.2.1, schema.2.2, request, decisions.1, decisions.2⟩
      else .error (.invariantViolation "approval_decision_binding" [])
    else .error (.invariantViolation "approval_request_binding" [])
  else .error (.invariantViolation "governed_action_schema" [])

theorem GovernedAction.create_eq_ok {f : GovernedFields} {r : GovernedAction}
    (h : GovernedAction.create f = .ok r) : r.toGovernedFields = f := by
  unfold GovernedAction.create at h
  repeat' split at h
  all_goals cases h
  rfl

/-- A record whose last decision approves has that one decision, and it names a
reviewer of the intent's policy. -/
theorem GovernedAction.approved_only {r : GovernedAction} {d : ApprovalDecision}
    (last : r.decisions.getLast? = some d) (approved : d.kind = .approved) :
    r.decisions = [d] ∧ ∃ reviewer, d.reviewer = some reviewer ∧
      reviewer ∈ r.intent.policy.reviewers := by
  have single : r.decisions = [d] := by
    have order := r.valid.decisionOrder
    cases hd : r.decisions with
    | nil => rw [hd] at last; cases last
    | cons first rest =>
        rw [hd] at last order
        cases rest with
        | nil => cases last; rfl
        | cons second more =>
            cases more with
            | nil =>
                obtain rfl : second = d := by simpa using last
                rcases order.2.1 with kind | kind <;> rw [approved] at kind <;> cases kind
            | cons third more => exact order.elim
  have mem : d ∈ r.decisions := by rw [single]; exact List.mem_singleton_self d
  have present := d.reviewed (by rw [approved]; decide)
  obtain ⟨reviewer, hr⟩ := Option.ne_none_iff_exists'.mp present
  exact ⟨single, reviewer, hr, (r.valid.decisionBinding d mem).reviewer reviewer hr⟩

end AgentCompanyOS.Runtime
