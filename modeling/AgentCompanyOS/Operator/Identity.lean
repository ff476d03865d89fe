import AgentCompanyOS.Domain.Store

/-!
# Operator identity

Human operators of the control plane, distinct from agents and approval reviewers: accounts,
sessions, the audit of what was done with them, and the policy that says which resources a
role may reach. Secrets are bearer strings; the database holds digests of them only, and a
digest is tagged with the purpose of the secret.
-/

set_option autoImplicit false

namespace AgentCompanyOS.Operator

open Foundation Domain

abbrev OperatorId := OpaqueId .operator

/-! ## Errors -/

/-- What a call of the operator service can raise. -/
inductive OperatorError where
  | authenticationDenied
  | operatorAccessDenied
  | raised (e : Exc)
deriving DecidableEq

/-! ## Roles and resources -/

inductive OperatorRole where
  | viewer | auditor | operator | admin
deriving DecidableEq

inductive OperatorResource where
  | operational | audit | recovery | sensitive | accountAdmin
deriving DecidableEq

/-! ## Accounts, sessions and audit -/

/-- An operator account's identity; `authentication_source` is always `local_token_v1`. -/
structure OperatorPrincipal where
  id : OperatorId
  workspaceId : WorkspaceId
  role : OperatorRole
  enabled : Bool
  version : Version
  short : id.value.length ≤ 128
deriving DecidableEq

/-- The principal of a new account; a longer identifier breaks `operator_principal_schema`. -/
def OperatorPrincipal.create (id : OperatorId) (workspaceId : WorkspaceId) (role : OperatorRole) :
    Except OperatorError OperatorPrincipal :=
  if short : id.value.length ≤ 128 then .ok ⟨id, workspaceId, role, true, .initial, short⟩
  else .error (.raised (violation "operator_principal_schema"))

/-- The principal as `disable` leaves it. -/
def OperatorPrincipal.disabled (p : OperatorPrincipal) : OperatorPrincipal :=
  { p with enabled := false, version := p.version.next }

/-- Digests are the sixty-four hexadecimal digits of SHA-256; nothing else is known of them. -/
structure OperatorAccount (Digest : Type) where
  principal : OperatorPrincipal
  credentialDigest : Digest
deriving DecidableEq

/-- The account as `disable` leaves it. -/
def OperatorAccount.disabled {Digest : Type} (a : OperatorAccount Digest) :
    OperatorAccount Digest :=
  { a with principal := a.principal.disabled }

structure OperatorSession (Digest : Type) where
  tokenDigest : Digest
  principalId : OperatorId
  principalVersion : Version
  createdAt : Instant
  expiresAt : Instant
  revoked : Bool
  window : 0 < expiresAt - createdAt ∧ expiresAt - createdAt ≤ seconds 3600
deriving DecidableEq

/-- The session as `revoke_session` leaves it. -/
def OperatorSession.ended {Digest : Type} (s : OperatorSession Digest) : OperatorSession Digest :=
  { s with revoked := true }

/-- The commands an audit record may name. -/
inductive AuditCommand where
  | localProvision | sessionCreated | sessionRevoked | disabled
deriving DecidableEq

structure OperatorAudit where
  principalId : OperatorId
  workspaceId : WorkspaceId
  command : AuditCommand
  targetId : OperatorId
  timestamp : Instant
deriving DecidableEq

/-! ## Policy -/

namespace OperatorPolicy

/-- The resources a role may reach. Even an administrator may not export sensitive content. -/
def allowed : OperatorRole → List OperatorResource
  | .viewer => [.operational]
  | .auditor | .operator => [.operational, .audit, .recovery]
  | .admin => [.operational, .audit, .recovery, .accountAdmin]

/-- `OperatorPolicy.require`. -/
def require (principal : OperatorPrincipal) (workspace : WorkspaceId)
    (resource : OperatorResource) : Except OperatorError Unit :=
  if principal.enabled = false ∨ principal.workspaceId ≠ workspace then
    .error .operatorAccessDenied
  else if resource ∈ allowed principal.role then .ok ()
  else .error .operatorAccessDenied

theorem require_eq_ok {principal : OperatorPrincipal} {workspace : WorkspaceId}
    {resource : OperatorResource} {u : Unit}
    (h : require principal workspace resource = .ok u) :
    principal.enabled = true ∧ principal.workspaceId = workspace ∧
      resource ∈ allowed principal.role := by
  unfold require at h
  split at h
  · cases h
  · rename_i barred
    split at h
    · rename_i granted
      simp only [not_or, Bool.not_eq_false, ne_eq, not_not] at barred
      exact ⟨barred.1, barred.2, granted⟩
    · cases h

end OperatorPolicy

/-! ## Secrets and digests -/

/-- What a secret is for. -/
inductive Purpose where
  | credential | session
deriving DecidableEq

def Purpose.value : Purpose → PyStr
  | credential => py "credential"
  | session => py "session"

/-- A character of `0123456789abcdef`. -/
def isHexDigit (c : CodePoint) : Bool :=
  (code '0' ≤ c && c ≤ code '9') || (code 'a' ≤ c && c ≤ code 'f')

/-- Sixty-four lower-case hexadecimal digits. -/
def IsSecret (value : PyStr) : Prop := value.length = 64 ∧ value.all isHexDigit = true

instance (value : PyStr) : Decidable (IsSecret value) := inferInstanceAs (Decidable (_ ∧ _))

/-- The hash, the source of secrets and the clock. -/
structure OperatorPlatform (Digest : Type) where
  sha256 : PyStr → Digest
  issue : Nat → PyStr
  clock : Nat → Instant

variable {Digest : Type}

/-- `_digest(value, purpose)`. -/
def digest (platform : OperatorPlatform Digest) (value : PyStr) (purpose : Purpose) :
    Except OperatorError Digest :=
  if IsSecret value then .ok (platform.sha256 (purpose.value ++ py ":" ++ value))
  else .error .authenticationDenied

/-- What is assumed of the hash and of the source of secrets: no two tagged secrets share a
digest, and no secret is issued twice. -/
structure OperatorPlatform.Sound (platform : OperatorPlatform Digest) : Prop where
  collisionFree : ∀ {p q : Purpose} {v w : PyStr}, IsSecret v → IsSecret w →
    platform.sha256 (p.value ++ py ":" ++ v) = platform.sha256 (q.value ++ py ":" ++ w) →
      p = q ∧ v = w
  fresh : Function.Injective platform.issue

theorem digest_eq_ok {platform : OperatorPlatform Digest} {value : PyStr} {purpose : Purpose}
    {d : Digest} (h : digest platform value purpose = .ok d) :
    IsSecret value ∧ platform.sha256 (purpose.value ++ py ":" ++ value) = d := by
  unfold digest at h
  split at h
  · rename_i secret
    exact ⟨secret, Except.ok.inj h⟩
  · cases h

/-- Equal digests come from one secret for one purpose. -/
theorem OperatorPlatform.Sound.same {platform : OperatorPlatform Digest}
    (sound : platform.Sound) {v w : PyStr} {p q : Purpose} {d : Digest}
    (hv : digest platform v p = .ok d) (hw : digest platform w q = .ok d) : p = q ∧ v = w := by
  obtain ⟨isV, rfl⟩ := digest_eq_ok hv
  obtain ⟨isW, equal⟩ := digest_eq_ok hw
  exact sound.collisionFree isV isW equal.symm

end AgentCompanyOS.Operator
