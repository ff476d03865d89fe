import AgentCompanyOS.Operator.Store

/-!
# The operator service

`OperatorService`: bearer secrets are resolved to the operator they belong to before any
authority is used. An account is provisioned with a credential; a login exchanges the
credential for a session token; every other command presents the token.
-/

set_option autoImplicit false

namespace AgentCompanyOS.Operator

open Foundation Foundation.Txn Domain

variable {Digest : Type} [DecidableEq Digest]

/-- A service with its session duration. -/
structure OperatorService where
  sessionSeconds : Nat
  bounds : 1 ≤ sessionSeconds ∧ sessionSeconds ≤ 3600

/-- `self.domain.get_workspace(workspace)`, on the domain database as it stands. -/
def workspaceOf (domain : DomainStore) (workspace : WorkspaceId) :
    Except OperatorError Workspace :=
  match World.answer (getWorkspace workspace ⟨domain, 0, 0⟩) with
  | .ok found => .ok found
  | .error e => .error (.raised e)

/-- The session of a login. -/
def OperatorService.open (service : OperatorService) (tokenDigest : Digest)
    (principal : OperatorPrincipal) (now : Instant) : OperatorSession Digest where
  tokenDigest := tokenDigest
  principalId := principal.id
  principalVersion := principal.version
  createdAt := now
  expiresAt := now + seconds service.sessionSeconds
  revoked := false
  window := by
    obtain ⟨positive, bounded⟩ := service.bounds
    have shift (t d : Int) : t + d - t = d := by omega
    constructor
    · rw [shift]
      show (0 : Int) < service.sessionSeconds * 1000000
      omega
    · rw [shift]
      show (service.sessionSeconds * 1000000 : Int) ≤ 3600 * 1000000
      omega

section Commands

variable (platform : OperatorPlatform Digest)

/-- `provision_local`. -/
def provisionLocal (domain : DomainStore) (workspace : WorkspaceId) (id : OperatorId)
    (role : OperatorRole) : OperatorTxn Digest PyStr := do
  let _ ← Txn.ofExcept (workspaceOf domain workspace)
  let principal ← Txn.ofExcept (OperatorPrincipal.create id workspace role)
  let credential ← draw platform.issue
  atomic do
    let credentialDigest ← Txn.ofExcept (digest platform credential .credential)
    addAccount ⟨principal, credentialDigest⟩
    let now ← readClock platform.clock
    appendAudit ⟨id, workspace, .localProvision, id, now⟩
    pure credential

/-- `login`. -/
def login (service : OperatorService) (credential : PyStr) : OperatorTxn Digest PyStr := do
  let credentialDigest ← Txn.ofExcept (digest platform credential .credential)
  atomic do
    let s ← getStore
    let account ← need (s.credential credentialDigest) .authenticationDenied
    raiseIf (account.principal.enabled = false) .authenticationDenied
    let now ← readClock platform.clock
    let token ← draw platform.issue
    let tokenDigest ← Txn.ofExcept (digest platform token .session)
    addSession (service.open tokenDigest account.principal now)
    appendAudit ⟨account.principal.id, account.principal.workspaceId, .sessionCreated,
      account.principal.id, now⟩
    pure token

/-- `_principal`: the operator whose live session a token opens. -/
def principalOf (token : PyStr) : OperatorTxn Digest OperatorPrincipal := do
  let tokenDigest ← Txn.ofExcept (digest platform token .session)
  let s ← getStore
  let session ← need (s.session tokenDigest) .authenticationDenied
  raiseIf (session.revoked = true) .authenticationDenied
  let now ← readClock platform.clock
  raiseIf (¬(session.createdAt ≤ now ∧ now < session.expiresAt)) .authenticationDenied
  let account ← need (s.account session.principalId) .authenticationDenied
  raiseIf (account.principal.enabled = false ∨
    account.principal.version ≠ session.principalVersion) .authenticationDenied
  pure account.principal

/-- `authorize`. -/
def authorize (token : PyStr) (workspace : WorkspaceId) (resource : OperatorResource) :
    OperatorTxn Digest OperatorPrincipal := atomic do
  let principal ← principalOf platform token
  Txn.ofExcept (OperatorPolicy.require principal workspace resource)
  pure principal

/-- `logout`. -/
def logout (token : PyStr) : OperatorTxn Digest Unit := atomic do
  let principal ← principalOf platform token
  let tokenDigest ← Txn.ofExcept (digest platform token .session)
  revokeSession tokenDigest
  let now ← readClock platform.clock
  appendAudit ⟨principal.id, principal.workspaceId, .sessionRevoked, principal.id, now⟩

/-- `disable`. -/
def disable (token : PyStr) (workspace : WorkspaceId) (target : OperatorId)
    (expected : Version) : OperatorTxn Digest Unit := atomic do
  let principal ← principalOf platform token
  Txn.ofExcept (OperatorPolicy.require principal workspace .accountAdmin)
  let s ← getStore
  let account ← need (s.account target) .operatorAccessDenied
  raiseIf (account.principal.workspaceId ≠ workspace) .operatorAccessDenied
  disableAccount target expected
  let now ← readClock platform.clock
  appendAudit ⟨principal.id, workspace, .disabled, target, now⟩

/-- `audit`. -/
def audit (token : PyStr) (workspace : WorkspaceId) : OperatorTxn Digest (List OperatorAudit) :=
  atomic do
    let principal ← principalOf platform token
    Txn.ofExcept (OperatorPolicy.require principal workspace .audit)
    let s ← getStore
    pure (s.audit workspace)

end Commands

/-! ## Commands as data -/

/-- A command of the service; a login is made of a service with its session duration. -/
inductive OperatorCommand where
  | provisionLocal (domain : DomainStore) (workspace : WorkspaceId) (id : OperatorId)
      (role : OperatorRole)
  | login (service : OperatorService) (credential : PyStr)
  | principal (token : PyStr)
  | authorize (token : PyStr) (workspace : WorkspaceId) (resource : OperatorResource)
  | logout (token : PyStr)
  | disable (token : PyStr) (workspace : WorkspaceId) (target : OperatorId) (expected : Version)
  | audit (token : PyStr) (workspace : WorkspaceId)

inductive OperatorReply where
  | secret (value : PyStr)
  | principal (principal : OperatorPrincipal)
  | audits (records : List OperatorAudit)
  | done
deriving DecidableEq

/-- The token that a command presents. -/
def OperatorCommand.token? : OperatorCommand → Option PyStr
  | .provisionLocal .. | .login .. => none
  | .principal token | .authorize token .. | .logout token | .disable token .. |
    .audit token _ => some token

/-- The audit record of a command that changes the tables. -/
def OperatorCommand.audited : OperatorCommand → Option AuditCommand
  | .provisionLocal .. => some .localProvision
  | .login .. => some .sessionCreated
  | .logout .. => some .sessionRevoked
  | .disable .. => some .disabled
  | .principal _ | .authorize .. | .audit .. => none

/-- A command as a transaction. -/
def OperatorCommand.run (platform : OperatorPlatform Digest) :
    OperatorCommand → OperatorTxn Digest OperatorReply
  | .provisionLocal domain workspace id role =>
      .secret <$> Operator.provisionLocal platform domain workspace id role
  | .login service credential => .secret <$> Operator.login platform service credential
  | .principal token => .principal <$> atomic (principalOf platform token)
  | .authorize token workspace resource =>
      .principal <$> Operator.authorize platform token workspace resource
  | .logout token => (fun _ => .done) <$> Operator.logout platform token
  | .disable token workspace target expected =>
      (fun _ => .done) <$> Operator.disable platform token workspace target expected
  | .audit token workspace => .audits <$> Operator.audit platform token workspace

/-! ## Histories -/

/-- The world after a sequence of commands on a migrated database, whichever of them
failed. -/
def after (platform : OperatorPlatform Digest) (commands : List OperatorCommand) :
    World (OperatorStore Digest) :=
  commands.foldl (fun w command => World.after (command.run platform w)) ⟨.empty, 0, 0⟩

/-- A command that comes after a sequence of commands returns a reply. -/
def Answers (platform : OperatorPlatform Digest) (commands : List OperatorCommand)
    (command : OperatorCommand) (reply : OperatorReply) : Prop :=
  World.answer (command.run platform (after platform commands)) = .ok reply

end AgentCompanyOS.Operator
