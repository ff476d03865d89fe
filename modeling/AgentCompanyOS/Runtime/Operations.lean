import AgentCompanyOS.Runtime.Review

/-!
# Restoring, restricting and releasing a workspace

`SqliteBackupAdapter.restore` turns a snapshot into a quarantined database that holds
every intent it contains; `SqliteOperationalStore.restrict` and `release` change the
mode afterwards. The operator's authority, the integrity pragmas and the classification
callback are arguments, as they are in the source.
-/

set_option autoImplicit false

namespace AgentCompanyOS.Runtime

open Foundation Foundation.Txn Domain

/-- Write a row of `operational_modes`. -/
def RuntimeStore.setMode (store : RuntimeStore) (workspaceId : WorkspaceId)
    (mode : OperationalMode) : RuntimeStore :=
  let version := ((store.modes.get? workspaceId).map fun row => row.version + 1).getD 1
  { store with modes := store.modes.put ⟨workspaceId, mode, version⟩ }

/-- Write a mode with its row of `operational_audit`. -/
def RuntimeStore.switchMode (store : RuntimeStore) (workspaceId : WorkspaceId)
    (mode : OperationalMode) (row : OperationalAuditRow) : RuntimeStore :=
  { store.setMode workspaceId mode with operationalAudit := store.operationalAudit ++ [row] }

/-- `restrict`. -/
def restrict (workspaceId : WorkspaceId) (mode : OperationalMode) (principal : PyStr)
    (at' : Instant) : RuntimeTxn Unit := do
  raiseIf (mode = .normal) (violation "operational_release_not_supported")
  atomic do
    let previous ← operationalMode workspaceId
    raiseIf (previous = .restoreQuarantine ∧ mode ≠ previous)
      (violation "quarantine_release_not_supported")
    modifyStore fun store => store.switchMode workspaceId mode
      ⟨workspaceId, principal, previous, mode, isoformat at', py "operator_command"⟩

/-! ## Release -/

/-- The reasons that a release answers with. -/
inductive ReleaseReason where
  | validatedWithRestoredIntentsHeld | adminRequired | notQuarantined | restoreProvenanceMissing
  | integrityFailed | classificationFailed | unfencedConsequentialIntent
deriving DecidableEq

def ReleaseReason.value : ReleaseReason → PyStr
  | validatedWithRestoredIntentsHeld => py "validated_with_restored_intents_held"
  | adminRequired => py "admin_required"
  | notQuarantined => py "not_quarantined"
  | restoreProvenanceMissing => py "restore_provenance_missing"
  | integrityFailed => py "integrity_failed"
  | classificationFailed => py "classification_failed"
  | unfencedConsequentialIntent => py "unfenced_consequential_intent"

/-- The newest incident of a workspace (`restore_context`). -/
def RuntimeStore.restoreContext (store : RuntimeStore) (workspaceId : WorkspaceId) :
    Option IncidentRow :=
  (store.incidents.filter (·.workspaceId = workspaceId)).foldl
    (fun best row =>
      match best with
      | some old => if old.generation < row.generation then some row else some old
      | none => some row) none

/-- Whether every governed action of the workspace is held. -/
def RuntimeStore.fenced (store : RuntimeStore) (workspaceId : WorkspaceId) : Bool :=
  (store.governed.values.filter (·.intent.workspaceId = workspaceId)).all fun g =>
    store.held workspaceId g.intent.id

/-- What a release is asked with: the operator's authority, the answer of the integrity
pragmas, and the answer of the classification callback, the number of its cases. -/
structure ReleaseRequest where
  workspaceId : WorkspaceId
  principal : PyStr
  at' : Instant
  authorized : Bool
  integrity : Bool
  classification : Except Exc Nat

/-- The classification of a release: the number of cases, or that it failed; an error
that is not a domain error ends the release. -/
def classified (request : ReleaseRequest) : RuntimeTxn (Option Nat) :=
  match request.classification with
  | .ok cases => pure (some cases)
  | .error (.domain _) => pure none
  | .error e => raise e

/-- The reason of a release that has reached the classification. -/
def fencedReason (store : RuntimeStore) (workspaceId : WorkspaceId) (cases : Option Nat) :
    ReleaseReason :=
  if store.fenced workspaceId = false then .unfencedConsequentialIntent
  else if cases = none then .classificationFailed
  else .validatedWithRestoredIntentsHeld

/-- The reason of a release, with the number of classified cases. -/
def releaseReason (request : ReleaseRequest) (previous : OperationalMode)
    (context : Option IncidentRow) : RuntimeTxn (ReleaseReason × Nat) :=
  if request.authorized = false then pure (.adminRequired, 0)
  else if previous ≠ .restoreQuarantine then pure (.notQuarantined, 0)
  else if context = none then pure (.restoreProvenanceMissing, 0)
  else if request.integrity = false then pure (.integrityFailed, 0)
  else do
    let cases ← classified request
    let _ ← inDomain (getWorkspace request.workspaceId)
    let store ← getStore
    pure (fencedReason store request.workspaceId cases, cases.getD 0)

/-- `ReleaseResult`. -/
structure ReleaseResult where
  success : Bool
  reason : ReleaseReason
  mode : OperationalMode
deriving DecidableEq

/-- The result of a release with a given reason. -/
def releaseResult (previous : OperationalMode) (reason : ReleaseReason) : ReleaseResult :=
  let success : Bool := reason = .validatedWithRestoredIntentsHeld
  ⟨success, reason, if success = true then .normal else previous⟩

/-- The row of `quarantine_release_audit`. -/
def releaseRow (request : ReleaseRequest) (store : RuntimeStore) (previous : OperationalMode)
    (context : Option IncidentRow) (result : ReleaseResult) (cases : Nat) : ReleaseAuditRow where
  workspaceId := request.workspaceId
  principalId := request.principal
  generation := context.map IncidentRow.generation
  timestamp := isoformat request.at'
  previousMode := previous
  newMode := result.mode
  success := result.success
  reason := result.reason.value
  recoveryCount := cases
  heldIntentCount :=
    if context = none then 0
    else (store.holds.filter (·.workspaceId = request.workspaceId)).length

/-- The end of `release`: the mode, when it succeeds, and the audit row. -/
def applyRelease (request : ReleaseRequest) (result : ReleaseResult) (row : ReleaseAuditRow) :
    RuntimeTxn ReleaseResult := do
  runIf (result.success = true)
    (modifyStore fun store => store.setMode request.workspaceId .normal)
  modifyStore fun store => { store with releaseAudit := store.releaseAudit ++ [row] }
  pure result

/-- `release`. -/
def release (request : ReleaseRequest) : RuntimeTxn ReleaseResult := atomic do
  let previous ← operationalMode request.workspaceId
  let store ← getStore
  let context := store.restoreContext request.workspaceId
  let outcome ← releaseReason request previous context
  let result := releaseResult previous outcome.1
  applyRelease request result (releaseRow request store previous context result outcome.2)

/-! ## Restore -/

/-- What a restore is asked with; `intact` stands for the manifest and scope checks of
the files. -/
structure RestoreRequest where
  workspaceId : WorkspaceId
  backupId : PyStr
  backupDigest : PyStr
  principal : PyStr
  at' : Instant
  intact : Bool

/-- `INSERT OR IGNORE INTO restored_intent_holds`. -/
def RuntimeStore.hold (store : RuntimeStore) (workspaceId : WorkspaceId)
    (intentId : ActionIntentId) (generation : Nat) : RuntimeStore :=
  if store.held workspaceId intentId = true then store
  else { store with holds := store.holds ++ [⟨workspaceId, intentId, generation⟩] }

/-- The incident that a restore records. -/
def newIncident (request : RestoreRequest) (store : RuntimeStore) : IncidentRow :=
  ⟨(store.incidents.map IncidentRow.generation).foldl max 0 + 1, request.workspaceId,
    request.backupId, request.backupDigest, isoformat request.at', request.principal⟩

/-- `restore`, run on the copy of the snapshot. -/
def restore (request : RestoreRequest) : RuntimeTxn Unit := atomic do
  let store ← getStore
  raiseIf (request.intact = false) (violation "invalid_backup_manifest")
  raiseIf (store.domain.workspaces.values.map Workspace.id ≠ [request.workspaceId])
    (violation "backup_requires_single_authorized_workspace")
  modifyStore fun store =>
    { store with incidents := store.incidents ++ [newIncident request store] }
  let records ← governedActions request.workspaceId
  forEach records fun record => modifyStore fun now =>
    now.hold request.workspaceId record.intent.id (newIncident request store).generation
  let previous ← operationalMode request.workspaceId
  modifyStore fun store => store.switchMode request.workspaceId .restoreQuarantine
    ⟨request.workspaceId, request.principal, previous, .restoreQuarantine,
      isoformat request.at', py "canonical_restore"⟩

end AgentCompanyOS.Runtime
