import AgentCompanyOS.Operator.Identity

/-!
# The operator database

`SqliteOperatorStore`: three tables, of accounts, of sessions and of audit records, with the
keys and references of the schema. Audit records are only ever added. A constraint that a
statement breaks raises `sqlite3.IntegrityError`.
-/

set_option autoImplicit false

namespace AgentCompanyOS.Operator

open Foundation Foundation.Txn Domain

variable {Digest : Type} [DecidableEq Digest]

abbrev OperatorAccount.key (a : OperatorAccount Digest) : OperatorId := a.principal.id

abbrev OperatorSession.key (s : OperatorSession Digest) : Digest := s.tokenDigest

variable (Digest) in
/-- The tables `operator_accounts`, `operator_sessions` and `operator_audit`. -/
structure OperatorStore where
  accounts : Registry (@OperatorAccount.key Digest)
  sessions : Registry (@OperatorSession.key Digest)
  audits : List OperatorAudit

/-- A migrated database without rows. -/
def OperatorStore.empty : OperatorStore Digest := ⟨.empty, .empty, []⟩

variable (Digest) in
abbrev OperatorTxn (α : Type) : Type := Txn OperatorError (OperatorStore Digest) α

/-- The exception of a broken constraint. -/
abbrev integrityError : OperatorError := .raised .other

namespace OperatorStore

def account (s : OperatorStore Digest) (id : OperatorId) : Option (OperatorAccount Digest) :=
  s.accounts.get? id

def credential (s : OperatorStore Digest) (digest : Digest) : Option (OperatorAccount Digest) :=
  s.accounts.values.find? (·.credentialDigest = digest)

def session (s : OperatorStore Digest) (digest : Digest) : Option (OperatorSession Digest) :=
  s.sessions.get? digest

def audit (s : OperatorStore Digest) (workspace : WorkspaceId) : List OperatorAudit :=
  s.audits.filter (·.workspaceId = workspace)

omit [DecidableEq Digest] in
/-- An account is filed under its principal's identifier. -/
theorem id_of_account {s : OperatorStore Digest} {id : OperatorId} {a : OperatorAccount Digest}
    (found : s.account id = some a) : a.principal.id = id := by
  have keyed : OperatorAccount.key a = id := Registry.key_of_get? found
  exact keyed

end OperatorStore

/-! ## Statements -/

def addAccount (account : OperatorAccount Digest) : OperatorTxn Digest Unit := do
  let s ← getStore
  -- `id` is the primary key and `credential_digest` is unique.
  raiseIf ((s.account account.principal.id).isSome ∨
    (s.credential account.credentialDigest).isSome) integrityError
  modifyStore fun s => { s with accounts := s.accounts.put account }

def disableAccount (id : OperatorId) (expected : Version) : OperatorTxn Digest Unit := do
  let s ← getStore
  match s.account id with
  | some account =>
      raiseIf (account.principal.version ≠ expected ∨ account.principal.enabled = false)
        (.raised (.domain (.versionConflict (py "OperatorPrincipal") id.value expected.value
          account.principal.version.value)))
      modifyStore fun s => { s with accounts := s.accounts.put account.disabled }
  | none =>
      raise (.raised (.domain (.versionConflict (py "OperatorPrincipal") id.value
        expected.value 0)))

def addSession (session : OperatorSession Digest) : OperatorTxn Digest Unit := do
  let s ← getStore
  raiseIf ((s.session session.tokenDigest).isSome ∨ (s.account session.principalId).isNone)
    integrityError
  modifyStore fun s => { s with sessions := s.sessions.put session }

def revokeSession (digest : Digest) : OperatorTxn Digest Unit := do
  let s ← getStore
  match s.session digest with
  | some session => modifyStore fun s => { s with sessions := s.sessions.put session.ended }
  | none => pure ()

/-- Both operators that an audit record names have accounts of its workspace. -/
def auditable (s : OperatorStore Digest) (event : OperatorAudit) (id : OperatorId) : Bool :=
  (s.account id).any (·.principal.workspaceId = event.workspaceId)

def appendAudit (event : OperatorAudit) : OperatorTxn Digest Unit := do
  let s ← getStore
  raiseIf ((auditable s event event.principalId && auditable s event event.targetId) = false)
    (.raised (violation "operator_audit_workspace"))
  modifyStore fun s => { s with audits := s.audits ++ [event] }

/-! ## What a statement that returned did -/

variable {w w' : World (OperatorStore Digest)} {u : Unit} {β : Type} {b : β}

theorem addAccount_eq_ok {account : OperatorAccount Digest}
    (h : addAccount account w = .ok u w') :
    w.store.account account.principal.id = none ∧
      w.store.credential account.credentialDigest = none ∧
      w' = { w with store := { w.store with accounts := w.store.accounts.put account } } := by
  have h := getStore_then h
  obtain ⟨free, h⟩ := raiseIf_then h
  simp only [not_or, Bool.not_eq_true, Option.isSome_eq_false_iff, Option.isNone_iff_eq_none]
    at free
  cases h
  exact ⟨free.1, free.2, rfl⟩

omit [DecidableEq Digest] in
theorem disableAccount_eq_ok {id : OperatorId} {expected : Version}
    (h : disableAccount id expected w = .ok u w') :
    ∃ account, w.store.account id = some account ∧ account.principal.version = expected ∧
      account.principal.enabled = true ∧
      w' = { w with store := { w.store with
        accounts := w.store.accounts.put account.disabled } } := by
  have h := getStore_then h
  cases found : w.store.account id with
  | none =>
      rw [found] at h
      cases h
  | some account =>
      rw [found] at h
      obtain ⟨passed, h⟩ := raiseIf_then h
      simp only [ne_eq, not_or, not_not, Bool.not_eq_false] at passed
      cases h
      exact ⟨account, rfl, passed.1, passed.2, rfl⟩

theorem addSession_eq_ok {session : OperatorSession Digest}
    (h : addSession session w = .ok u w') :
    w.store.session session.tokenDigest = none ∧
      w' = { w with store := { w.store with sessions := w.store.sessions.put session } } := by
  have h := getStore_then h
  obtain ⟨free, h⟩ := raiseIf_then h
  simp only [not_or, Bool.not_eq_true, Option.isSome_eq_false_iff, Option.isNone_iff_eq_none]
    at free
  cases h
  exact ⟨free.1, rfl⟩

theorem revokeSession_eq_ok {digest : Digest} {session : OperatorSession Digest}
    (found : w.store.session digest = some session)
    (h : revokeSession digest w = .ok u w') :
    w' = { w with store := { w.store with sessions := w.store.sessions.put session.ended } } := by
  have h := getStore_then h
  rw [found] at h
  cases h
  rfl

omit [DecidableEq Digest] in
theorem appendAudit_eq_ok {event : OperatorAudit} (h : appendAudit event w = .ok u w') :
    w' = { w with store := { w.store with audits := w.store.audits ++ [event] } } := by
  have h := getStore_then h
  obtain ⟨_, h⟩ := raiseIf_then h
  cases h
  rfl

end AgentCompanyOS.Operator
