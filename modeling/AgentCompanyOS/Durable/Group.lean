import AgentCompanyOS.Durable.Database
import AgentCompanyOS.Foundation.Upserts

/-!
# The durable store group

`SqliteStoreGroup.transaction`: the outermost scope loads all rows into the containers,
runs the unit of work on them, and writes the changed records back as rows, all between
`BEGIN IMMEDIATE` and `COMMIT`; when anything raises, the database is rolled back.

Scopes inside it copy the containers and put the copies back when they raise
(`Scopes.perform`).

The injected fault may raise at each of its calls. The row codec and
`_validate_relationships` are parameters.
-/

set_option autoImplicit false

namespace AgentCompanyOS.Durable

open AgentCompanyOS.Foundation

/-- The type under which a `domain_records` or `domain_audit` payload is decoded. -/
inductive RecordType where
  | domain (kind : DomainKind)
  | audit (kind : AuditKind)
deriving DecidableEq

/-- `durable_codec`: `encode_record`, `decode_record`, and `encode_value`, `decode_value`
at the record type and at the key type of a collection. -/
structure Codec (R : Type) where
  encodeRecord : R → Except Failure String
  decodeRecord : RecordType → String → Except Failure R
  encodeValue : Collection → R → Except Failure String
  decodeValue : Collection → String → Except Failure R
  encodeKey : Collection → Key → Except Failure String
  decodeKey : Collection → String → Except Failure Key

/-- Where the fault may raise. -/
inductive Phase where
  | beforeTransaction | stateWrite | auditWrite | beforeCommit | afterCommit

structure Group (R : Type) extends Fields R, Codec R where
  jsonValid : String → Bool
  validateRelationships : Containers R → Except Failure Unit
  /-- What the fault raises at a phase, the so many-th time that it is called. -/
  fault : Phase → Nat → Option Failure

namespace Group

variable {R : Type} (g : Group R)

/-! ## Loading -/

/-- A row of `domain_records`. -/
def loadDomain (c : Containers R) (row : DomainRow) : Except Failure (Containers R) :=
  match DomainKind.ofText row.kind with
  | none => .error (.invariantViolation "unknown_durable_record_type")
  | some kind => do
      let record ← g.decodeRecord (.domain kind) row.payload
      let scope ← g.scope record
      if (g.id record, scope, g.version record, g.status record, g.createdAt record,
          g.updatedAt record) ≠
          (row.id, row.workspaceId, row.version, row.status, row.createdAt, row.updatedAt) then
        throw (.invariantViolation "durable_row_payload_mismatch")
      if (g.goalId record, g.taskId record, g.executionId record) ≠
          (row.goalId, row.taskId, row.executionId) then
        throw (.invariantViolation "durable_lineage_payload_mismatch")
      pure (g.written c (.enter kind record))

/-- A row of `domain_audit`. -/
def loadAudit (c : Containers R) (row : AuditRow) : Except Failure (Containers R) :=
  match AuditKind.ofText row.kind with
  | none => .error (.invariantViolation "unknown_durable_audit_type")
  | some kind => do
      let record ← g.decodeRecord (.audit kind) row.payload
      if (g.id record, g.workspaceId record, g.subjectType record, g.subjectId record,
          g.occurredAt record) ≠
          (row.id, row.workspaceId, row.subjectKind, row.subjectId, row.occurredAt) then
        throw (.invariantViolation "durable_audit_payload_mismatch")
      pure (g.written c (.note kind record))

/-- A record goes into its collection; those of a list come in order. -/
def place (c : Containers R) (collection : Collection) (key : Key) (record : R) :
    Except Failure (Containers R) :=
  match collection with
  | .sequence list =>
      if key ≠ .index (c.lists list).length then
        .error (.invariantViolation "durable_sequence_gap")
      else .ok (g.written c (.append list record))
  | .keyed table => .ok (g.written c (.file table key record))

/-- A row of `canonical_records`. -/
def loadCanonical (c : Containers R) (row : CanonicalRow) : Except Failure (Containers R) :=
  match Collection.ofText row.collection with
  | none => .error (.invariantViolation "unknown_durable_record_type")
  | some collection => do
      if row.schemaVersion ≠ 1 then
        throw (.invariantViolation "unknown_durable_record_type")
      let key ← g.decodeKey collection row.recordKey
      let record ← g.decodeValue collection row.payload
      g.validateKey collection key record
      let workspace ← g.workspace c collection record
      if (workspace, g.version record, row.retention) ≠
          (row.workspaceId, row.entityVersion, collection.retention) then
        throw (.invariantViolation "durable_row_payload_mismatch")
      g.place c collection key record

/-- `_load` up to its last check. -/
def rebuild (db : Database) : Except Failure (Containers R) := do
  let c ← db.domainRecords.values.foldlM g.loadDomain Containers.empty
  let c ← db.domainAudit.values.foldlM g.loadAudit c
  let c ← db.canonicalRecords.values.foldlM g.loadCanonical c
  if ¬ db.ForeignKeys then throw (.invariantViolation "durable_foreign_key_corruption")
  pure c

/-- `_load`. The version, revision and payload of every row that it also returns are
those of the database that it has loaded. -/
def load (db : Database) : Except Failure (Containers R) := do
  let c ← g.rebuild db
  g.validateRelationships c
  pure c

/-! ## Flushing -/

/-- A call of the fault. -/
def faulted (phase : Phase) : Txn Failure Database Unit := do
  match ← Txn.readClock (g.fault phase) with
  | none => pure ()
  | some e => Txn.raise e

/-- An `INSERT`. -/
def insert (statement : Database → Except Failure Database) : Txn Failure Database Unit := do
  let db ← Txn.getStore
  let db' ← Txn.ofExcept (statement db)
  Txn.modifyStore fun _ => db'

/-- An `UPDATE`, which must find its row as it was loaded. -/
def update (statement : Database → Except Failure (Nat × Database)) :
    Txn Failure Database Unit := do
  let db ← Txn.getStore
  let result ← Txn.ofExcept (statement db)
  Txn.modifyStore fun _ => result.2
  Txn.raiseIf (result.1 ≠ 1) (.invariantViolation "durable_version_conflict")

/-- The row that an entity is inserted as. -/
def domainRow (kind : DomainKind) (record : R) (scope payload : String) : DomainRow where
  kind := kind.text
  id := g.id record
  workspaceId := scope
  version := g.version record
  status := g.status record
  createdAt := g.createdAt record
  updatedAt := g.updatedAt record
  payload := payload
  goalId := g.goalId record
  taskId := g.taskId record
  executionId := g.executionId record

/-- The row that an audit record is inserted as. -/
def auditRow (kind : AuditKind) (record : R) (payload : String) : AuditRow where
  kind := kind.text
  id := g.id record
  workspaceId := g.workspaceId record
  subjectKind := g.subjectType record
  subjectId := g.subjectId record
  occurredAt := g.occurredAt record
  payload := payload

/-- The row of a canonical record; it is inserted at revision 1. -/
def canonicalRow (collection : Collection) (keyJson : String) (record : R)
    (workspace : String) (revision : Nat) (payload : String) : CanonicalRow where
  collection := collection.text
  recordKey := keyJson
  schemaVersion := 1
  workspaceId := workspace
  revision := revision
  entityVersion := g.version record
  retention := collection.retention
  payload := payload

/-- An entity of the domain store. -/
def flushDomain (before : Database) (entity : DomainKind × String × R) :
    Txn Failure Database Unit := do
  let record := entity.2.2
  let payload ← Txn.ofExcept (g.encodeRecord record)
  let identity := (entity.1.text, g.id record)
  match before.domainRecords.get? identity with
  | some old =>
      Txn.runIf (old.payload ≠ payload) do
        g.faulted .stateWrite
        update (Database.updateDomain g.jsonValid identity old.version (g.version record)
          (g.status record) (g.updatedAt record) payload)
  | none => do
      g.faulted .stateWrite
      let scope ← Txn.ofExcept (g.scope record)
      insert (Database.insertDomain g.jsonValid (g.domainRow entity.1 record scope payload))

/-- An audit record of the domain store. -/
def flushAudit (before : Database) (audit : AuditKind × R) : Txn Failure Database Unit :=
  Txn.runIf (before.domainAudit.get? (audit.1.text, g.id audit.2) = none) do
    g.faulted .auditWrite
    let payload ← Txn.ofExcept (g.encodeRecord audit.2)
    insert (Database.insertAudit g.jsonValid (g.auditRow audit.1 audit.2 payload))

/-- The phase at which the fault is called for a collection. -/
def writePhase (collection : Collection) : Phase :=
  if collection.retention = "audit" then .auditWrite else .stateWrite

/-- A record of another store. -/
def flushCanonical (before : Database) (c : Containers R) (item : Collection × Key × R) :
    Txn Failure Database Unit := do
  let collection := item.1
  let record := item.2.2
  let keyJson ← Txn.ofExcept (g.encodeKey collection item.2.1)
  let payload ← Txn.ofExcept (g.encodeValue collection record)
  let identity := (collection.text, keyJson)
  match before.canonicalRecords.get? identity with
  | some old =>
      Txn.runIf (old.payload ≠ payload) do
        g.faulted (writePhase collection)
        match collection with
        | .sequence _ => Txn.raise (.invariantViolation "durable_history_immutable")
        | .keyed _ =>
            update (Database.updateCanonical g.jsonValid identity old.revision payload
              (g.version record))
  | none => do
      g.faulted (writePhase collection)
      let workspace ← Txn.ofExcept (g.workspace c collection record)
      insert (Database.insertCanonical g.jsonValid
        (g.canonicalRow collection keyJson record workspace 1 payload))

/-- The entities of the domain store in the order in which they are flushed. -/
def entities (c : Containers R) : List (DomainKind × String × R) :=
  DomainKind.all.flatMap fun kind => (c.domain kind).values.map (Prod.mk kind)

/-- Its audit records. -/
def audits (c : Containers R) : List (AuditKind × R) :=
  AuditKind.all.flatMap fun kind => (c.audit kind).map (Prod.mk kind)

/-- The records of the other stores. -/
def records (c : Containers R) : List (Collection × Key × R) :=
  Collection.all.flatMap fun collection => (c.items collection).map (Prod.mk collection)

/-- The records with the identities of their rows. -/
def rows (c : Containers R) :
    Except Failure (List ((Collection × String) × R)) :=
  (records c).mapM fun item => do
    let keyJson ← g.encodeKey item.1 item.2.1
    pure ((item.1, keyJson), item.2.2)

def identity (row : (Collection × String) × R) : String × String := (row.1.1.text, row.1.2)

/-- The rows that references may lead to: the first with the identifier, and for an
intent its governed action. -/
def linkTargets (rows : List ((Collection × String) × R)) : Dict OpaqueId (String × String) :=
  rows.foldl (fun ids row =>
    let ids := match g.opaqueId row.2 with
      | some candidate =>
          if ids.contains candidate then ids else ids.put (candidate, identity row)
      | none => ids
    match g.intentRef row.2 with
    | some intent => ids.put (intent, identity row)
    | none => ids) Registry.empty

/-- The link of a record to what one of its references leads to. The references are
taken as a set, in no particular order: the links are the same in each. -/
def flushLink (c : Containers R) (ids : Dict OpaqueId (String × String))
    (row : (Collection × String) × R) (reference : OpaqueId) : Txn Failure Database Unit :=
  match ids.get? reference with
  | none => pure ()
  | some target =>
      Txn.runIf (target.2 ≠ identity row) do
        let workspace ← Txn.ofExcept (g.workspace c row.1.1 row.2)
        insert (Database.insertLink ⟨workspace, (identity row).1, (identity row).2,
          target.2.1, target.2.2⟩)

/-- `_flush` -/
def flush (before : Database) (c : Containers R) : Txn Failure Database Unit := do
  Txn.forEach (entities c) (g.flushDomain before)
  Txn.forEach (audits c) (g.flushAudit before)
  Txn.forEach (records c) (g.flushCanonical before c)
  let rows ← Txn.ofExcept (g.rows c)
  Txn.raiseIf (∃ row ∈ before.canonicalRecords.values, row.key ∉ rows.map identity)
    (.invariantViolation "canonical_deletion_not_supported")
  let ids := g.linkTargets rows
  Txn.forEach rows fun row =>
    Txn.forEach (g.references row.2).dedup (g.flushLink c ids row)

/-! ## The outermost scope -/

/-- From `BEGIN IMMEDIATE` to `COMMIT` or `ROLLBACK`. -/
def committing (work : Scoped (Write R) Failure) : Txn Failure Database Unit :=
  Txn.atomic do
    let db ← Txn.getStore
    let c ← Txn.ofExcept (g.load db)
    let c' ← Txn.ofExcept (g.stores.outcome work c)
    g.flush db c'
    g.faulted .beforeCommit

/-- `SqliteStoreGroup.transaction` around a unit of work. -/
def transaction (work : Scoped (Write R) Failure) : Txn Failure Database Unit := do
  g.faulted .beforeTransaction
  g.committing work
  g.faulted .afterCommit

/-- Whether the transaction commits. -/
def Commits (work : Scoped (Write R) Failure) (w : World Database) : Prop :=
  ∃ w₁ w₂, g.faulted .beforeTransaction w = .ok () w₁ ∧ g.committing work w₁ = .ok () w₂

/-- Transactions one after the other, each returning or raising. -/
def run (works : List (Scoped (Write R) Failure)) (w : World Database) : World Database :=
  works.foldl (fun w work => World.after (g.transaction work w)) w

end Group

end AgentCompanyOS.Durable
