import AgentCompanyOS.Foundation.Registry
import AgentCompanyOS.Foundation.Scopes
import Mathlib.Data.Finset.Basic
import Mathlib.Logic.Function.Basic

/-!
# The containers of the durable stores

`SqliteStoreGroup` persists the Python containers of seven stores: the five
dictionaries of the domain store with its audit lists, and the collections of the other
stores, most of them dictionaries and some of them lists. This file has the containers,
the names under which the group files them, and the writes by which the stores change
them with what the stores check first.

The records are Python objects of many classes. Here they are any type with the fields
that the group and the stores read (`Fields`).
-/

set_option autoImplicit false

namespace AgentCompanyOS.Durable

open AgentCompanyOS.Foundation

/-- What the modelled code raises. -/
inductive Failure where
  | invariantViolation (rule : String)
  | integrityError
  | other (what : String)
deriving DecidableEq

/-! ## Names -/

/-- The dictionaries of the domain store, `SqliteStoreGroup._domain`. -/
inductive DomainKind where
  | workspace | goal | task | execution | taskAttempt
deriving DecidableEq

def DomainKind.text : DomainKind → String
  | .workspace => "workspace"
  | .goal => "goal"
  | .task => "task"
  | .execution => "execution"
  | .taskAttempt => "task_attempt"

def DomainKind.all : List DomainKind := [.workspace, .goal, .task, .execution, .taskAttempt]

def DomainKind.ofText (name : String) : Option DomainKind := all.find? (·.text = name)

/-- The two lists of the domain store. -/
inductive AuditKind where
  | event | transition
deriving DecidableEq

def AuditKind.text : AuditKind → String
  | .event => "event"
  | .transition => "transition"

def AuditKind.all : List AuditKind := [.event, .transition]

def AuditKind.ofText (name : String) : Option AuditKind := all.find? (·.text = name)

/-- The rule that a second record with one identifier breaks. -/
def AuditKind.notUnique : AuditKind → String
  | .event => "event_id_unique"
  | .transition => "state_transition_id_unique"

/-- The dictionaries among the collections of the other stores. -/
inductive Keyed where
  | toolRegistry | definitions | runs | actions | observations | invocations | receipts
  | policies | governance | sources | sourceVersions | chunks | evidence | candidates
  | entries | memoryPacks | graphs | graphVersions | orchestrations | plans
  | materializations | delegations | threads | messages | handoffs
deriving DecidableEq

/-- The lists among them. -/
inductive Sequence where
  | delegationAttempts | runtimeEvents | knowledgeEvents | memoryEvents
  | organizationEvents | orchestrationEvents | communicationEvents | runtimeTransitions
deriving DecidableEq

/-- A descriptor of `SqliteStoreGroup._collections`. -/
inductive Collection where
  | keyed (table : Keyed)
  | sequence (list : Sequence)
deriving DecidableEq

namespace Collection

def text : Collection → String
  | .keyed .toolRegistry => "tool_registry"
  | .keyed .definitions => "definitions"
  | .keyed .runs => "runs"
  | .keyed .actions => "actions"
  | .keyed .observations => "observations"
  | .keyed .invocations => "invocations"
  | .keyed .receipts => "receipts"
  | .keyed .policies => "policies"
  | .keyed .governance => "governance"
  | .keyed .sources => "sources"
  | .keyed .sourceVersions => "source_versions"
  | .keyed .chunks => "chunks"
  | .keyed .evidence => "evidence"
  | .keyed .candidates => "candidates"
  | .keyed .entries => "entries"
  | .keyed .memoryPacks => "memory_packs"
  | .keyed .graphs => "graphs"
  | .keyed .graphVersions => "graph_versions"
  | .keyed .orchestrations => "orchestrations"
  | .keyed .plans => "plans"
  | .keyed .materializations => "materializations"
  | .keyed .delegations => "delegations"
  | .sequence .delegationAttempts => "delegation_attempts"
  | .keyed .threads => "threads"
  | .keyed .messages => "messages"
  | .keyed .handoffs => "handoffs"
  | .sequence .runtimeEvents => "runtime_events"
  | .sequence .knowledgeEvents => "knowledge_events"
  | .sequence .memoryEvents => "memory_events"
  | .sequence .organizationEvents => "organization_events"
  | .sequence .orchestrationEvents => "orchestration_events"
  | .sequence .communicationEvents => "communication_events"
  | .sequence .runtimeTransitions => "runtime_transitions"

/-- The descriptors in the order of the dictionary. -/
def all : List Collection :=
  [.keyed .toolRegistry, .keyed .definitions, .keyed .runs, .keyed .actions,
   .keyed .observations, .keyed .invocations, .keyed .receipts, .keyed .policies,
   .keyed .governance, .keyed .sources, .keyed .sourceVersions, .keyed .chunks,
   .keyed .evidence, .keyed .candidates, .keyed .entries, .keyed .memoryPacks,
   .keyed .graphs, .keyed .graphVersions, .keyed .orchestrations, .keyed .plans,
   .keyed .materializations, .keyed .delegations, .sequence .delegationAttempts,
   .keyed .threads, .keyed .messages, .keyed .handoffs, .sequence .runtimeEvents,
   .sequence .knowledgeEvents, .sequence .memoryEvents, .sequence .organizationEvents,
   .sequence .orchestrationEvents, .sequence .communicationEvents,
   .sequence .runtimeTransitions]

def ofText (name : String) : Option Collection := all.find? (·.text = name)

def retention : Collection → String
  | .keyed .actions | .keyed .observations | .keyed .invocations | .keyed .receipts
  | .keyed .governance | .keyed .sourceVersions | .keyed .chunks | .keyed .evidence
  | .keyed .candidates | .keyed .entries | .keyed .memoryPacks | .keyed .messages
  | .keyed .handoffs => "sensitive"
  | .sequence .delegationAttempts => "operational"
  | .sequence _ => "audit"
  | .keyed _ => "operational"

end Collection

/-! ## Keys, records and containers -/

/-- A key of a collection: an identifier, an identifier with a version (also a
`ToolGrant`), or a place in a list. -/
inductive Key where
  | id (value : String)
  | versioned (value : String) (version : Nat)
  | index (place : Nat)
deriving DecidableEq

/-- An `OpaqueId`: identifiers of different classes differ. -/
structure OpaqueId where
  type : String
  value : String
deriving DecidableEq

/-- What the group and the stores read of a record, each of the records that have it. -/
structure Fields (R : Type) where
  /-- `str(record.id)` -/
  id : R → String
  /-- `_scope(record)`, as text -/
  scope : R → Except Failure String
  /-- `_version(record)`; for the domain entities it is `record.version.value` -/
  version : R → Nat
  workspaceId : R → String
  status : R → String
  createdAt : R → String
  updatedAt : R → String
  goalId : R → Option String
  taskId : R → Option String
  executionId : R → Option String
  subjectType : R → String
  subjectId : R → String
  occurredAt : R → String
  /-- the delegation of a `DelegationAttempt` -/
  delegationId : R → String
  /-- `record.tool_version.grant` -/
  grant : R → String × Nat
  /-- `record.definition.id` -/
  definitionId : R → String
  /-- `record.intent.id` -/
  intentId : R → String
  /-- `record.source.id` and `record.source.version` -/
  source : R → String × Nat
  /-- `item.source_id` and `item.source_version` of each chunk -/
  chunkSources : R → List (String × Nat)
  planId : R → String
  planVersion : R → Nat
  /-- `record.id`, when it is an `OpaqueId` -/
  opaqueId : R → Option OpaqueId
  /-- `record.intent.id` of a `GovernedAction` -/
  intentRef : R → Option OpaqueId
  /-- every `OpaqueId` inside the record -/
  references : R → List OpaqueId

/-- A Python dictionary. -/
abbrev Dict (κ υ : Type) [DecidableEq κ] : Type := Registry (Prod.fst : κ × υ → κ)

/-- The containers of all stores. -/
@[ext]
structure Containers (R : Type) where
  domain : DomainKind → Dict String R
  audit : AuditKind → List R
  /-- `_event_ids` and `_transition_ids` -/
  auditIds : AuditKind → Finset String
  dicts : Keyed → Dict Key R
  lists : Sequence → List R

namespace Containers

variable {R : Type}

/-- What `_load` starts from. -/
def empty : Containers R where
  domain _ := Registry.empty
  audit _ := []
  auditIds _ := ∅
  dicts _ := Registry.empty
  lists _ := []

/-- The items of a collection: `container.items()`, or `enumerate(container)`. -/
def items (c : Containers R) : Collection → List (Key × R)
  | .keyed table => (c.dicts table).values
  | .sequence list => (c.lists list).zipIdx.map fun p => (.index p.2, p.1)

end Containers

/-! ## What the stores write -/

/-- A write of a store to one of its containers. -/
inductive Write (R : Type) where
  /-- `entities[entity_id] = entity` of the domain store -/
  | enter (kind : DomainKind) (record : R)
  /-- an audit record of the domain store, with its identifier -/
  | note (kind : AuditKind) (record : R)
  /-- `container[key] = record` of another store -/
  | file (table : Keyed) (key : Key) (record : R)
  /-- `container.append(record)` of another store -/
  | append (list : Sequence) (record : R)

namespace Fields

variable {R : Type} (f : Fields R)

/-- The columns of an entity that an update of its row does not write: the entity's
scope, creation and parents. -/
def fixed (record : R) :
    Except Failure String × String × Option String × Option String × Option String :=
  (f.scope record, f.createdAt record, f.goalId record, f.taskId record, f.executionId record)

/-- The key under which `_validate_key` expects a record. -/
def expectedKey (table : Keyed) (record : R) : Except Failure Key :=
  match table with
  | .toolRegistry => .ok (.versioned (f.grant record).1 (f.grant record).2)
  | .definitions => .ok (.versioned (f.definitionId record) (f.version record))
  | .policies | .graphs => .ok (.id (f.workspaceId record))
  | .governance => .ok (.id (f.intentId record))
  | .sourceVersions => .ok (.versioned (f.source record).1 (f.source record).2)
  | .chunks =>
      match f.chunkSources record with
      | [] => .error (.invariantViolation "empty_canonical_chunks")
      | first :: rest =>
          if rest.all (· = first) then .ok (.versioned first.1 first.2)
          else .error (.invariantViolation "durable_chunk_binding")
  | .graphVersions => .ok (.versioned (f.workspaceId record) (f.version record))
  | .plans => .ok (.versioned (f.id record) (f.version record))
  | .materializations => .ok (.versioned (f.planId record) (f.planVersion record))
  | _ => .ok (.id (f.id record))

/-- `_validate_key`; the places of a list are checked where it is loaded. -/
def validateKey (collection : Collection) (key : Key) (record : R) : Except Failure Unit :=
  match collection with
  | .sequence _ => .ok ()
  | .keyed table => do
      let expected ← f.expectedKey table record
      if key ≠ expected then throw (.invariantViolation "durable_record_key_mismatch")

/-- `SqliteStoreGroup._workspace`: an attempt is in the workspace of its delegation. -/
def workspace (c : Containers R) (collection : Collection) (record : R) :
    Except Failure String :=
  match collection with
  | .sequence .delegationAttempts =>
      match (c.dicts .delegations).get? (.id (f.delegationId record)) with
      | none => .error (.invariantViolation "delegation_attempt_parent_missing")
      | some parent => f.scope parent.2
  | _ => f.scope record

/-- What a write makes of the containers. -/
def written (c : Containers R) (w : Write R) : Containers R :=
  match w with
  | .enter kind record =>
      let entities := (c.domain kind).put (f.id record, record)
      { c with domain := Function.update c.domain kind entities }
  | .note kind record =>
      let ids := insert (f.id record) (c.auditIds kind)
      { c with
        audit := Function.update c.audit kind (c.audit kind ++ [record])
        auditIds := Function.update c.auditIds kind ids }
  | .file table key record =>
      let container := (c.dicts table).put (key, record)
      { c with dicts := Function.update c.dicts table container }
  | .append list record =>
      { c with lists := Function.update c.lists list (c.lists list ++ [record]) }

/-- What the stores check before they write, as far as the group depends on it; a store
that refuses for any other reason raises in the tree of scopes.

* `_save` of the domain store: only status, version and the other mutable fields of an
  entity change (`historical_definition_is_immutable`), a workspace never does; `_add`
  takes new identifiers only.
* `_validate_event` and `_validate_transition`: identifiers are new.
* The other stores file a record under the key that it carries, and replace a record
  only by one of the same workspace: they look the old record up by the workspace of the
  new one (`get_run`, `source`, `candidate`, `entry`, `run`, `message`, `handoff`),
  compare the parts that carry it (`save_governed_action`, `finish_tool_invocation`,
  `KnowledgeStore.publish`, `set_enabled`), or file under it (`policies`, `graphs`).
  Only `KnowledgeStore.publish` takes a key from another field, the content version of
  a source, which equals the version there (`source_version_key`).
* `add_attempt` looks its delegation up. -/
def admits (w : Write R) (c : Containers R) : Except Failure Unit :=
  match w with
  | .enter kind record =>
      match (c.domain kind).get? (f.id record) with
      | none => .ok ()
      | some current =>
          if f.fixed current.2 ≠ f.fixed record then
            .error (.invariantViolation "historical_definition_is_immutable")
          else .ok ()
  | .note kind record =>
      if f.id record ∈ c.auditIds kind then .error (.invariantViolation kind.notUnique)
      else .ok ()
  | .file table key record => do
      f.validateKey (.keyed table) key record
      match (c.dicts table).get? key with
      | none => .ok ()
      | some current =>
          if f.scope current.2 ≠ f.scope record then .error (.other "workspace_mismatch")
          else .ok ()
  | .append list record =>
      if list = .delegationAttempts ∧
          (c.dicts .delegations).get? (.id (f.delegationId record)) = none then
        .error (.other "entity_not_found")
      else .ok ()

/-- The stores as a unit of work sees them. -/
def stores : Scopes (Write R) Failure (Containers R) := ⟨f.admits, f.written⟩

end Fields

end AgentCompanyOS.Durable
