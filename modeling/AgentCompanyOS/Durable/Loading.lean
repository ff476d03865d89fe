import AgentCompanyOS.Durable.Group
import Mathlib.Tactic.Common

/-!
# What a database holds

`Group.Mirrors db c` says that the rows of a database are what the group writes for the
records of the containers `c`, in their order: every row decodes to a record whose
columns it carries (`FaithfulDomain`, `FaithfulAudit`, `FaithfulCanonical`), the records
of each container are read off the rows of its kind or collection, and the foreign keys
hold. Such a database loads as `c` (`Group.Mirrors.rebuild`).
-/

set_option autoImplicit false

namespace AgentCompanyOS.Durable

open AgentCompanyOS.Foundation

/-! ## Names -/

@[simp] theorem DomainKind.ofText_text (kind : DomainKind) :
    DomainKind.ofText kind.text = some kind := by
  cases kind <;> decide

@[simp] theorem AuditKind.ofText_text (kind : AuditKind) :
    AuditKind.ofText kind.text = some kind := by
  cases kind <;> decide

@[simp] theorem Collection.ofText_text (collection : Collection) :
    Collection.ofText collection.text = some collection := by
  cases collection with
  | keyed table => cases table <;> decide
  | sequence list => cases list <;> decide

theorem DomainKind.text_injective {kind kind' : DomainKind} (same : kind.text = kind'.text) :
    kind = kind' := by
  simpa using congrArg DomainKind.ofText same

theorem AuditKind.text_injective {kind kind' : AuditKind} (same : kind.text = kind'.text) :
    kind = kind' := by
  simpa using congrArg AuditKind.ofText same

theorem Collection.text_injective {collection collection' : Collection}
    (same : collection.text = collection'.text) : collection = collection' := by
  simpa using congrArg Collection.ofText same

/-! ## Containers by their items -/

namespace Containers

variable {R : Type}

theorem items_sequence_length (c : Containers R) (list : Sequence) :
    (c.items (.sequence list)).length = (c.lists list).length := by
  simp [items]

theorem items_sequence_records (c : Containers R) (list : Sequence) :
    (c.items (.sequence list)).map Prod.snd = c.lists list := by
  simp [items, Function.comp_def]

/-- Containers with the same items are the same. -/
theorem ext_items {c c' : Containers R}
    (domain : ∀ kind, (c.domain kind).values = (c'.domain kind).values)
    (audit : ∀ kind, c.audit kind = c'.audit kind)
    (auditIds : ∀ kind, c.auditIds kind = c'.auditIds kind)
    (items : ∀ collection, c.items collection = c'.items collection) : c = c' := by
  apply Containers.ext
  · exact funext fun kind => Registry.ext_items (domain kind)
  · exact funext audit
  · exact funext auditIds
  · exact funext fun table => Registry.ext_items (items (.keyed table))
  · funext list
    rw [← c.items_sequence_records, items, c'.items_sequence_records]

end Containers

namespace Group

variable {R : Type} (g : Group R)

/-! ## Rows and records -/

/-- What a row of `domain_records` holds for a dictionary. -/
def readDomain (kind : DomainKind) (row : DomainRow) : Option (String × R) :=
  if row.kind = kind.text then
    (g.decodeRecord (.domain kind) row.payload).toOption.map (Prod.mk row.id)
  else none

/-- What a row of `domain_audit` holds for a list. -/
def readAudit (kind : AuditKind) (row : AuditRow) : Option R :=
  if row.kind = kind.text then (g.decodeRecord (.audit kind) row.payload).toOption else none

/-- What a row of `canonical_records` holds for a collection. -/
def readCanonical (collection : Collection) (row : CanonicalRow) : Option (Key × R) :=
  if row.collection = collection.text then
    (g.decodeKey collection row.recordKey).toOption.bind fun key =>
      (g.decodeValue collection row.payload).toOption.map (Prod.mk key)
  else none

/-- A row is what an entity is inserted as. -/
structure FaithfulDomain (row : DomainRow) (kind : DomainKind) (record : R) : Prop where
  decodes : g.decodeRecord (.domain kind) row.payload = .ok record
  columns : ∃ scope, g.scope record = .ok scope ∧ row = g.domainRow kind record scope row.payload

/-- A row is what an audit record is inserted as. -/
structure FaithfulAudit (row : AuditRow) (kind : AuditKind) (record : R) : Prop where
  decodes : g.decodeRecord (.audit kind) row.payload = .ok record
  columns : row = g.auditRow kind record row.payload

/-- A row is what a record of another store is inserted or replaced as, behind the rows
`before`. -/
structure FaithfulCanonical (before : List CanonicalRow) (row : CanonicalRow)
    (collection : Collection) (key : Key) (record : R) : Prop where
  decodesKey : g.decodeKey collection row.recordKey = .ok key
  encodesKey : g.encodeKey collection key = .ok row.recordKey
  decodes : g.decodeValue collection row.payload = .ok record
  valid : g.validateKey collection key record = .ok ()
  columns : row =
    g.canonicalRow collection row.recordKey record row.workspaceId row.revision row.payload
  /-- the records of a list are in order -/
  place : ∀ list, collection = .sequence list →
    key = .index (before.filterMap (g.readCanonical collection)).length
  scope : collection ≠ .sequence .delegationAttempts → g.scope record = .ok row.workspaceId
  /-- the delegation of an attempt comes before it -/
  parent : collection = .sequence .delegationAttempts → ∃ delegation ∈ before,
    delegation.collection = (Collection.keyed .delegations).text ∧
      g.decodeKey (.keyed .delegations) delegation.recordKey = .ok (.id (g.delegationId record)) ∧
      delegation.workspaceId = row.workspaceId

/-- The rows of `canonical_records`, each behind the ones before it. -/
def FaithfulRows (rows : List CanonicalRow) : Prop :=
  ∀ before row after, rows = before ++ row :: after →
    ∃ collection key record, g.FaithfulCanonical before row collection key record

/-- The rows of a database are those of the records of the containers. -/
structure Mirrors (db : Database) (c : Containers R) : Prop where
  domainRows : ∀ row ∈ db.domainRecords.values, ∃ kind record, g.FaithfulDomain row kind record
  auditRows : ∀ row ∈ db.domainAudit.values, ∃ kind record, g.FaithfulAudit row kind record
  canonicalRows : g.FaithfulRows db.canonicalRecords.values
  foreignKeys : db.ForeignKeys
  domain : ∀ kind,
    (c.domain kind).values = db.domainRecords.values.filterMap (g.readDomain kind)
  audit : ∀ kind, c.audit kind = db.domainAudit.values.filterMap (g.readAudit kind)
  auditIds : ∀ kind, c.auditIds kind = ((c.audit kind).map g.id).toFinset
  items : ∀ collection,
    c.items collection = db.canonicalRecords.values.filterMap (g.readCanonical collection)

variable {g}

theorem FaithfulDomain.kind_eq {row : DomainRow} {kind : DomainKind} {record : R}
    (h : g.FaithfulDomain row kind record) : row.kind = kind.text := by
  obtain ⟨scope, -, columns⟩ := h.columns
  rw [columns]
  rfl

theorem FaithfulDomain.id_eq {row : DomainRow} {kind : DomainKind} {record : R}
    (h : g.FaithfulDomain row kind record) : row.id = g.id record := by
  obtain ⟨scope, -, columns⟩ := h.columns
  rw [columns]
  rfl

theorem FaithfulDomain.read {row : DomainRow} {kind : DomainKind} {record : R}
    (h : g.FaithfulDomain row kind record) (kind' : DomainKind) :
    g.readDomain kind' row = if kind' = kind then some (row.id, record) else none := by
  unfold readDomain
  rw [h.kind_eq]
  by_cases here : kind' = kind
  · subst here
    simp [h.decodes, Except.toOption]
  · have other : kind.text ≠ kind'.text := fun same => here (DomainKind.text_injective same).symm
    simp [other, here]

theorem FaithfulAudit.read {row : AuditRow} {kind : AuditKind} {record : R}
    (h : g.FaithfulAudit row kind record) (kind' : AuditKind) :
    g.readAudit kind' row = if kind' = kind then some record else none := by
  have column : row.kind = kind.text := by
    rw [h.columns]
    rfl
  unfold readAudit
  rw [column]
  by_cases here : kind' = kind
  · subst here
    simp [h.decodes, Except.toOption]
  · have other : kind.text ≠ kind'.text := fun same => here (AuditKind.text_injective same).symm
    simp [other, here]

theorem FaithfulCanonical.collection_eq {before : List CanonicalRow} {row : CanonicalRow}
    {collection : Collection} {key : Key} {record : R}
    (h : g.FaithfulCanonical before row collection key record) :
    row.collection = collection.text := by
  rw [h.columns]
  rfl

theorem FaithfulCanonical.read {before : List CanonicalRow} {row : CanonicalRow}
    {collection : Collection} {key : Key} {record : R}
    (h : g.FaithfulCanonical before row collection key record) (collection' : Collection) :
    g.readCanonical collection' row =
      if collection' = collection then some (key, record) else none := by
  unfold readCanonical
  rw [h.collection_eq]
  by_cases here : collection' = collection
  · subst here
    simp [h.decodesKey, h.decodes, Except.toOption]
  · have other : collection.text ≠ collection'.text :=
      fun same => here (Collection.text_injective same).symm
    simp [other, here]

/-! ## One row -/

theorem FaithfulDomain.load {row : DomainRow} {kind : DomainKind} {record : R}
    (h : g.FaithfulDomain row kind record) (c : Containers R) :
    g.loadDomain c row = .ok (g.written c (.enter kind record)) := by
  obtain ⟨scope, inside, columns⟩ := h.columns
  have decodes := h.decodes
  generalize row.payload = payload at columns decodes
  subst columns
  unfold loadDomain
  simp [domainRow, decodes, inside, bind, Except.bind, pure, Except.pure]

theorem FaithfulAudit.load {row : AuditRow} {kind : AuditKind} {record : R}
    (h : g.FaithfulAudit row kind record) (c : Containers R) :
    g.loadAudit c row = .ok (g.written c (.note kind record)) := by
  have columns := h.columns
  have decodes := h.decodes
  generalize row.payload = payload at columns decodes
  subst columns
  unfold loadAudit
  simp [auditRow, decodes, bind, Except.bind, pure, Except.pure]

theorem FaithfulCanonical.load {before : List CanonicalRow} {row : CanonicalRow}
    {collection : Collection} {key : Key} {record : R}
    (h : g.FaithfulCanonical before row collection key record) {c : Containers R}
    (inside : g.workspace c collection record = .ok row.workspaceId) :
    g.loadCanonical c row = g.place c collection key record := by
  have columns := h.columns
  have decodesKey := h.decodesKey
  have decodes := h.decodes
  have valid := h.valid
  generalize row.recordKey = keyJson at columns decodesKey
  generalize row.payload = payload at columns decodes
  generalize row.workspaceId = workspace at columns inside
  generalize row.revision = revision at columns
  subst columns
  unfold loadCanonical
  simp [canonicalRow, decodesKey, decodes, valid, inside, bind, Except.bind]

/-! ## All rows -/

section

variable {rows : List DomainRow} {kind : DomainKind} {record : R}

/-- No earlier row has the identifier of a row. -/
theorem FaithfulDomain.absent {row : DomainRow} (h : g.FaithfulDomain row kind record)
    {before after : List DomainRow} (nodup : ((before ++ row :: after).map DomainRow.key).Nodup)
    {d : Dict String R} (values : d.values = before.filterMap (g.readDomain kind)) :
    d.get? (g.id record) = none := by
  rw [Registry.get?_eq_none_iff, values]
  intro x mem same
  obtain ⟨earlier, inside, reads⟩ := List.mem_filterMap.mp mem
  unfold readDomain at reads
  split at reads
  · next here =>
      obtain ⟨other, -, rfl⟩ := Option.map_eq_some_iff.mp reads
      have key : earlier.key = row.key :=
        Prod.ext (here.trans h.kind_eq.symm) (same.trans h.id_eq.symm)
      rw [List.map_append, List.map_cons] at nodup
      have apart := (List.nodup_append.mp nodup).2.2
      exact apart earlier.key (List.mem_map_of_mem inside) row.key List.mem_cons_self key
  · cases reads

end

/-- The rows of the domain store. -/
theorem Mirrors.loadDomain {db : Database} {c : Containers R} (h : g.Mirrors db c) :
    ∃ s, db.domainRecords.values.foldlM g.loadDomain Containers.empty = .ok s ∧
      (∀ kind, (s.domain kind).values = (c.domain kind).values) ∧
      s.audit = Containers.empty.audit ∧ s.auditIds = (fun _ => ∅) ∧
      s.dicts = Containers.empty.dicts ∧ s.lists = Containers.empty.lists := by
  have loop : ∃ s, db.domainRecords.values.foldlM g.loadDomain Containers.empty = .ok s ∧
      (∀ kind, (s.domain kind).values = db.domainRecords.values.filterMap (g.readDomain kind)) ∧
      s.audit = Containers.empty.audit ∧ s.auditIds = (fun _ => ∅) ∧
      s.dicts = Containers.empty.dicts ∧ s.lists = Containers.empty.lists := by
    apply foldlM_visited (P := fun (before : List DomainRow) (s : Containers R) =>
      (∀ kind, (s.domain kind).values = before.filterMap (g.readDomain kind)) ∧
      s.audit = Containers.empty.audit ∧ s.auditIds = (fun _ => ∅) ∧
      s.dicts = Containers.empty.dicts ∧ s.lists = Containers.empty.lists)
    · intro before row after split s ⟨domain, frame⟩
      obtain ⟨kind, record, faithful⟩ := h.domainRows row (by simp [split])
      refine ⟨_, faithful.load s, ?_, frame⟩
      intro kind'
      rw [List.filterMap_append, ← domain kind', List.filterMap_cons, faithful.read kind']
      have nodup : ((before ++ row :: after).map DomainRow.key).Nodup :=
        split ▸ db.domainRecords.nodup
      by_cases here : kind' = kind
      · subst here
        have filed := Registry.values_put_of_absent (x := (g.id record, record))
          (faithful.absent nodup (domain kind'))
        simp [Fields.written, filed, faithful.id_eq]
      · simp [Fields.written, here]
    · exact ⟨fun kind => rfl, rfl, rfl, rfl, rfl⟩
  obtain ⟨s, loaded, domain, rest⟩ := loop
  refine ⟨s, loaded, ?_, rest⟩
  intro kind
  exact (domain kind).trans (h.domain kind).symm

/-- The rows of its audit, behind them. -/
theorem Mirrors.loadAudit {db : Database} {c : Containers R} (h : g.Mirrors db c)
    {s₀ : Containers R} (audit : s₀.audit = Containers.empty.audit)
    (auditIds : s₀.auditIds = fun _ => ∅) :
    ∃ s, db.domainAudit.values.foldlM g.loadAudit s₀ = .ok s ∧
      s.domain = s₀.domain ∧ s.dicts = s₀.dicts ∧ s.lists = s₀.lists ∧
      (∀ kind, s.audit kind = c.audit kind) ∧ ∀ kind, s.auditIds kind = c.auditIds kind := by
  have loop : ∃ s, db.domainAudit.values.foldlM g.loadAudit s₀ = .ok s ∧
      s.domain = s₀.domain ∧ s.dicts = s₀.dicts ∧ s.lists = s₀.lists ∧
      (∀ kind, s.audit kind = db.domainAudit.values.filterMap (g.readAudit kind)) ∧
      ∀ kind, s.auditIds kind = ((s.audit kind).map g.id).toFinset := by
    apply foldlM_visited (P := fun (before : List AuditRow) (s : Containers R) =>
      s.domain = s₀.domain ∧ s.dicts = s₀.dicts ∧ s.lists = s₀.lists ∧
      (∀ kind, s.audit kind = before.filterMap (g.readAudit kind)) ∧
      ∀ kind, s.auditIds kind = ((s.audit kind).map g.id).toFinset)
    · intro before row after split s ⟨domain, dicts, lists, records, ids⟩
      obtain ⟨kind, record, faithful⟩ := h.auditRows row (by simp [split])
      refine ⟨_, faithful.load s, domain, dicts, lists, ?_, ?_⟩
      · intro kind'
        rw [List.filterMap_append, ← records kind', List.filterMap_cons, faithful.read kind']
        by_cases here : kind' = kind
        · subst here
          simp [Fields.written]
        · simp [Fields.written, here]
      · intro kind'
        by_cases here : kind' = kind
        · subst here
          ext id
          simp [Fields.written, ids kind', or_comm]
        · simp [Fields.written, here, ids kind']
    · refine ⟨rfl, rfl, rfl, fun kind => ?_, fun kind => ?_⟩
      · rw [audit]
        rfl
      · rw [audit, auditIds]
        rfl
  obtain ⟨s, loaded, domain, dicts, lists, records, ids⟩ := loop
  refine ⟨s, loaded, domain, dicts, lists, ?_, ?_⟩
  · intro kind
    exact (records kind).trans (h.audit kind).symm
  · intro kind
    rw [ids kind, records kind, ← h.audit kind, h.auditIds kind]

/-! ### The rows of the other stores -/

theorem FaithfulRows.of_mem {rows : List CanonicalRow} (h : g.FaithfulRows rows)
    {row : CanonicalRow} (mem : row ∈ rows) :
    ∃ before collection key record, g.FaithfulCanonical before row collection key record := by
  obtain ⟨before, after, split⟩ := List.append_of_mem mem
  obtain ⟨collection, key, record, faithful⟩ := h before row after split
  exact ⟨before, collection, key, record, faithful⟩

theorem FaithfulRows.left {before after : List CanonicalRow}
    (h : g.FaithfulRows (before ++ after)) : g.FaithfulRows before := by
  intro first row rest split
  exact h first row (rest ++ after) (by simp [split])

/-- A row that holds something for a collection is a row of this collection, under the
key that its record is filed under. -/
theorem FaithfulRows.key_of_read {rows : List CanonicalRow} (h : g.FaithfulRows rows)
    {row : CanonicalRow} (mem : row ∈ rows) {collection : Collection} {item : Key × R}
    (reads : g.readCanonical collection row = some item) :
    row.collection = collection.text ∧ g.encodeKey collection item.1 = .ok row.recordKey := by
  obtain ⟨before, collection', key, record, faithful⟩ := h.of_mem mem
  rw [faithful.read collection] at reads
  split at reads
  · next here =>
      cases reads
      subst here
      exact ⟨faithful.collection_eq, faithful.encodesKey⟩
  · cases reads

section

variable {before : List CanonicalRow} {row : CanonicalRow} {collection : Collection} {key : Key}
  {record : R}

/-- No earlier row of the collection has the key of a row. -/
theorem FaithfulCanonical.absent (h : g.FaithfulCanonical before row collection key record)
    (rows : g.FaithfulRows before) {after : List CanonicalRow}
    (nodup : ((before ++ row :: after).map CanonicalRow.key).Nodup) {item : Key × R}
    (mem : item ∈ before.filterMap (g.readCanonical collection)) : item.1 ≠ key := by
  intro same
  obtain ⟨earlier, inside, reads⟩ := List.mem_filterMap.mp mem
  obtain ⟨here, encodes⟩ := rows.key_of_read inside reads
  rw [same, h.encodesKey] at encodes
  have keys : earlier.key = row.key :=
    Prod.ext (here.trans h.collection_eq.symm) (Except.ok.inj encodes).symm
  rw [List.map_append, List.map_cons] at nodup
  have apart := (List.nodup_append.mp nodup).2.2
  exact apart earlier.key (List.mem_map_of_mem inside) row.key List.mem_cons_self keys

/-- The workspace of a record, once the rows before it are loaded: that of an attempt
is the one of its delegation, which is among them. -/
theorem FaithfulCanonical.workspace (h : g.FaithfulCanonical before row collection key record)
    (rows : g.FaithfulRows before) {c : Containers R}
    (items : ∀ collection, c.items collection = before.filterMap (g.readCanonical collection)) :
    g.workspace c collection record = .ok row.workspaceId := by
  by_cases attempts : collection = .sequence .delegationAttempts
  · obtain ⟨delegation, earlier, here, decodesKey, same⟩ := h.parent attempts
    subst attempts
    obtain ⟨first, collection', key', parent, faithful⟩ := rows.of_mem earlier
    obtain rfl : collection' = .keyed .delegations :=
      Collection.text_injective (faithful.collection_eq.symm.trans here)
    have named : .id (g.delegationId record) = key' :=
      Except.ok.inj (decodesKey.symm.trans faithful.decodesKey)
    subst named
    have reads := faithful.read (.keyed .delegations)
    rw [if_pos rfl] at reads
    have inside : (Key.id (g.delegationId record), parent) ∈ (c.dicts .delegations).values := by
      show _ ∈ c.items (.keyed .delegations)
      rw [items]
      exact List.mem_filterMap.mpr ⟨delegation, earlier, reads⟩
    have found : (c.dicts .delegations).get? (.id (g.delegationId record)) =
        some (.id (g.delegationId record), parent) := Registry.get?_of_mem_values inside
    unfold Fields.workspace
    simp [found, faithful.scope (by simp), same]
  · have scope := h.scope attempts
    unfold Fields.workspace
    split
    · exact absurd rfl attempts
    · exact scope

end

/-- A record that is placed behind the items of its collection. -/
theorem place_items {s : Containers R} {collection : Collection} {key : Key} (record : R)
    (order : ∀ list, collection = .sequence list → key = .index (s.items collection).length)
    (absent : ∀ item ∈ s.items collection, item.1 ≠ key) :
    ∃ s', g.place s collection key record = .ok s' ∧ s'.domain = s.domain ∧
      s'.audit = s.audit ∧ s'.auditIds = s.auditIds ∧
      ∀ collection', s'.items collection' =
        s.items collection' ++ if collection' = collection then [(key, record)] else [] := by
  cases collection with
  | keyed table =>
      refine ⟨_, rfl, rfl, rfl, rfl, ?_⟩
      have missing : (s.dicts table).get? key = none :=
        Registry.get?_eq_none_iff.mpr fun item mem => absent item mem
      have filed := Registry.values_put_of_absent (x := (key, record)) missing
      intro collection'
      cases collection' with
      | keyed table' =>
          by_cases here : table' = table
          · subst here
            simp [Containers.items, Fields.written, filed]
          · simp [Containers.items, Fields.written, here]
      | sequence list => simp [Containers.items, Fields.written]
  | sequence list =>
      have last : key = .index (s.lists list).length := by
        rw [order list rfl, Containers.items_sequence_length]
      refine ⟨g.written s (.append list record), by simp [place, last], rfl, rfl, rfl, ?_⟩
      intro collection'
      cases collection' with
      | keyed table => simp [Containers.items, Fields.written]
      | sequence list' =>
          by_cases here : list' = list
          · subst here
            simp [Containers.items, Fields.written, List.zipIdx_append, last]
          · simp [Containers.items, Fields.written, here]

theorem Mirrors.loadCanonical {db : Database} {c : Containers R} (h : g.Mirrors db c)
    {s₀ : Containers R} (empty : ∀ collection, s₀.items collection = []) :
    ∃ s, db.canonicalRecords.values.foldlM g.loadCanonical s₀ = .ok s ∧
      s.domain = s₀.domain ∧ s.audit = s₀.audit ∧ s.auditIds = s₀.auditIds ∧
      ∀ collection, s.items collection = c.items collection := by
  have loop : ∃ s, db.canonicalRecords.values.foldlM g.loadCanonical s₀ = .ok s ∧
      s.domain = s₀.domain ∧ s.audit = s₀.audit ∧ s.auditIds = s₀.auditIds ∧
      ∀ collection, s.items collection =
        db.canonicalRecords.values.filterMap (g.readCanonical collection) := by
    apply foldlM_visited (P := fun (before : List CanonicalRow) (s : Containers R) =>
      s.domain = s₀.domain ∧ s.audit = s₀.audit ∧ s.auditIds = s₀.auditIds ∧
      ∀ collection, s.items collection = before.filterMap (g.readCanonical collection))
    · intro before row after split s ⟨domain, audit, auditIds, items⟩
      obtain ⟨collection, key, record, faithful⟩ := h.canonicalRows before row after split
      have rows : g.FaithfulRows before := (split ▸ h.canonicalRows).left
      have nodup : ((before ++ row :: after).map CanonicalRow.key).Nodup :=
        split ▸ db.canonicalRecords.nodup
      have order : ∀ list, collection = .sequence list →
          key = .index (s.items collection).length := by
        rw [items collection]
        exact faithful.place
      have absent : ∀ item ∈ s.items collection, item.1 ≠ key := by
        rw [items collection]
        intro item mem
        exact faithful.absent rows nodup mem
      obtain ⟨s', placed, domain', audit', auditIds', items'⟩ :=
        place_items (g := g) record order absent
      refine ⟨s', (faithful.load (faithful.workspace rows items)).trans placed,
        domain'.trans domain, audit'.trans audit, auditIds'.trans auditIds, ?_⟩
      intro collection'
      rw [items' collection', items collection', List.filterMap_append, List.filterMap_cons,
        faithful.read collection']
      by_cases here : collection' = collection <;> simp [here]
    · exact ⟨rfl, rfl, rfl, empty⟩
  obtain ⟨s, loaded, domain, audit, auditIds, items⟩ := loop
  refine ⟨s, loaded, domain, audit, auditIds, ?_⟩
  intro collection
  exact (items collection).trans (h.items collection).symm

/-- A database loads as the containers that it mirrors. -/
theorem Mirrors.rebuild {db : Database} {c : Containers R} (h : g.Mirrors db c) :
    g.rebuild db = .ok c := by
  obtain ⟨s₁, loaded₁, domain₁, audit₁, ids₁, dicts₁, lists₁⟩ := h.loadDomain
  obtain ⟨s₂, loaded₂, domain₂, dicts₂, lists₂, audit₂, ids₂⟩ := h.loadAudit audit₁ ids₁
  have empty : ∀ collection, s₂.items collection = [] := by
    intro collection
    cases collection with
    | keyed table =>
        simp only [Containers.items, dicts₂, dicts₁]
        rfl
    | sequence list =>
        simp only [Containers.items, lists₂, lists₁]
        rfl
  obtain ⟨s₃, loaded₃, domain₃, audit₃, ids₃, items₃⟩ := h.loadCanonical empty
  have same : s₃ = c := by
    apply Containers.ext_items
    · intro kind
      rw [domain₃, domain₂, domain₁]
    · intro kind
      rw [audit₃, audit₂]
    · intro kind
      rw [ids₃, ids₂]
    · exact items₃
  subst same
  unfold Group.rebuild
  simp [loaded₁, loaded₂, loaded₃, h.foreignKeys, bind, Except.bind, pure, Except.pure]

/-- It loads when its relationships are accepted. -/
theorem Mirrors.load {db : Database} {c : Containers R} (h : g.Mirrors db c)
    (accepted : g.validateRelationships c = .ok ()) : g.load db = .ok c := by
  unfold Group.load
  simp [h.rebuild, accepted, bind, Except.bind, pure, Except.pure]

end Group

end AgentCompanyOS.Durable
