import AgentCompanyOS.Durable.Working

/-!
# Writing the containers back

Each turn of the three loops of `_flush` that returns has filed the row of its record in
its table (`Group.DomainFiled`, `Group.AuditFiled`, `Group.CanonicalFiled`): a record
whose payload has not changed keeps its row, a changed one replaces it in place, a new
one goes to the end. So a flush that runs through leaves a database that mirrors the
containers (`Group.Mirrors.flush`).
-/

set_option autoImplicit false

namespace AgentCompanyOS.Durable

open AgentCompanyOS.Foundation

/-! ## Statements that returned -/

namespace Database

variable {jsonValid : String → Bool} {db db' : Database}

theorem insertDomain_eq_ok {row : DomainRow} (h : db.insertDomain jsonValid row = .ok db') :
    db.domainRecords.get? row.key = none ∧
      db' = { db with domainRecords := db.domainRecords.put row } ∧ row.Linked db' := by
  unfold insertDomain at h
  dsimp only at h
  split at h
  · next accepted =>
      cases h
      exact ⟨accepted.1, rfl, accepted.2.2⟩
  · cases h

theorem updateDomain_eq_ok {key : String × String} {expected version : Nat}
    {status updatedAt payload : String}
    (h : db.updateDomain jsonValid key expected version status updatedAt payload = .ok (1, db')) :
    ∃ row, db.domainRecords.get? key = some row ∧
      db' = { db with
        domainRecords :=
          db.domainRecords.put { row with version, status, updatedAt, payload } } := by
  unfold updateDomain at h
  split at h
  · cases h
  · next row found =>
      dsimp only at h
      split at h
      · cases h
      · split at h
        · cases h
          exact ⟨row, found, rfl⟩
        · cases h

theorem insertAudit_eq_ok {row : AuditRow} (h : db.insertAudit jsonValid row = .ok db') :
    db.domainAudit.get? row.key = none ∧ row.Linked db ∧
      db' = { db with domainAudit := db.domainAudit.put row } := by
  unfold insertAudit at h
  split at h
  · next accepted =>
      cases h
      exact ⟨accepted.1, accepted.2.2, rfl⟩
  · cases h

theorem insertCanonical_eq_ok {row : CanonicalRow}
    (h : db.insertCanonical jsonValid row = .ok db') :
    db.canonicalRecords.get? row.key = none ∧ row.Linked db ∧
      db' = { db with canonicalRecords := db.canonicalRecords.put row } := by
  unfold insertCanonical at h
  split at h
  · next accepted =>
      cases h
      exact ⟨accepted.1, accepted.2.2, rfl⟩
  · cases h

theorem updateCanonical_eq_ok {key : String × String} {expected : Nat} {payload : String}
    {entityVersion : Nat}
    (h : db.updateCanonical jsonValid key expected payload entityVersion = .ok (1, db')) :
    ∃ row, db.canonicalRecords.get? key = some row ∧
      db' = { db with
        canonicalRecords := db.canonicalRecords.put
          { row with payload, entityVersion, revision := row.revision + 1 } } := by
  unfold updateCanonical at h
  split at h
  · cases h
  · next row found =>
      dsimp only at h
      split at h
      · cases h
      · split at h
        · cases h
          exact ⟨row, found, rfl⟩
        · cases h

theorem insertLink_eq_ok {row : LinkRow} (h : db.insertLink row = .ok db') :
    db'.domainRecords = db.domainRecords ∧ db'.domainAudit = db.domainAudit ∧
      db'.canonicalRecords = db.canonicalRecords := by
  unfold insertLink at h
  split at h
  · cases h
    exact ⟨rfl, rfl, rfl⟩
  · split at h
    · cases h
      exact ⟨rfl, rfl, rfl⟩
    · cases h

end Database

namespace Group

variable {R : Type} {g : Group R}

theorem faulted_eq_ok {phase : Phase} {w w' : World Database}
    (h : g.faulted phase w = .ok () w') : w'.store = w.store := by
  obtain ⟨raised, v, called, h⟩ := Txn.bind_eq_ok.mp h
  obtain ⟨-, rfl⟩ := Txn.readClock_eq_ok.mp called
  cases raised with
  | none =>
      cases h
      rfl
  | some e => cases h

theorem insert_eq_ok {statement : Database → Except Failure Database} {w w' : World Database}
    (h : insert statement w = .ok () w') : statement w.store = .ok w'.store := by
  obtain ⟨db, ran, h⟩ := Txn.ofExcept_then (Txn.getStore_then h)
  cases h
  exact ran

theorem update_eq_ok {statement : Database → Except Failure (Nat × Database)}
    {w w' : World Database} (h : update statement w = .ok () w') :
    statement w.store = .ok (1, w'.store) := by
  obtain ⟨result, ran, h⟩ := Txn.ofExcept_then (Txn.getStore_then h)
  obtain ⟨_, v, changed, h⟩ := Txn.bind_eq_ok.mp h
  obtain rfl := Txn.modifyStore_eq_ok.mp changed
  obtain ⟨one, rfl⟩ := Txn.raiseIf_eq_ok.mp h
  have count : result.1 = 1 := by simpa using one
  rw [ran, ← count]

/-! ## The domain store -/

/-- A turn has filed a row for an entity. -/
structure DomainFiled (g : Group R) (db db' : Database) (kind : DomainKind) (record : R)
    (row : DomainRow) : Prop where
  faithful : g.FaithfulDomain row kind record
  filed : db' = { db with domainRecords := db.domainRecords.put row }
  same : ∀ old, db.domainRecords.get? row.key = some old → row.workspaceId = old.workspaceId
  linked : row.Linked { db with domainRecords := db.domainRecords.put row }

/-- The row that is stored for an entity holds the entity as it was loaded. -/
theorem Mirrors.storedDomain {db : Database} {c : Containers R} (h : g.Mirrors db c)
    {kind : DomainKind} {id : String} {old : DomainRow}
    (stored : db.domainRecords.get? (kind.text, id) = some old) :
    ∃ record, g.FaithfulDomain old kind record ∧ (c.domain kind).get? id = some (id, record) := by
  have key : old.key = (kind.text, id) := Registry.key_of_get? stored
  have inside := Registry.mem_values_of_get? stored
  obtain ⟨kind', record, faithful⟩ := h.domainRows old inside
  obtain rfl : kind' = kind :=
    DomainKind.text_injective (faithful.kind_eq.symm.trans (congrArg Prod.fst key))
  obtain rfl : old.id = id := congrArg Prod.snd key
  refine ⟨record, faithful, ?_⟩
  have reads := faithful.read kind'
  rw [if_pos rfl] at reads
  have mem : (old.id, record) ∈ (c.domain kind').values := by
    rw [h.domain]
    exact List.mem_filterMap.mpr ⟨old, inside, reads⟩
  exact Registry.get?_of_mem_values mem

/-- An entity whose row is in place already. -/
theorem DomainFiled.unchanged {db : Database} {kind : DomainKind} {record : R} {row : DomainRow}
    (faithful : g.FaithfulDomain row kind record) (keys : db.ForeignKeys)
    (here : db.domainRecords.get? row.key = some row) : g.DomainFiled db db kind record row := by
  have put : db.domainRecords.put row = db.domainRecords := Registry.put_of_get? here
  refine ⟨faithful, by rw [put], ?_, ?_⟩
  · intro old found
    cases here.symm.trans found
    rfl
  · rw [put]
    exact keys.domainRecords row (Registry.mem_values_of_get? here)

/-- A row as an update of it leaves it. -/
theorem FaithfulDomain.updated {row : DomainRow} {kind : DomainKind} {old record : R}
    (h : g.FaithfulDomain row kind old) (fixed : g.fixed old = g.fixed record)
    (id : row.id = g.id record) {payload : String}
    (decodes : g.decodeRecord (.domain kind) payload = .ok record) :
    g.FaithfulDomain { row with
      version := g.version record, status := g.status record, updatedAt := g.updatedAt record,
      payload := payload } kind record := by
  obtain ⟨scope, inside, columns⟩ := h.columns
  simp only [Fields.fixed, Prod.mk.injEq] at fixed
  obtain ⟨scopes, created, goal, task, execution⟩ := fixed
  refine ⟨decodes, scope, scopes ▸ inside, ?_⟩
  rw [columns] at id ⊢
  simp only [domainRow] at id ⊢
  rw [id, created, goal, task, execution]

theorem flushDomain_filed {before : Database} {c c' : Containers R} (mirrors : g.Mirrors before c)
    (storable : g.Storable c') (grown : g.Extends c c') {kind : DomainKind} {entity : String × R}
    (mem : entity ∈ (c'.domain kind).values) {w w' : World Database} (keys : w.store.ForeignKeys)
    (untouched : w.store.domainRecords.get? (kind.text, g.id entity.2) =
      before.domainRecords.get? (kind.text, g.id entity.2))
    (h : g.flushDomain before (kind, entity) w = .ok () w') :
    ∃ row, g.DomainFiled w.store w'.store kind entity.2 row := by
  obtain ⟨own, inverse⟩ := storable.domain kind entity mem
  obtain ⟨payload, encodes, h⟩ := Txn.ofExcept_then h
  have decodes := inverse payload encodes
  dsimp only at h
  cases stored : before.domainRecords.get? (kind.text, g.id entity.2) with
  | none =>
      simp only [stored] at h
      obtain ⟨_, v, called, h⟩ := Txn.bind_eq_ok.mp h
      obtain ⟨scope, inside, h⟩ := Txn.ofExcept_then h
      have ran := insert_eq_ok h
      rw [faulted_eq_ok called] at ran
      obtain ⟨absent, filed, linked⟩ := Database.insertDomain_eq_ok ran
      refine ⟨_, ⟨decodes, scope, inside, rfl⟩, filed, ?_, filed ▸ linked⟩
      intro old found
      cases absent.symm.trans found
  | some old =>
      simp only [stored] at h
      obtain ⟨loaded, faithful, present⟩ := mirrors.storedDomain stored
      have key : old.key = (kind.text, g.id entity.2) := Registry.key_of_get? stored
      have here : w.store.domainRecords.get? old.key = some old := by
        rw [key, untouched, stored]
      by_cases same : old.payload = payload
      · -- the payload is the one that is stored: nothing is written
        obtain ⟨-, rfl⟩ := Txn.pure_eq_ok.mp (Txn.runIf_of_not (not_not.mpr same) _ w ▸ h)
        obtain rfl : loaded = entity.2 :=
          Except.ok.inj (faithful.decodes.symm.trans (same ▸ decodes))
        exact ⟨old, .unchanged faithful keys here⟩
      · rw [Txn.runIf_of same] at h
        obtain ⟨_, v, called, h⟩ := Txn.bind_eq_ok.mp h
        have ran := update_eq_ok h
        rw [faulted_eq_ok called] at ran
        obtain ⟨row, found, filed⟩ := Database.updateDomain_eq_ok ran
        obtain rfl : old = row := Option.some.inj (here.symm.trans (key ▸ found))
        -- the entity that was loaded is still there, with the same fixed columns
        obtain ⟨new, current, fixed⟩ := grown.domain present
        have stays : (c'.domain kind).get? entity.1 = some entity :=
          Registry.get?_of_mem_values mem
        rw [own, current] at stays
        obtain rfl := Option.some.inj stays
        refine ⟨_, faithful.updated fixed (congrArg Prod.snd key) decodes, filed, ?_, ?_⟩
        · intro other again
          cases here.symm.trans again
          rfl
        · have linked := keys.domainRecords old (Registry.mem_values_of_get? here)
          refine (Database.Grows.putDomain ?_).domainRow linked
          intro other again
          cases here.symm.trans again
          rfl

/-- The table of the domain store after the entities `visited` of the loop. -/
structure DomainPart (g : Group R) (before : Database) (visited : List (DomainKind × String × R))
    (db : Database) : Prop where
  rows : ∀ row ∈ db.domainRecords.values, ∃ kind record, g.FaithfulDomain row kind record
  keys : db.ForeignKeys
  shown : ∀ kind, db.domainRecords.values.filterMap (g.readDomain kind) =
    fileAll Prod.fst (visited.filterMap (ofGroup kind))
      (before.domainRecords.values.filterMap (g.readDomain kind))
  untouched : ∀ key, (∀ entity ∈ visited, (entity.1.text, g.id entity.2.2) ≠ key) →
    db.domainRecords.get? key = before.domainRecords.get? key
  audit : db.domainAudit = before.domainAudit
  canonical : db.canonicalRecords = before.canonicalRecords

/-- A row of another kind is read as nothing. -/
theorem readDomain_of_ne {kind : DomainKind} {row : DomainRow} (other : row.kind ≠ kind.text) :
    g.readDomain kind row = none :=
  if_neg other

theorem id_of_readDomain {kind : DomainKind} {row : DomainRow} {entity : String × R}
    (reads : g.readDomain kind row = some entity) : row.kind = kind.text ∧ entity.1 = row.id := by
  unfold readDomain at reads
  split at reads
  · next here =>
      obtain ⟨record, -, rfl⟩ := Option.map_eq_some_iff.mp reads
      exact ⟨here, rfl⟩
  · cases reads

/-- Filing a row files its entity in its dictionary, and changes no other. -/
theorem DomainFiled.shown {db db' : Database} {kind : DomainKind} {record : R} {row : DomainRow}
    (h : g.DomainFiled db db' kind record row)
    (rows : ∀ row ∈ db.domainRecords.values, ∃ kind record, g.FaithfulDomain row kind record)
    (kind' : DomainKind) :
    db'.domainRecords.values.filterMap (g.readDomain kind') =
      fileAll Prod.fst (if kind = kind' then [(g.id record, record)] else [])
        (db.domainRecords.values.filterMap (g.readDomain kind')) := by
  have reads := h.faithful.read kind'
  have filed : db'.domainRecords.values =
      fileRecord DomainRow.key row db.domainRecords.values := by
    rw [h.filed]
    rfl
  rw [filed]
  by_cases here : kind = kind'
  · subst here
    rw [if_pos rfl, h.faithful.id_eq] at reads
    rw [if_pos rfl]
    apply filterMap_fileRecord reads
    · intro other mem entity read
      obtain ⟨same, id⟩ := id_of_readDomain read
      rw [id, ← h.faithful.id_eq]
      constructor
      · exact fun ids => Prod.ext (same.trans h.faithful.kind_eq.symm) ids
      · exact fun keys => congrArg Prod.snd keys
    · intro other mem keys
      obtain ⟨kind₁, record₁, faithful⟩ := rows other mem
      obtain rfl : kind₁ = kind := DomainKind.text_injective
        (faithful.kind_eq.symm.trans ((congrArg Prod.fst keys).trans h.faithful.kind_eq))
      simp [faithful.read]
  · rw [if_neg here]
    rw [if_neg (Ne.symm here)] at reads
    apply filterMap_fileRecord_of_none reads
    intro other mem keys
    apply readDomain_of_ne
    intro there
    have same : row.kind = kind'.text := (congrArg Prod.fst keys).symm.trans there
    exact here (DomainKind.text_injective (h.faithful.kind_eq.symm.trans same))

theorem DomainPart.filed {before db db' : Database} {visited : List (DomainKind × String × R)}
    (h : g.DomainPart before visited db) {kind : DomainKind} {record : R} {row : DomainRow}
    (turn : g.DomainFiled db db' kind record row) :
    g.DomainPart before (visited ++ [(kind, g.id record, record)]) db' := by
  have shown := turn.shown h.rows
  obtain ⟨faithful, rfl, same, linked⟩ := turn
  constructor
  · intro other mem
    rcases Registry.mem_values_put.mp mem with rfl | ⟨mem, -⟩
    · exact ⟨kind, record, faithful⟩
    · exact h.rows other mem
  · exact h.keys.putDomain same linked
  · intro kind'
    rw [shown kind', h.shown kind', filterMap_ofGroup_concat]
    simp [fileAll]
  · intro key apart
    have key_ne : row.key ≠ key := by
      intro here
      apply apart (kind, g.id record, record) (by simp)
      rw [← here, DomainRow.key, faithful.kind_eq, faithful.id_eq]
    rw [Registry.get?_put_ne _ key_ne]
    exact h.untouched key fun entity mem => apart entity (List.mem_append_left _ mem)
  · exact h.audit
  · exact h.canonical

theorem mem_entities {c : Containers R} {entity : DomainKind × String × R}
    (mem : entity ∈ entities c) : entity.2 ∈ (c.domain entity.1).values := by
  obtain ⟨kind, -, inside⟩ := List.mem_flatMap.mp mem
  obtain ⟨pair, pairs, rfl⟩ := List.mem_map.mp inside
  exact pairs

/-- No entity is visited twice. -/
theorem entities_apart {c : Containers R} (storable : g.Storable c)
    {visited rest : List (DomainKind × String × R)} {entity : DomainKind × String × R}
    (split : entities c = visited ++ entity :: rest) :
    ∀ other ∈ visited, (other.1.text, g.id other.2.2) ≠ (entity.1.text, g.id entity.2.2) := by
  intro other mem same
  have nodup : (entities c).Nodup :=
    nodup_flatMap_groups (by decide) fun kind => (c.domain kind).nodup_values
  have inside : entity.2 ∈ (c.domain entity.1).values := mem_entities (by simp [split])
  have inside' : other.2 ∈ (c.domain other.1).values := mem_entities (by simp [split, mem])
  have kinds : other.1 = entity.1 := DomainKind.text_injective (congrArg Prod.fst same)
  have own := (storable.domain _ _ inside).1
  have own' := (storable.domain _ _ inside').1
  rw [kinds] at inside'
  have pairs : other.2 = entity.2 := by
    apply Registry.eq_of_key inside' inside
    rw [own, own']
    exact congrArg Prod.snd same
  rw [split] at nodup
  have apart := (List.nodup_append.mp nodup).2.2
  exact apart other mem entity List.mem_cons_self (Prod.ext kinds pairs)

/-- The loop over the entities. -/
theorem flush_entities {before : Database} {c c' : Containers R} (mirrors : g.Mirrors before c)
    (storable : g.Storable c') (grown : g.Extends c c') {w w' : World Database}
    (start : w.store = before)
    (h : Txn.forEach (entities c') (g.flushDomain before) w = .ok () w') :
    g.DomainPart before (entities c') w'.store := by
  apply Txn.forEach_visited _ _ h
  · intro visited entity rest split v v' part turn
    have mem : entity.2 ∈ (c'.domain entity.1).values := mem_entities (by simp [split])
    have untouched := part.untouched _ (entities_apart storable split)
    obtain ⟨row, filed⟩ := flushDomain_filed mirrors storable grown mem part.keys untouched turn
    have next := part.filed filed
    rwa [← (storable.domain _ _ mem).1] at next
  · rw [start]
    exact ⟨mirrors.domainRows, mirrors.foreignKeys, fun _ => rfl, fun _ _ => rfl, rfl, rfl⟩

/-- The dictionaries of the domain store come back as they were in memory. -/
theorem DomainPart.all {before db : Database} {c c' : Containers R}
    (h : g.DomainPart before (entities c') db) (mirrors : g.Mirrors before c)
    (grown : g.Extends c c') (kind : DomainKind) :
    db.domainRecords.values.filterMap (g.readDomain kind) = (c'.domain kind).values := by
  have entities_of : (entities c').filterMap (ofGroup kind) = (c'.domain kind).values :=
    filterMap_ofGroup_flatMap (by decide) _ (by cases kind <;> decide)
  rw [h.shown kind, entities_of, ← mirrors.domain kind]
  exact fileAll_eq_of_older (c'.domain kind).nodup (grown.domainKeys kind)

/-! ## Its audit records -/

/-- A turn has filed a row for an audit record. -/
structure AuditFiled (g : Group R) (db db' : Database) (kind : AuditKind) (record : R)
    (row : AuditRow) : Prop where
  faithful : g.FaithfulAudit row kind record
  filed : db' = { db with domainAudit := db.domainAudit.put row }
  fresh : ∀ old, db.domainAudit.get? row.key = some old → old = row
  linked : row.Linked db

theorem FaithfulAudit.kind_eq {row : AuditRow} {kind : AuditKind} {record : R}
    (h : g.FaithfulAudit row kind record) : row.kind = kind.text := by
  rw [h.columns]
  rfl

theorem FaithfulAudit.id_eq {row : AuditRow} {kind : AuditKind} {record : R}
    (h : g.FaithfulAudit row kind record) : row.id = g.id record := by
  rw [h.columns]
  rfl

/-- The row that is stored under an identifier holds the record that has it. -/
theorem Mirrors.storedAudit {db : Database} {c c' : Containers R} (h : g.Mirrors db c)
    (storable : g.Storable c') (grown : g.Extends c c') {kind : AuditKind} {record : R}
    (mem : record ∈ c'.audit kind) {old : AuditRow}
    (stored : db.domainAudit.get? (kind.text, g.id record) = some old) :
    g.FaithfulAudit old kind record := by
  have key : old.key = (kind.text, g.id record) := Registry.key_of_get? stored
  have inside := Registry.mem_values_of_get? stored
  obtain ⟨kind', loaded, faithful⟩ := h.auditRows old inside
  obtain rfl : kind' = kind :=
    AuditKind.text_injective (faithful.kind_eq.symm.trans (congrArg Prod.fst key))
  have reads := faithful.read kind'
  rw [if_pos rfl] at reads
  have there : loaded ∈ c'.audit kind' := by
    apply (grown.audit kind').subset
    rw [h.audit]
    exact List.mem_filterMap.mpr ⟨old, inside, reads⟩
  have ids : g.id loaded = g.id record := faithful.id_eq.symm.trans (congrArg Prod.snd key)
  obtain rfl := List.inj_on_of_nodup_map (storable.auditNodup kind') there mem ids
  exact faithful

theorem flushAudit_filed {before : Database} {c c' : Containers R} (mirrors : g.Mirrors before c)
    (storable : g.Storable c') (grown : g.Extends c c') {kind : AuditKind} {record : R}
    (mem : record ∈ c'.audit kind) {w w' : World Database} (keys : w.store.ForeignKeys)
    (kept : ∀ {key row}, before.domainAudit.get? key = some row →
      w.store.domainAudit.get? key = some row)
    (h : g.flushAudit before (kind, record) w = .ok () w') :
    ∃ row, g.AuditFiled w.store w'.store kind record row := by
  unfold flushAudit at h
  cases stored : before.domainAudit.get? (kind.text, g.id record) with
  | none =>
      rw [Txn.runIf_of stored] at h
      obtain ⟨_, v, called, h⟩ := Txn.bind_eq_ok.mp h
      obtain ⟨payload, encodes, h⟩ := Txn.ofExcept_then h
      have ran := insert_eq_ok h
      rw [faulted_eq_ok called] at ran
      obtain ⟨absent, linked, filed⟩ := Database.insertAudit_eq_ok ran
      refine ⟨_, ⟨storable.audit kind record mem payload encodes, rfl⟩, filed, ?_, linked⟩
      intro old found
      cases absent.symm.trans found
  | some old =>
      have present : ¬ before.domainAudit.get? (kind.text, g.id record) = none := by simp [stored]
      obtain ⟨-, rfl⟩ := Txn.pure_eq_ok.mp (Txn.runIf_of_not present _ w ▸ h)
      have faithful := mirrors.storedAudit storable grown mem stored
      have here : w.store.domainAudit.get? old.key = some old := by
        have found := kept stored
        rwa [← Registry.key_of_get? stored] at found
      have put : w.store.domainAudit.put old = w.store.domainAudit := Registry.put_of_get? here
      refine ⟨old, faithful, by rw [put], ?_, ?_⟩
      · intro other found
        exact Option.some.inj (found.symm.trans here)
      · exact keys.domainAudit old (Registry.mem_values_of_get? here)

/-- The audit table after the records `visited` of the loop. -/
structure AuditPart (g : Group R) (start : Database) (visited : List (AuditKind × R))
    (db : Database) : Prop where
  rows : ∀ row ∈ db.domainAudit.values, ∃ kind record, g.FaithfulAudit row kind record
  keys : db.ForeignKeys
  shown : ∀ kind, db.domainAudit.values.filterMap (g.readAudit kind) =
    fileAll g.id (visited.filterMap (ofGroup kind))
      (start.domainAudit.values.filterMap (g.readAudit kind))
  kept : ∀ {key row}, start.domainAudit.get? key = some row →
    db.domainAudit.get? key = some row
  domain : db.domainRecords = start.domainRecords
  canonical : db.canonicalRecords = start.canonicalRecords

theorem AuditFiled.shown {db db' : Database} {kind : AuditKind} {record : R} {row : AuditRow}
    (h : g.AuditFiled db db' kind record row)
    (rows : ∀ row ∈ db.domainAudit.values, ∃ kind record, g.FaithfulAudit row kind record)
    (kind' : AuditKind) :
    db'.domainAudit.values.filterMap (g.readAudit kind') =
      fileAll g.id (if kind = kind' then [record] else [])
        (db.domainAudit.values.filterMap (g.readAudit kind')) := by
  have reads := h.faithful.read kind'
  have filed : db'.domainAudit.values = fileRecord AuditRow.key row db.domainAudit.values := by
    rw [h.filed]
    rfl
  rw [filed]
  by_cases here : kind = kind'
  · subst here
    rw [if_pos rfl] at reads
    rw [if_pos rfl]
    apply filterMap_fileRecord reads
    · intro other mem audit read
      obtain ⟨kind₁, record₁, faithful⟩ := rows other mem
      rw [faithful.read kind] at read
      split at read
      · next same =>
          cases read
          rw [← faithful.id_eq, ← h.faithful.id_eq]
          constructor
          · intro ids
            exact Prod.ext (by rw [AuditRow.key, AuditRow.key, faithful.kind_eq,
              h.faithful.kind_eq, same]) ids
          · exact fun keys => congrArg Prod.snd keys
      · cases read
    · intro other mem keys
      obtain ⟨kind₁, record₁, faithful⟩ := rows other mem
      obtain rfl : kind₁ = kind := AuditKind.text_injective
        (faithful.kind_eq.symm.trans ((congrArg Prod.fst keys).trans h.faithful.kind_eq))
      simp [faithful.read]
  · rw [if_neg here]
    rw [if_neg (Ne.symm here)] at reads
    apply filterMap_fileRecord_of_none reads
    intro other mem keys
    apply if_neg
    intro there
    have same : row.kind = kind'.text := (congrArg Prod.fst keys).symm.trans there
    exact here (AuditKind.text_injective (h.faithful.kind_eq.symm.trans same))

theorem AuditPart.filed {start db db' : Database} {visited : List (AuditKind × R)}
    (h : g.AuditPart start visited db) {kind : AuditKind} {record : R} {row : AuditRow}
    (turn : g.AuditFiled db db' kind record row) :
    g.AuditPart start (visited ++ [(kind, record)]) db' := by
  have shown := turn.shown h.rows
  obtain ⟨faithful, rfl, fresh, linked⟩ := turn
  constructor
  · intro other mem
    rcases Registry.mem_values_put.mp mem with rfl | ⟨mem, -⟩
    · exact ⟨kind, record, faithful⟩
    · exact h.rows other mem
  · exact h.keys.putAudit linked
  · intro kind'
    rw [shown kind', h.shown kind', filterMap_ofGroup_concat]
    simp [fileAll]
  · intro key old found
    have present := h.kept found
    by_cases here : row.key = key
    · rw [← here] at present ⊢
      rw [Registry.get?_put_self, fresh old present]
    · rw [Registry.get?_put_ne _ here]
      exact present
  · exact h.domain
  · exact h.canonical

/-- The loop over the audit records. -/
theorem flush_audits {before : Database} {c c' : Containers R} (mirrors : g.Mirrors before c)
    (storable : g.Storable c') (grown : g.Extends c c') {w w' : World Database}
    (same : w.store.domainAudit = before.domainAudit) (keys : w.store.ForeignKeys)
    (h : Txn.forEach (audits c') (g.flushAudit before) w = .ok () w') :
    g.AuditPart w.store (audits c') w'.store := by
  apply Txn.forEach_visited _ _ h
  · intro visited audit rest split v v' part turn
    have mem : audit.2 ∈ c'.audit audit.1 := by
      have inside : audit ∈ audits c' := by simp [split]
      obtain ⟨kind, -, inside⟩ := List.mem_flatMap.mp inside
      obtain ⟨record, records, rfl⟩ := List.mem_map.mp inside
      exact records
    have kept : ∀ {key row}, before.domainAudit.get? key = some row →
        v.store.domainAudit.get? key = some row := by
      intro key row found
      exact part.kept (same ▸ found)
    obtain ⟨row, filed⟩ := flushAudit_filed mirrors storable grown mem part.keys kept turn
    exact part.filed filed
  · refine ⟨?_, keys, fun _ => rfl, fun found => found, rfl, rfl⟩
    rw [same]
    exact mirrors.auditRows

/-- The audit lists come back as they were in memory. -/
theorem AuditPart.all {before start db : Database} {c c' : Containers R}
    (h : g.AuditPart start (audits c') db) (same : start.domainAudit = before.domainAudit)
    (mirrors : g.Mirrors before c) (storable : g.Storable c') (grown : g.Extends c c')
    (kind : AuditKind) : db.domainAudit.values.filterMap (g.readAudit kind) = c'.audit kind := by
  have audits_of : (audits c').filterMap (ofGroup kind) = c'.audit kind :=
    filterMap_ofGroup_flatMap (by decide) _ (by cases kind <;> decide)
  rw [h.shown kind, audits_of, same, ← mirrors.audit kind]
  exact fileAll_eq_of_older (storable.auditNodup kind) ((grown.audit kind).map g.id)

end Group

end AgentCompanyOS.Durable
