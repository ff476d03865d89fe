import AgentCompanyOS.Durable.Flushing

/-!
# Writing the records of the other stores back

The third loop of `_flush`. A record whose row is replaced keeps its place, its key and
its workspace, so the rows behind it stay what they were (`Group.FaithfulRows.replace`);
a new row goes behind all others (`Group.FaithfulRows.concat`), which puts the records of
a list in order and a delegation before its attempts (`Group.CanonicalPart.appended`).
-/

set_option autoImplicit false

namespace AgentCompanyOS.Durable

open AgentCompanyOS.Foundation

/-! ## Items -/

namespace Containers

variable {R : Type}

theorem items_nodup (c : Containers R) (collection : Collection) :
    ((c.items collection).map Prod.fst).Nodup := by
  cases collection with
  | keyed table => exact (c.dicts table).nodup
  | sequence list =>
      have places : (c.items (.sequence list)).map Prod.fst =
          ((c.lists list).zipIdx.map Prod.snd).map Key.index := by
        rw [items, List.map_map, List.map_map]
        rfl
      rw [places, List.zipIdx_map_snd]
      exact (List.nodup_range' 1).map fun x y same => Key.index.inj same

/-- The place of an item of a list. -/
theorem place_of_items {c : Containers R} {list : Sequence} {first rest : List (Key × R)}
    {item : Key × R} (split : c.items (.sequence list) = first ++ item :: rest) :
    item.1 = .index first.length := by
  have there : (c.items (.sequence list))[first.length]? = some item := by
    rw [split]
    simp
  obtain ⟨record, -, rfl⟩ : ∃ record, (c.lists list)[first.length]? = some record ∧
      (Key.index first.length, record) = item := by
    simpa [items] using there
  rfl

end Containers

namespace Group

variable {R : Type} {g : Group R}

/-- The keys of the items at the start of the work are the first ones at its end. -/
theorem Extends.allKeys {c c' : Containers R} (h : g.Extends c c') (collection : Collection) :
    (c.items collection).map Prod.fst <+: (c'.items collection).map Prod.fst := by
  cases collection with
  | keyed table => exact h.itemKeys table
  | sequence list =>
      obtain ⟨more, longer⟩ := h.lists list
      simp only [Containers.items, ← longer, List.zipIdx_append, List.map_append]
      exact List.prefix_append _ _

/-! ## Rows behind each other -/

/-- A new row goes behind all rows. -/
theorem FaithfulRows.concat {rows : List CanonicalRow} (h : g.FaithfulRows rows)
    {row : CanonicalRow} {collection : Collection} {key : Key} {record : R}
    (faithful : g.FaithfulCanonical rows row collection key record) :
    g.FaithfulRows (rows ++ [row]) := by
  intro before other after split
  cases after using List.reverseRecOn with
  | nil =>
      obtain ⟨rfl, same⟩ := List.append_inj' split rfl
      cases same
      exact ⟨collection, key, record, faithful⟩
  | append_singleton after last =>
      rw [← List.cons_append, ← List.append_assoc] at split
      obtain ⟨rfl, -⟩ := List.append_inj' split rfl
      exact h before other after rfl

/-- A table in which one row is replaced. -/
def replaced (row z : CanonicalRow) : CanonicalRow := if z.key = row.key then row else z

section

variable {rows : List CanonicalRow} {old row : CanonicalRow} {table : Keyed}

theorem replaced_eq (nodup : (rows.map CanonicalRow.key).Nodup) (mem : old ∈ rows)
    (key : row.key = old.key) {z : CanonicalRow} (inside : z ∈ rows) :
    z = old ∧ replaced row z = row ∨ z.key ≠ row.key ∧ replaced row z = z := by
  by_cases here : z.key = row.key
  · refine .inl ⟨?_, if_pos here⟩
    exact List.inj_on_of_nodup_map nodup inside mem (here.trans key)
  · exact .inr ⟨here, if_neg here⟩

/-- What stands behind a row that is replaced stays what it is. -/
theorem FaithfulCanonical.behind (nodup : (rows.map CanonicalRow.key).Nodup) (mem : old ∈ rows)
    (key : row.key = old.key) (workspace : row.workspaceId = old.workspaceId)
    (keyed : old.collection = (Collection.keyed table).text)
    {before : List CanonicalRow} (inside : ∀ z ∈ before, z ∈ rows) {other : CanonicalRow}
    {collection : Collection} {k : Key} {record : R}
    (h : g.FaithfulCanonical before other collection k record) :
    g.FaithfulCanonical (before.map (replaced row)) other collection k record := by
  have columns : row.collection = old.collection ∧ row.recordKey = old.recordKey :=
    ⟨congrArg Prod.fst key, congrArg Prod.snd key⟩
  refine ⟨h.decodesKey, h.encodesKey, h.decodes, h.valid, h.columns, ?_, h.scope, ?_⟩
  · intro list here
    rw [h.place list here, List.filterMap_map]
    congr 2
    apply List.filterMap_congr
    intro z there
    rcases replaced_eq nodup mem key (inside z there) with ⟨rfl, same⟩ | ⟨-, same⟩
    · -- the replaced row belongs to a dictionary, not to a list
      have apart : z.collection ≠ collection.text := by
        rw [keyed, here]
        intro same
        cases Collection.text_injective same
      have apart' : row.collection ≠ collection.text := columns.1 ▸ apart
      simp [same, readCanonical, apart, apart']
    · simp [same]
  · intro attempts
    obtain ⟨delegation, there, name, decodes, same⟩ := h.parent attempts
    refine ⟨replaced row delegation, List.mem_map_of_mem there, ?_⟩
    rcases replaced_eq nodup mem key (inside _ there) with ⟨rfl, here⟩ | ⟨-, here⟩
    · rw [here, columns.1, columns.2, workspace]
      exact ⟨name, decodes, same⟩
    · rw [here]
      exact ⟨name, decodes, same⟩

theorem FaithfulRows.replace (h : g.FaithfulRows rows)
    (nodup : (rows.map CanonicalRow.key).Nodup) (mem : old ∈ rows) (key : row.key = old.key)
    (workspace : row.workspaceId = old.workspaceId)
    (keyed : old.collection = (Collection.keyed table).text)
    (update : ∀ before collection k record, g.FaithfulCanonical before old collection k record →
      ∃ record', g.FaithfulCanonical before row collection k record') :
    g.FaithfulRows (rows.map (replaced row)) := by
  intro before' other' after' split
  obtain ⟨before, rest, split', rfl, tail⟩ := List.map_eq_append_iff.mp split
  obtain ⟨other, after, rfl, rfl, -⟩ := List.map_eq_cons_iff.mp tail
  obtain ⟨collection, k, record, faithful⟩ := h before other after split'
  have inside : ∀ z ∈ before, z ∈ rows := by
    intro z there
    simp [split', there]
  have still := faithful.behind nodup mem key workspace keyed inside
  have there : other ∈ rows := by simp [split']
  rcases replaced_eq nodup mem key there with ⟨rfl, same⟩ | ⟨-, same⟩
  · obtain ⟨record', updated⟩ := update _ _ _ _ still
    rw [same]
    exact ⟨collection, k, record', updated⟩
  · rw [same]
    exact ⟨collection, k, record, still⟩

end

/-! ## One turn -/

/-- How the row of a record came to be: it was there, it replaced the row that was there,
or it is new. -/
inductive Turn (g : Group R) (db : Database) (collection : Collection) (key : Key) (record : R)
    (row : CanonicalRow) : Prop
  | unchanged (here : db.canonicalRecords.get? row.key = some row)
  | replaced (table : Keyed) (old : CanonicalRow)
      (here : db.canonicalRecords.get? row.key = some old)
      (keyed : old.collection = (Collection.keyed table).text)
      (workspace : row.workspaceId = old.workspaceId)
      (update : ∀ before collection k record, g.FaithfulCanonical before old collection k record →
        ∃ record', g.FaithfulCanonical before row collection k record')
  | appended (absent : db.canonicalRecords.get? row.key = none)
      (faithful :
        g.FaithfulCanonical db.canonicalRecords.values row collection key record)

/-- A turn has filed a row for a record. -/
structure CanonicalFiled (g : Group R) (db db' : Database) (collection : Collection) (key : Key)
    (record : R) (row : CanonicalRow) : Prop where
  reads : g.readCanonical collection row = some (key, record)
  encodes : g.encodeKey collection key = .ok row.recordKey
  column : row.collection = collection.text
  filed : db' = { db with canonicalRecords := db.canonicalRecords.put row }
  linked : row.Linked db
  turn : g.Turn db collection key record row

/-- The row that is stored under a key holds the record as it was loaded. -/
theorem Mirrors.storedCanonical {db : Database} {c : Containers R} (h : g.Mirrors db c)
    {collection : Collection} {key : Key} {keyJson : String}
    (decodes : g.decodeKey collection keyJson = .ok key) {old : CanonicalRow}
    (stored : db.canonicalRecords.get? (collection.text, keyJson) = some old) :
    ∃ before record, g.FaithfulCanonical before old collection key record ∧
      (key, record) ∈ c.items collection := by
  have name : old.key = (collection.text, keyJson) := Registry.key_of_get? stored
  have inside := Registry.mem_values_of_get? stored
  obtain ⟨before, collection', key', record, faithful⟩ := h.canonicalRows.of_mem inside
  obtain rfl : collection' = collection :=
    Collection.text_injective (faithful.collection_eq.symm.trans (congrArg Prod.fst name))
  obtain rfl : old.recordKey = keyJson := congrArg Prod.snd name
  obtain rfl : key' = key := Except.ok.inj (faithful.decodesKey.symm.trans decodes)
  have reads := faithful.read collection'
  rw [if_pos rfl] at reads
  refine ⟨before, record, faithful, ?_⟩
  rw [h.items]
  exact List.mem_filterMap.mpr ⟨old, inside, reads⟩

/-- A row of a dictionary as an update of it leaves it. -/
theorem FaithfulCanonical.updated {before : List CanonicalRow} {row : CanonicalRow}
    {table : Keyed} {key : Key} {old record : R}
    (h : g.FaithfulCanonical before row (.keyed table) key old)
    (scope : g.scope old = g.scope record)
    (valid : g.validateKey (.keyed table) key record = .ok ()) {payload : String}
    (decodes : g.decodeValue (.keyed table) payload = .ok record) :
    g.FaithfulCanonical before { row with
      payload := payload, entityVersion := g.version record, revision := row.revision + 1 }
      (.keyed table) key record := by
  refine ⟨h.decodesKey, h.encodesKey, decodes, valid, ?_, nofun, ?_, nofun⟩
  · rw [h.columns]
    rfl
  · intro apart
    rw [← scope]
    exact h.scope apart

theorem FaithfulCanonical.update_of_eq {before before' : List CanonicalRow} {row : CanonicalRow}
    {table : Keyed} {collection : Collection} {key k : Key} {old other : R}
    (h : g.FaithfulCanonical before row (.keyed table) key old)
    (h' : g.FaithfulCanonical before' row collection k other) :
    collection = .keyed table ∧ k = key ∧ other = old := by
  obtain rfl : collection = .keyed table :=
    Collection.text_injective (h'.collection_eq.symm.trans h.collection_eq)
  exact ⟨rfl, Except.ok.inj (h'.decodesKey.symm.trans h.decodesKey),
    Except.ok.inj (h'.decodes.symm.trans h.decodes)⟩

theorem flushCanonical_filed {before : Database} {c c' : Containers R}
    (mirrors : g.Mirrors before c) (storable : g.Storable c') (grown : g.Extends c c')
    {collection : Collection} {item : Key × R} (mem : item ∈ c'.items collection)
    {w w' : World Database} (keys : w.store.ForeignKeys)
    (untouched : ∀ keyJson, g.encodeKey collection item.1 = .ok keyJson →
      w.store.canonicalRecords.get? (collection.text, keyJson) =
        before.canonicalRecords.get? (collection.text, keyJson))
    (new : ∀ keyJson workspace payload, g.encodeKey collection item.1 = .ok keyJson →
      g.encodeValue collection item.2 = .ok payload →
      before.canonicalRecords.get? (collection.text, keyJson) = none →
      g.workspace c' collection item.2 = .ok workspace →
      g.FaithfulCanonical w.store.canonicalRecords.values
        (g.canonicalRow collection keyJson item.2 workspace 1 payload) collection item.1 item.2)
    (h : g.flushCanonical before c' (collection, item) w = .ok () w') :
    ∃ row, g.CanonicalFiled w.store w'.store collection item.1 item.2 row := by
  obtain ⟨keyInverse, inverse, valid⟩ := storable.items collection item mem
  obtain ⟨keyJson, encodesKey, h⟩ := Txn.ofExcept_then h
  obtain ⟨payload, encodes, h⟩ := Txn.ofExcept_then h
  have decodesKey := keyInverse keyJson encodesKey
  have decodes := inverse payload encodes
  dsimp only at h
  cases stored : before.canonicalRecords.get? (collection.text, keyJson) with
  | none =>
      simp only [stored] at h
      obtain ⟨_, v, called, h⟩ := Txn.bind_eq_ok.mp h
      obtain ⟨workspace, inside, h⟩ := Txn.ofExcept_then h
      have ran := insert_eq_ok h
      rw [faulted_eq_ok called] at ran
      obtain ⟨absent, linked, filed⟩ := Database.insertCanonical_eq_ok ran
      have faithful := new keyJson workspace payload encodesKey encodes stored inside
      have reads := faithful.read collection
      rw [if_pos rfl] at reads
      exact ⟨_, reads, encodesKey, rfl, filed, linked, .appended absent faithful⟩
  | some old =>
      simp only [stored] at h
      obtain ⟨first, loaded, faithful, present⟩ := mirrors.storedCanonical decodesKey stored
      have name : old.key = (collection.text, keyJson) := Registry.key_of_get? stored
      have here : w.store.canonicalRecords.get? old.key = some old := by
        rw [name, untouched keyJson encodesKey, stored]
      have linked := keys.canonicalRecords old (Registry.mem_values_of_get? here)
      by_cases same : old.payload = payload
      · obtain ⟨-, rfl⟩ := Txn.pure_eq_ok.mp (Txn.runIf_of_not (not_not.mpr same) _ w ▸ h)
        obtain rfl : loaded = item.2 :=
          Except.ok.inj (faithful.decodes.symm.trans (same ▸ decodes))
        have reads := faithful.read collection
        rw [if_pos rfl] at reads
        refine ⟨old, reads, faithful.encodesKey, faithful.collection_eq, ?_, linked,
          .unchanged here⟩
        rw [Registry.put_of_get? here]
      · rw [Txn.runIf_of same] at h
        obtain ⟨_, v, called, h⟩ := Txn.bind_eq_ok.mp h
        cases collection with
        | sequence list => cases h
        | keyed table =>
            have ran := update_eq_ok h
            rw [faulted_eq_ok called] at ran
            obtain ⟨row, found, filed⟩ := Database.updateCanonical_eq_ok ran
            obtain rfl : old = row := Option.some.inj (here.symm.trans (name ▸ found))
            -- the record that was loaded is still there, in the same workspace
            obtain ⟨current, there, scope⟩ :=
              grown.items (Registry.get?_of_mem_values (d := c.dicts table) present)
            have stays := Registry.get?_of_mem_values (d := c'.dicts table) mem
            rw [there] at stays
            obtain rfl := Option.some.inj stays
            have updated := faithful.updated scope valid decodes
            have reads := updated.read (.keyed table)
            rw [if_pos rfl] at reads
            refine ⟨_, reads, updated.encodesKey, updated.collection_eq, filed, linked,
              .replaced table old here faithful.collection_eq rfl ?_⟩
            intro before' collection' k other still
            obtain ⟨rfl, rfl, rfl⟩ := faithful.update_of_eq still
            exact ⟨current.2, still.updated scope valid decodes⟩

/-- The rows are still what they are behind each other. -/
theorem CanonicalFiled.rows {db db' : Database} {collection : Collection} {key : Key} {record : R}
    {row : CanonicalRow} (h : g.CanonicalFiled db db' collection key record row)
    (rows : g.FaithfulRows db.canonicalRecords.values) :
    g.FaithfulRows db'.canonicalRecords.values := by
  rw [h.filed]
  cases h.turn with
  | unchanged here =>
      rw [Registry.put_of_get? here]
      exact rows
  | replaced table old here keyed workspace update =>
      rw [Registry.values_put_of_present here]
      have key : row.key = old.key := (Registry.key_of_get? here).symm
      exact rows.replace db.canonicalRecords.nodup (Registry.mem_values_of_get? here) key
        workspace keyed update
  | appended absent faithful =>
      rw [Registry.values_put_of_absent absent]
      exact rows.concat faithful

theorem CanonicalFiled.foreignKeys {db db' : Database} {collection : Collection} {key : Key}
    {record : R} {row : CanonicalRow} (h : g.CanonicalFiled db db' collection key record row)
    (keys : db.ForeignKeys) : db'.ForeignKeys := by
  rw [h.filed]
  apply keys.putCanonical _ h.linked
  intro other found
  cases h.turn with
  | unchanged here =>
      cases here.symm.trans found
      rfl
  | replaced table old here keyed workspace update =>
      cases here.symm.trans found
      exact workspace
  | appended absent faithful => cases absent.symm.trans found

/-- Filing a row files its record in its collection, and changes no other. -/
theorem CanonicalFiled.shown {db db' : Database} {collection : Collection} {key : Key}
    {record : R} {row : CanonicalRow} (h : g.CanonicalFiled db db' collection key record row)
    (rows : g.FaithfulRows db.canonicalRecords.values) (collection' : Collection) :
    db'.canonicalRecords.values.filterMap (g.readCanonical collection') =
      fileAll Prod.fst (if collection = collection' then [(key, record)] else [])
        (db.canonicalRecords.values.filterMap (g.readCanonical collection')) := by
  have filed : db'.canonicalRecords.values =
      fileRecord CanonicalRow.key row db.canonicalRecords.values := by
    rw [h.filed]
    rfl
  rw [filed]
  by_cases here : collection = collection'
  · subst here
    rw [if_pos rfl]
    apply filterMap_fileRecord h.reads
    · intro other mem item read
      obtain ⟨column, encodes⟩ := rows.key_of_read mem read
      constructor
      · intro same
        rw [show item.1 = key from same, h.encodes] at encodes
        exact Prod.ext (column.trans h.column.symm) (Except.ok.inj encodes).symm
      · intro same
        obtain ⟨before, collection₁, key₁, record₁, faithful⟩ := rows.of_mem mem
        have there := faithful.read collection
        rw [read] at there
        split at there
        · next chosen =>
            subst chosen
            cases there
            have names : other.recordKey = row.recordKey := congrArg Prod.snd same
            have reads := h.reads
            unfold readCanonical at reads
            rw [if_pos h.column, ← names, faithful.decodesKey] at reads
            obtain ⟨decoded, -, equal⟩ : ∃ r, (g.decodeValue collection row.payload).toOption =
                some r ∧ (key₁, r) = (key, record) := by
              simpa [Except.toOption] using reads
            exact (Prod.mk.inj equal).1
        · cases there
    · intro other mem same
      obtain ⟨before, collection₁, key₁, record₁, faithful⟩ := rows.of_mem mem
      obtain rfl : collection₁ = collection := Collection.text_injective
        (faithful.collection_eq.symm.trans ((congrArg Prod.fst same).trans h.column))
      simp [faithful.read]
  · rw [if_neg here]
    have apart : ∀ other : CanonicalRow, other.key = row.key →
        g.readCanonical collection' other = none := by
      intro other same
      apply if_neg
      intro there
      have name : row.collection = collection'.text := (congrArg Prod.fst same).symm.trans there
      exact here (Collection.text_injective (h.column.symm.trans name))
    exact filterMap_fileRecord_of_none (apart row rfl) fun other _ => apart other

/-! ## The loop -/

/-- The table after the items `visited` of the loop. -/
structure CanonicalPart (g : Group R) (start : Database)
    (visited : List (Collection × Key × R)) (db : Database) : Prop where
  rows : g.FaithfulRows db.canonicalRecords.values
  keys : db.ForeignKeys
  shown : ∀ collection, db.canonicalRecords.values.filterMap (g.readCanonical collection) =
    fileAll Prod.fst (visited.filterMap (ofGroup collection))
      (start.canonicalRecords.values.filterMap (g.readCanonical collection))
  untouched : ∀ key, (∀ item ∈ visited, ∀ keyJson, g.encodeKey item.1 item.2.1 = .ok keyJson →
    (item.1.text, keyJson) ≠ key) →
      db.canonicalRecords.get? key = start.canonicalRecords.get? key
  domain : db.domainRecords = start.domainRecords
  audit : db.domainAudit = start.domainAudit

theorem CanonicalPart.filed {start db db' : Database} {visited : List (Collection × Key × R)}
    (h : g.CanonicalPart start visited db) {collection : Collection} {item : Key × R}
    {row : CanonicalRow} (turn : g.CanonicalFiled db db' collection item.1 item.2 row) :
    g.CanonicalPart start (visited ++ [(collection, item)]) db' := by
  constructor
  · exact turn.rows h.rows
  · exact turn.foreignKeys h.keys
  · intro collection'
    rw [turn.shown h.rows collection', h.shown collection', filterMap_ofGroup_concat]
    simp [fileAll]
  · intro key apart
    have key_ne : row.key ≠ key := by
      have last := apart (collection, item) (by simp) row.recordKey turn.encodes
      rwa [← turn.column] at last
    rw [turn.filed, Registry.get?_put_ne _ key_ne]
    exact h.untouched key fun other mem => apart other (List.mem_append_left _ mem)
  · rw [turn.filed]
    exact h.domain
  · rw [turn.filed]
    exact h.audit

theorem mem_records {c : Containers R} {item : Collection × Key × R} (mem : item ∈ records c) :
    item.2 ∈ c.items item.1 := by
  obtain ⟨collection, -, inside⟩ := List.mem_flatMap.mp mem
  obtain ⟨pair, pairs, rfl⟩ := List.mem_map.mp inside
  exact pairs

theorem records_of (c : Containers R) (collection : Collection) :
    (records c).filterMap (ofGroup collection) = c.items collection := by
  apply filterMap_ofGroup_flatMap (by decide)
  cases collection with
  | keyed table => cases table <;> decide
  | sequence list => cases list <;> decide

/-- The items of a collection before and behind a place in the loop. -/
theorem items_split {c : Containers R} {visited rest : List (Collection × Key × R)}
    {collection : Collection} {item : Key × R}
    (split : records c = visited ++ (collection, item) :: rest) :
    c.items collection = visited.filterMap (ofGroup collection) ++
      item :: rest.filterMap (ofGroup collection) := by
  rw [← records_of c collection, split, List.filterMap_append, List.filterMap_cons]
  simp [ofGroup]

/-- No key is visited twice. -/
theorem records_apart {c : Containers R} (storable : g.Storable c)
    {visited rest : List (Collection × Key × R)} {collection : Collection} {item : Key × R}
    (split : records c = visited ++ (collection, item) :: rest) {keyJson : String}
    (encodes : g.encodeKey collection item.1 = .ok keyJson) :
    ∀ other ∈ visited, ∀ otherJson, g.encodeKey other.1 other.2.1 = .ok otherJson →
      (other.1.text, otherJson) ≠ (collection.text, keyJson) := by
  intro other mem otherJson encodes' same
  obtain ⟨collection', item'⟩ := other
  obtain rfl : collection' = collection := Collection.text_injective (congrArg Prod.fst same)
  obtain rfl : otherJson = keyJson := congrArg Prod.snd same
  have inside : item ∈ c.items collection' :=
    mem_records (by simp [split] : (collection', item) ∈ records c)
  have inside' : item' ∈ c.items collection' :=
    mem_records (by simp [split, mem] : (collection', item') ∈ records c)
  have decodes := (storable.items collection' item inside).1 otherJson encodes
  have decodes' := (storable.items collection' item' inside').1 otherJson encodes'
  have keys : item'.1 = item.1 := Except.ok.inj (decodes'.symm.trans decodes)
  have nodup := c.items_nodup collection'
  rw [items_split split, List.map_append, List.map_cons] at nodup
  refine (List.nodup_append.mp nodup).2.2 item'.1 ?_ item.1 List.mem_cons_self keys
  exact List.mem_map_of_mem (List.mem_filterMap.mpr ⟨(collection', item'), mem, by simp [ofGroup]⟩)

/-- All delegations are visited before the first attempt. -/
theorem delegations_visited {c : Containers R} {visited rest : List (Collection × Key × R)}
    {item : Key × R}
    (split : records c = visited ++ (.sequence .delegationAttempts, item) :: rest) :
    visited.filterMap (ofGroup (.keyed .delegations)) = c.items (.keyed .delegations) := by
  have order : Collection.all.Pairwise fun a b =>
      ¬ (a = .sequence .delegationAttempts ∧ b = .keyed .delegations) := by decide
  have ordered : (records c).Pairwise fun p q => p.1 = q.1 ∨
      ¬ (p.1 = .sequence .delegationAttempts ∧ q.1 = .keyed .delegations) :=
    pairwise_flatMap_groups order c.items
  rw [split] at ordered
  have behind := (List.pairwise_cons.mp (List.pairwise_append.mp ordered).2.1).1
  have none_left : rest.filterMap (ofGroup (.keyed .delegations)) = [] := by
    rw [List.filterMap_eq_nil_iff]
    intro other mem
    apply if_neg
    intro here
    rcases behind other mem with same | apart
    · rw [here] at same
      cases same
    · exact apart ⟨rfl, here⟩
  rw [← records_of c, split, List.filterMap_append, List.filterMap_cons, none_left]
  simp [ofGroup]

/-- What is read of a collection in the course of the loop is what has been visited of it,
once the loop is past the items that were stored at its start. -/
theorem CanonicalPart.read_visited {start db : Database} {c c' : Containers R}
    {visited : List (Collection × Key × R)} (h : g.CanonicalPart start visited db)
    {collection : Collection}
    (loaded : c.items collection =
      start.canonicalRecords.values.filterMap (g.readCanonical collection))
    {more : List (Key × R)}
    (split : c'.items collection = visited.filterMap (ofGroup collection) ++ more)
    (past : (c.items collection).map Prod.fst <+:
      (visited.filterMap (ofGroup collection)).map Prod.fst) :
    db.canonicalRecords.values.filterMap (g.readCanonical collection) =
      visited.filterMap (ofGroup collection) := by
  rw [h.shown collection, ← loaded]
  apply fileAll_eq_of_older _ past
  have nodup := c'.items_nodup collection
  rw [split, List.map_append] at nodup
  exact (List.nodup_append.mp nodup).1

/-- A new row is what its record is inserted as, behind the rows that are there. -/
theorem CanonicalPart.appended {before start db : Database} {c c' : Containers R}
    {visited rest : List (Collection × Key × R)} (h : g.CanonicalPart start visited db)
    (mirrors : g.Mirrors before c) (same : start.canonicalRecords = before.canonicalRecords)
    (storable : g.Storable c') (grown : g.Extends c c') {collection : Collection}
    {item : Key × R} (split : records c' = visited ++ (collection, item) :: rest)
    {keyJson workspace payload : String} (encodesKey : g.encodeKey collection item.1 = .ok keyJson)
    (encodes : g.encodeValue collection item.2 = .ok payload)
    (absent : before.canonicalRecords.get? (collection.text, keyJson) = none)
    (inside : g.workspace c' collection item.2 = .ok workspace) :
    g.FaithfulCanonical db.canonicalRecords.values
      (g.canonicalRow collection keyJson item.2 workspace 1 payload) collection item.1 item.2 := by
  have mem : item ∈ c'.items collection := by
    rw [items_split split]
    simp
  obtain ⟨keyInverse, inverse, valid⟩ := storable.items collection item mem
  have loaded : ∀ collection, c.items collection =
      start.canonicalRecords.values.filterMap (g.readCanonical collection) := by
    rw [same]
    exact mirrors.items
  refine ⟨keyInverse keyJson encodesKey, encodesKey, inverse payload encodes, valid, rfl, ?_,
    ?_, ?_⟩
  · -- the place of a record in its list is the number of rows of the list
    intro list here
    subst here
    have items := items_split split
    have fresh : item.1 ∉ (c.items (.sequence list)).map Prod.fst := by
      intro again
      obtain ⟨old, stored, key⟩ := List.mem_map.mp again
      rw [mirrors.items] at stored
      obtain ⟨row, there, reads⟩ := List.mem_filterMap.mp stored
      obtain ⟨column, encodes'⟩ := mirrors.canonicalRows.key_of_read there reads
      rw [key, encodesKey] at encodes'
      have name : row.key = ((Collection.sequence list).text, keyJson) :=
        Prod.ext column (Except.ok.inj encodes').symm
      exact Registry.get?_eq_none_iff.mp absent row there name
    have past := grown.allKeys (.sequence list)
    rw [items, List.map_append, List.map_cons] at past
    rw [h.read_visited (loaded _) items (older_of_not_mem past fresh)]
    exact Containers.place_of_items items
  · intro apart
    unfold Fields.workspace at inside
    split at inside
    · exact absurd rfl apart
    · exact inside
  · -- the delegation of an attempt has been visited
    intro attempts
    subst attempts
    have visitedAll := delegations_visited split
    have whole : c'.items (.keyed .delegations) =
        visited.filterMap (ofGroup (.keyed .delegations)) ++ [] := by
      rw [visitedAll, List.append_nil]
    have past : (c.items (.keyed .delegations)).map Prod.fst <+:
        (visited.filterMap (ofGroup (.keyed .delegations))).map Prod.fst := by
      rw [visitedAll]
      exact grown.allKeys _
    have read := h.read_visited (loaded _) whole past
    rw [visitedAll] at read
    unfold Fields.workspace at inside
    dsimp only at inside
    split at inside
    · cases inside
    · next parent found =>
        have key : parent.1 = .id (g.delegationId item.2) := Registry.key_of_get? found
        have there : parent ∈ c'.items (.keyed .delegations) := Registry.mem_values_of_get? found
        rw [← read] at there
        obtain ⟨row, stored, reads⟩ := List.mem_filterMap.mp there
        obtain ⟨first, collection', key', record, faithful⟩ := h.rows.of_mem stored
        have again := faithful.read (.keyed .delegations)
        rw [reads] at again
        split at again
        · next chosen =>
            subst chosen
            cases again
            refine ⟨row, stored, faithful.collection_eq, ?_, ?_⟩
            · rw [faithful.decodesKey]
              exact congrArg _ key
            · exact Except.ok.inj ((faithful.scope (by simp)).symm.trans inside)
        · cases again

/-- The loop over the records of the other stores. -/
theorem flush_records {before : Database} {c c' : Containers R} (mirrors : g.Mirrors before c)
    (storable : g.Storable c') (grown : g.Extends c c') {w w' : World Database}
    (same : w.store.canonicalRecords = before.canonicalRecords) (keys : w.store.ForeignKeys)
    (h : Txn.forEach (records c') (g.flushCanonical before c') w = .ok () w') :
    g.CanonicalPart w.store (records c') w'.store := by
  apply Txn.forEach_visited _ _ h
  · intro visited item rest split v v' part turn
    have mem : item.2 ∈ c'.items item.1 := mem_records (by simp [split])
    have untouched : ∀ keyJson, g.encodeKey item.1 item.2.1 = .ok keyJson →
        v.store.canonicalRecords.get? (item.1.text, keyJson) =
          before.canonicalRecords.get? (item.1.text, keyJson) := by
      intro keyJson encodes
      rw [part.untouched _ (records_apart storable split encodes), same]
    have new : ∀ keyJson workspace payload, g.encodeKey item.1 item.2.1 = .ok keyJson →
        g.encodeValue item.1 item.2.2 = .ok payload →
        before.canonicalRecords.get? (item.1.text, keyJson) = none →
        g.workspace c' item.1 item.2.2 = .ok workspace →
        g.FaithfulCanonical v.store.canonicalRecords.values
          (g.canonicalRow item.1 keyJson item.2.2 workspace 1 payload) item.1 item.2.1
          item.2.2 := by
      intro keyJson workspace payload encodesKey encodes absent inside
      exact part.appended mirrors same storable grown split encodesKey encodes absent inside
    obtain ⟨row, filed⟩ :=
      flushCanonical_filed mirrors storable grown mem part.keys untouched new turn
    exact part.filed filed
  · refine ⟨?_, keys, fun _ => rfl, fun _ _ => rfl, rfl, rfl⟩
    rw [same]
    exact mirrors.canonicalRows

/-- The collections come back as they were in memory. -/
theorem CanonicalPart.all {before start db : Database} {c c' : Containers R}
    (h : g.CanonicalPart start (records c') db)
    (same : start.canonicalRecords = before.canonicalRecords) (mirrors : g.Mirrors before c)
    (grown : g.Extends c c') (collection : Collection) :
    db.canonicalRecords.values.filterMap (g.readCanonical collection) = c'.items collection := by
  have loaded : c.items collection =
      start.canonicalRecords.values.filterMap (g.readCanonical collection) := by
    rw [same]
    exact mirrors.items collection
  have whole : c'.items collection =
      (records c').filterMap (ofGroup collection) ++ [] := by
    rw [records_of, List.append_nil]
  have past : (c.items collection).map Prod.fst <+:
      ((records c').filterMap (ofGroup collection)).map Prod.fst := by
    rw [records_of]
    exact grown.allKeys collection
  rw [h.read_visited loaded whole past, records_of]

end Group

end AgentCompanyOS.Durable
