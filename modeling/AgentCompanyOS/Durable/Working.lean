import AgentCompanyOS.Durable.Loading

/-!
# What a unit of work does to the containers

A write that the stores admit keeps two things (`Group.Storable.written`,
`Group.Extends.written`): every record is filed under its own key and survives the row
codec, and what was in a container at the start of the work is still there, in its
place, with the columns that an update of its row does not write. Both hold after a
whole unit of work (`Group.work_preserves`).
-/

set_option autoImplicit false

namespace AgentCompanyOS.Durable

open AgentCompanyOS.Foundation

namespace Group

variable {R : Type} (g : Group R)

/-! ## The codec on the records written -/

def RecordRoundTrips (type : RecordType) (record : R) : Prop :=
  ∀ payload, g.encodeRecord record = .ok payload → g.decodeRecord type payload = .ok record

def ValueRoundTrips (collection : Collection) (record : R) : Prop :=
  ∀ payload, g.encodeValue collection record = .ok payload →
    g.decodeValue collection payload = .ok record

def KeyRoundTrips (collection : Collection) (key : Key) : Prop :=
  ∀ keyJson, g.encodeKey collection key = .ok keyJson → g.decodeKey collection keyJson = .ok key

/-- The codec is inverse on the record of a write, and on the keys that it can get. -/
def RoundTrips : Write R → Prop
  | .enter kind record => g.RecordRoundTrips (.domain kind) record
  | .note kind record => g.RecordRoundTrips (.audit kind) record
  | .file table key record =>
      g.KeyRoundTrips (.keyed table) key ∧ g.ValueRoundTrips (.keyed table) record
  | .append list record =>
      (∀ place, g.KeyRoundTrips (.sequence list) (.index place)) ∧
        g.ValueRoundTrips (.sequence list) record

/-! ## Containers that can be written back -/

/-- Every record is under its own key and survives the codec. -/
structure Storable (c : Containers R) : Prop where
  domain : ∀ kind, ∀ entity ∈ (c.domain kind).values,
    entity.1 = g.id entity.2 ∧ g.RecordRoundTrips (.domain kind) entity.2
  audit : ∀ kind, ∀ record ∈ c.audit kind, g.RecordRoundTrips (.audit kind) record
  auditNodup : ∀ kind, ((c.audit kind).map g.id).Nodup
  auditIds : ∀ kind, c.auditIds kind = ((c.audit kind).map g.id).toFinset
  items : ∀ collection, ∀ item ∈ c.items collection,
    g.KeyRoundTrips collection item.1 ∧ g.ValueRoundTrips collection item.2 ∧
      g.validateKey collection item.1 item.2 = .ok ()
  attempts : ∀ record ∈ c.lists .delegationAttempts,
    ((c.dicts .delegations).get? (.id (g.delegationId record))).isSome = true

/-- What was in the containers is still there. -/
structure Extends (c c' : Containers R) : Prop where
  domainKeys : ∀ kind,
    (c.domain kind).values.map Prod.fst <+: (c'.domain kind).values.map Prod.fst
  domain : ∀ {kind id old}, (c.domain kind).get? id = some old →
    ∃ new, (c'.domain kind).get? id = some new ∧ g.fixed old.2 = g.fixed new.2
  audit : ∀ kind, c.audit kind <+: c'.audit kind
  itemKeys : ∀ table,
    (c.dicts table).values.map Prod.fst <+: (c'.dicts table).values.map Prod.fst
  items : ∀ {table key old}, (c.dicts table).get? key = some old →
    ∃ new, (c'.dicts table).get? key = some new ∧ g.scope old.2 = g.scope new.2
  lists : ∀ list, c.lists list <+: c'.lists list

variable {g}

theorem Storable.empty : g.Storable Containers.empty := by
  refine ⟨nofun, nofun, fun _ => List.nodup_nil, fun _ => rfl, ?_, nofun⟩
  intro collection item mem
  cases collection with
  | keyed table => cases mem
  | sequence list => cases mem

theorem Extends.refl (c : Containers R) : g.Extends c c :=
  ⟨fun _ => List.prefix_rfl, fun found => ⟨_, found, rfl⟩, fun _ => List.prefix_rfl,
    fun _ => List.prefix_rfl, fun found => ⟨_, found, rfl⟩, fun _ => List.prefix_rfl⟩

/-- Filing keeps the keys in their places. -/
theorem keys_put {κ υ : Type} [DecidableEq κ] (d : Dict κ υ) (x : κ × υ) :
    d.values.map Prod.fst <+: (d.put x).values.map Prod.fst := by
  show d.items.map Prod.fst <+: (fileRecord Prod.fst x d.items).map Prod.fst
  rw [map_key_fileRecord]
  split
  · exact List.prefix_rfl
  · exact List.prefix_append _ _

/-- Filing keeps a property of records that the new record shares with the old one. -/
theorem kept_put {κ υ α : Type} [DecidableEq κ] {d : Dict κ υ} {x : κ × υ} {view : υ → α}
    (same : ∀ old, d.get? x.1 = some old → view old.2 = view x.2) {key : κ} {old : κ × υ}
    (found : d.get? key = some old) :
    ∃ new, (d.put x).get? key = some new ∧ view old.2 = view new.2 := by
  rw [Registry.get?_put]
  by_cases here : x.1 = key
  · subst here
    exact ⟨x, if_pos rfl, same old found⟩
  · exact ⟨old, (if_neg here).trans found, rfl⟩

theorem admits_enter {c : Containers R} {kind : DomainKind} {record : R}
    (h : g.admits (.enter kind record) c = .ok ()) {old : String × R}
    (found : (c.domain kind).get? (g.id record) = some old) :
    g.fixed old.2 = g.fixed record := by
  unfold Fields.admits at h
  simp only [found] at h
  by_contra other
  simp [other] at h

theorem admits_note {c : Containers R} {kind : AuditKind} {record : R}
    (h : g.admits (.note kind record) c = .ok ()) : g.id record ∉ c.auditIds kind := by
  intro mem
  unfold Fields.admits at h
  simp [mem] at h

theorem admits_file {c : Containers R} {table : Keyed} {key : Key} {record : R}
    (h : g.admits (.file table key record) c = .ok ()) :
    g.validateKey (.keyed table) key record = .ok () ∧
      ∀ old, (c.dicts table).get? key = some old → g.scope old.2 = g.scope record := by
  dsimp only [Fields.admits] at h
  cases valid : g.validateKey (.keyed table) key record with
  | error e =>
      rw [valid] at h
      cases h
  | ok _ =>
      refine ⟨rfl, ?_⟩
      intro old found
      rw [valid] at h
      by_contra other
      simp [bind, Except.bind, found, other] at h

theorem admits_append {c : Containers R} {list : Sequence} {record : R}
    (h : g.admits (.append list record) c = .ok ()) (attempts : list = .delegationAttempts) :
    ((c.dicts .delegations).get? (.id (g.delegationId record))).isSome = true := by
  unfold Fields.admits at h
  rw [Option.isSome_iff_ne_none]
  intro missing
  simp [attempts, missing] at h

theorem Extends.written {c₀ c : Containers R} (h : g.Extends c₀ c) {w : Write R}
    (admitted : g.admits w c = .ok ()) : g.Extends c₀ (g.written c w) := by
  cases w with
  | enter kind record =>
      constructor
      · intro kind'
        by_cases here : kind' = kind
        · subst here
          simpa [Fields.written] using (h.domainKeys kind').trans (keys_put _ _)
        · simpa [Fields.written, here] using h.domainKeys kind'
      · intro kind' id old found
        obtain ⟨new, current, same⟩ := h.domain found
        by_cases here : kind' = kind
        · subst here
          obtain ⟨last, filed, still⟩ := kept_put (x := (g.id record, record))
            (fun old found => admits_enter admitted found) current
          exact ⟨last, by simpa [Fields.written] using filed, same.trans still⟩
        · exact ⟨new, by simpa [Fields.written, here] using current, same⟩
      · exact h.audit
      · exact h.itemKeys
      · exact h.items
      · exact h.lists
  | note kind record =>
      refine ⟨h.domainKeys, h.domain, ?_, h.itemKeys, h.items, h.lists⟩
      intro kind'
      by_cases here : kind' = kind
      · subst here
        simpa [Fields.written] using (h.audit kind').trans (List.prefix_append _ _)
      · simpa [Fields.written, here] using h.audit kind'
  | file table key record =>
      obtain ⟨-, same⟩ := admits_file admitted
      refine ⟨h.domainKeys, h.domain, h.audit, ?_, ?_, h.lists⟩
      · intro table'
        by_cases here : table' = table
        · subst here
          simpa [Fields.written] using (h.itemKeys table').trans (keys_put _ _)
        · simpa [Fields.written, here] using h.itemKeys table'
      · intro table' key' old found
        obtain ⟨new, current, before⟩ := h.items found
        by_cases here : table' = table
        · subst here
          obtain ⟨last, filed, still⟩ := kept_put (x := (key, record)) same
            current
          exact ⟨last, by simpa [Fields.written] using filed, before.trans still⟩
        · exact ⟨new, by simpa [Fields.written, here] using current, before⟩
  | append list record =>
      refine ⟨h.domainKeys, h.domain, h.audit, h.itemKeys, h.items, ?_⟩
      intro list'
      by_cases here : list' = list
      · subst here
        simpa [Fields.written] using (h.lists list').trans (List.prefix_append _ _)
      · simpa [Fields.written, here] using h.lists list'

theorem Storable.enter {c : Containers R} (h : g.Storable c) {kind : DomainKind} {record : R}
    (inverse : g.RoundTrips (.enter kind record)) :
    g.Storable (g.written c (.enter kind record)) := by
  refine ⟨?_, h.audit, h.auditNodup, h.auditIds, ?_, h.attempts⟩
  · intro kind' entity mem
    by_cases here : kind' = kind
    · subst here
      simp only [Fields.written, Function.update_self] at mem
      rcases Registry.mem_values_put.mp mem with rfl | ⟨mem, -⟩
      · exact ⟨rfl, inverse⟩
      · exact h.domain kind' entity mem
    · exact h.domain kind' entity (by simpa [Fields.written, here] using mem)
  · intro collection
    cases collection with
    | keyed table => exact h.items (.keyed table)
    | sequence list => exact h.items (.sequence list)

theorem Storable.note {c : Containers R} (h : g.Storable c) {kind : AuditKind} {record : R}
    (inverse : g.RoundTrips (.note kind record))
    (admitted : g.admits (.note kind record) c = .ok ()) :
    g.Storable (g.written c (.note kind record)) := by
  have fresh : g.id record ∉ (c.audit kind).map g.id := by
    have new := admits_note admitted
    rwa [h.auditIds kind, List.mem_toFinset] at new
  refine ⟨h.domain, ?_, ?_, ?_, ?_, h.attempts⟩
  · intro kind' other mem
    by_cases here : kind' = kind
    · subst here
      simp only [Fields.written, Function.update_self] at mem
      rcases List.mem_append.mp mem with mem | mem
      · exact h.audit kind' other mem
      · rw [List.mem_singleton.mp mem]
        exact inverse
    · exact h.audit kind' other (by simpa [Fields.written, here] using mem)
  · intro kind'
    by_cases here : kind' = kind
    · subst here
      simp only [Fields.written, Function.update_self, List.map_append, List.map_cons,
        List.map_nil]
      rw [← List.concat_eq_append]
      exact (h.auditNodup kind').concat fresh
    · simpa [Fields.written, here] using h.auditNodup kind'
  · intro kind'
    by_cases here : kind' = kind
    · subst here
      ext id
      simp [Fields.written, h.auditIds kind', or_comm]
    · simpa [Fields.written, here] using h.auditIds kind'
  · intro collection
    cases collection with
    | keyed table => exact h.items (.keyed table)
    | sequence list => exact h.items (.sequence list)

theorem Storable.file {c : Containers R} (h : g.Storable c) {table : Keyed} {key : Key}
    {record : R} (inverse : g.RoundTrips (.file table key record))
    (admitted : g.admits (.file table key record) c = .ok ()) :
    g.Storable (g.written c (.file table key record)) := by
  obtain ⟨valid, -⟩ := admits_file admitted
  refine ⟨h.domain, h.audit, h.auditNodup, h.auditIds, ?_, ?_⟩
  · intro collection item mem
    cases collection with
    | sequence list => exact h.items (.sequence list) item mem
    | keyed table' =>
        by_cases here : table' = table
        · subst here
          simp only [Containers.items, Fields.written, Function.update_self] at mem
          rcases Registry.mem_values_put.mp mem with rfl | ⟨mem, -⟩
          · exact ⟨inverse.1, inverse.2, valid⟩
          · exact h.items (.keyed table') item mem
        · apply h.items (.keyed table') item
          simpa [Containers.items, Fields.written, here] using mem
  · intro attempt mem
    have parent := h.attempts attempt mem
    by_cases here : table = .delegations
    · subst here
      simp only [Fields.written, Function.update_self]
      rw [Registry.get?_put]
      split
      · rfl
      · exact parent
    · simpa [Fields.written, Ne.symm here] using parent

theorem Storable.append {c : Containers R} (h : g.Storable c) {list : Sequence} {record : R}
    (inverse : g.RoundTrips (.append list record))
    (admitted : g.admits (.append list record) c = .ok ()) :
    g.Storable (g.written c (.append list record)) := by
  refine ⟨h.domain, h.audit, h.auditNodup, h.auditIds, ?_, ?_⟩
  · intro collection item mem
    cases collection with
    | keyed table => exact h.items (.keyed table) item mem
    | sequence list' =>
        by_cases here : list' = list
        · subst here
          simp only [Containers.items, Fields.written, Function.update_self, List.zipIdx_append,
            List.map_append, List.mem_append] at mem
          rcases mem with mem | mem
          · exact h.items (.sequence list') item mem
          · obtain rfl : item = (.index (c.lists list').length, record) := by
              simpa using mem
            exact ⟨inverse.1 _, inverse.2, rfl⟩
        · apply h.items (.sequence list') item
          simpa [Containers.items, Fields.written, here] using mem
  · intro attempt mem
    by_cases here : list = .delegationAttempts
    · subst here
      simp only [Fields.written, Function.update_self, List.mem_append, List.mem_singleton] at mem
      rcases mem with mem | rfl
      · exact h.attempts attempt mem
      · exact admits_append admitted rfl
    · apply h.attempts attempt
      simpa [Fields.written, Ne.symm here] using mem

theorem Storable.written {c : Containers R} (h : g.Storable c) {w : Write R}
    (inverse : g.RoundTrips w) (admitted : g.admits w c = .ok ()) :
    g.Storable (g.written c w) := by
  cases w with
  | enter kind record => exact h.enter inverse
  | note kind record => exact h.note inverse admitted
  | file table key record => exact h.file inverse admitted
  | append list record => exact h.append inverse admitted

/-- A whole unit of work. -/
theorem work_preserves {work : Scoped (Write R) Failure} {c : Containers R}
    (storable : g.Storable c) (inverse : ∀ w ∈ work.steps, g.RoundTrips w)
    {kept : List (Write R)} (h : g.stores.kept work c = .ok kept) :
    g.Storable (g.stores.replay kept c) ∧ g.Extends c (g.stores.replay kept c) :=
  Scopes.kept_preserves (P := g.RoundTrips) (I := fun s => g.Storable s ∧ g.Extends c s)
    (fun inverse now admitted =>
      ⟨now.1.written inverse admitted, now.2.written admitted⟩)
    inverse ⟨storable, .refl c⟩ h

end Group

end AgentCompanyOS.Durable
