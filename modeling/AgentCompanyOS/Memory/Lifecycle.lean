import AgentCompanyOS.Memory.Changes

/-!
# The lifecycle of a memory

`Sound` says how candidates and entries hang together between the commands: one candidate
for a duplicate key, one entry for a candidate, and superseded entries in the order in which
they were replaced. Every change keeps it, and an ended entry stays as it is (`Retained`).
So nothing that was revoked or superseded comes back, whatever is proposed later.
-/

set_option autoImplicit false

namespace AgentCompanyOS.Memory

open Foundation Foundation.Txn Domain AgentCompanyOS.Runtime

variable {casefold : PyStr → PyStr} {s : MemoryRecords}

/-! ## The invariant -/

/-- What holds of the records between the commands. -/
structure Sound (casefold : PyStr → PyStr) (s : MemoryRecords) : Prop where
  distinct : ∀ c ∈ s.candidates.values, ∀ c' ∈ s.candidates.values,
    c.duplicateKey casefold = c'.duplicateKey casefold → c = c'
  settled : ∀ c ∈ s.candidates.values, c.version ≠ .initial
  carried : ∀ e ∈ s.entries.values, e.candidate ∈ s.candidates.values
  single : ∀ e ∈ s.entries.values, ∀ e' ∈ s.entries.values,
    e.candidate.id = e'.candidate.id → e = e'
  promoted : ∀ c ∈ s.candidates.values, c.status = .promoted →
    ∃ e ∈ s.entries.values, e.candidate = c
  /-- What an entry supersedes is stored, superseded and about the same subject. -/
  named : ∀ e ∈ s.entries.values, ∀ id, e.supersedesId = some id →
    ∃ p ∈ s.entries.values, p.id = id ∧ p.status = .superseded ∧ p.scope = e.scope ∧
      casefold p.subject = casefold e.subject
  once : ∀ e ∈ s.entries.values, ∀ e' ∈ s.entries.values, ∀ id,
    e.supersedesId = some id → e'.supersedesId = some id → e = e'
  ranked : ∃ rank : MemoryEntryId → Nat, ∀ e ∈ s.entries.values, ∀ id,
    e.supersedesId = some id → rank id < rank e.id

theorem Sound.empty : Sound casefold .empty where
  distinct := fun _ mem => (List.not_mem_nil mem).elim
  settled := fun _ mem => (List.not_mem_nil mem).elim
  carried := fun _ mem => (List.not_mem_nil mem).elim
  single := fun _ mem => (List.not_mem_nil mem).elim
  promoted := fun _ mem => (List.not_mem_nil mem).elim
  named := fun _ mem => (List.not_mem_nil mem).elim
  once := fun _ mem => (List.not_mem_nil mem).elim
  ranked := ⟨fun _ => 0, fun _ mem => (List.not_mem_nil mem).elim⟩

/-! ## Candidates -/

/-- A candidate with a new duplicate key. -/
theorem distinct_put_new {d : Registry MemoryCandidate.key} {c : MemoryCandidate}
    (distinct : ∀ a ∈ d.values, ∀ b ∈ d.values,
      a.duplicateKey casefold = b.duplicateKey casefold → a = b)
    (new : ∀ old ∈ d.values, old.duplicateKey casefold ≠ c.duplicateKey casefold) :
    ∀ a ∈ (d.put c).values, ∀ b ∈ (d.put c).values,
      a.duplicateKey casefold = b.duplicateKey casefold → a = b := by
  intro a inA b inB same
  rcases Registry.mem_values_put.mp inA with rfl | ⟨oldA, -⟩ <;>
    rcases Registry.mem_values_put.mp inB with rfl | ⟨oldB, -⟩
  · rfl
  · exact absurd same.symm (new b oldB)
  · exact absurd same (new a oldA)
  · exact distinct a oldA b oldB same

/-- The next version of a candidate. -/
theorem distinct_put_next {d : Registry MemoryCandidate.key} {old c : MemoryCandidate}
    (distinct : ∀ a ∈ d.values, ∀ b ∈ d.values,
      a.duplicateKey casefold = b.duplicateKey casefold → a = b)
    (stored : d.get? c.id = some old) (succeeds : old.Succeeds c) :
    ∀ a ∈ (d.put c).values, ∀ b ∈ (d.put c).values,
      a.duplicateKey casefold = b.duplicateKey casefold → a = b := by
  have only : ∀ b ∈ d.values, b.key ≠ c.key →
      b.duplicateKey casefold ≠ c.duplicateKey casefold := by
    intro b inB other same
    have first := distinct b inB old (Registry.mem_values_of_get? stored)
      (same.trans (succeeds.duplicateKey casefold))
    subst first
    exact other (Registry.key_of_get? stored)
  intro a inA b inB same
  rcases Registry.mem_values_put.mp inA with rfl | ⟨oldA, otherA⟩ <;>
    rcases Registry.mem_values_put.mp inB with rfl | ⟨oldB, otherB⟩
  · rfl
  · exact absurd same.symm (only b oldB otherB)
  · exact absurd same (only a oldA otherA)
  · exact distinct a oldA b oldB same

theorem settled_put {d : Registry MemoryCandidate.key} {c : MemoryCandidate}
    (settled : ∀ a ∈ d.values, a.version ≠ .initial) {v : Version} (next : c.version = v.next) :
    ∀ a ∈ (d.put c).values, a.version ≠ .initial := by
  intro a mem
  rcases Registry.mem_values_put.mp mem with rfl | ⟨mem, -⟩
  · intro initial
    have values := congrArg Version.value (next.symm.trans initial)
    have positive := v.positive
    simp only [Version.value_next, Version.value_initial] at values
    omega
  · exact settled a mem

/-- The candidate of an entry is stored as it is, so that no stored candidate of its id has
another status than promoted. -/
theorem Sound.not_carried (h : Sound casefold s) {old : MemoryCandidate} {e : MemoryEntry}
    (stored : s.candidates.get? old.id = some old) (open' : old.status ≠ .promoted)
    (mem : e ∈ s.entries.values) : e.candidate.id ≠ old.id := by
  intro same
  have held := Registry.get?_of_mem_values (h.carried e mem)
  rw [show e.candidate.key = old.id from same, stored] at held
  obtain rfl := Option.some.inj held
  exact open' e.valid.binding.2

theorem Sound.propose (h : Sound casefold s) {c : MemoryCandidate}
    (absent : s.candidates.get? c.id = none)
    (new : ∀ old ∈ s.candidates.values, old.duplicateKey casefold ≠ c.duplicateKey casefold)
    (version : c.version = Version.initial.next)
    (status : c.status = .underReview ∨ c.status = .rejected) :
    Sound casefold { s with candidates := s.candidates.put c } where
  distinct := distinct_put_new h.distinct new
  settled := settled_put h.settled version
  carried := by
    intro e mem
    refine Registry.mem_values_put.mpr (.inr ⟨h.carried e mem, fun same => ?_⟩)
    exact Registry.get?_eq_none_iff.mp absent e.candidate (h.carried e mem) same
  single := h.single
  promoted := by
    intro a mem promoted
    rcases Registry.mem_values_put.mp mem with rfl | ⟨mem, -⟩
    · rw [promoted] at status
      rcases status with status | status <;> cases status
    · exact h.promoted a mem promoted
  named := h.named
  once := h.once
  ranked := h.ranked

theorem Sound.reject (h : Sound casefold s) {old c : MemoryCandidate} {reason : PyStr}
    (stored : s.candidates.get? c.id = some old) (moved : old.reject reason = .ok c) :
    Sound casefold { s with candidates := s.candidates.put c } := by
  obtain ⟨succeeds, legal, status⟩ := MemoryCandidate.reject_succeeds moved
  have held : s.candidates.get? old.id = some old := succeeds.id ▸ stored
  have open' : old.status ≠ .promoted := by
    rcases legal with legal | legal <;> simp [legal]
  constructor
  · exact distinct_put_next h.distinct stored succeeds
  · exact settled_put h.settled succeeds.version
  · intro e mem
    refine Registry.mem_values_put.mpr (.inr ⟨h.carried e mem, fun same => ?_⟩)
    exact h.not_carried held open' mem (same.trans succeeds.id)
  · exact h.single
  · intro a mem promoted
    rcases Registry.mem_values_put.mp mem with rfl | ⟨mem, -⟩
    · cases promoted.symm.trans status
    · exact h.promoted a mem promoted
  · exact h.named
  · exact h.once
  · exact h.ranked

/-! ## Entries -/

/-- What a replaced entry was before: the same memory that supersedes the same entry. -/
theorem shadow {d : Registry MemoryEntry.key} {old ended e : MemoryEntry}
    (found : d.get? old.id = some old) (ends : old.Ended ended) (mem : e ∈ (d.put ended).values) :
    ∃ o ∈ d.values, o.id = e.id ∧ o.candidate = e.candidate ∧ o.supersedesId = e.supersedesId ∧
      (o = e ∨ (o = old ∧ e = ended)) := by
  rcases Registry.mem_values_put.mp mem with rfl | ⟨mem, -⟩
  · exact ⟨old, Registry.mem_values_of_get? found, ends.id.symm, ends.candidate.symm,
      ends.supersedesId.symm, .inr ⟨rfl, rfl⟩⟩
  · exact ⟨e, mem, rfl, rfl, rfl, .inl rfl⟩

theorem Sound.finish (h : Sound casefold s) {old ended : MemoryEntry}
    (found : s.entries.get? old.id = some old) (ends : old.Ended ended) :
    Sound casefold { s with entries := s.entries.put ended } where
  distinct := h.distinct
  settled := h.settled
  carried := by
    intro e mem
    obtain ⟨o, inside, -, same, -⟩ := shadow found ends mem
    exact same ▸ h.carried o inside
  single := by
    intro e mem e' mem' same
    obtain ⟨o, inside, id, candidate, -⟩ := shadow found ends mem
    obtain ⟨o', inside', id', candidate', -⟩ := shadow found ends mem'
    have equal := h.single o inside o' inside' (by rw [candidate, candidate', same])
    subst equal
    exact Registry.eq_of_key mem mem' (id.symm.trans id')
  promoted := by
    intro c mem promoted
    obtain ⟨e, inside, carries⟩ := h.promoted c mem promoted
    by_cases here : e.id = ended.id
    · have equal : e = old := Registry.eq_of_key inside (Registry.mem_values_of_get? found)
        (here.trans ends.id)
      subst equal
      exact ⟨ended, Registry.mem_values_put.mpr (.inl rfl), ends.candidate.trans carries⟩
    · exact ⟨e, Registry.mem_values_put.mpr (.inr ⟨inside, here⟩), carries⟩
  named := by
    intro e mem id supersedes
    obtain ⟨o, inside, -, same, names, -⟩ := shadow found ends mem
    obtain ⟨p, stored, here, superseded, scope, subject⟩ :=
      h.named o inside id (names.trans supersedes)
    -- The superseded entry is not the one that ends now: that one was active.
    have other : p.id ≠ ended.id := by
      intro equal
      have equal : p = old := Registry.eq_of_key stored (Registry.mem_values_of_get? found)
        (equal.trans ends.id)
      rw [equal, ends.was] at superseded
      cases superseded
    refine ⟨p, Registry.mem_values_put.mpr (.inr ⟨stored, other⟩), here, superseded, ?_, ?_⟩
    · exact scope.trans (congrArg (fun c : MemoryCandidate => c.scope) same)
    · exact subject.trans (congrArg (fun c : MemoryCandidate => casefold c.subject) same)
  once := by
    intro e mem e' mem' id supersedes supersedes'
    obtain ⟨o, inside, id, -, names, -⟩ := shadow found ends mem
    obtain ⟨o', inside', id', -, names', -⟩ := shadow found ends mem'
    have equal := h.once o inside o' inside' _ (names.trans supersedes) (names'.trans supersedes')
    subst equal
    exact Registry.eq_of_key mem mem' (id.symm.trans id')
  ranked := by
    obtain ⟨rank, ranked⟩ := h.ranked
    refine ⟨rank, fun e mem id supersedes => ?_⟩
    obtain ⟨o, inside, same, -, names, -⟩ := shadow found ends mem
    rw [← same]
    exact ranked o inside id (names.trans supersedes)

/-- A promotion of a candidate; what the new entry supersedes has been superseded, and by no
other entry. -/
theorem Sound.promote (h : Sound casefold s) {old : MemoryCandidate} {entry : MemoryEntry}
    (promotes : Promotes s old entry)
    (supersedes : ∀ id, entry.supersedesId = some id →
      ∃ p ∈ s.entries.values, p.id = id ∧ p.status = .superseded ∧ p.scope = entry.scope ∧
        casefold p.subject = casefold entry.subject)
    (free : ∀ id, entry.supersedesId = some id →
      ∀ e ∈ s.entries.values, e.supersedesId ≠ some id) :
    Sound casefold { s with
      candidates := s.candidates.put entry.candidate, entries := s.entries.put entry } := by
  obtain ⟨succeeds, legal, status⟩ := MemoryCandidate.promote_succeeds promotes.moved
  have held : s.candidates.get? old.id = some old := succeeds.id ▸ promotes.stored
  have open' : old.status ≠ .promoted := by simp [legal]
  have fresh : ∀ e ∈ s.entries.values, e.id ≠ entry.id :=
    fun e mem => Registry.get?_eq_none_iff.mp promotes.absent e mem
  have stays : ∀ e ∈ s.entries.values, e ∈ (s.entries.put entry).values :=
    fun e mem => Registry.mem_values_put.mpr (.inr ⟨mem, fresh e mem⟩)
  have alone : ∀ e ∈ s.entries.values, e.candidate.id ≠ entry.candidate.id := by
    intro e mem same
    exact h.not_carried held open' mem (same.trans succeeds.id)
  constructor
  · exact distinct_put_next h.distinct promotes.stored succeeds
  · exact settled_put h.settled succeeds.version
  · intro e mem
    rcases Registry.mem_values_put.mp mem with rfl | ⟨mem, -⟩
    · exact Registry.mem_values_put.mpr (.inl rfl)
    · exact Registry.mem_values_put.mpr (.inr ⟨h.carried e mem, alone e mem⟩)
  · intro e mem e' mem' same
    rcases Registry.mem_values_put.mp mem with rfl | ⟨inside, -⟩ <;>
      rcases Registry.mem_values_put.mp mem' with rfl | ⟨inside', -⟩
    · rfl
    · exact absurd same.symm (alone e' inside')
    · exact absurd same (alone e inside)
    · exact h.single e inside e' inside' same
  · intro c mem promoted
    rcases Registry.mem_values_put.mp mem with rfl | ⟨mem, -⟩
    · exact ⟨entry, Registry.mem_values_put.mpr (.inl rfl), rfl⟩
    · obtain ⟨e, inside, carries⟩ := h.promoted c mem promoted
      exact ⟨e, stays e inside, carries⟩
  · intro e mem id names
    rcases Registry.mem_values_put.mp mem with rfl | ⟨mem, -⟩
    · obtain ⟨p, inside, rest⟩ := supersedes id names
      exact ⟨p, stays p inside, rest⟩
    · obtain ⟨p, inside, rest⟩ := h.named e mem id names
      exact ⟨p, stays p inside, rest⟩
  · intro e mem e' mem' id names names'
    rcases Registry.mem_values_put.mp mem with rfl | ⟨inside, -⟩ <;>
      rcases Registry.mem_values_put.mp mem' with rfl | ⟨inside', -⟩
    · rfl
    · exact absurd names' (free id names e' inside')
    · exact absurd names (free id names' e inside)
    · exact h.once e inside e' inside' id names names'
  · obtain ⟨rank, ranked⟩ := h.ranked
    -- The new entry is ranked above what it supersedes; nothing supersedes it yet.
    refine ⟨fun id => if id = entry.id then
      (entry.supersedesId.map fun p => rank p + 1).getD 0 else rank id, ?_⟩
    intro e mem id names
    have older : id ≠ entry.id := by
      intro same
      rcases Registry.mem_values_put.mp mem with rfl | ⟨mem, -⟩
      · obtain ⟨p, inside, here, -⟩ := supersedes id names
        exact fresh p inside (here.trans same)
      · obtain ⟨p, inside, here, -⟩ := h.named e mem id names
        exact fresh p inside (here.trans same)
    rcases Registry.mem_values_put.mp mem with rfl | ⟨mem, -⟩
    · simp [older, names]
    · simp only [older, fresh e mem, if_false]
      exact ranked e mem id names

/-- Every change keeps the records sound. -/
theorem Sound.change {platform : MemoryPlatform} {w : World MemoryStore} {s' : MemoryRecords}
    (h : Sound platform.casefold w.store.toMemoryRecords) (change : Change platform w s') :
    Sound platform.casefold s' := by
  cases change with
  | unchanged => exact h
  | proposed absent new version status => exact h.propose absent new version status
  | rejected stored moved => exact h.reject stored moved
  | approved promotes named =>
      refine h.promote promotes ?_ ?_ <;> intro id names <;> cases names.symm.trans named
  | @superseded old entry previous ended at' reason promotes found named scope subject moved =>
      obtain ⟨ends, status⟩ := MemoryEntry.finish_ended moved
      have other : entry.key ≠ ended.key := by
        intro same
        have absent := promotes.absent
        rw [show entry.id = previous.id from same.trans ends.id, found] at absent
        cases absent
      have present : (w.store.entries.get? ended.key).isSome = true := by
        rw [show ended.key = previous.id from ends.id, found]
        rfl
      rw [Registry.put_comm other present]
      refine (h.finish found ends).promote ⟨promotes.stored, promotes.moved, ?_, ?_,
        promotes.active⟩ ?_ ?_
      · exact (Registry.get?_put_ne _ (Ne.symm other)).trans promotes.absent
      · intro e mem here
        obtain ⟨o, inside, -, same, -⟩ := shadow found ends mem
        have workspace : o.workspaceId = e.workspaceId :=
          congrArg (fun c : MemoryCandidate => c.workspaceId) same
        rw [← same]
        exact promotes.first o inside (workspace.trans here)
      · intro id names
        obtain rfl := Option.some.inj (named.symm.trans names)
        refine ⟨ended, Registry.mem_values_put.mpr (.inl rfl), ends.id, status, ?_, ?_⟩
        · exact (congrArg (fun c : MemoryCandidate => c.scope) ends.candidate).trans scope
        · exact (congrArg (fun c : MemoryCandidate => platform.casefold c.subject)
            ends.candidate).trans subject
      · -- What names the entry would have found it superseded before.
        intro id names e mem named'
        obtain rfl := Option.some.inj (named.symm.trans names)
        obtain ⟨o, inside, -, -, supersedes, -⟩ := shadow found ends mem
        obtain ⟨p, stored, here, superseded, -⟩ := h.named o inside _ (supersedes.trans named')
        obtain rfl := Registry.eq_of_key stored (Registry.mem_values_of_get? found) here
        cases superseded.symm.trans ends.was
  | revoked found moved => exact h.finish found (MemoryEntry.finish_ended moved).1
  | retrieved absent time found granted =>
      exact ⟨h.distinct, h.settled, h.carried, h.single, h.promoted, h.named, h.once, h.ranked⟩

/-! ## What stays -/

/-- A stored entry keeps its memory, and once it is not active it does not change. -/
def Retained (e e' : MemoryEntry) : Prop :=
  e'.candidate = e.candidate ∧ (e.status ≠ .active → e' = e)

theorem Retained.refl (e : MemoryEntry) : Retained e e := ⟨rfl, fun _ => rfl⟩

theorem Retained.trans {a b c : MemoryEntry} (h : Retained a b) (h' : Retained b c) :
    Retained a c := by
  refine ⟨h'.1.trans h.1, fun ended => ?_⟩
  obtain rfl := h.2 ended
  exact h'.2 ended

theorem MemoryEntry.Ended.retained {old ended : MemoryEntry} (h : old.Ended ended) :
    Retained old ended :=
  ⟨h.candidate, fun inactive => absurd h.was inactive⟩

theorem retained_finish {d : Registry MemoryEntry.key} {old ended : MemoryEntry}
    (found : d.get? old.id = some old) (ends : old.Ended ended) :
    d.Evolves Retained (d.put ended) := by
  refine .put Retained.refl fun e stored => ?_
  rw [show ended.key = old.id from ends.id, found] at stored
  cases stored
  exact ends.retained

/-- Every change retains the entries. -/
theorem Change.retains {platform : MemoryPlatform} {w : World MemoryStore} {s' : MemoryRecords}
    (change : Change platform w s') : w.store.entries.Evolves Retained s'.entries := by
  cases change with
  | unchanged => exact .refl Retained.refl _
  | proposed absent new version status => exact .refl Retained.refl _
  | rejected stored moved => exact .refl Retained.refl _
  | approved promotes named => exact .put_new Retained.refl promotes.absent
  | @superseded old entry previous ended at' reason promotes found named scope subject moved =>
      have first : w.store.entries.Evolves Retained (w.store.entries.put entry) :=
        .put_new Retained.refl promotes.absent
      have later : (w.store.entries.put entry).get? previous.id = some previous := by
        rw [Registry.get?_put_ne]
        · exact found
        · intro same
          have absent := promotes.absent
          rw [show entry.id = previous.id from same, found] at absent
          cases absent
      exact first.trans (fun h h' => h.trans h')
        (retained_finish later (MemoryEntry.finish_ended moved).1)
  | revoked found moved => exact retained_finish found (MemoryEntry.finish_ended moved).1
  | retrieved absent time found granted => exact .refl Retained.refl _

/-! ## Histories -/

/-- A step of a history: a command of the memory service, or anything that the rest of the
company does in between. That may change the runtime store and use up identifiers and clock
readings, but it does not write memory. -/
inductive Label where
  | call (call : MemoryCall)
  | elsewhere (runtime : RuntimeStore) (issued reads : Nat)

def step (platform : MemoryPlatform) (w : World MemoryStore) : Label → World MemoryStore
  | .call call => World.after (call.issue platform w)
  | .elsewhere runtime issued reads => ⟨{ w.store with runtime := runtime }, issued, reads⟩

/-- A history from an empty memory. -/
def after (platform : MemoryPlatform) (labels : List Label) : World MemoryStore :=
  labels.foldl (step platform) ⟨⟨.empty, .empty⟩, 0, 0⟩

section Histories

variable {platform : MemoryPlatform} {w : World MemoryStore}

/-- A step changes the records as a command does, or not at all. -/
theorem step_change (sound : Sound platform.casefold w.store.toMemoryRecords) (label : Label) :
    Change platform w (step platform w label).store.toMemoryRecords := by
  cases label with
  | elsewhere runtime issued reads => exact .unchanged
  | call call =>
      show Change platform w (World.after (call.issue platform w)).store.toMemoryRecords
      cases answered : call.issue platform w with
      | ok u w' => exact issue_change sound.settled answered
      | error e w' =>
          show Change platform w w'.store.toMemoryRecords
          rw [issue_error answered]
          exact .unchanged

theorem after_concat (labels : List Label) (label : Label) :
    after platform (labels ++ [label]) = step platform (after platform labels) label := by
  simp [after]

/-- The records are sound after every history. -/
theorem after_sound (platform : MemoryPlatform) (labels : List Label) :
    Sound platform.casefold (after platform labels).store.toMemoryRecords := by
  induction labels using List.reverseRecOn with
  | nil => exact Sound.empty
  | append_singleton labels label ih =>
      rw [after_concat]
      exact ih.change (step_change ih label)

/-- The rest of a history retains the entries. -/
theorem after_retains (earlier later : List Label) :
    (after platform earlier).store.entries.Evolves Retained
      (after platform (earlier ++ later)).store.entries := by
  induction later using List.reverseRecOn with
  | nil =>
      rw [List.append_nil]
      exact .refl Retained.refl _
  | append_singleton later label ih =>
      rw [← List.append_assoc, after_concat]
      exact ih.trans (fun h h' => h.trans h')
        (step_change (after_sound platform _) label).retains

/-- A pack is stored by the retrieval of the history that made it, at the time it carries. -/
structure SavedIn (platform : MemoryPlatform) (w : World MemoryStore) (pack : MemoryContextPack) :
    Prop where
  absent : w.store.packs.get? pack.id = none
  time : pack.createdAt = platform.clock w.reads
  granted : ∃ run, w.store.runtime.runs.get? pack.runId = some run ∧
    ∀ hit ∈ pack.result.hits,
      Granted w.store.toMemoryRecords run.definitionVersion pack.createdAt hit

theorem Change.packs {s' : MemoryRecords} (change : Change platform w s')
    {pack : MemoryContextPack} (mem : pack ∈ s'.packs.values) :
    pack ∈ w.store.packs.values ∨ SavedIn platform w pack := by
  cases change with
  | retrieved absent time found granted =>
      rcases Registry.mem_values_put.mp mem with rfl | ⟨old, -⟩
      · exact .inr ⟨absent, time, _, found, granted⟩
      · exact .inl old
  | _ => exact .inl mem

/-- A stored pack was saved by a command of the history. -/
theorem after_packs (labels : List Label) {pack : MemoryContextPack}
    (mem : pack ∈ (after platform labels).store.packs.values) :
    ∃ before call rest, labels = before ++ .call call :: rest ∧
      pack ∈ (after platform (before ++ [.call call])).store.packs.values ∧
      SavedIn platform (after platform before) pack := by
  induction labels using List.reverseRecOn with
  | nil => cases mem
  | append_singleton labels label ih =>
      have earlier : pack ∈ (after platform labels).store.packs.values →
          ∃ before call rest, labels ++ [label] = before ++ .call call :: rest ∧
            pack ∈ (after platform (before ++ [.call call])).store.packs.values ∧
            SavedIn platform (after platform before) pack := by
        intro old
        obtain ⟨before, call, rest, rfl, stored, saved⟩ := ih old
        exact ⟨before, call, rest ++ [label], by simp, stored, saved⟩
      cases label with
      | elsewhere runtime issued reads =>
          rw [after_concat] at mem
          exact earlier mem
      | call call =>
          have change := step_change (after_sound platform labels) (.call call)
          rw [← after_concat] at change
          rcases change.packs mem with old | saved
          · exact earlier old
          · exact ⟨labels, call, [], rfl, mem, saved⟩

end Histories

/-! ## The lifecycle -/

/-- An entry that names another one as superseded. -/
def Supersedes (s : MemoryRecords) (e p : MemoryEntry) : Prop :=
  e ∈ s.entries.values ∧ p ∈ s.entries.values ∧ e.supersedesId = some p.id

/-- Superseding leads to entries of smaller rank, so that it never comes back. -/
theorem Sound.acyclic (h : Sound casefold s) (e : MemoryEntry) :
    ¬Relation.TransGen (Supersedes s) e e := by
  obtain ⟨rank, ranked⟩ := h.ranked
  have descends : ∀ {a b}, Relation.TransGen (Supersedes s) a b → rank b.id < rank a.id := by
    intro a b path
    induction path with
    | single edge => exact ranked _ edge.1 _ edge.2.2
    | tail _ edge ih => exact Nat.lt_trans (ranked _ edge.1 _ edge.2.2) ih
  exact fun path => Nat.lt_irrefl _ (descends path)

/-- A stored candidate is promoted exactly when one entry carries it. -/
theorem Sound.promoted_iff (h : Sound casefold s) {c : MemoryCandidate}
    (mem : c ∈ s.candidates.values) :
    c.status = .promoted ↔ ∃! e, e ∈ s.entries.values ∧ e.candidate.id = c.id := by
  constructor
  · intro promoted
    obtain ⟨e, inside, carries⟩ := h.promoted c mem promoted
    refine ⟨e, ⟨inside, congrArg (fun c : MemoryCandidate => c.id) carries⟩, ?_⟩
    rintro e' ⟨inside', same⟩
    exact h.single e' inside' e inside
      (same.trans (congrArg (fun c : MemoryCandidate => c.id) carries).symm)
  · rintro ⟨e, ⟨inside, same⟩, -⟩
    have carried : e.candidate = c := Registry.eq_of_key (h.carried e inside) mem same
    exact carried ▸ e.valid.binding.2

/-- Entries of one duplicate key are one entry. -/
theorem Sound.entry_unique (h : Sound casefold s) {e e' : MemoryEntry}
    (mem : e ∈ s.entries.values) (mem' : e' ∈ s.entries.values)
    (same : e'.candidate.duplicateKey casefold = e.candidate.duplicateKey casefold) : e' = e := by
  have carried := h.distinct _ (h.carried e' mem') _ (h.carried e mem) same
  exact h.single e' mem' e mem (congrArg (fun c : MemoryCandidate => c.id) carried)

/-- The lifecycle of retained memory, over every history of commands. -/
theorem memory_lifecycle (platform : MemoryPlatform) :
    (∀ labels : List Label,
      let s := (after platform labels).store
      (∀ c ∈ s.candidates.values, ∀ c' ∈ s.candidates.values,
        c.duplicateKey platform.casefold = c'.duplicateKey platform.casefold → c = c') ∧
      (∀ e ∈ s.entries.values, ∀ e' ∈ s.entries.values,
        e.candidate.id = e'.candidate.id → e = e') ∧
      (∀ c ∈ s.candidates.values,
        (c.status = .promoted ↔ ∃! e, e ∈ s.entries.values ∧ e.candidate.id = c.id)) ∧
      (∀ e ∈ s.entries.values, ∀ id, e.supersedesId = some id →
        ∃ p, s.entries.get? id = some p ∧ p.status = .superseded ∧ p.scope = e.scope ∧
          platform.casefold p.subject = platform.casefold e.subject ∧
          ∀ e' ∈ s.entries.values, e'.supersedesId = some id → e' = e) ∧
      (∀ e, ¬Relation.TransGen (Supersedes s.toMemoryRecords) e e) ∧
      ∀ pack ∈ s.packs.values, ∃ before call rest, labels = before ++ .call call :: rest ∧
        pack ∈ (after platform (before ++ [.call call])).store.packs.values ∧
        SavedIn platform (after platform before) pack) ∧
    (∀ earlier later : List Label,
      ∀ e ∈ (after platform earlier).store.entries.values, e.status ≠ .active →
        ∀ e' ∈ (after platform (earlier ++ later)).store.entries.values,
          e'.candidate.duplicateKey platform.casefold =
            e.candidate.duplicateKey platform.casefold → e'.status ≠ .active) ∧
    ∀ (w w' : World MemoryStore) (call : MemoryCall) (e : Exc),
      call.issue platform w = .error e w' → w'.store = w.store := by
  refine ⟨fun labels => ?_, fun earlier later e mem ended e' mem' same => ?_,
    fun w w' call e failed => issue_error failed⟩
  · have sound := after_sound platform labels
    refine ⟨sound.distinct, sound.single, fun c mem => sound.promoted_iff mem, ?_,
      sound.acyclic, fun pack mem => after_packs labels mem⟩
    intro e mem id names
    obtain ⟨p, stored, rfl, superseded, scope, subject⟩ := sound.named e mem id names
    exact ⟨p, Registry.get?_of_mem_values stored, superseded, scope, subject,
      fun e' mem' names' => sound.once e' mem' e mem _ names' names⟩
  · obtain ⟨kept, found, -, unchanged⟩ :=
      (after_retains earlier later).later (Registry.get?_of_mem_values mem)
    obtain rfl := unchanged ended
    rw [(after_sound platform _).entry_unique (Registry.mem_values_of_get? found) mem' same]
    exact ended

end AgentCompanyOS.Memory
