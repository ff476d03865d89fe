import AgentCompanyOS.Runtime.Retrieval

/-!
# Retained memory

A memory candidate is proposed from a run that has succeeded, and a reviewer promotes it
to an entry or rejects it. An entry is active until it is revoked or superseded. Records
keep the validity of their constructors as a field, so that an entry without a promoted
candidate, or an ended one without a reason, cannot be built.

Python's `str.casefold` and the secrets that the policy detects are parameters.
-/

set_option autoImplicit false

namespace AgentCompanyOS.Memory

open Foundation Domain AgentCompanyOS.Runtime

/-! ## Enumerations -/

abbrev MemoryCandidateId := OpaqueId .memoryCandidate
abbrev MemoryEntryId := OpaqueId .memoryEntry
abbrev MemoryContextPackId := OpaqueId .memoryContextPack

inductive MemoryType where
  | episodic | semantic
deriving DecidableEq

def MemoryType.value : MemoryType → PyStr
  | episodic => py "episodic"
  | semantic => py "semantic"

inductive MemoryAuthority where
  | observed | stated | inferred | derived | reviewed
deriving DecidableEq

def MemoryAuthority.value : MemoryAuthority → PyStr
  | observed => py "observed"
  | stated => py "stated"
  | inferred => py "inferred"
  | derived => py "derived"
  | reviewed => py "reviewed"

def sensitivityValue : MemorySensitivity → PyStr
  | .normal => py "normal"
  | .sensitive => py "sensitive"
  | .restricted => py "restricted"

inductive MemoryProvenanceKind where
  | userStatement | toolReceipt | knowledgeEvidence | agentOutput | taskResult
deriving DecidableEq

inductive MemoryCandidateStatus where
  | proposed | underReview | promoted | rejected
deriving DecidableEq

def MemoryCandidateStatus.value : MemoryCandidateStatus → PyStr
  | proposed => py "proposed"
  | underReview => py "under_review"
  | promoted => py "promoted"
  | rejected => py "rejected"

inductive MemoryEntryStatus where
  | active | revoked | superseded
deriving DecidableEq

def MemoryEntryStatus.value : MemoryEntryStatus → PyStr
  | active => py "active"
  | revoked => py "revoked"
  | superseded => py "superseded"

/-- Where a candidate comes from. -/
structure MemoryProvenance where
  kind : MemoryProvenanceKind
  runId : AgentRunId
  sourceReferences : List PyStr
  authority : MemoryAuthority
  bounded : sourceReferences ≠ [] ∧ sourceReferences.length ≤ 10
  references : ∀ r ∈ sourceReferences, strip r ≠ [] ∧ r.length ≤ 256
deriving DecidableEq

/-! ## Candidates -/

structure CandidateFields where
  id : MemoryCandidateId
  workspaceId : WorkspaceId
  memoryType : MemoryType
  subject : PyStr
  content : PyStr
  scope : MemoryScope
  provenance : MemoryProvenance
  sensitivity : MemorySensitivity
  createdAt : Instant
  claimKey : Option PyStr
  claimValue : Option PyStr
  expiresAt : Option Instant
  status : MemoryCandidateStatus
  version : Version
  policyVersion : PyStr
  rejectionReason : Option PyStr
deriving DecidableEq

/-- What the constructor finds wrong with one part of a claim. -/
def claimFault (value : PyStr) : Option DomainError :=
  if strip value = [] then
    some (.invariantViolation "required_text" [("field", py "memory_claim")])
  else if 256 < value.length then some (.invariantViolation "memory_claim_bound" [])
  else none

/-- `MemoryCandidate.__post_init__`. -/
structure CandidateFields.Valid (f : CandidateFields) : Prop where
  subject : strip f.subject ≠ []
  content : strip f.content ≠ []
  bound : f.subject.length ≤ 128 ∧ f.content.length ≤ 1000
  claimPair : f.claimKey = none ↔ f.claimValue = none
  claim : (f.claimKey.toList ++ f.claimValue.toList).findSome? claimFault = none
  expiry : ∀ t ∈ f.expiresAt, f.createdAt < t
  reason : f.status = .rejected ↔ f.rejectionReason.getD [] ≠ []

/-- A proposal for retained memory. -/
structure MemoryCandidate extends CandidateFields where
  valid : toCandidateFields.Valid
deriving DecidableEq

/-- `MemoryCandidate(...)`. -/
def MemoryCandidate.create (f : CandidateFields) : Except DomainError MemoryCandidate :=
  if subject : strip f.subject = [] then
    .error (.invariantViolation "required_text" [("field", py "memory_subject")])
  else if content : strip f.content = [] then
    .error (.invariantViolation "required_text" [("field", py "memory_content")])
  else if bound : f.subject.length ≤ 128 ∧ f.content.length ≤ 1000 then
    if claimPair : f.claimKey = none ↔ f.claimValue = none then
      match claim : (f.claimKey.toList ++ f.claimValue.toList).findSome? claimFault with
      | some fault => .error fault
      | none =>
          if expiry : ∀ t ∈ f.expiresAt, f.createdAt < t then
            if reason : f.status = .rejected ↔ f.rejectionReason.getD [] ≠ [] then
              .ok ⟨f, subject, content, bound, claimPair, claim, expiry, reason⟩
            else .error (.invariantViolation "memory_candidate_rejection_reason" [])
          else .error (.invariantViolation "memory_expiry_after_creation" [])
    else .error (.invariantViolation "memory_claim_pair" [])
  else .error (.invariantViolation "memory_content_bound" [])

theorem MemoryCandidate.create_eq_ok {f : CandidateFields} {c : MemoryCandidate}
    (h : MemoryCandidate.create f = .ok c) : c.toCandidateFields = f := by
  unfold MemoryCandidate.create at h
  repeat' split at h
  all_goals cases h
  rfl

/-- `" ".join(value.casefold().split())`. -/
def normalize (casefold : PyStr → PyStr) (value : PyStr) : PyStr :=
  [32].intercalate (((casefold value).splitOnP isSpace).filter (· ≠ []))

/-- A part of a claim in a duplicate key; an empty text counts as none. -/
def foldedClaim (casefold : PyStr → PyStr) (claim : Option PyStr) : Option PyStr :=
  claim.bind fun value => if value = [] then none else some (casefold value)

/-- The data that two candidates for the same memory share. -/
structure DuplicateKey where
  workspaceId : WorkspaceId
  memoryType : MemoryType
  subject : PyStr
  content : PyStr
  scope : MemoryScope
  claimKey : Option PyStr
  claimValue : Option PyStr
deriving DecidableEq

/-- `duplicate_key`. -/
def CandidateFields.duplicateKey (casefold : PyStr → PyStr) (c : CandidateFields) :
    DuplicateKey where
  workspaceId := c.workspaceId
  memoryType := c.memoryType
  subject := normalize casefold c.subject
  content := normalize casefold c.content
  scope := c.scope
  claimKey := foldedClaim casefold c.claimKey
  claimValue := foldedClaim casefold c.claimValue

namespace MemoryCandidate

/-- The refusal of a method that the status does not allow. -/
def illegal (c : MemoryCandidate) (target : String) : DomainError :=
  .invalidStateTransition (py "MemoryCandidate") c.id.value c.status.value (py target)

/-- `review`. -/
def review (c : MemoryCandidate) : Except DomainError MemoryCandidate :=
  if c.status ≠ .proposed then .error (c.illegal "review")
  else create { c.toCandidateFields with status := .underReview, version := c.version.next }

/-- `reject`. -/
def reject (c : MemoryCandidate) (reason : PyStr) : Except DomainError MemoryCandidate :=
  if c.status ≠ .proposed ∧ c.status ≠ .underReview then .error (c.illegal "reject")
  else if strip reason = [] then
    .error (.invariantViolation "required_text" [("field", py "memory_rejection_reason")])
  else create { c.toCandidateFields with
    status := .rejected, rejectionReason := some (reason.take 256), version := c.version.next }

/-- `promote`. -/
def promote (c : MemoryCandidate) : Except DomainError MemoryCandidate :=
  if c.status ≠ .underReview then .error (c.illegal "promote")
  else create { c.toCandidateFields with status := .promoted, version := c.version.next }

theorem review_eq_ok {c next : MemoryCandidate} (h : c.review = .ok next) :
    c.status = .proposed ∧ next.toCandidateFields =
      { c.toCandidateFields with status := .underReview, version := c.version.next } := by
  unfold review at h
  split at h
  · cases h
  · next legal => exact ⟨not_not.mp legal, create_eq_ok h⟩

theorem reject_eq_ok {c next : MemoryCandidate} {reason : PyStr}
    (h : c.reject reason = .ok next) :
    (c.status = .proposed ∨ c.status = .underReview) ∧ next.toCandidateFields =
      { c.toCandidateFields with
        status := .rejected, rejectionReason := some (reason.take 256),
        version := c.version.next } := by
  unfold reject at h
  split at h
  · cases h
  · next legal =>
      split at h
      · cases h
      · exact ⟨by tauto, create_eq_ok h⟩

theorem promote_eq_ok {c next : MemoryCandidate} (h : c.promote = .ok next) :
    c.status = .underReview ∧ next.toCandidateFields =
      { c.toCandidateFields with status := .promoted, version := c.version.next } := by
  unfold promote at h
  split at h
  · cases h
  · next legal => exact ⟨not_not.mp legal, create_eq_ok h⟩

end MemoryCandidate

/-! ## Entries -/

structure EntryFields where
  id : MemoryEntryId
  candidate : MemoryCandidate
  reviewedBy : PyStr
  reviewedAt : Instant
  status : MemoryEntryStatus
  version : Version
  supersedesId : Option MemoryEntryId
  endedAt : Option Instant
  statusReason : Option PyStr
deriving DecidableEq

/-- `MemoryEntry.__post_init__`. -/
structure EntryFields.Valid (f : EntryFields) : Prop where
  reviewer : strip f.reviewedBy ≠ []
  binding : f.reviewedBy.length ≤ 128 ∧ f.candidate.status = .promoted
  ended : (f.status ≠ .active ↔ f.endedAt.isSome = true) ∧
    (f.status ≠ .active ↔ f.statusReason.getD [] ≠ [])

/-- A promoted memory. -/
structure MemoryEntry extends EntryFields where
  valid : toEntryFields.Valid
deriving DecidableEq

namespace MemoryEntry

/-- `MemoryEntry(...)`. -/
def create (f : EntryFields) : Except DomainError MemoryEntry :=
  if reviewer : strip f.reviewedBy = [] then
    .error (.invariantViolation "required_text" [("field", py "memory_reviewer")])
  else if binding : f.reviewedBy.length ≤ 128 ∧ f.candidate.status = .promoted then
    if ended : (f.status ≠ .active ↔ f.endedAt.isSome = true) ∧
        (f.status ≠ .active ↔ f.statusReason.getD [] ≠ []) then
      .ok ⟨f, reviewer, binding, ended⟩
    else .error (.invariantViolation "memory_entry_terminal_metadata" [])
  else .error (.invariantViolation "memory_entry_review_binding" [])

theorem create_eq_ok {f : EntryFields} {e : MemoryEntry} (h : create f = .ok e) :
    e.toEntryFields = f := by
  unfold create at h
  repeat' split at h
  all_goals cases h
  rfl

def workspaceId (e : MemoryEntry) : WorkspaceId := e.candidate.workspaceId

def subject (e : MemoryEntry) : PyStr := e.candidate.subject

def scope (e : MemoryEntry) : MemoryScope := e.candidate.scope

def sensitivity (e : MemoryEntry) : MemorySensitivity := e.candidate.sensitivity

/-- `is_expired`. -/
def isExpired (e : MemoryEntry) (at' : Instant) : Prop := ∃ t ∈ e.candidate.expiresAt, t ≤ at'

instance (e : MemoryEntry) (at' : Instant) : Decidable (e.isExpired at') :=
  inferInstanceAs (Decidable (∃ t ∈ e.candidate.expiresAt, t ≤ at'))

/-- `end`. -/
def finish (e : MemoryEntry) (status : MemoryEntryStatus) (at' : Instant) (reason : PyStr) :
    Except DomainError MemoryEntry :=
  if e.status ≠ .active ∨ status = .active then
    .error (.invalidStateTransition (py "MemoryEntry") e.id.value e.status.value status.value)
  else if strip reason = [] then
    .error (.invariantViolation "required_text" [("field", py "memory_status_reason")])
  else create { e.toEntryFields with
    status := status, version := e.version.next, endedAt := some at',
    statusReason := some (reason.take 256) }

theorem finish_eq_ok {e next : MemoryEntry} {status : MemoryEntryStatus} {at' : Instant}
    {reason : PyStr} (h : e.finish status at' reason = .ok next) :
    e.status = .active ∧ status ≠ .active ∧ next.toEntryFields =
      { e.toEntryFields with
        status := status, version := e.version.next, endedAt := some at',
        statusReason := some (reason.take 256) } := by
  unfold finish at h
  split at h
  · cases h
  · next legal =>
      obtain ⟨active, ending⟩ := not_or.mp legal
      split at h
      · cases h
      · exact ⟨not_not.mp active, ending, create_eq_ok h⟩

end MemoryEntry

/-! ## Policy -/

inductive MemoryPolicyDecision where
  | reject | requiresReview
deriving DecidableEq

structure MemoryPolicyResult where
  decision : MemoryPolicyDecision
  reason : PyStr

/-- `MemoryPolicy.version`. -/
def policyVersion : PyStr := py "review-only-memory-v1"

/-- `MemoryPolicy.evaluate`: detectable risks reject, all else needs review. -/
def MemoryCandidate.evaluate (secret : PyStr → Bool) (c : MemoryCandidate) : MemoryPolicyResult :=
  if secret c.content = true then ⟨.reject, py "detectable_secret"⟩
  else if c.provenance.kind = .knowledgeEvidence then ⟨.reject, py "knowledge_is_not_memory"⟩
  else if c.provenance.kind = .agentOutput ∨ c.provenance.authority = .inferred then
    ⟨.reject, py "unsupported_model_inference"⟩
  else ⟨.requiresReview, py "human_review_required"⟩

/-! ## Retrieval -/

/-- A query for retained memory. -/
structure MemoryQuery where
  workspaceId : WorkspaceId
  subject : PyStr
  text : PyStr
  scopes : List MemoryScope
  sensitivities : List MemorySensitivity
  topK : Nat
  maxContextChars : Nat
  texts : (strip subject ≠ [] ∧ subject.length ≤ 128) ∧ strip text ≠ [] ∧ text.length ≤ 512
  scopesBound : scopes ≠ [] ∧ scopes.length ≤ 20 ∧ scopes.Nodup
  sensitive : sensitivities ≠ []
  limits : (1 ≤ topK ∧ topK ≤ 10) ∧ 1 ≤ maxContextChars ∧ maxContextChars ≤ 12000
deriving DecidableEq

structure MemoryHit where
  entry : MemoryEntry
  score : Rat
  conflictingEntryIds : List MemoryEntryId
  conflictsWithKnowledge : Bool
deriving DecidableEq

structure MemoryRetrievalResult where
  hits : List MemoryHit
  strategyVersion : PyStr
deriving DecidableEq

structure PackFields where
  id : MemoryContextPackId
  workspaceId : WorkspaceId
  runId : AgentRunId
  query : MemoryQuery
  result : MemoryRetrievalResult
  createdAt : Instant
  contextChars : Nat
deriving DecidableEq

/-- `MemoryContextPack.__post_init__`. -/
structure PackFields.Valid (f : PackFields) : Prop where
  workspace : f.query.workspaceId = f.workspaceId
  chars : f.contextChars ≤ f.query.maxContextChars
  hits : f.result.hits.length ≤ f.query.topK

/-- The retained memory that a run has been given. -/
structure MemoryContextPack extends PackFields where
  valid : toPackFields.Valid
deriving DecidableEq

/-- `MemoryContextPack(...)`. -/
def MemoryContextPack.create (f : PackFields) : Except DomainError MemoryContextPack :=
  if bound : f.query.workspaceId = f.workspaceId ∧ f.contextChars ≤ f.query.maxContextChars ∧
      f.result.hits.length ≤ f.query.topK then .ok ⟨f, bound.1, bound.2.1, bound.2.2⟩
  else .error (.invariantViolation "memory_context_pack_bound" [])

theorem MemoryContextPack.create_eq_ok {f : PackFields} {p : MemoryContextPack}
    (h : MemoryContextPack.create f = .ok p) : p.toPackFields = f := by
  unfold MemoryContextPack.create at h
  split at h
  · cases h
    rfl
  · cases h

/-- The flags of a hit. -/
def MemoryHit.flags (hit : MemoryHit) : PyStr :=
  let flags := (if hit.conflictsWithKnowledge = true then
      [py "conflicts_with_authoritative_knowledge"] else []) ++
    (if hit.conflictingEntryIds ≠ [] then [py "conflicts_with_memory"] else [])
  if flags = [] then py "none" else [44].intercalate flags

/-- The line of a hit. -/
def MemoryHit.line (hit : MemoryHit) : PyStr :=
  let entry := hit.entry
  (py " | ").intercalate [py "category=retained_memory", py "entry=" ++ entry.id.value,
    py "type=" ++ entry.candidate.memoryType.value,
    py "authority=" ++ entry.candidate.provenance.authority.value,
    py "sensitivity=" ++ sensitivityValue entry.sensitivity, py "subject=" ++ entry.subject,
    py "content=" ++ entry.candidate.content, py "flags=" ++ hit.flags]

/-- `serialize_memory_pack`. -/
def serializeMemoryPack (hits : List MemoryHit) : PyStr :=
  [10].intercalate (hits.map MemoryHit.line)

end AgentCompanyOS.Memory
