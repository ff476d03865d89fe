import AgentCompanyOS.Foundation.Encoding
import AgentCompanyOS.Runtime.Dispatch

/-!
# References to evidence

Grounding compares references as plain texts, and three places make or filter them: the
facts of a receipt, the chunks of the knowledge, and the two gates for texts from outside,
which are the supplied context and the output of a tool. A reference determines what it
was made for, and neither gate lets a text pass that has one as its source.
-/

set_option autoImplicit false

namespace AgentCompanyOS.Runtime

open Foundation Domain

/-! ## Supplied contexts -/

/-- A source id that a caller must not use: one of the prefixes of the runtime's evidence. -/
def impersonatesRuntime (source : PyStr) : Bool :=
  impersonatesEvidence source || (py "memory:").isPrefixOf source

/-- The texts of a context that are bounded one by one. -/
def SuppliedContext.values (context : SuppliedContext) : List PyStr :=
  context.requiredKeys ++ context.facts.flatMap (fun fact => [fact.key, fact.value, fact.sourceId])
    ++ context.sourceTexts.flatMap fun source => [source.sourceId, source.text]

/-- `SuppliedContext(...)`: the constructor's checks. -/
def SuppliedContext.create (context : SuppliedContext) : Except DomainError SuppliedContext :=
  if context.facts.any (impersonatesRuntime ·.sourceId) then
    .error (.invariantViolation "supplied_sources_cannot_impersonate_tool_receipts" [])
  else if context.sourceTexts.any (impersonatesRuntime ·.sourceId) then
    .error (.invariantViolation "supplied_sources_cannot_impersonate_runtime_evidence" [])
  else if context.requiredKeys = [] ∨ ¬context.requiredKeys.Nodup then
    .error (.invariantViolation "required_fact_keys_unique_nonempty" [])
  else if 50 < context.requiredKeys.length ∨ 50 < context.facts.length ∨
      50 < context.sourceTexts.length then
    .error (.invariantViolation "context_collection_bound" [])
  else if context.values.any fun value => strip value = [] ∨ 4000 < value.length then
    .error (.invariantViolation "context_field_bound" [])
  else .ok context

/-- No source of a context that was built has a prefix of the runtime's evidence. -/
theorem SuppliedContext.create_eq_ok {context built : SuppliedContext}
    (h : SuppliedContext.create context = .ok built) :
    built = context ∧ (∀ fact ∈ context.facts, impersonatesEvidence fact.sourceId = false) ∧
      ∀ source ∈ context.sourceTexts, impersonatesEvidence source.sourceId = false := by
  have outside : ∀ source, ¬impersonatesRuntime source = true →
      impersonatesEvidence source = false := by
    intro source refused
    simp only [impersonatesRuntime, Bool.or_eq_true, not_or, Bool.not_eq_true] at refused
    exact refused.1
  unfold SuppliedContext.create at h
  split at h
  · cases h
  · next facts =>
      split at h
      · cases h
      · next texts =>
          simp only [List.any_eq_true, not_exists, not_and] at facts texts
          repeat' split at h
          all_goals cases h
          exact ⟨rfl, fun fact mem => outside _ (facts fact mem),
            fun source mem => outside _ (texts source mem)⟩

/-! ## References -/

section References

variable {reference : PyStr}

theorem receiptSource_eq_ok {r : ToolReceipt} {source : PyStr}
    (h : receiptSource r source = .ok reference) :
    ∃ id inner, percentEncode r.id.value = some id ∧ percentEncode source = some inner ∧
      reference = py "tool_receipt:" ++ (id ++ 58 :: inner) := by
  unfold receiptSource at h
  split at h
  · next id inner encoded encoded' =>
      cases h
      refine ⟨id, inner, encoded, encoded', ?_⟩
      rw [List.append_assoc, List.append_assoc]
      rfl
  · cases h

theorem chunk_reference_eq_ok {chunk : KnowledgeChunk} (h : chunk.reference = .ok reference) :
    ∃ source id, percentEncode chunk.sourceId.value = some source ∧
      percentEncode chunk.id.value = some id ∧
      reference = py "knowledge:" ++
        (source ++ 58 :: (pyNat chunk.sourceVersion.value ++ 58 :: id)) := by
  unfold KnowledgeChunk.reference at h
  split at h
  · next source id encoded encoded' =>
      cases h
      refine ⟨source, id, encoded, encoded', ?_⟩
      simp only [List.append_assoc]
      rfl
  · cases h

/-- A reference of a receipt determines the receipt and the source of the fact. -/
theorem receiptSource_injective {r r' : ToolReceipt} {source source' : PyStr}
    (first : receiptSource r source = .ok reference)
    (second : receiptSource r' source' = .ok reference) : r.id = r'.id ∧ source = source' := by
  obtain ⟨id, inner, encoded, encodedInner, rfl⟩ := receiptSource_eq_ok first
  obtain ⟨id', inner', encoded', encodedInner', same⟩ := receiptSource_eq_ok second
  obtain ⟨rfl, rfl⟩ := separated_inj (percentEncode_clean encoded) (percentEncode_clean encoded')
    (List.append_cancel_left same)
  exact ⟨OpaqueId.ext_value (percentEncode_injective encoded encoded'),
    percentEncode_injective encodedInner encodedInner'⟩

/-- A reference of a chunk determines the source, its version and the chunk. -/
theorem chunk_reference_injective {chunk chunk' : KnowledgeChunk}
    (first : chunk.reference = .ok reference) (second : chunk'.reference = .ok reference) :
    chunk.sourceId = chunk'.sourceId ∧ chunk.sourceVersion = chunk'.sourceVersion ∧
      chunk.id = chunk'.id := by
  obtain ⟨source, id, encoded, encodedId, rfl⟩ := chunk_reference_eq_ok first
  obtain ⟨source', id', encoded', encodedId', same⟩ := chunk_reference_eq_ok second
  obtain ⟨rfl, rest⟩ := separated_inj (percentEncode_clean encoded) (percentEncode_clean encoded')
    (List.append_cancel_left same)
  obtain ⟨number, rfl⟩ := separated_inj (pyNat_clean _) (pyNat_clean _) rest
  exact ⟨OpaqueId.ext_value (percentEncode_injective encoded encoded'),
    Version.ext (pyNat_injective number),
    OpaqueId.ext_value (percentEncode_injective encodedId encodedId')⟩

/-- A text that a receipt or a chunk is referred to by. -/
def IsEvidenceReference (reference : PyStr) : Prop :=
  (∃ r source, receiptSource r source = .ok reference) ∨
    ∃ chunk : KnowledgeChunk, chunk.reference = .ok reference

/-- Every reference has a prefix that the gates refuse. -/
theorem impersonates_of_reference (h : IsEvidenceReference reference) :
    impersonatesEvidence reference = true := by
  have front : ∀ s t : PyStr, s.isPrefixOf (s ++ t) = true := fun s t =>
    List.isPrefixOf_iff_prefix.mpr (List.prefix_append s t)
  obtain ⟨r, source, made⟩ | ⟨chunk, made⟩ := h
  · obtain ⟨id, inner, -, -, rfl⟩ := receiptSource_eq_ok made
    exact Bool.or_eq_true_iff.mpr (.inl (front _ _))
  · obtain ⟨source, id, -, -, rfl⟩ := chunk_reference_eq_ok made
    exact Bool.or_eq_true_iff.mpr (.inr (front _ _))

theorem receipt_ne_chunk {r : ToolReceipt} {source : PyStr} {chunk : KnowledgeChunk}
    (first : receiptSource r source = .ok reference) : chunk.reference ≠ .ok reference := by
  intro second
  obtain ⟨id, inner, -, -, rfl⟩ := receiptSource_eq_ok first
  obtain ⟨source', id', -, -, same⟩ := chunk_reference_eq_ok second
  have heads : some (116 : CodePoint) = some 107 := congrArg List.head? same
  exact absurd heads (by decide)

/-- A fact of a receipt is a fact of its output under a reference of the receipt. -/
theorem receiptFacts_eq_ok {r : ToolReceipt} {facts : List Fact} (h : receiptFacts r = .ok facts)
    {fact : Fact} (mem : fact ∈ facts) :
    ∃ output own, r.output = some output ∧ own ∈ output.facts ∧ own.key = fact.key ∧
      own.value = fact.value ∧ receiptSource r own.sourceId = .ok fact.sourceId := by
  unfold receiptFacts at h
  split at h
  · cases h
    exact (List.not_mem_nil mem).elim
  · next output present =>
      obtain ⟨own, listed, made⟩ := (mem_mapM_ok h fact).mp mem
      obtain ⟨source, named, made⟩ := except_bind_ok made
      cases made
      exact ⟨output, own, present, listed, rfl, rfl, named⟩

/-- No fact of an accepted output has a source with a prefix of the runtime's evidence. -/
theorem validateOutput_outside {raw : PyStr} {version : ToolVersion} {request : ToolInput}
    {output : ToolOutput} (h : validateOutput raw version request = .ok output) :
    ∀ fact ∈ output.facts, impersonatesEvidence fact.sourceId = false := by
  have row : ∀ {value : Json} {fact : Fact}, outputFact request value .malformedOutput = .ok fact →
      impersonatesEvidence fact.sourceId = false := by
    intro value fact h
    obtain ⟨_, -, h⟩ := except_bind_ok h
    obtain ⟨_, -, h⟩ := except_bind_ok h
    obtain ⟨key, -, h⟩ := except_bind_ok h
    obtain ⟨_, -, h⟩ := except_bind_ok h
    obtain ⟨text, -, h⟩ := except_bind_ok h
    obtain ⟨_, -, h⟩ := except_bind_ok h
    obtain ⟨source, -, h⟩ := except_bind_ok h
    split at h
    · cases h
    · next outside =>
        have clean := Bool.eq_false_iff.mpr outside
        split at h
        · split at h
          · cases h
          · cases h
            exact clean
        · cases h
          exact clean
  unfold validateOutput at h
  dsimp only at h
  split at h
  · cases h
  obtain ⟨encoded, -, h⟩ := except_bind_ok h
  split at h
  · cases h
  obtain ⟨value, -, h⟩ := except_bind_ok h
  obtain ⟨item, -, h⟩ := except_bind_ok h
  obtain ⟨schema, -, h⟩ := except_bind_ok h
  split at h
  · obtain ⟨_, -, h⟩ := except_bind_ok h
    obtain ⟨subject, -, h⟩ := except_bind_ok h
    split at h
    · cases h
    obtain ⟨rows, -, h⟩ := except_bind_ok h
    split at h
    · next rows _ =>
        split at h
        · cases h
        obtain ⟨facts, read, h⟩ := except_bind_ok h
        split at h
        · cases h
        obtain ⟨_, -, h⟩ := except_bind_ok h
        obtain ⟨notes, -, h⟩ := except_bind_ok h
        cases h
        intro fact mem
        obtain ⟨value, -, made⟩ := (mem_mapM_ok read fact).mp mem
        exact row made
    · cases h
  · cases h

/-- References determine what they were made for, receipts and chunks have different ones,
and nothing that comes from outside the runtime has one as its source. -/
theorem evidence_references :
    (∀ (r r' : ToolReceipt) (facts facts' : List Fact), receiptFacts r = .ok facts →
      receiptFacts r' = .ok facts' → ∀ fact ∈ facts, ∀ fact' ∈ facts',
      fact.sourceId = fact'.sourceId → r.id = r'.id ∧
        ∃ output own output' own', r.output = some output ∧ own ∈ output.facts ∧
          receiptSource r own.sourceId = .ok fact.sourceId ∧ r'.output = some output' ∧
          own' ∈ output'.facts ∧ receiptSource r' own'.sourceId = .ok fact'.sourceId ∧
          own.sourceId = own'.sourceId) ∧
    (∀ (r r' : ToolReceipt) (source source' reference : PyStr),
      receiptSource r source = .ok reference → receiptSource r' source' = .ok reference →
      r.id = r'.id ∧ source = source') ∧
    (∀ (chunk chunk' : KnowledgeChunk) (reference : PyStr), chunk.reference = .ok reference →
      chunk'.reference = .ok reference → chunk.sourceId = chunk'.sourceId ∧
        chunk.sourceVersion = chunk'.sourceVersion ∧ chunk.id = chunk'.id) ∧
    (∀ (r : ToolReceipt) (source reference : PyStr) (chunk : KnowledgeChunk),
      receiptSource r source = .ok reference → chunk.reference ≠ .ok reference) ∧
    (∀ context built : SuppliedContext, SuppliedContext.create context = .ok built →
      (∀ fact ∈ built.facts, ¬IsEvidenceReference fact.sourceId) ∧
        ∀ source ∈ built.sourceTexts, ¬IsEvidenceReference source.sourceId) ∧
    ∀ (raw : PyStr) (version : ToolVersion) (request : ToolInput) (output : ToolOutput),
      validateOutput raw version request = .ok output →
      ∀ fact ∈ output.facts, ¬IsEvidenceReference fact.sourceId := by
  have outside : ∀ {source}, impersonatesEvidence source = false → ¬IsEvidenceReference source := by
    intro source clean made
    rw [impersonates_of_reference made] at clean
    cases clean
  refine ⟨?_, fun r r' source source' reference => receiptSource_injective,
    fun chunk chunk' reference => chunk_reference_injective,
    fun r source reference chunk => receipt_ne_chunk, ?_, ?_⟩
  · intro r r' facts facts' made made' fact mem fact' mem' same
    obtain ⟨output, own, present, listed, -, -, named⟩ := receiptFacts_eq_ok made mem
    obtain ⟨output', own', present', listed', -, -, named'⟩ := receiptFacts_eq_ok made' mem'
    obtain ⟨id, source⟩ := receiptSource_injective named (same ▸ named')
    exact ⟨id, output, own, output', own', present, listed, named, present', listed', named',
      source⟩
  · intro context built created
    obtain ⟨rfl, facts, texts⟩ := SuppliedContext.create_eq_ok created
    exact ⟨fun fact mem => outside (facts fact mem), fun source mem => outside (texts source mem)⟩
  · intro raw version request output accepted fact mem
    exact outside (validateOutput_outside accepted fact mem)

end References

end AgentCompanyOS.Runtime
