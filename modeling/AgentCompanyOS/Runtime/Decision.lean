import AgentCompanyOS.Runtime.Agent
import Mathlib.Data.List.Dedup

/-!
# Model decisions and tool payloads

What a model may answer and what a tool may be given and may return. All three are
untrusted JSON texts with exact keys and bounded fields: `parseDecision` reads a
decision, `validateInput` and `validateOutput` read the two sides of a tool call, and
`validateBrief` compares a completion with the evidence. `inputJson` is the normal
form of a validated input, the text that fingerprints are computed from.
-/

set_option autoImplicit false

namespace AgentCompanyOS.Runtime

open Foundation Domain

/-! ## Decisions -/

/-- The payload of a decision; its constructor is the `action_type`. -/
inductive ModelDecision where
  | respond (message : PyStr)
  | requestMoreContext (missingFields : List PyStr)
  | completeTask (findings : List Fact) (gaps : List PyStr)
  | callTool (toolId : ToolId) (argumentsJson : PyStr)
deriving DecidableEq

def ModelDecision.actionType : ModelDecision → ActionType
  | respond _ => .respond
  | requestMoreContext _ => .requestMoreContext
  | completeTask _ _ => .completeTask
  | callTool _ _ => .callTool

/-- A decision that the runtime has recorded. -/
structure Action where
  id : ActionId
  runId : AgentRunId
  workspaceId : WorkspaceId
  decision : ModelDecision
  iteration : Nat
deriving DecidableEq

/-- A proposed change refused with a model failure. -/
abbrev Judged (α : Type) := Except Exc α

def refuse {α : Type} (code : ModelCode) : Judged α := .error (.model code)

/-- A required option, or a refusal. -/
def demand {α : Type} (o : Option α) (code : ModelCode) : Judged α :=
  match o with
  | some a => .ok a
  | none => refuse code

/-- `_object`. -/
def decisionObject (value : Json) (keys : List PyStr) : Judged (List (PyStr × Json)) :=
  demand (value.object? keys) .schemaViolation

/-- A member that `_object` has found. -/
def decisionField (members : List (PyStr × Json)) (key : String) : Judged Json :=
  demand (Json.get? (py key) members) .schemaViolation

/-- `_text`. -/
def decisionText (value : Json) : Judged PyStr :=
  match value with
  | .str s => if strip s = [] ∨ 1000 < s.length then refuse .schemaViolation else .ok s
  | _ => refuse .schemaViolation

/-- `_texts`. -/
def decisionTexts (value : Json) : Judged (List PyStr) :=
  match value with
  | .arr items =>
      if 50 < items.length then refuse .schemaViolation
      else do
        let texts ← items.mapM decisionText
        if texts.Nodup then .ok texts else refuse .schemaViolation
  | _ => refuse .schemaViolation

/-- One element of `findings`. -/
def decisionFinding (value : Json) : Judged Fact := do
  let fields ← decisionObject value [py "key", py "value", py "source_id"]
  let key ← decisionText (← decisionField fields "key")
  let text ← decisionText (← decisionField fields "value")
  let source ← decisionText (← decisionField fields "source_id")
  .ok ⟨key, text, source⟩

/-- `ActionType(...)`. -/
def ActionType.parse (text : PyStr) : Judged ActionType :=
  demand ([ActionType.callTool, .respond, .completeTask, .requestMoreContext].find?
    fun kind => kind.value.val = text) .unauthorizedAction

/-- The payload of each action type. -/
def parsePayload (floatRepr : PyStr → PyStr) (kind : ActionType) (payload : Json) :
    Judged ModelDecision :=
  match kind with
  | .callTool => do
      let content ← decisionObject payload [py "tool_id", py "arguments"]
      let arguments ← decisionField content "arguments"
      match arguments with
      | .obj _ => do
          let tool ← decisionText (← decisionField content "tool_id")
          match OpaqueId.parse .tool tool with
          | .error e => .error (.domain e)
          | .ok toolId =>
              .ok (.callTool toolId (Json.dumps (.spaced false) (arguments.canonical floatRepr)))
      | _ => refuse .schemaViolation
  | .respond => do
      let content ← decisionObject payload [py "message"]
      .ok (.respond (← decisionText (← decisionField content "message")))
  | .requestMoreContext => do
      let content ← decisionObject payload [py "missing_fields"]
      let missing ← decisionTexts (← decisionField content "missing_fields")
      if missing = [] then refuse .schemaViolation else .ok (.requestMoreContext missing)
  | .completeTask => do
      let content ← decisionObject payload [py "findings", py "gaps"]
      match ← decisionField content "findings" with
      | .arr findings =>
          if findings.length < 1 ∨ 50 < findings.length then refuse .schemaViolation
          else do
            let facts ← findings.mapM decisionFinding
            .ok (.completeTask facts (← decisionTexts (← decisionField content "gaps")))
      | _ => refuse .schemaViolation

/-- `parse_decision`. -/
def parseDecision (floatRepr : PyStr → PyStr) (raw : PyStr) (maxChars : Nat) :
    Judged ModelDecision :=
  if strip raw = [] then refuse .emptyResponse
  else if maxChars < raw.length then refuse .responseTooLarge
  else
    match Json.loads true raw with
    -- The hook for repeated keys raises a model failure of its own.
    | .error .repeatedKey => refuse .schemaViolation
    | .error .syntaxError => refuse .malformedOutput
    | .ok decoded => do
        let item ← decisionObject decoded
          [py "schema_version", py "action_type", py "payload"]
        match ← decisionField item "schema_version" with
        | .int 1 => do
            let kind ← ActionType.parse (← decisionText (← decisionField item "action_type"))
            parsePayload floatRepr kind (← decisionField item "payload")
        | _ => refuse .unsupportedSchemaVersion

/-! ## Completions -/

/-- The texts of a list without repetition, in the order of `sorted`. -/
def sortedSet (texts : List PyStr) : List PyStr :=
  texts.dedup.insertionSort fun a b => Json.textLe a b = true

/-- `a == b` for sets given as lists. -/
def sameSet (a b : List PyStr) : Bool := a.all (· ∈ b) && b.all (· ∈ a)

/-- `validate_brief`. -/
def validateBrief (findings : List Fact) (gaps : List PyStr) (context : SuppliedContext)
    (toolEvidence knowledgeEvidence : List Fact) : Judged ResearchBrief :=
  let evidence := context.facts ++ toolEvidence ++ knowledgeEvidence
  let expectedGaps := context.requiredKeys.filter fun key =>
    (((evidence.filter (·.key = key)).map Fact.value).dedup.length ≠ 1 : Bool)
  let keys := findings.map Fact.key
  if ¬keys.Nodup ∨ sameSet gaps expectedGaps = false ∨
      sameSet keys (context.requiredKeys.filter (· ∉ expectedGaps)) = false then
    refuse .unsupportedCompletion
  else if findings.any (· ∉ evidence) then refuse .ungroundedFact
  else
    let join (separator : PyStr) (texts : List PyStr) := (texts.intersperse separator).flatten
    let summary := join (py "; ") (findings.map fun fact => fact.key ++ py ": " ++ fact.value)
    .ok {
      summary := if gaps = [] then summary
        else summary ++ py "; not supplied or conflicting: " ++ join (py ", ") gaps
      findings := findings
      gaps := gaps
      sourceReferences := sortedSet (findings.map Fact.sourceId) }

/-- The evidence `P` has no value for a key, or more than one. -/
def Unsettled (P : Fact → Prop) (key : PyStr) : Prop :=
  (∀ fact, P fact → fact.key ≠ key) ∨
    ∃ f g, P f ∧ P g ∧ f.key = key ∧ g.key = key ∧ f.value ≠ g.value

theorem sameSet_eq_true {a b : List PyStr} : sameSet a b = true ↔ ∀ key, key ∈ a ↔ key ∈ b := by
  simp only [sameSet, Bool.and_eq_true, List.all_eq_true, decide_eq_true_eq]
  constructor
  · rintro ⟨left, right⟩ key
    exact ⟨left key, right key⟩
  · intro same
    exact ⟨fun key => (same key).mp, fun key => (same key).mpr⟩

/-- One value is left of the values for a key exactly when the key is settled. -/
theorem settled_iff (evidence : List Fact) (key : PyStr) :
    ((evidence.filter (·.key = key)).map Fact.value).dedup.length = 1 ↔
      ¬Unsettled (· ∈ evidence) key := by
  have values : ∀ value, value ∈ ((evidence.filter (·.key = key)).map Fact.value).dedup ↔
      ∃ fact ∈ evidence, fact.key = key ∧ fact.value = value := by
    intro value
    simp [List.mem_dedup, List.mem_map, List.mem_filter, and_assoc]
  constructor
  · intro one
    obtain ⟨value, only⟩ := List.length_eq_one_iff.mp one
    rw [only] at values
    rintro (none | ⟨f, g, memF, memG, keyF, keyG, apart⟩)
    · obtain ⟨fact, mem, same, -⟩ := (values value).mp List.mem_cons_self
      exact none fact mem same
    · have first := List.mem_singleton.mp ((values f.value).mpr ⟨f, memF, keyF, rfl⟩)
      have second := List.mem_singleton.mp ((values g.value).mpr ⟨g, memG, keyG, rfl⟩)
      exact apart (first.trans second.symm)
  · intro settled
    simp only [Unsettled, not_or, not_forall, not_exists] at settled
    obtain ⟨⟨fact, mem, same⟩, unique⟩ := settled
    have same : fact.key = key := not_not.mp same
    have all : ∀ value ∈ ((evidence.filter (·.key = key)).map Fact.value).dedup,
        value = fact.value := by
      intro value here
      obtain ⟨other, memOther, sameOther, rfl⟩ := (values value).mp here
      by_contra apart
      exact unique other fact ⟨memOther, mem, sameOther, same, apart⟩
    have some := (values fact.value).mpr ⟨fact, mem, same, rfl⟩
    have nodup := List.nodup_dedup ((evidence.filter (·.key = key)).map Fact.value)
    revert all some nodup
    generalize ((evidence.filter (·.key = key)).map Fact.value).dedup = found
    intro all some nodup
    match found with
    | [] => cases some
    | [_] => rfl
    | a :: b :: rest =>
        have first := all a List.mem_cons_self
        have second := all b (List.mem_cons_of_mem _ List.mem_cons_self)
        rw [first, second] at nodup
        exact ((List.nodup_cons.mp nodup).1 List.mem_cons_self).elim

/-- What a validated brief has been checked for against the evidence `P`. -/
structure CheckedBrief (P : Fact → Prop) (requiredKeys : List PyStr) (brief : ResearchBrief) :
    Prop where
  distinct : (brief.findings.map Fact.key).Nodup
  grounded : ∀ fact ∈ brief.findings, P fact
  gaps : ∀ key, key ∈ brief.gaps ↔ key ∈ requiredKeys ∧ Unsettled P key
  keys : ∀ key, key ∈ brief.findings.map Fact.key ↔ key ∈ requiredKeys ∧ ¬Unsettled P key

theorem validateBrief_eq_ok {findings : List Fact} {gaps : List PyStr} {context : SuppliedContext}
    {toolEvidence knowledgeEvidence : List Fact} {brief : ResearchBrief}
    (h : validateBrief findings gaps context toolEvidence knowledgeEvidence = .ok brief) :
    CheckedBrief (· ∈ context.facts ++ toolEvidence ++ knowledgeEvidence) context.requiredKeys
      brief := by
  simp only [validateBrief] at h
  split at h
  · cases h
  · next checks =>
      split at h
      · cases h
      · next grounded =>
          cases h
          simp only [not_or, not_not, Bool.not_eq_false, sameSet_eq_true] at checks
          obtain ⟨distinct, sameGaps, sameKeys⟩ := checks
          have expected : ∀ key, key ∈ gaps ↔ key ∈ context.requiredKeys ∧
              Unsettled (· ∈ context.facts ++ toolEvidence ++ knowledgeEvidence) key := by
            intro key
            rw [sameGaps key, List.mem_filter, decide_eq_true_eq, ne_eq, settled_iff, not_not]
          refine ⟨distinct, ?_, expected, ?_⟩
          · intro fact mem
            by_contra absent
            exact grounded (List.any_eq_true.mpr ⟨fact, mem, decide_eq_true absent⟩)
          · intro key
            rw [sameKeys key, List.mem_filter, decide_eq_true_eq, ← sameGaps key, expected key]
            tauto

/-! ## Tool payloads -/

/-- A validation that fails with a tool error. -/
abbrev Validated (α : Type) := Except ToolError α

/-- A required option, or the tool error. -/
def requireTool {α : Type} (o : Option α) (code : ToolError) : Validated α :=
  match o with
  | some a => .ok a
  | none => .error code

/-- `bounded_json`. -/
def boundedJson (raw : PyStr) (maximum : Nat) (code : ToolError) : Validated Json := do
  let bytes ← requireTool (utf8 raw) code
  if maximum < raw.length ∨ maximum < bytes.length then .error code
  else
    match Json.loads true raw with
    | .ok value => .ok value
    | .error _ => .error code

/-- `_object` of the tool schemas. -/
def toolObject (value : Json) (keys : List PyStr) (code : ToolError) :
    Validated (List (PyStr × Json)) :=
  requireTool (value.object? keys) code

/-- A member that `_object` has found. -/
def toolField (members : List (PyStr × Json)) (key : String) (code : ToolError) :
    Validated Json :=
  requireTool (Json.get? (py key) members) code

/-- `_text` of the tool schemas. -/
def toolText (value : Json) (maximum : Nat) (code : ToolError) : Validated PyStr :=
  match value with
  | .str s =>
      if strip s = [] ∨ maximum < s.length ∨ utf8 s = none then .error code else .ok s
  | _ => .error code

/-- `validate_input`. -/
def validateInput (raw : PyStr) (version : ToolVersion) : Validated ToolInput := do
  let code := ToolError.validationError
  let value ← boundedJson raw version.maxInputBytes code
  match version.executorKind with
  | .sendFixtureMessage => do
      let item ← toolObject value [py "destination", py "message"] code
      let destination ← toolText (← toolField item "destination" code) 128 code
      let message ← toolText (← toolField item "message" code) 512 code
      .ok (.fixtureMessage destination message)
  | .companyLookup => do
      let item ← toolObject value [py "company_name"] code
      .ok (.companyLookup (← toolText (← toolField item "company_name" code) 128 code))
  | .sourceLookup => do
      let item ← toolObject value [py "source_id", py "keys"] code
      match ← toolField item "keys" code with
      | .arr keys =>
          if keys.length < 1 ∨ 10 < keys.length then .error code
          else do
            let parsed ← keys.mapM fun key => toolText key 128 code
            if ¬parsed.Nodup then .error code
            else do
              let source ← toolText (← toolField item "source_id" code) 128 code
              .ok (.sourceLookup source parsed)
      | _ => .error code

/-- `input_json`: the members in the order of their keys. -/
def inputJson (value : ToolInput) : PyStr :=
  let fields : Json :=
    match value with
    | .companyLookup name => .obj [(py "company_name", .str name)]
    | .fixtureMessage destination message =>
        .obj [(py "destination", .str destination), (py "message", .str message)]
    | .sourceLookup source keys =>
        .obj [(py "keys", .arr (keys.map Json.str)), (py "source_id", .str source)]
  fields.dumps (.compact false)

/-- `output_json`. -/
def outputJson (output : ToolOutput) : PyStr :=
  let fact (f : Fact) : Json :=
    .obj [(py "key", .str f.key), (py "value", .str f.value), (py "source_id", .str f.sourceId)]
  Json.dumps (.spaced true)
    (.obj [(py "schema_version", .int 1), (py "subject", .str output.subject),
      (py "facts", .arr (output.facts.map fact)), (py "notes", .str output.notes)])

/-- The subject that an output must name. -/
def ToolInput.subject : ToolInput → PyStr
  | companyLookup name => name
  | fixtureMessage destination _ => destination
  | sourceLookup source _ => source

/-- `Fact.source_id` of an output must not impersonate the runtime's own evidence. -/
def impersonatesEvidence (source : PyStr) : Bool :=
  (py "tool_receipt:").isPrefixOf source || (py "knowledge:").isPrefixOf source

/-- One row of `facts`. -/
def outputFact (request : ToolInput) (row : Json) (code : ToolError) : Validated Fact := do
  let fields ← toolObject row [py "key", py "value", py "source_id"] code
  let key ← toolText (← toolField fields "key" code) 128 code
  let value ← toolText (← toolField fields "value" code) 512 code
  let source ← toolText (← toolField fields "source_id" code) 128 code
  if impersonatesEvidence source then .error code
  else
    match request with
    | .sourceLookup requested keys =>
        if key ∉ keys ∨ source ≠ requested then .error code else .ok ⟨key, value, source⟩
    | _ => .ok ⟨key, value, source⟩

/-- The notes of an output: empty, or text within the bound. -/
def outputNotes (value : Json) (code : ToolError) : Validated PyStr :=
  match value with
  | .str notes =>
      if 512 < notes.length then .error code
      else if notes = [] then .ok notes
      else toolText value 512 code
  | _ => .error code

/-- `validate_output`. -/
def validateOutput (raw : PyStr) (version : ToolVersion) (request : ToolInput) :
    Validated ToolOutput := do
  let code := ToolError.malformedOutput
  if version.maxOutputBytes < raw.length then .error .outputTooLarge
  else do
    let bytes ← requireTool (utf8 raw) code
    if version.maxOutputBytes < bytes.length then .error .outputTooLarge
    else do
      let value ← boundedJson raw version.maxOutputBytes code
      let item ← toolObject value
        [py "schema_version", py "subject", py "facts", py "notes"] code
      match ← toolField item "schema_version" code with
      | .int 1 => do
          let subject ← toolText (← toolField item "subject" code) 128 code
          if subject ≠ request.subject then .error code
          else
            match ← toolField item "facts" code with
            | .arr rows =>
                -- Delivery receipts cannot invent factual grounding.
                if (request.isFixtureMessage = true ∧ rows.length ≠ 0) ∨ 10 < rows.length then
                  .error code
                else do
                  let facts ← rows.mapM fun row => outputFact request row code
                  if ¬facts.Nodup then .error code
                  else do
                    let notes ← outputNotes (← toolField item "notes" code) code
                    .ok ⟨subject, facts, notes⟩
            | _ => .error code
      | _ => .error code

end AgentCompanyOS.Runtime
