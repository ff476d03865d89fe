import AgentCompanyOS.Foundation.Printing
import AgentCompanyOS.Runtime.Decision

/-!
# What the decision parser may answer

`parse_decision` reads text that a model has written. It is meant to refuse what it does
not accept with a model failure of its own, and it does so everywhere but in one place: the
identifier of the requested tool is checked for being blank only, while the class of
identifiers also refuses outer white space, with an error of the domain.
-/

set_option autoImplicit false

namespace AgentCompanyOS.Runtime

open Foundation Domain

/-! ## Accepted decisions -/

/-- A text of a decision. -/
def BoundedText (s : PyStr) : Prop := strip s ≠ [] ∧ s.length ≤ 1000

/-- A list of texts of a decision. -/
def BoundedTexts (texts : List PyStr) : Prop := texts.length ≤ 50 ∧ ∀ s ∈ texts, BoundedText s

/-- The bounds on what a decision carries. -/
def ModelDecision.Bounded : ModelDecision → Prop
  | respond message => BoundedText message
  | requestMoreContext missing => BoundedTexts missing
  | completeTask findings gaps => findings.length ≤ 50 ∧
      (∀ fact ∈ findings, BoundedText fact.key ∧ BoundedText fact.value ∧
        BoundedText fact.sourceId) ∧ BoundedTexts gaps
  | callTool tool _ => BoundedText tool.value

/-- The members of the object that a text decodes to. -/
def Decodes (raw : PyStr) (item : List (PyStr × Json)) : Prop :=
  Json.loads true raw = .ok (.obj item)

/-- The arguments of a tool call are read back as the object that the model wrote: the two
have the same canonical form. -/
def SameArguments (floatRepr : PyStr → PyStr) (raw argumentsJson : PyStr) : Prop :=
  ∃ item content arguments, Decodes raw item ∧
    Json.get? (py "payload") item = some (.obj content) ∧
    Json.get? (py "arguments") content = some (.obj arguments) ∧
    ∀ unique, ∃ again, Json.loads unique argumentsJson = .ok (.obj again) ∧
      (Json.obj again).canonical floatRepr = (Json.obj arguments).canonical floatRepr

/-- What is promised of an accepted decision. -/
structure Accepted (floatRepr : PyStr → PyStr) (raw : PyStr) (d : ModelDecision) : Prop where
  kind : ∃ item, Decodes raw item ∧
    Json.get? (py "action_type") item = some (.str d.actionType.value.val)
  bounded : d.Bounded
  arguments : ∀ tool argumentsJson, d = .callTool tool argumentsJson →
    SameArguments floatRepr raw argumentsJson

/-- The answers that the parser is meant to give: a decision, or a model failure. -/
def InVocabulary (floatRepr : PyStr → PyStr) (raw : PyStr) : Judged ModelDecision → Prop
  | .ok d => Accepted floatRepr raw d
  | .error e => ∃ code, e = .model code

/-- A text that passes every check of the parser and calls a tool whose identifier is not
blank but has outer white space. -/
structure SpacedCall (raw : PyStr) (maxChars : Nat) (item content arguments : List (PyStr × Json))
    (tool : PyStr) : Prop where
  visible : strip raw ≠ []
  short : raw.length ≤ maxChars
  decodes : Decodes raw item
  keys : (Json.obj item).object? [py "schema_version", py "action_type", py "payload"] = some item
  schema : Json.get? (py "schema_version") item = some (.int 1)
  call : Json.get? (py "action_type") item = some (.str (py "call_tool"))
  payload : Json.get? (py "payload") item = some (.obj content)
  members : (Json.obj content).object? [py "tool_id", py "arguments"] = some content
  object : Json.get? (py "arguments") content = some (.obj arguments)
  name : Json.get? (py "tool_id") content = some (.str tool)
  bounded : BoundedText tool
  spaced : strip tool ≠ tool

/-- Whether a text calls a tool under an identifier with outer white space. -/
def NamesSpacedTool (raw : PyStr) (maxChars : Nat) : Prop :=
  ∃ item content arguments tool, SpacedCall raw maxChars item content arguments tool

/-! ## The parts of the parser -/

section Parts

variable {α β : Type} {value : Json} {e : Exc}

/-- A part of the parser that fails with model failures only. -/
def Refuses (m : Judged α) : Prop := ∀ e, m = .error e → ∃ code, e = .model code

theorem refuses_ok (a : α) : Refuses (.ok a : Judged α) := nofun

theorem refuses_refuse (code : ModelCode) : Refuses (refuse code : Judged α) := by
  rintro e ⟨⟩
  exact ⟨code, rfl⟩

theorem refuses_demand (o : Option α) (code : ModelCode) : Refuses (demand o code) := by
  cases o with
  | none => exact refuses_refuse code
  | some a => exact refuses_ok a

theorem refuses_bind {m : Judged α} {f : α → Judged β} (first : Refuses m)
    (rest : ∀ a, m = .ok a → Refuses (f a)) : Refuses (m >>= f) := by
  intro e h
  cases answered : m with
  | error e' =>
      rw [answered] at h
      cases h
      exact first e answered
  | ok a =>
      rw [answered] at h
      exact rest a answered e h

theorem judged_error {m : Judged α} {f : α → Judged β} (h : (m >>= f) = .error e) :
    m = .error e ∨ ∃ a, m = .ok a ∧ f a = .error e := by
  cases m with
  | error e' =>
      cases h
      exact .inl rfl
  | ok a => exact .inr ⟨a, rfl, h⟩

theorem refuses_mapM {f : α → Judged β} (xs : List α) (each : ∀ a ∈ xs, Refuses (f a)) :
    Refuses (xs.mapM f) := by
  induction xs with
  | nil => exact refuses_ok []
  | cons a xs ih =>
      obtain ⟨first, others⟩ := List.forall_mem_cons.mp each
      rw [List.mapM_cons]
      exact refuses_bind first fun _ _ => refuses_bind (ih others) fun _ _ => refuses_ok _

theorem refuses_decisionText (value : Json) : Refuses (decisionText value) := by
  cases value with
  | str s =>
      simp only [decisionText]
      split
      · exact refuses_refuse _
      · exact refuses_ok s
  | _ => exact refuses_refuse _

theorem decisionText_eq_ok {s : PyStr} (h : decisionText value = .ok s) :
    value = .str s ∧ BoundedText s := by
  cases value with
  | str t =>
      simp only [decisionText] at h
      split at h
      · cases h
      · next passes =>
          cases h
          simp only [not_or, Nat.not_lt] at passes
          exact ⟨rfl, passes⟩
  | _ => cases h

theorem decisionText_of_bounded {s : PyStr} (h : BoundedText s) :
    decisionText (.str s) = .ok s := by
  have passes : ¬(strip s = [] ∨ 1000 < s.length) := not_or.mpr ⟨h.1, Nat.not_lt.mpr h.2⟩
  simp only [decisionText]
  rw [if_neg passes]

theorem refuses_decisionTexts (value : Json) : Refuses (decisionTexts value) := by
  cases value with
  | arr items =>
      simp only [decisionTexts]
      split
      · exact refuses_refuse _
      · refine refuses_bind (refuses_mapM items fun item _ => refuses_decisionText item) ?_
        intro texts _
        split
        · exact refuses_ok texts
        · exact refuses_refuse _
  | _ => exact refuses_refuse _

theorem length_mapM_ok {f : α → Judged β} {xs : List α} {ys : List β}
    (h : xs.mapM f = .ok ys) : ys.length = xs.length := by
  induction xs generalizing ys with
  | nil =>
      cases h
      rfl
  | cons a xs ih =>
      rw [List.mapM_cons] at h
      obtain ⟨b, -, h⟩ := except_bind_ok h
      obtain ⟨bs, others, h⟩ := except_bind_ok h
      cases h
      exact congrArg (· + 1) (ih others)

theorem decisionTexts_eq_ok {texts : List PyStr} (h : decisionTexts value = .ok texts) :
    BoundedTexts texts := by
  cases value with
  | arr items =>
      simp only [decisionTexts] at h
      split at h
      · cases h
      · next short =>
          obtain ⟨found, read, h⟩ := except_bind_ok h
          split at h
          · cases h
            have length := length_mapM_ok read
            refine ⟨by omega, fun s mem => ?_⟩
            obtain ⟨item, -, text⟩ := (mem_mapM_ok read s).mp mem
            exact (decisionText_eq_ok text).2
          · cases h
  | _ => cases h

theorem refuses_decisionFinding (value : Json) : Refuses (decisionFinding value) :=
  refuses_bind (refuses_demand _ _) fun _ _ =>
    refuses_bind (refuses_demand _ _) fun _ _ => refuses_bind (refuses_decisionText _) fun _ _ =>
    refuses_bind (refuses_demand _ _) fun _ _ => refuses_bind (refuses_decisionText _) fun _ _ =>
    refuses_bind (refuses_demand _ _) fun _ _ => refuses_bind (refuses_decisionText _) fun _ _ =>
    refuses_ok _

theorem decisionFinding_eq_ok {fact : Fact} (h : decisionFinding value = .ok fact) :
    BoundedText fact.key ∧ BoundedText fact.value ∧ BoundedText fact.sourceId := by
  obtain ⟨_, -, h⟩ := except_bind_ok h
  obtain ⟨_, -, h⟩ := except_bind_ok h
  obtain ⟨key, first, h⟩ := except_bind_ok h
  obtain ⟨_, -, h⟩ := except_bind_ok h
  obtain ⟨text, second, h⟩ := except_bind_ok h
  obtain ⟨_, -, h⟩ := except_bind_ok h
  obtain ⟨source, third, h⟩ := except_bind_ok h
  cases h
  exact ⟨(decisionText_eq_ok first).2, (decisionText_eq_ok second).2, (decisionText_eq_ok third).2⟩

end Parts

/-! ## The parser -/

section Parser

variable {floatRepr : PyStr → PyStr} {raw : PyStr} {maxChars : Nat} {d : ModelDecision}

theorem decisionObject_eq_ok {value : Json} {keys : List PyStr} {members : List (PyStr × Json)}
    (h : decisionObject value keys = .ok members) :
    value = .obj members ∧ (Json.obj members).object? keys = some members := by
  cases value with
  | obj found =>
      unfold decisionObject at h
      cases same : (Json.obj found).object? keys with
      | none =>
          rw [same] at h
          cases h
      | some members' =>
          rw [same] at h
          cases h
          have own : found = members := by
            simp only [Json.object?] at same
            split at same
            · exact Option.some.inj same
            · cases same
          rw [own] at same
          exact ⟨congrArg Json.obj own, same⟩
  | _ => cases h

theorem decisionField_eq_ok {value : Json} {members : List (PyStr × Json)} {key : String}
    (h : decisionField members key = .ok value) : Json.get? (py key) members = some value := by
  unfold decisionField at h
  cases found : Json.get? (py key) members with
  | none =>
      rw [found] at h
      cases h
  | some x =>
      rw [found] at h
      cases h
      rfl

theorem parse_actionType {text : PyStr} {kind : ActionType} (h : ActionType.parse text = .ok kind) :
    kind.value.val = text := by
  unfold ActionType.parse at h
  cases found : [ActionType.callTool, .respond, .completeTask, .requestMoreContext].find?
      fun kind => kind.value.val = text with
  | none =>
      rw [found] at h
      cases h
  | some other =>
      rw [found] at h
      cases h
      simpa using List.find?_some found

theorem refuses_actionType (text : PyStr) : Refuses (ActionType.parse text) :=
  refuses_demand _ _

/-- What a payload is accepted as: a decision of its kind, within the bounds. -/
theorem parsePayload_eq_ok {kind : ActionType} {payload : Json}
    (h : parsePayload floatRepr kind payload = .ok d) :
    d.actionType = kind ∧ d.Bounded ∧ ∀ tool argumentsJson, d = .callTool tool argumentsJson →
      ∃ content arguments, payload = .obj content ∧
        Json.get? (py "arguments") content = some (.obj arguments) ∧
        argumentsJson = Json.dumps (.spaced false) ((Json.obj arguments).canonical floatRepr) := by
  cases kind with
  | callTool =>
      obtain ⟨content, object, rest⟩ := except_bind_ok h
      clear h
      obtain ⟨rfl, -⟩ := decisionObject_eq_ok object
      obtain ⟨arguments, field, body⟩ := except_bind_ok rest
      have found := decisionField_eq_ok field
      split at body
      · next members =>
          obtain ⟨_, -, body⟩ := except_bind_ok body
          obtain ⟨tool, text, body⟩ := except_bind_ok body
          obtain ⟨-, bounded⟩ := decisionText_eq_ok text
          cases parsed : OpaqueId.parse .tool tool with
          | error e =>
              rw [parsed] at body
              cases body
          | ok toolId =>
              rw [parsed] at body
              cases body
              have same : toolId.value = tool := by
                unfold OpaqueId.parse at parsed
                split at parsed
                · cases parsed
                  rfl
                · cases parsed
              refine ⟨rfl, ?_, ?_⟩
              · show BoundedText toolId.value
                rw [same]
                exact bounded
              · intro tool' argumentsJson call
                cases call
                exact ⟨content, members, rfl, found, rfl⟩
      · cases body
  | respond =>
      obtain ⟨content, object, h⟩ := except_bind_ok h
      obtain ⟨_, field, h⟩ := except_bind_ok h
      obtain ⟨message, text, h⟩ := except_bind_ok h
      cases h
      exact ⟨rfl, (decisionText_eq_ok text).2, nofun⟩
  | requestMoreContext =>
      obtain ⟨content, object, h⟩ := except_bind_ok h
      obtain ⟨_, field, h⟩ := except_bind_ok h
      obtain ⟨missing, texts, h⟩ := except_bind_ok h
      split at h
      · cases h
      · cases h
        exact ⟨rfl, decisionTexts_eq_ok texts, nofun⟩
  | completeTask =>
      obtain ⟨content, object, h⟩ := except_bind_ok h
      obtain ⟨_, field, h⟩ := except_bind_ok h
      split at h
      · next findings =>
          split at h
          · cases h
          · next count =>
              obtain ⟨facts, read, h⟩ := except_bind_ok h
              obtain ⟨_, -, h⟩ := except_bind_ok h
              obtain ⟨gaps, texts, h⟩ := except_bind_ok h
              cases h
              have length := length_mapM_ok read
              refine ⟨rfl, ⟨by omega, fun fact mem => ?_, decisionTexts_eq_ok texts⟩, nofun⟩
              obtain ⟨item, -, parsed⟩ := (mem_mapM_ok read fact).mp mem
              exact decisionFinding_eq_ok parsed
      · cases h

/-- How a payload can be refused with an error that is no model failure. -/
theorem parsePayload_eq_domain {kind : ActionType} {payload : Json} {e : Exc}
    (h : parsePayload floatRepr kind payload = .error e) :
    (∃ code, e = .model code) ∨
      kind = .callTool ∧ ∃ content arguments tool, payload = .obj content ∧
        (Json.obj content).object? [py "tool_id", py "arguments"] = some content ∧
        Json.get? (py "arguments") content = some (.obj arguments) ∧
        Json.get? (py "tool_id") content = some (.str tool) ∧ BoundedText tool ∧
        strip tool ≠ tool := by
  have member : ∀ members key, Refuses (decisionField members key) := fun _ _ => refuses_demand _ _
  cases kind with
  | callTool =>
      obtain failed | ⟨content, object, rest⟩ := judged_error h
      · exact .inl (refuses_demand _ _ e failed)
      · clear h
        obtain ⟨rfl, keys⟩ := decisionObject_eq_ok object
        obtain failed | ⟨arguments, field, body⟩ := judged_error rest
        · exact .inl (member _ _ e failed)
        · have found := decisionField_eq_ok field
          split at body
          · next arguments =>
              obtain failed | ⟨value, field', inner⟩ := judged_error body
              · exact .inl (member _ _ e failed)
              · obtain failed | ⟨tool, text, last⟩ := judged_error inner
                · exact .inl (refuses_decisionText _ e failed)
                · obtain ⟨rfl, bounded⟩ := decisionText_eq_ok text
                  have named := decisionField_eq_ok field'
                  apply Or.inr
                  refine ⟨rfl, content, arguments, tool, rfl, keys, found, named, bounded, ?_⟩
                  -- A well-formed identifier is accepted.
                  intro same
                  have valid : OpaqueId.Valid tool := by
                    refine ⟨?_, same⟩
                    rintro rfl
                    exact bounded.1 rfl
                  have parsed : OpaqueId.parse .tool tool = .ok ⟨tool, valid⟩ := by
                    unfold OpaqueId.parse
                    rw [dif_pos valid]
                  rw [parsed] at last
                  cases last
          · exact .inl (refuses_refuse _ e body)
  | respond =>
      apply Or.inl
      exact refuses_bind (refuses_demand _ _) (fun content _ => refuses_bind (member _ _)
        fun value _ => refuses_bind (refuses_decisionText value) fun _ _ => refuses_ok _) e h
  | requestMoreContext =>
      apply Or.inl
      refine refuses_bind (refuses_demand _ _) (fun content _ => refuses_bind (member _ _)
        fun value _ => refuses_bind (refuses_decisionTexts value) fun missing _ => ?_) e h
      split
      · exact refuses_refuse _
      · exact refuses_ok _
  | completeTask =>
      apply Or.inl
      refine refuses_bind (refuses_demand _ _) (fun content _ => refuses_bind (member _ _)
        fun value _ => ?_) e h
      split
      · next findings _ =>
          split
          · exact refuses_refuse _
          · exact refuses_bind (refuses_mapM findings fun _ _ => refuses_decisionFinding _)
              fun _ _ => refuses_bind (member _ _) fun value _ =>
              refuses_bind (refuses_decisionTexts value) fun _ _ => refuses_ok _
      · exact refuses_refuse _

/-- What the whole parser accepts. -/
theorem parseDecision_eq_ok (writer : Json.FloatWriter floatRepr)
    (h : parseDecision floatRepr raw maxChars = .ok d) : Accepted floatRepr raw d := by
  unfold parseDecision at h
  split at h
  · cases h
  split at h
  · cases h
  split at h
  · cases h
  · cases h
  · next decoded read =>
      obtain ⟨item, object, rest⟩ := except_bind_ok h
      clear h
      obtain ⟨rfl, -⟩ := decisionObject_eq_ok object
      obtain ⟨schema, -, body⟩ := except_bind_ok rest
      split at body
      · obtain ⟨_, field, body⟩ := except_bind_ok body
        obtain ⟨text, read', body⟩ := except_bind_ok body
        obtain ⟨kind, parsed, body⟩ := except_bind_ok body
        obtain ⟨payload, field', last⟩ := except_bind_ok body
        obtain ⟨rfl, -⟩ := decisionText_eq_ok read'
        obtain ⟨rfl, bounded, call⟩ := parsePayload_eq_ok last
        have printable := (Json.loads_eq_ok read).1
        refine ⟨⟨item, read, ?_⟩, bounded, ?_⟩
        · rw [parse_actionType parsed]
          exact decisionField_eq_ok field
        · intro tool argumentsJson same
          obtain ⟨content, arguments, rfl, found, rfl⟩ := call tool argumentsJson same
          have named := decisionField_eq_ok field'
          have own := Json.printable_get? (Json.printable_get? printable named) found
          refine ⟨item, content, arguments, read, named, found, fun unique => ?_⟩
          have printable' : Json.Printable unique (.obj arguments) := Json.printable_weaken _ own
          have again := Json.loads_canonical Json.plain_spaced writer printable'
          exact ⟨_, again.1, again.2⟩
      · cases body

/-- The error of the domain is that of an identifier with outer white space. -/
theorem parseDecision_eq_error {e : Exc} (h : parseDecision floatRepr raw maxChars = .error e) :
    (∃ code, e = .model code) ∨ NamesSpacedTool raw maxChars := by
  unfold parseDecision at h
  split at h
  · exact .inl (refuses_refuse _ e h)
  next visible =>
  split at h
  · exact .inl (refuses_refuse _ e h)
  next short =>
  split at h
  · exact .inl (refuses_refuse _ e h)
  · exact .inl (refuses_refuse _ e h)
  · next decoded read =>
      have member : ∀ members key, Refuses (decisionField members key) :=
        fun _ _ => refuses_demand _ _
      obtain failed | ⟨item, object, rest⟩ := judged_error h
      · exact .inl (refuses_demand _ _ e failed)
      clear h
      obtain ⟨rfl, keys⟩ := decisionObject_eq_ok object
      obtain failed | ⟨schema, version, body⟩ := judged_error rest
      · exact .inl (member _ _ e failed)
      split at body
      · obtain failed | ⟨_, field, body⟩ := judged_error body
        · exact .inl (member _ _ e failed)
        obtain failed | ⟨text, read', body⟩ := judged_error body
        · exact .inl (refuses_decisionText _ e failed)
        obtain failed | ⟨kind, parsed, body⟩ := judged_error body
        · exact .inl (refuses_actionType _ e failed)
        obtain failed | ⟨payload, field', last⟩ := judged_error body
        · exact .inl (member _ _ e failed)
        obtain ⟨rfl, -⟩ := decisionText_eq_ok read'
        obtain model | ⟨rfl, content, arguments, tool, rfl, members, object', name, bounded,
          spaced⟩ := parsePayload_eq_domain last
        · exact .inl model
        · apply Or.inr
          refine ⟨item, content, arguments, tool, visible, Nat.not_lt.mp short, read, keys,
            decisionField_eq_ok version, ?_, decisionField_eq_ok field', members, object', name,
            bounded, spaced⟩
          have call := decisionField_eq_ok field
          rw [← parse_actionType parsed] at call
          exact call
      · exact .inl (refuses_refuse _ e body)

/-- A call of a tool with outer white space is refused with an error of the domain. -/
theorem parseDecision_spaced (h : NamesSpacedTool raw maxChars) :
    ∃ e, parseDecision floatRepr raw maxChars = .error (.domain e) := by
  obtain ⟨item, content, arguments, tool, spaced⟩ := h
  have invalid : ¬OpaqueId.Valid tool := fun valid => spaced.spaced valid.2
  have text := decisionText_of_bounded spaced.bounded
  have kind : decisionText (.str (py "call_tool")) = .ok (py "call_tool") :=
    decisionText_of_bounded ⟨by decide, by decide⟩
  have parsed : ActionType.parse (py "call_tool") = .ok .callTool := rfl
  have refused : OpaqueId.parse .tool tool =
      .error (.invariantViolation "identifier_non_empty" [("identifier_type", py "ToolId")]) := by
    unfold OpaqueId.parse
    rw [dif_neg invalid]
    rfl
  refine ⟨.invariantViolation "identifier_non_empty" [("identifier_type", py "ToolId")], ?_⟩
  unfold parseDecision
  rw [if_neg spaced.visible, if_neg (Nat.not_lt.mpr spaced.short), show Json.loads true raw = _ from
    spaced.decodes]
  simp only [decisionObject, spaced.keys, decisionField, spaced.schema, spaced.call,
    spaced.payload, demand, bind, Except.bind, kind, parsed, parsePayload, spaced.members,
    spaced.object, spaced.name, text, refused]

end Parser

/-! ## The vocabulary of the parser -/

/-- The parser stays within its vocabulary for every text but those that call a tool under an
identifier with outer white space. -/
theorem parse_vocabulary (floatRepr : PyStr → PyStr) (writer : Json.FloatWriter floatRepr)
    (raw : PyStr) (maxChars : Nat) (_positive : 0 < maxChars) :
    InVocabulary floatRepr raw (parseDecision floatRepr raw maxChars) ↔
      ¬NamesSpacedTool raw maxChars := by
  constructor
  · intro inside spaced
    obtain ⟨e, refused⟩ : ∃ e, parseDecision floatRepr raw maxChars = .error (.domain e) :=
      parseDecision_spaced spaced
    rw [refused] at inside
    obtain ⟨code, same⟩ := inside
    cases same
  · intro plain
    cases answered : parseDecision floatRepr raw maxChars with
    | ok d => exact parseDecision_eq_ok writer answered
    | error e => exact (parseDecision_eq_error answered).resolve_right plain

/-- Texts of floats that are left as they are. -/
theorem floatWriter_id : Json.FloatWriter id := ⟨id, fun _ => rfl⟩

/-- A call of the tool `lookup` with a float among its arguments. -/
def plainCall : PyStr :=
  py "\x7b\"schema_version\": 1, \"action_type\": \"call_tool\", \"payload\": " ++
    py "\x7b\"tool_id\": \"lookup\", \"arguments\": \x7b\"n\": 1.5\x7d\x7d\x7d"

/-- The same call with a space before the name of the tool. -/
def spacedCall : PyStr :=
  py "\x7b\"schema_version\": 1, \"action_type\": \"call_tool\", \"payload\": " ++
    py "\x7b\"tool_id\": \" lookup\", \"arguments\": \x7b\"n\": 1.5\x7d\x7d\x7d"

theorem plain_call_vocabulary : InVocabulary id plainCall (parseDecision id plainCall 8000) ↔
    ¬NamesSpacedTool plainCall 8000 :=
  parse_vocabulary id floatWriter_id plainCall 8000 (by decide)

/-- Whether an error of the domain leaves the parser. -/
def escapes (answer : Judged ModelDecision) : Bool :=
  match answer with
  | .error (.domain _) => true
  | _ => false

theorem outside_of_escapes {floatRepr : PyStr → PyStr} {raw : PyStr}
    {answer : Judged ModelDecision} (h : escapes answer = true) :
    ¬InVocabulary floatRepr raw answer := by
  intro inside
  cases answer with
  | ok d => cases h
  | error e =>
      obtain ⟨code, rfl⟩ := inside
      cases h

/-- The space before the name of the tool makes the parser raise an error of the domain. -/
theorem spaced_call_escapes :
    escapes (parseDecision id spacedCall 8000) = true ∧
      ¬InVocabulary id spacedCall (parseDecision id spacedCall 8000) := by
  have escaped : escapes (parseDecision id spacedCall 8000) = true := by decide +kernel
  exact ⟨escaped, outside_of_escapes escaped⟩

end AgentCompanyOS.Runtime
