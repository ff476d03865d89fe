import AgentCompanyOS.Foundation.Printing
import AgentCompanyOS.Runtime.Release

/-!
# The normal form of tool inputs

An accepted input is printed by `input_json` in one normal form, whatever the spelling of
the text that it was read from. The normal form is accepted again and gives the same
input, it determines the input, and it has no more bytes than the text. The three later
checks of the bytes of an input, in the intent, in the receipt and at the resumption of an
approved intent, therefore refuse no input that was accepted.
-/

set_option autoImplicit false

namespace AgentCompanyOS.Runtime

open Foundation Domain

/-! ## Texts without surrogates -/

/-- A text that has a UTF-8 form. -/
def Encodable (s : PyStr) : Prop := s.any isSurrogate = false

instance (s : PyStr) : Decidable (Encodable s) := inferInstanceAs (Decidable (_ = _))

theorem utf8_of_encodable {s : PyStr} (h : Encodable s) : utf8 s = some (s.flatMap utf8Bytes) := by
  unfold Encodable at h
  simp [utf8, h]

theorem encodable_of_utf8 {s : PyStr} (h : utf8 s ≠ none) : Encodable s := by
  unfold utf8 at h
  split at h
  · exact absurd rfl h
  · next clean => exact Bool.eq_false_iff.mpr clean

theorem encodable_append {s t : PyStr} : Encodable (s ++ t) ↔ Encodable s ∧ Encodable t := by
  simp [Encodable]

theorem encodable_cons {c : CodePoint} {s : PyStr} :
    Encodable (c :: s) ↔ isSurrogate c = false ∧ Encodable s := by
  simp [Encodable]

/-- No escape makes a surrogate. -/
theorem encodable_escape {c : CodePoint} (clean : isSurrogate c = false) :
    Encodable (Json.escape false c) := by
  have digit : ∀ n < 16, isSurrogate (Json.hexDigit n) = false := by decide
  unfold Json.escape
  split_ifs with _ _ _ _ _ _ _ _ ascii
  all_goals first
    | exact absurd ascii.1 (by decide)
    | skip
  · decide
  · decide
  · decide
  · decide
  · decide
  · decide
  · decide
  · have small : ∀ m, isSurrogate (Json.hexDigit (m % 16)) = false := fun m =>
      digit _ (Nat.mod_lt m (by decide))
    simp only [Json.unicodeEscape, encodable_cons, small]
    decide
  · simpa [Encodable] using clean

theorem encodable_quote {s : PyStr} (clean : Encodable s) : Encodable (Json.quote false s) := by
  have body : Encodable (s.flatMap (Json.escape false)) := by
    induction s with
    | nil => rfl
    | cons c s ih =>
        obtain ⟨first, others⟩ := encodable_cons.mp clean
        rw [List.flatMap_cons, encodable_append]
        exact ⟨encodable_escape first, ih others⟩
  unfold Json.quote
  simp only [encodable_append, encodable_cons]
  exact ⟨⟨by decide, body⟩, by decide, by decide⟩

/-! ## Accepted inputs -/

/-- The members of `input_json`, in the order of their keys. -/
def ToolInput.members : ToolInput → List (PyStr × Json)
  | companyLookup name => [(py "company_name", .str name)]
  | fixtureMessage destination message =>
      [(py "destination", .str destination), (py "message", .str message)]
  | sourceLookup source keys =>
      [(py "keys", .arr (keys.map Json.str)), (py "source_id", .str source)]

theorem inputJson_eq (x : ToolInput) :
    inputJson x = Json.dumps (.compact false) (.obj x.members) := by
  cases x <;> rfl

/-- What `_text` of the tool schemas asks for. -/
structure Within (s : PyStr) (maximum : Nat) : Prop where
  visible : strip s ≠ []
  short : s.length ≤ maximum
  encodable : Encodable s

/-- What the schema of an executor kind asks for. -/
def ToolInput.Fits (kind : ExecutorKind) : ToolInput → Prop
  | companyLookup name => kind = .companyLookup ∧ Within name 128
  | fixtureMessage destination message =>
      kind = .sendFixtureMessage ∧ Within destination 128 ∧ Within message 512
  | sourceLookup source keys =>
      kind = .sourceLookup ∧ (1 ≤ keys.length ∧ keys.length ≤ 10) ∧
        (∀ key ∈ keys, Within key 128) ∧ keys.Nodup ∧ Within source 128

section Reading

variable {value : Json} {code : ToolError} {maximum : Nat} {s : PyStr}

theorem toolText_eq_ok (h : toolText value maximum code = .ok s) :
    value = .str s ∧ Within s maximum := by
  cases value with
  | str t =>
      simp only [toolText] at h
      split at h
      · cases h
      · next passes =>
          cases h
          simp only [not_or, Nat.not_lt] at passes
          exact ⟨rfl, passes.1, passes.2.1, encodable_of_utf8 passes.2.2⟩
  | _ => cases h

theorem toolText_of_within (h : Within s maximum) : toolText (.str s) maximum code = .ok s := by
  have encoded : utf8 s ≠ none := by
    rw [utf8_of_encodable h.encodable]
    exact Option.some_ne_none _
  simp [toolText, h.visible, Nat.not_lt.mpr h.short, encoded]

theorem toolTexts_eq_ok {values : List Json} {texts : List PyStr}
    (h : values.mapM (fun value => toolText value maximum code) = .ok texts) :
    values = texts.map Json.str ∧ ∀ s ∈ texts, Within s maximum := by
  induction values generalizing texts with
  | nil =>
      cases h
      exact ⟨rfl, fun _ mem => (List.not_mem_nil mem).elim⟩
  | cons value values ih =>
      rw [List.mapM_cons] at h
      obtain ⟨first, read, h⟩ := except_bind_ok h
      obtain ⟨others, rest, h⟩ := except_bind_ok h
      cases h
      obtain ⟨rfl, within⟩ := toolText_eq_ok read
      obtain ⟨rfl, all⟩ := ih rest
      exact ⟨rfl, List.forall_mem_cons.mpr ⟨within, all⟩⟩

theorem toolTexts_of_within {texts : List PyStr} (h : ∀ s ∈ texts, Within s maximum) :
    (texts.map Json.str).mapM (fun value => toolText value maximum code) = .ok texts := by
  induction texts with
  | nil => rfl
  | cons s texts ih =>
      obtain ⟨first, others⟩ := List.forall_mem_cons.mp h
      rw [List.map_cons, List.mapM_cons, toolText_of_within first, ih others]
      rfl

theorem boundedJson_eq_ok {raw : PyStr} {maximum : Nat}
    (h : boundedJson raw maximum code = .ok value) :
    (∃ given, utf8 raw = some given ∧ given.length ≤ maximum) ∧
      Json.loads true raw = .ok value := by
  obtain ⟨given, encoded, h⟩ := except_bind_ok h
  have encoded : utf8 raw = some given := by
    cases text : utf8 raw with
    | none =>
        rw [text] at encoded
        cases encoded
    | some bytes =>
        rw [text] at encoded
        cases encoded
        rfl
  split at h
  · cases h
  · next small =>
      simp only [not_or, Nat.not_lt] at small
      cases read : Json.loads true raw with
      | error e =>
          rw [read] at h
          cases h
      | ok found =>
          rw [read] at h
          cases h
          exact ⟨⟨given, encoded, small.2⟩, rfl⟩

theorem toolObject_eq_ok {keys : List PyStr} {members : List (PyStr × Json)}
    (h : toolObject value keys code = .ok members) :
    value = .obj members ∧ ∀ k ∈ members.map Prod.fst, k ∈ keys := by
  cases value with
  | obj found =>
      simp only [toolObject, Json.object?] at h
      split at h
      · next same =>
          cases h
          exact ⟨rfl, same.1⟩
      · cases h
  | _ => cases h

/-- The members of an object with exactly the keys that are asked for. -/
theorem toolObject_of_keys {keys : List PyStr} {members : List (PyStr × Json)}
    (same : ∀ k, k ∈ members.map Prod.fst ↔ k ∈ keys) :
    toolObject (.obj members) keys code = .ok members := by
  have both : (∀ k ∈ members.map Prod.fst, k ∈ keys) ∧ ∀ k ∈ keys, k ∈ members.map Prod.fst :=
    ⟨fun k => (same k).mp, fun k => (same k).mpr⟩
  unfold toolObject Json.object?
  dsimp only
  rw [if_pos both]
  rfl

theorem toolField_eq_ok {members : List (PyStr × Json)} {key : String}
    (h : toolField members key code = .ok value) :
    Json.get? (py key) members = some value := by
  unfold toolField requireTool at h
  cases found : Json.get? (py key) members with
  | none =>
      rw [found] at h
      cases h
  | some x =>
      rw [found] at h
      cases h
      rfl

end Reading

/-! ## The normal form -/

section Normal

variable {version : ToolVersion} {raw : PyStr} {x : ToolInput}

theorem members_distinct (x : ToolInput) : (x.members.map Prod.fst).Nodup := by
  cases x <;> simp only [ToolInput.members, List.map_cons, List.map_nil] <;> decide

/-- An accepted text spells the members of its input, in some order, and the input fits the
schema of the executor. -/
theorem validateInput_eq_ok (h : validateInput raw version = .ok x) :
    (∃ given, utf8 raw = some given ∧ given.length ≤ version.maxInputBytes) ∧
      (∃ members, Json.loads true raw = .ok (.obj members) ∧ members.Perm x.members) ∧
      x.Fits version.executorKind := by
  unfold validateInput at h
  obtain ⟨value, bounded, h⟩ := except_bind_ok h
  obtain ⟨size, read⟩ := boundedJson_eq_ok bounded
  have distinct : ∀ {members}, value = .obj members → (members.map Prod.fst).Nodup := by
    rintro members rfl
    exact (Json.loads_eq_ok read).1.1 rfl
  -- The members are those of the input as soon as their keys and values are.
  have spelled : ∀ {members}, value = .obj members →
      (∀ k ∈ members.map Prod.fst, k ∈ x.members.map Prod.fst) →
      (∀ member ∈ x.members, Json.get? member.1 members = some member.2) →
      ∃ members, Json.loads true raw = .ok (.obj members) ∧ members.Perm x.members := by
    intro members object keys values
    refine ⟨members, object ▸ read, ?_⟩
    exact Json.perm_of_get? (distinct object) (members_distinct x) keys values
  cases kind : version.executorKind with
  | sendFixtureMessage =>
      rw [kind] at h
      obtain ⟨members, object, body⟩ := except_bind_ok h
      clear h
      obtain ⟨rfl, keys⟩ := toolObject_eq_ok object
      obtain ⟨_, first, body⟩ := except_bind_ok body
      obtain ⟨destination, text, body⟩ := except_bind_ok body
      obtain ⟨_, second, body⟩ := except_bind_ok body
      obtain ⟨message, text', body⟩ := except_bind_ok body
      cases body
      obtain ⟨rfl, within⟩ := toolText_eq_ok text
      obtain ⟨rfl, within'⟩ := toolText_eq_ok text'
      refine ⟨size, spelled rfl keys ?_, rfl, within, within'⟩
      intro member mem
      rcases List.mem_cons.mp mem with rfl | mem
      · exact toolField_eq_ok first
      · rw [List.mem_singleton.mp mem]
        exact toolField_eq_ok second
  | companyLookup =>
      rw [kind] at h
      obtain ⟨members, object, body⟩ := except_bind_ok h
      clear h
      obtain ⟨rfl, keys⟩ := toolObject_eq_ok object
      obtain ⟨_, first, body⟩ := except_bind_ok body
      obtain ⟨name, text, body⟩ := except_bind_ok body
      cases body
      obtain ⟨rfl, within⟩ := toolText_eq_ok text
      refine ⟨size, spelled rfl keys ?_, rfl, within⟩
      intro member mem
      rw [List.mem_singleton.mp mem]
      exact toolField_eq_ok first
  | sourceLookup =>
      rw [kind] at h
      obtain ⟨members, object, body⟩ := except_bind_ok h
      clear h
      obtain ⟨rfl, keys⟩ := toolObject_eq_ok object
      obtain ⟨field, first, body⟩ := except_bind_ok body
      split at body
      · next items =>
          split at body
          · cases body
          · next count =>
              obtain ⟨texts, parsed, unique⟩ := except_bind_ok body
              clear body
              obtain ⟨rfl, all⟩ := toolTexts_eq_ok parsed
              split at unique
              · cases unique
              · next apart =>
                  obtain ⟨_, second, last⟩ := except_bind_ok unique
                  obtain ⟨source, text, last⟩ := except_bind_ok last
                  cases last
                  obtain ⟨rfl, within⟩ := toolText_eq_ok text
                  rw [List.length_map] at count
                  have swapped : ∀ k ∈ members.map Prod.fst,
                      k ∈ (ToolInput.sourceLookup source texts).members.map Prod.fst := by
                    intro k mem
                    have listed := keys k mem
                    simp only [ToolInput.members, List.map_cons, List.map_nil, List.mem_cons,
                      List.not_mem_nil, or_false] at listed ⊢
                    exact listed.symm
                  refine ⟨size, spelled rfl swapped ?_, rfl, by omega, all, not_not.mp apart,
                    within⟩
                  intro member mem
                  rcases List.mem_cons.mp mem with rfl | mem
                  · exact toolField_eq_ok first
                  · rw [List.mem_singleton.mp mem]
                    exact toolField_eq_ok second
      · cases body

theorem printable_members (unique : Bool) (x : ToolInput) :
    Json.Printable unique (.obj x.members) := by
  refine ⟨fun _ => members_distinct x, ?_⟩
  have strings : ∀ keys : List PyStr, Json.PrintableItems unique (keys.map Json.str) := by
    intro keys
    induction keys with
    | nil => trivial
    | cons key keys ih => exact ⟨trivial, ih⟩
  cases x with
  | companyLookup name => exact ⟨trivial, trivial⟩
  | fixtureMessage destination message => exact ⟨trivial, trivial, trivial⟩
  | sourceLookup source keys => exact ⟨strings keys, trivial, trivial⟩

/-- The normal form is read as the members of the input. -/
theorem loads_inputJson (x : ToolInput) : Json.loads true (inputJson x) = .ok (.obj x.members) := by
  rw [inputJson_eq]
  exact Json.loads_dumps Json.plain_compact (printable_members true x)

theorem inputJson_injective : Function.Injective inputJson := by
  intro x y same
  have first := loads_inputJson x
  rw [same, loads_inputJson y] at first
  have members : y.members = x.members := Json.obj.inj (Except.ok.inj first)
  have strings : Function.Injective Json.str := fun _ _ => Json.str.inj
  cases x with
  | companyLookup name =>
      cases y with
      | companyLookup name' =>
          simp only [ToolInput.members, List.cons.injEq, Prod.mk.injEq, Json.str.injEq] at members
          rw [members.1.2]
      | _ => exact absurd (congrArg (List.map Prod.fst) members) (by
          simp only [ToolInput.members, List.map_cons, List.map_nil]
          decide)
  | fixtureMessage destination message =>
      cases y with
      | fixtureMessage destination' message' =>
          simp only [ToolInput.members, List.cons.injEq, Prod.mk.injEq, Json.str.injEq] at members
          rw [members.1.2, members.2.1.2]
      | _ => exact absurd (congrArg (List.map Prod.fst) members) (by
          simp only [ToolInput.members, List.map_cons, List.map_nil]
          decide)
  | sourceLookup source keys =>
      cases y with
      | sourceLookup source' keys' =>
          simp only [ToolInput.members, List.cons.injEq, Prod.mk.injEq, Json.str.injEq,
            Json.arr.injEq] at members
          rw [strings.list_map members.1.2, members.2.1.2]
      | _ => exact absurd (congrArg (List.map Prod.fst) members) (by
          simp only [ToolInput.members, List.map_cons, List.map_nil]
          decide)

/-- What fits the schema is read back from its members, in the order of the normal form. -/
theorem validateInput_inputJson (fits : x.Fits version.executorKind)
    (size : bytes (inputJson x) ≤ version.maxInputBytes) (encodable : Encodable (inputJson x)) :
    validateInput (inputJson x) version = .ok x := by
  have bounded : boundedJson (inputJson x) version.maxInputBytes .validationError =
      .ok (.obj x.members) := by
    have short := (length_le_bytes (inputJson x)).trans size
    have small : ¬(version.maxInputBytes < (inputJson x).length ∨
        version.maxInputBytes < ((inputJson x).flatMap utf8Bytes).length) :=
      not_or.mpr ⟨Nat.not_lt.mpr short, Nat.not_lt.mpr size⟩
    unfold boundedJson
    rw [utf8_of_encodable encodable]
    show (if _ then _ else _) = _
    rw [if_neg small, loads_inputJson]
  have field : ∀ {key : String} {value : Json}, (py key, value) ∈ x.members →
      toolField x.members key .validationError = .ok value := by
    intro key value mem
    unfold toolField
    rw [Json.get?_of_mem (members_distinct x) mem]
    rfl
  unfold validateInput
  dsimp only
  rw [bounded]
  cases x with
  | companyLookup name =>
      obtain ⟨kind, within⟩ := fits
      rw [kind]
      have object : toolObject (.obj (ToolInput.companyLookup name).members) [py "company_name"]
          .validationError = .ok (ToolInput.companyLookup name).members :=
        toolObject_of_keys fun k => Iff.rfl
      simp only [bind, Except.bind, object, field (.head _), toolText_of_within within]
  | fixtureMessage destination message =>
      obtain ⟨kind, within, within'⟩ := fits
      rw [kind]
      have object : toolObject (.obj (ToolInput.fixtureMessage destination message).members)
          [py "destination", py "message"] .validationError =
            .ok (ToolInput.fixtureMessage destination message).members :=
        toolObject_of_keys fun k => Iff.rfl
      simp only [bind, Except.bind, object, field (.head _), field (.tail _ (.head _)),
        toolText_of_within within, toolText_of_within within']
  | sourceLookup source keys =>
      obtain ⟨kind, count, all, apart, within⟩ := fits
      rw [kind]
      have object : toolObject (.obj (ToolInput.sourceLookup source keys).members)
          [py "source_id", py "keys"] .validationError =
            .ok (ToolInput.sourceLookup source keys).members :=
        toolObject_of_keys fun k => by simp [ToolInput.members, or_comm]
      have counted : ¬((keys.map Json.str).length < 1 ∨ 10 < (keys.map Json.str).length) := by
        rw [List.length_map]
        omega
      simp only [bind, Except.bind, object, field (.head _), field (.tail _ (.head _)), counted,
        if_false, toolTexts_of_within all, apart, not_true_eq_false, toolText_of_within within]

theorem encodable_items {keys : List PyStr} (clean : ∀ key ∈ keys, Encodable key) :
    Encodable (Json.dumpsItems (.compact false) (keys.map Json.str)) := by
  have comma : Encodable (Json.Style.compact false).itemSep := by decide
  induction keys with
  | nil =>
      simp only [List.map_nil, Json.dumpsItems]
      decide
  | cons key keys ih =>
      obtain ⟨first, others⟩ := List.forall_mem_cons.mp clean
      simp only [List.map_cons, Json.dumpsItems, Json.dumps, encodable_append]
      exact ⟨⟨comma, encodable_quote first⟩, ih others⟩

/-- The normal form of an accepted input has a UTF-8 form. -/
theorem encodable_inputJson {kind : ExecutorKind} (fits : x.Fits kind) :
    Encodable (inputJson x) := by
  have comma : Encodable (Json.Style.compact false).itemSep := by decide
  have colon : Encodable (Json.Style.compact false).keySep := by decide
  have keys : ∀ key ∈ [py "company_name", py "destination", py "message", py "keys",
      py "source_id"], Encodable (Json.quote false key) := by
    simp only [List.forall_mem_cons]
    exact ⟨by decide, by decide, by decide, by decide, by decide,
      fun _ mem => (List.not_mem_nil mem).elim⟩
  simp only [List.forall_mem_cons] at keys
  obtain ⟨name', destination', message', keys', source', -⟩ := keys
  have brace : isSurrogate 123 = false := by decide
  have close : Encodable [125] := by decide
  have bracket : isSurrogate 91 = false := by decide
  rw [inputJson_eq]
  cases x with
  | companyLookup name =>
      simp only [ToolInput.members, Json.dumps, Json.dumpsMembers, encodable_append,
        encodable_cons (s := Json.quote _ _)]
      exact ⟨⟨⟨⟨brace, name'⟩, colon⟩, encodable_quote fits.2.encodable⟩, close⟩
  | fixtureMessage destination message =>
      simp only [ToolInput.members, Json.dumps, Json.dumpsMembers, encodable_append,
        encodable_cons (s := Json.quote _ _)]
      exact ⟨⟨⟨⟨brace, destination'⟩, colon⟩, encodable_quote fits.2.1.encodable⟩,
        ⟨⟨⟨comma, message'⟩, colon⟩, encodable_quote fits.2.2.encodable⟩, close⟩
  | sourceLookup source keys =>
      obtain ⟨-, count, all, -, within⟩ := fits
      have items : Encodable (Json.dumps (.compact false) (.arr (keys.map Json.str))) := by
        cases keys with
        | nil =>
            simp only [List.map_nil, Json.dumps]
            decide
        | cons key keys =>
            obtain ⟨first, others⟩ := List.forall_mem_cons.mp all
            simp only [List.map_cons, Json.dumps, encodable_append,
              encodable_cons (s := Json.quote _ _)]
            exact ⟨⟨bracket, encodable_quote first.encodable⟩,
              encodable_items fun key mem => (others key mem).encodable⟩
      simp only [ToolInput.members, Json.dumps, Json.dumpsMembers, encodable_append,
        encodable_cons (s := Json.quote _ _)]
      exact ⟨⟨⟨⟨brace, keys'⟩, colon⟩, items⟩,
        ⟨⟨⟨comma, source'⟩, colon⟩, encodable_quote within.encodable⟩, close⟩

/-- The normal form of what a text spells has no more bytes than the text. -/
theorem bytes_inputJson {members : List (PyStr × Json)}
    (read : Json.loads true raw = .ok (.obj members)) (spelled : members.Perm x.members) :
    bytes (inputJson x) ≤ bytes raw := by
  rw [inputJson_eq, ← Json.bytes_obj_perm _ spelled]
  exact (Json.loads_eq_ok read).2

end Normal

/-! ## The checks after acceptance -/

/-- The number of bytes that a receipt is given for an input. -/
def inputSize (x : ToolInput) : Nat := ((utf8 (inputJson x)).map List.length).getD 0

/-- What holds of an input that was accepted from a text. -/
structure Normalized (version : ToolVersion) (raw : PyStr) (x : ToolInput) : Prop where
  /-- The normal form is accepted and gives the same input. -/
  again : validateInput (inputJson x) version = .ok x
  /-- No other input that the executor kind accepts has this normal form. -/
  apart : ∀ (other : ToolVersion) (text : PyStr) (y : ToolInput),
    other.executorKind = version.executorKind → validateInput text other = .ok y →
    inputJson y = inputJson x → y = x
  size : ∃ given normal, utf8 raw = some given ∧ utf8 (inputJson x) = some normal ∧
    1 ≤ normal.length ∧ normal.length ≤ given.length ∧ given.length ≤ version.maxInputBytes
  /-- The constructor of an intent is left with its other checks. -/
  intent : ∀ (platform : Platform) (intent : ActionIntent), intent.tool = version →
    intent.argumentsJson = inputJson x →
    (ActionIntent.create platform intent = .ok intent ↔ intent.bound ∧
      fingerprint platform intent.workspaceId intent.runId intent.actionId intent.tool
        intent.argumentsJson = .ok intent.fingerprint)
  /-- So is the constructor of a receipt. -/
  receipt : ∀ f : ReceiptFields, f.invocation.toolVersion = version →
    f.invocation.validatedInput = x → f.inputBytes = inputSize x →
    ((∃ r, ToolReceipt.create f = .ok r) ↔ f.invocation.status ≠ .running ∧
      (f.invocation.status = .succeeded ↔ f.output.isSome = true) ∧
      f.outputBytes ≤ version.maxOutputBytes ∧ f.remoteOutcome = f.expectedOutcome)
  /-- The tool that is resolved again for the grant of a stored intent accepts its arguments. -/
  resumed : ∀ (s : RuntimeStore) (host : Host) (workspaceId : WorkspaceId) (intent : ActionIntent)
    (resolved : ResolvedTool), intent.tool = version → intent.argumentsJson = inputJson x →
    s.Registers version → s.resolve host workspaceId intent.tool.grant = .ok resolved →
    validateInput intent.argumentsJson resolved.version = .ok x

/-- A registered tool is the only one under its grant. -/
theorem registers_unique {s : RuntimeStore} {tool other : ToolVersion} (first : s.Registers tool)
    (second : s.Registers other) (same : tool.grant = other.grant) : tool = other := by
  obtain ⟨r, found, rfl⟩ := first
  obtain ⟨r', found', rfl⟩ := second
  rw [same, found'] at found
  rw [Option.some.inj found]

section Checks

variable {version : ToolVersion} {raw : PyStr} {x : ToolInput}

theorem intent_create_iff {platform : Platform} {intent : ActionIntent} {encoded : List Nat}
    (input : utf8 intent.argumentsJson = some encoded)
    (small : encoded.length ≤ intent.tool.maxInputBytes) :
    ActionIntent.create platform intent = .ok intent ↔ intent.bound ∧
      fingerprint platform intent.workspaceId intent.runId intent.actionId intent.tool
        intent.argumentsJson = .ok intent.fingerprint := by
  constructor
  · intro created
    refine ⟨?_, (ActionIntent.create_eq_ok created).2⟩
    by_contra unbound
    unfold ActionIntent.create at created
    rw [if_pos unbound] at created
    cases created
  · rintro ⟨bound, digest⟩
    unfold ActionIntent.create
    rw [if_neg (not_not.mpr bound), input]
    dsimp only
    rw [if_neg (Nat.not_lt.mpr small), digest]
    exact if_neg (not_not.mpr rfl)

theorem receipt_create_iff {f : ReceiptFields} (positive : 0 < f.inputBytes)
    (small : f.inputBytes ≤ f.invocation.toolVersion.maxInputBytes) :
    (∃ r, ToolReceipt.create f = .ok r) ↔ f.invocation.status ≠ .running ∧
      (f.invocation.status = .succeeded ↔ f.output.isSome = true) ∧
      f.outputBytes ≤ f.invocation.toolVersion.maxOutputBytes ∧
      f.remoteOutcome = f.expectedOutcome := by
  constructor
  · rintro ⟨r, created⟩
    obtain rfl := ToolReceipt.create_eq_ok created
    obtain ⟨terminal, success, -, -, output, outcome⟩ := r.valid
    exact ⟨terminal, success, output, outcome⟩
  · rintro ⟨terminal, success, output, outcome⟩
    unfold ToolReceipt.create
    rw [dif_pos terminal, dif_pos success, dif_pos ⟨positive, small, output, outcome⟩]
    exact ⟨_, rfl⟩

/-- The normal form of an accepted input, and the checks that it passes. -/
theorem input_normalization (version : ToolVersion) (raw : PyStr) (x : ToolInput)
    (accepted : validateInput raw version = .ok x) : Normalized version raw x := by
  obtain ⟨⟨given, encoded, small⟩, ⟨members, read, spelled⟩, fits⟩ := validateInput_eq_ok accepted
  have clean := encodable_inputJson fits
  have size := bytes_inputJson read spelled
  have total : given.length = bytes raw := bytes_eq_of_utf8 encoded
  have normal : utf8 (inputJson x) = some ((inputJson x).flatMap utf8Bytes) :=
    utf8_of_encodable clean
  have bound : bytes (inputJson x) ≤ version.maxInputBytes := by omega
  have positive : 1 ≤ bytes (inputJson x) := by
    have one : (utf8Bytes 123).length = 1 := by decide
    rw [inputJson_eq, Json.dumps_obj, bytes_cons, one]
    exact Nat.le_add_right 1 _
  have again := validateInput_inputJson fits bound clean
  have counted : inputSize x = bytes (inputJson x) := by
    unfold inputSize
    rw [normal]
    rfl
  refine ⟨again, fun other text y _ _ same => inputJson_injective same,
    ⟨given, _, encoded, normal, positive, by rw [total]; exact size, small⟩, ?_, ?_, ?_⟩
  · intro platform intent tool arguments
    rw [← arguments] at normal
    rw [← tool] at bound
    exact intent_create_iff normal (arguments ▸ bound)
  · intro f tool input sized
    rw [← tool]
    apply receipt_create_iff
    · rw [sized, counted]
      exact positive
    · rw [sized, counted, tool]
      exact bound
  · intro s host workspaceId intent resolved tool arguments registered resolving
    obtain ⟨same, -, found⟩ := resolve_eq_ok resolving
    have unique := registers_unique found registered (by rw [same, tool])
    rw [unique, arguments]
    exact again

/-- A message with its members in the other order, spaces and an escape. -/
theorem spelled_message_normalized :
    Normalized sendTool
      (py "\x7b \"message\": \"h\\u0069\", \"destination\": \"fixture\" \x7d")
      (.fixtureMessage (py "fixture") (py "hi")) :=
  input_normalization _ _ _ (by decide +kernel)

end Checks

end AgentCompanyOS.Runtime
