import Mathlib.Algebra.Order.Field.Rat
import Mathlib.Algebra.Order.BigOperators.Group.List
import AgentCompanyOS.Runtime.KnowledgeLineage

/-!
# The lexical retriever

`LexicalKnowledgeRetriever`: the words that a query and a chunk have in common give the
score, the candidates are ranked by it, and a greedy choice skips what is a duplicate, too
much of one source, or too long. What `str.casefold` and `\w` make of a code point is a
parameter; scores are exact.

The three components that check a retrieval are written apart from each other: the greedy
choice, the contract of `_validate_result`, and the guards of `save_pack` after the pack
has been shortened. They agree: in a reachable state no retrieval with this retriever is
refused by the second or the third, but for the deadline, the identifier of the pack and an
envelope that alone exceeds the budget.
-/

set_option autoImplicit false

namespace AgentCompanyOS.Runtime

open Foundation Foundation.Txn Domain

/-! ## Words and scores -/

/-- What the retriever takes from Unicode. -/
structure Lexicon where
  casefold : PyStr → PyStr
  isWord : CodePoint → Bool

/-- `re.findall(r"\w+", text)`. -/
def Lexicon.findWords (lexicon : Lexicon) (text : PyStr) : List PyStr :=
  (text.splitOnP fun c => !lexicon.isWord c).filter fun word => word ≠ []

/-- `set(re.findall(r"\w+", text.casefold().replace("_", " ")))`. -/
def Lexicon.tokens (lexicon : Lexicon) (text : PyStr) : List PyStr :=
  (lexicon.findWords ((lexicon.casefold text).map fun c => if c = 95 then 32 else c)).dedup

/-- The words of a query that a chunk has. -/
def Lexicon.overlap (lexicon : Lexicon) (query : KnowledgeQuery) (chunk : KnowledgeChunk) :
    List PyStr :=
  (lexicon.tokens query.text).filter fun word => word ∈ lexicon.tokens chunk.text

/-- A candidate with its score; nothing when it shares no word with the query. -/
def Lexicon.scored (lexicon : Lexicon) (query : KnowledgeQuery) (item : EvidenceCandidate) :
    Option EvidenceCandidate :=
  let overlap := lexicon.overlap query item.chunk
  if overlap = [] then none
  else some { item with score := (overlap.length : Rat) / (lexicon.tokens query.text).length }

/-- The order of the ranking: the score falls, then the source and the place in it. -/
def rankedBefore (a b : EvidenceCandidate) : Prop :=
  b.score < a.score ∨ a.score = b.score ∧
    (a.chunk.sourceId.value < b.chunk.sourceId.value ∨
      a.chunk.sourceId.value = b.chunk.sourceId.value ∧ a.chunk.ordinal ≤ b.chunk.ordinal)

instance : DecidableRel rankedBefore := fun _ _ => inferInstanceAs (Decidable (_ ∨ _))

/-- The candidates that match, best first. -/
def Lexicon.ranked (lexicon : Lexicon) (query : KnowledgeQuery)
    (eligible : List EvidenceCandidate) : List EvidenceCandidate :=
  (eligible.filterMap (lexicon.scored query)).insertionSort rankedBefore

/-! ## The greedy choice -/

/-- Whether a candidate is passed over before its length is looked at. -/
def passedOver (query : KnowledgeQuery) (chosen : List EvidenceCandidate)
    (item : EvidenceCandidate) : Prop :=
  (∃ c ∈ chosen, sameContent c item) ∨
    query.maxPerSource ≤ (chosen.filter (·.chunk.sourceId = item.chunk.sourceId)).length ∨
    query.topK ≤ chosen.length

instance (a b : EvidenceCandidate) : Decidable (sameContent a b) :=
  inferInstanceAs (Decidable (_ ∧ _))

instance (query : KnowledgeQuery) (chosen : List EvidenceCandidate) (item : EvidenceCandidate) :
    Decidable (passedOver query chosen item) := inferInstanceAs (Decidable (_ ∨ _))

/-- The loop of `retrieve` over the ranked candidates, with the ones chosen so far and
their size. -/
def choose (platform : Platform) (query : KnowledgeQuery) :
    List EvidenceCandidate → List EvidenceCandidate → Nat → Except Exc (List EvidenceCandidate)
  | [], chosen, _ => .ok chosen
  | item :: rest, chosen, size =>
      if passedOver query chosen item then choose platform query rest chosen size
      else do
        let chars ← item.contextChars platform.scoreText
        if query.maxContextChars < size + chars then choose platform query rest chosen size
        else choose platform query rest (chosen ++ [item]) (size + chars)

/-- `RetrievalResult(...)`, its strategy by default. -/
def RetrievalResult.create (candidates : List EvidenceCandidate) (candidateCount : Nat)
    (truncated : Bool) : Except Exc RetrievalResult :=
  if 10 < candidates.length ∨
      ¬(candidates.length ≤ candidateCount ∧ candidateCount ≤ 2560) then
    .error (violation "knowledge_result_schema")
  else .ok ⟨candidates, candidateCount, truncated, py "lexical-overlap", 1⟩

/-- `LexicalKnowledgeRetriever.retrieve`. -/
def lexicalRetrieve (platform : Platform) (lexicon : Lexicon) : Retriever :=
  fun query eligible => do
  let ranked := lexicon.ranked query eligible
  let chosen ← choose platform query ranked [] 0
  RetrievalResult.create chosen ranked.length (Decidable.decide (chosen.length < ranked.length))

section Ranking

variable {lexicon : Lexicon} {query : KnowledgeQuery} {eligible : List EvidenceCandidate}

/-- A score is a positive part of one. -/
theorem scored_eq_some {item scored : EvidenceCandidate}
    (h : lexicon.scored query item = some scored) :
    (∃ score, scored = { item with score := score }) ∧ 0 < scored.score ∧ scored.score ≤ 1 := by
  unfold Lexicon.scored at h
  dsimp only at h
  split at h
  · cases h
  · next shared =>
      obtain rfl := Option.some.inj h
      have some : 0 < (lexicon.overlap query item.chunk).length := List.length_pos_iff.mpr shared
      have few : (lexicon.overlap query item.chunk).length ≤
          (lexicon.tokens query.text).length := List.length_filter_le _ _
      have tokens : 0 < (lexicon.tokens query.text).length := Nat.lt_of_lt_of_le some few
      refine ⟨⟨_, rfl⟩, ?_, ?_⟩
      · exact div_pos (Nat.cast_pos.mpr some) (Nat.cast_pos.mpr tokens)
      · exact div_le_one_of_le₀ (Nat.cast_le.mpr few) (Nat.cast_nonneg _)

/-- What is ranked is an eligible candidate with its score. -/
theorem mem_ranked {c : EvidenceCandidate} (mem : c ∈ lexicon.ranked query eligible) :
    ∃ item ∈ eligible, lexicon.scored query item = some c := by
  have mem := (List.mem_insertionSort _).mp mem
  exact List.mem_filterMap.mp mem

theorem length_ranked : (lexicon.ranked query eligible).length ≤ eligible.length := by
  unfold Lexicon.ranked
  rw [List.length_insertionSort]
  exact List.length_filterMap_le _ _

instance : Std.Total rankedBefore where
  total a b := by
    rcases lt_trichotomy a.score b.score with less | same | more
    · exact .inr (.inl less)
    · rcases lt_trichotomy a.chunk.sourceId.value b.chunk.sourceId.value with less | one | more
      · exact .inl (.inr ⟨same, .inl less⟩)
      · rcases Nat.le_total a.chunk.ordinal b.chunk.ordinal with le | le
        · exact .inl (.inr ⟨same, .inr ⟨one, le⟩⟩)
        · exact .inr (.inr ⟨same.symm, .inr ⟨one.symm, le⟩⟩)
      · exact .inr (.inr ⟨same.symm, .inl more⟩)
    · exact .inl (.inl more)

instance : IsTrans EvidenceCandidate rankedBefore where
  trans a b c h h' := by
    rcases h with first | ⟨same, first⟩
    · rcases h' with second | ⟨same', -⟩
      · exact .inl (lt_trans second first)
      · exact .inl (same' ▸ first)
    · rcases h' with second | ⟨same', second⟩
      · exact .inl (same ▸ second)
      · refine .inr ⟨same.trans same', ?_⟩
        rcases first with less | ⟨one, le⟩
        · rcases second with less' | ⟨one', -⟩
          · exact .inl (lt_trans less less')
          · exact .inl (one' ▸ less)
        · rcases second with less' | ⟨one', le'⟩
          · exact .inl (one ▸ less')
          · exact .inr ⟨one.trans one', Nat.le_trans le le'⟩

/-- Two candidates that come before each other have one source and one place. -/
theorem rankedBefore_antisymm {a b : EvidenceCandidate} (h : rankedBefore a b)
    (h' : rankedBefore b a) : a.chunk.sourceId = b.chunk.sourceId ∧
      a.chunk.ordinal = b.chunk.ordinal := by
  rcases h with first | ⟨same, first⟩
  · rcases h' with second | ⟨same', -⟩
    · exact (lt_asymm first second).elim
    · exact (lt_irrefl _ (same' ▸ first)).elim
  · rcases h' with second | ⟨-, second⟩
    · exact (lt_irrefl _ (same ▸ second)).elim
    · rcases first with less | ⟨one, le⟩
      · rcases second with less' | ⟨one', -⟩
        · exact (lt_asymm less less').elim
        · exact (lt_irrefl _ (one' ▸ less)).elim
      · rcases second with less' | ⟨-, le'⟩
        · exact (lt_irrefl _ (one ▸ less')).elim
        · exact ⟨OpaqueId.ext_value one, Nat.le_antisymm le le'⟩

end Ranking

/-! ## What is chosen -/

section Choice

variable {platform : Platform} {lexicon : Lexicon} {query : KnowledgeQuery}

/-- Candidates within the bounds of a query: diverse, few, and short together. -/
structure WithinQuery (platform : Platform) (query : KnowledgeQuery)
    (candidates : List EvidenceCandidate) (size : Nat) : Prop where
  diverse : Diverse query candidates
  few : candidates.length ≤ query.topK
  measured : evidenceChars platform candidates = .ok size
  short : size ≤ query.maxContextChars

theorem evidenceChars_concat {candidates : List EvidenceCandidate} {item : EvidenceCandidate}
    {size chars : Nat} (measured : evidenceChars platform candidates = .ok size)
    (here : item.contextChars platform.scoreText = .ok chars) :
    evidenceChars platform (candidates ++ [item]) = .ok (size + chars) := by
  obtain ⟨sizes, listed, total⟩ := except_bind_ok measured
  unfold evidenceChars
  rw [List.mapM_append, listed, List.mapM_cons, here]
  show (.ok (sizes ++ [chars]).sum : Except Exc Nat) = _
  rw [List.sum_append, List.sum_singleton, Except.ok.inj total]

/-- The choice adds some of the candidates in their order and stays within the bounds. -/
theorem choose_eq_ok {items : List EvidenceCandidate} : ∀ {chosen : List EvidenceCandidate}
    {size : Nat} {result : List EvidenceCandidate},
    WithinQuery platform query chosen size → choose platform query items chosen size = .ok result →
    ∃ taken total, result = chosen ++ taken ∧ taken.Sublist items ∧
      WithinQuery platform query result total := by
  induction items with
  | nil =>
      intro chosen size result bounds h
      obtain rfl : chosen = result := Except.ok.inj h
      exact ⟨[], size, (List.append_nil _).symm, .slnil, bounds⟩
  | cons item rest ih =>
      intro chosen size result bounds h
      have skipped : choose platform query rest chosen size = .ok result →
          ∃ taken total, result = chosen ++ taken ∧ taken.Sublist (item :: rest) ∧
            WithinQuery platform query result total := by
        intro h
        obtain ⟨taken, total, same, sub, within⟩ := ih bounds h
        exact ⟨taken, total, same, sub.cons item, within⟩
      unfold choose at h
      split at h
      · exact skipped h
      · next wanted =>
          obtain ⟨chars, measured, h⟩ := except_bind_ok h
          split at h
          · exact skipped h
          · next fits =>
              simp only [passedOver, not_or, not_exists, not_and] at wanted
              have grown : WithinQuery platform query (chosen ++ [item]) (size + chars) := by
                refine ⟨bounds.diverse.concat wanted.1 ?_, ?_,
                  evidenceChars_concat bounds.measured measured, Nat.le_of_not_lt fits⟩
                · exact Nat.lt_of_not_le wanted.2.1
                · rw [List.length_append, List.length_singleton]
                  exact Nat.lt_of_not_le wanted.2.2
              obtain ⟨taken, total, same, sub, within⟩ := ih grown h
              refine ⟨item :: taken, total, ?_, sub.cons_cons item, within⟩
              rw [same, List.append_assoc]
              rfl

/-- The choice comes to an end when the candidates have texts. -/
theorem choose_returns {items : List EvidenceCandidate} :
    ∀ {chosen : List EvidenceCandidate} {size : Nat},
    (∀ item ∈ items, ∃ chars, item.contextChars platform.scoreText = .ok chars) →
    ∃ result, choose platform query items chosen size = .ok result := by
  induction items with
  | nil => exact fun {chosen _} _ => ⟨chosen, rfl⟩
  | cons item rest ih =>
      intro chosen size measured
      obtain ⟨⟨chars, here⟩, others⟩ := List.forall_mem_cons.mp measured
      unfold choose
      by_cases skipped : passedOver query chosen item
      · rw [if_pos skipped]
        exact ih others
      · rw [if_neg skipped, here]
        by_cases long : query.maxContextChars < size + chars
        · obtain ⟨result, ends⟩ := @ih chosen size others
          exact ⟨result, (if_pos long).trans ends⟩
        · obtain ⟨result, ends⟩ :=
            @ih (chosen ++ [item]) (size + chars) others
          exact ⟨result, (if_neg long).trans ends⟩

/-- What the retriever answers with. -/
structure Retrieved (platform : Platform) (lexicon : Lexicon) (query : KnowledgeQuery)
    (eligible : List EvidenceCandidate) (result : RetrievalResult) : Prop where
  ranked : result.candidates.Sublist (lexicon.ranked query eligible)
  bounds : ∃ size, WithinQuery platform query result.candidates size
  count : result.candidateCount = (lexicon.ranked query eligible).length
  strategy : result.strategy = py "lexical-overlap" ∧ result.strategyVersion = 1

theorem lexicalRetrieve_eq_ok {eligible : List EvidenceCandidate} {result : RetrievalResult}
    (h : lexicalRetrieve platform lexicon query eligible = .ok result) :
    Retrieved platform lexicon query eligible result := by
  obtain ⟨chosen, choosing, h⟩ := except_bind_ok h
  have none : WithinQuery platform query [] 0 :=
    ⟨⟨.nil, fun _ => Nat.zero_le _⟩, Nat.zero_le _, rfl, Nat.zero_le _⟩
  obtain ⟨taken, size, same, sub, bounds⟩ := choose_eq_ok none choosing
  rw [List.nil_append] at same
  unfold RetrievalResult.create at h
  split at h
  · cases h
  · obtain rfl := Except.ok.inj h
    exact ⟨same ▸ sub, ⟨size, bounds⟩, rfl, rfl, rfl⟩

/-- The retriever answers within the bounds of a result. -/
theorem lexicalRetrieve_returns {eligible : List EvidenceCandidate}
    (texts : ∀ item ∈ eligible, ∃ reference, item.chunk.reference = .ok reference)
    (topK : query.topK ≤ 10) (few : eligible.length ≤ 2560) :
    ∃ result, lexicalRetrieve platform lexicon query eligible = .ok result := by
  have measured : ∀ c ∈ lexicon.ranked query eligible,
      ∃ chars, c.contextChars platform.scoreText = .ok chars := by
    intro c mem
    obtain ⟨item, itemMem, scored⟩ := mem_ranked mem
    obtain ⟨⟨score, rfl⟩, -⟩ := scored_eq_some scored
    obtain ⟨reference, text⟩ := texts item itemMem
    unfold EvidenceCandidate.contextChars EvidenceCandidate.data
    dsimp only
    rw [text]
    exact ⟨_, rfl⟩
  have none : WithinQuery platform query [] 0 :=
    ⟨⟨.nil, fun _ => Nat.zero_le _⟩, Nat.zero_le _, rfl, Nat.zero_le _⟩
  obtain ⟨chosen, choosing⟩ := @choose_returns platform query _ [] 0 measured
  obtain ⟨taken, size, same, sub, bounds⟩ := choose_eq_ok none choosing
  rw [List.nil_append] at same
  have room : ¬(10 < chosen.length ∨ ¬(chosen.length ≤ (lexicon.ranked query eligible).length ∧
      (lexicon.ranked query eligible).length ≤ 2560)) := by
    rw [not_or, not_lt, not_not]
    exact ⟨Nat.le_trans bounds.few topK, same ▸ sub.length_le, Nat.le_trans length_ranked few⟩
  unfold lexicalRetrieve
  dsimp only
  rw [choosing]
  exact ⟨_, if_neg room⟩

/-- The contract accepts candidates that are eligible, scored and diverse. -/
theorem checkCandidates_of {eligible candidates : List EvidenceCandidate} :
    ∀ {before : List EvidenceCandidate}, Diverse query (before ++ candidates) →
    (∀ c ∈ candidates, { c with score := 0 } ∈ eligible ∧ 0 < c.score ∧ c.score ≤ 1) →
    checkCandidates query eligible before candidates = .ok () := by
  induction candidates with
  | nil => exact fun _ _ => rfl
  | cons item rest ih =>
      intro before diverse scored
      obtain ⟨offered, positive, most⟩ := scored item List.mem_cons_self
      have others : ∀ c ∈ rest, { c with score := 0 } ∈ eligible ∧ 0 < c.score ∧ c.score ≤ 1 :=
        fun c mem => scored c (List.mem_cons_of_mem _ mem)
      have apart := (List.pairwise_append.mp diverse.distinct).2.2
      have few := diverse.few item.chunk.sourceId
      rw [List.filter_append, List.length_append,
        List.filter_cons_of_pos (by simp), List.length_cons] at few
      rw [show before ++ item :: rest = before ++ [item] ++ rest by simp] at diverse
      unfold checkCandidates
      dsimp only
      rw [if_neg, if_neg]
      · exact ih diverse others
      · omega
      · simp only [not_or, not_not]
        refine ⟨offered, ?_, positive, most⟩
        intro same
        obtain ⟨c, mem, hash⟩ := List.any_eq_true.mp same
        obtain ⟨mem, id⟩ := List.mem_filter.mp mem
        exact apart c mem item List.mem_cons_self
          ⟨of_decide_eq_true id, of_decide_eq_true hash⟩

/-- The contract accepts every answer of the retriever about unscored candidates. -/
theorem validateResult_of {eligible : List EvidenceCandidate} {result : RetrievalResult}
    (unscored : ∀ item ∈ eligible, item.score = 0)
    (h : Retrieved platform lexicon query eligible result) :
    validateResult platform query result eligible = .ok () := by
  obtain ⟨size, bounds⟩ := h.bounds
  have count := h.ranked.length_le
  have few : (lexicon.ranked query eligible).length ≤ eligible.length := length_ranked
  unfold validateResult
  rw [if_neg, bounds.measured]
  · show (if query.maxContextChars < size then _ else _) = _
    rw [if_neg (Nat.not_lt.mpr bounds.short)]
    apply checkCandidates_of
    · exact bounds.diverse
    · intro c mem
      obtain ⟨item, offered, scored⟩ := mem_ranked (h.ranked.mem mem)
      obtain ⟨⟨score, same⟩, positive, most⟩ := scored_eq_some scored
      refine ⟨?_, positive, most⟩
      have back : { c with score := 0 } = item := by
        rw [same, ← unscored item offered]
      rw [back]
      exact offered
  · simp only [not_or, not_not, not_lt]
    refine ⟨bounds.few, ⟨?_, ?_⟩, h.strategy.1, h.strategy.2⟩
    · rw [h.count]
      exact count
    · rw [h.count]
      exact few

end Choice

/-! ## The pack that fits -/

section Shortening

variable {platform : Platform}

/-- What shortening makes of a pack: some of its first candidates are left, and the rest of
it is as it was. -/
structure ShortenedTo (platform : Platform) (pack short : EvidencePack) : Prop where
  rest : ∃ kept truncated, short = { pack with result := { pack.result with
    candidates := kept, truncated := truncated } }
  first : short.result.candidates <+: pack.result.candidates
  /-- The loop has ended: nothing is left, or what is left fits. -/
  ended : short.result.candidates = [] ∨ ∃ size,
    short.contextChars platform.scoreText = .ok size ∧ size ≤ pack.query.maxContextChars

theorem shortenPack_eq_ok {fuel : Nat} : ∀ {pack short : EvidencePack},
    pack.result.candidates.length ≤ fuel → shortenPack platform fuel pack = .ok short →
    ShortenedTo platform pack short := by
  induction fuel with
  | zero =>
      intro pack short bound h
      obtain rfl : pack = short := Except.ok.inj h
      exact ⟨⟨_, _, rfl⟩, List.prefix_rfl,
        .inl (List.eq_nil_of_length_eq_zero (Nat.le_zero.mp bound))⟩
  | succ fuel ih =>
      intro pack short bound h
      obtain ⟨size, measured, h⟩ := except_bind_ok h
      split at h
      · next cut =>
          have fewer : pack.shortened.result.candidates.length ≤ fuel := by
            show pack.result.candidates.dropLast.length ≤ fuel
            rw [List.length_dropLast]
            omega
          obtain ⟨⟨kept, truncated, same⟩, first, ended⟩ := ih fewer h
          exact ⟨⟨kept, truncated, same⟩, first.trans (List.dropLast_prefix _), ended⟩
      · next fits =>
          obtain rfl := Except.ok.inj h
          refine ⟨⟨_, _, rfl⟩, List.prefix_rfl, ?_⟩
          by_cases none : pack.result.candidates = []
          · exact .inl none
          · refine .inr ⟨size, measured, ?_⟩
            simp only [none, not_false_eq_true, ne_eq, and_true, not_lt] at fits
            exact fits

/-- Every item of a list that was mapped has a result of its own. -/
theorem each_of_mapM {ε α β : Type} {f : α → Except ε β} {xs : List α} :
    ∀ {ys : List β}, xs.mapM f = .ok ys → ∀ x ∈ xs, ∃ y, f x = .ok y := by
  induction xs with
  | nil => exact fun _ x mem => (List.not_mem_nil mem).elim
  | cons x rest ih =>
      intro ys h
      rw [List.mapM_cons] at h
      obtain ⟨y, first, h⟩ := except_bind_ok h
      obtain ⟨others, more, -⟩ := except_bind_ok h
      intro item mem
      rcases List.mem_cons.mp mem with rfl | mem
      · exact ⟨y, first⟩
      · exact ih more item mem

theorem mapM_of_each {ε α β : Type} {f : α → Except ε β} {xs : List α} :
    (∀ x ∈ xs, ∃ y, f x = .ok y) → ∃ ys, xs.mapM f = .ok ys := by
  induction xs with
  | nil => exact fun _ => ⟨[], rfl⟩
  | cons x rest ih =>
      intro each
      obtain ⟨⟨y, first⟩, more⟩ := List.forall_mem_cons.mp each
      obtain ⟨ys, others⟩ := ih more
      refine ⟨y :: ys, ?_⟩
      rw [List.mapM_cons, first, others]
      rfl

/-- A candidate has a text when its reference has one. -/
def EvidenceCandidate.Encodable (scoreText : Rat → PyStr) (item : EvidenceCandidate) : Prop :=
  ∃ data, item.data scoreText = .ok data

/-- Candidates whose texts were measured have texts. -/
theorem encodable_of_measured {candidates : List EvidenceCandidate} {size : Nat}
    (h : evidenceChars platform candidates = .ok size) :
    ∀ c ∈ candidates, c.Encodable platform.scoreText := by
  intro c mem
  obtain ⟨sizes, measured, -⟩ := except_bind_ok h
  obtain ⟨chars, one⟩ := each_of_mapM measured c mem
  obtain ⟨data, found, -⟩ := except_bind_ok one
  exact ⟨data, found⟩

theorem contextChars_of_encodable {pack : EvidencePack}
    (each : ∀ c ∈ pack.result.candidates, c.Encodable platform.scoreText) :
    ∃ size, pack.contextChars platform.scoreText = .ok size := by
  obtain ⟨candidates, listed⟩ := mapM_of_each each
  unfold EvidencePack.contextChars EvidencePack.data
  rw [listed]
  exact ⟨_, rfl⟩

/-- The loop ends when the candidates have texts. -/
theorem shortenPack_of_encodable {fuel : Nat} : ∀ {pack : EvidencePack},
    (∀ c ∈ pack.result.candidates, c.Encodable platform.scoreText) →
    ∃ short, shortenPack platform fuel pack = .ok short := by
  induction fuel with
  | zero => exact fun {pack} _ => ⟨pack, rfl⟩
  | succ fuel ih =>
      intro pack each
      obtain ⟨size, measured⟩ := contextChars_of_encodable each
      have fewer : ∀ c ∈ pack.shortened.result.candidates, c.Encodable platform.scoreText :=
        fun c mem => each c ((List.dropLast_prefix _).subset mem)
      obtain ⟨short, shortened⟩ := ih fewer
      rw [shortenPack, measured]
      by_cases cut : pack.query.maxContextChars < size ∧ pack.result.candidates ≠ []
      · exact ⟨short, (if_pos cut).trans shortened⟩
      · exact ⟨pack, if_neg cut⟩

end Shortening

/-! ## What a retrieval has been offered -/

section Offers

variable {platform : Platform} {w : World RuntimeStore}

/-- What a chunk takes from the place it is cut at. -/
theorem chunkContent_place {version : KnowledgeSourceVersion} {chunks : List KnowledgeChunk}
    (h : chunkContent platform version = .ok chunks) :
    (∀ chunk ∈ chunks, chunk.workspaceId = version.source.workspaceId ∧
      chunk.sourceId = version.source.id ∧ chunk.sourceVersion = version.source.contentVersion) ∧
    (chunks.map KnowledgeChunk.ordinal).Nodup := by
  obtain ⟨parts, -, h⟩ := except_bind_ok h
  split at h
  · cases h
  · have each : ∀ {place : (PyStr × Option KnowledgeFact) × Nat} {chunk : KnowledgeChunk},
        (do
          let _ ← (boundedText place.1.1 version.limits.chunkChars).mapError Exc.domain
          let contentHash ← platform.hexdigest place.1.1
          let id ← platform.hexdigest (Json.dumps (.spaced true) (.arr
            [.str version.source.workspaceId.value, .str version.source.id.value,
              .int version.source.contentVersion.value, .str chunkingAlgorithm,
              .int version.limits.chunkChars, .int place.2, .str contentHash]))
          let id ← (OpaqueId.parse .knowledgeChunk id).mapError Exc.domain
          .ok (⟨id, version.source.workspaceId, version.source.id, version.source.contentVersion,
            place.2, place.1.1, contentHash, place.1.2⟩ : KnowledgeChunk)) = .ok chunk →
        chunk.workspaceId = version.source.workspaceId ∧ chunk.sourceId = version.source.id ∧
          chunk.sourceVersion = version.source.contentVersion ∧ chunk.ordinal = place.2 := by
      intro place chunk h
      obtain ⟨_, -, h⟩ := except_bind_ok h
      obtain ⟨_, -, h⟩ := except_bind_ok h
      obtain ⟨_, -, h⟩ := except_bind_ok h
      obtain ⟨_, -, h⟩ := except_bind_ok h
      obtain rfl := Except.ok.inj h
      exact ⟨rfl, rfl, rfl, rfl⟩
    constructor
    · intro chunk mem
      obtain ⟨place, -, made⟩ := (mem_mapM_ok h chunk).mp mem
      obtain ⟨workspace, source, number, -⟩ := each made
      exact ⟨workspace, source, number⟩
    · have ordinals : chunks.map KnowledgeChunk.ordinal = (parts.zipIdx).map Prod.snd :=
        map_mapM_ok (fun made => (each made).2.2.2) h
      rw [ordinals, List.zipIdx_map_snd]
      exact List.nodup_range'

/-- A version has no more chunks than its limits allow. -/
theorem chunkContent_length {version : KnowledgeSourceVersion} {chunks : List KnowledgeChunk}
    (h : chunkContent platform version = .ok chunks) :
    chunks.length ≤ version.limits.chunks := by
  obtain ⟨parts, -, h⟩ := except_bind_ok h
  split at h
  · cases h
  · next bounds =>
      have some := Nat.le_of_not_lt (not_or.mp bounds).2
      have each : chunks.map (fun _ => ()) = parts.zipIdx.map fun _ => () :=
        map_mapM_ok (fun _ => rfl) h
      have same := congrArg List.length each
      rw [List.length_map, List.length_map, List.length_zipIdx] at same
      exact same ▸ some

/-- A candidate that a query is offered: a chunk of the current version of an active source
with a trust that the query allows. -/
structure Offered (t : KnowledgeTables) (workspaceId : WorkspaceId) (trust : List TrustClass)
    (sources : List KnowledgeSourceId) (item : EvidenceCandidate) : Prop where
  source : ∃ sourceId ∈ sources, ∃ source version set, t.sources.get? sourceId = some source ∧
    source.workspaceId = workspaceId ∧ source.status = .active ∧ source.trust ∈ trust ∧
    t.versions.get? (sourceId, source.contentVersion) = some version ∧
    t.chunks.get? (sourceId, source.contentVersion) = some set ∧ item.chunk ∈ set.chunks ∧
    item = ⟨item.chunk, source.name, source.trust, version.createdAt, 0⟩

theorem eligibleCandidates_eq_ok {workspaceId : WorkspaceId} {trust : List TrustClass}
    {sources : List KnowledgeSourceId} : ∀ {eligible : List EvidenceCandidate}
    {v : World RuntimeStore}, eligibleCandidates workspaceId trust sources w = .ok eligible v →
    ∀ item ∈ eligible, Offered w.store.tables workspaceId trust sources item := by
  induction sources with
  | nil =>
      intro eligible v h
      obtain ⟨rfl, -⟩ := pure_eq_ok.mp h
      exact fun _ mem => (List.not_mem_nil mem).elim
  | cons sourceId rest ih =>
      intro eligible v h item mem
      have widen : Offered w.store.tables workspaceId trust rest item →
          Offered w.store.tables workspaceId trust (sourceId :: rest) item := by
        rintro ⟨id, here, found⟩
        exact ⟨id, List.mem_cons_of_mem _ here, found⟩
      obtain ⟨source, found, h⟩ := (reads_getSource _ _).then h
      split at h
      · exact widen (ih h item mem)
      · next wanted =>
          obtain ⟨version, numbered, h⟩ := (reads_getSourceVersion _ _ _).then h
          obtain ⟨chunks, listed, h⟩ := (reads_getChunks _ _ _).then h
          obtain ⟨others, more, h⟩ := (reads_eligibleCandidates _ _ _).then h
          obtain ⟨rfl, -⟩ := pure_eq_ok.mp h
          simp only [not_or, not_not] at wanted
          rcases List.mem_append.mp mem with here | there
          · obtain ⟨chunk, chunkMem, rfl⟩ := List.mem_map.mp here
            obtain ⟨foundSource, own⟩ := getSource_eq_ok found
            obtain ⟨set, filed, rfl⟩ := getChunks_eq_ok listed
            exact ⟨sourceId, List.mem_cons_self, source, version, set, foundSource, own, wanted.1,
              wanted.2, getSourceVersion_eq_ok numbered, filed, chunkMem, rfl⟩
          · exact widen (ih more item there)

/-- The chunk of an offered candidate is from the place that it is filed under. -/
theorem Offered.placed {workspaceId : WorkspaceId} {trust : List TrustClass}
    {sources : List KnowledgeSourceId} {item : EvidenceCandidate}
    (versioned : SourcesVersioned platform w.store.tables)
    (h : Offered w.store.tables workspaceId trust sources item) :
    item.chunk.workspaceId = workspaceId ∧ item.chunk.sourceId ∈ sources ∧ item.score = 0 ∧
      ∃ source version set, w.store.tables.sources.get? item.chunk.sourceId = some source ∧
        source.workspaceId = workspaceId ∧ source.status = .active ∧ source.trust ∈ trust ∧
        source.contentVersion = item.chunk.sourceVersion ∧
        w.store.tables.versions.get? (item.chunk.sourceId, item.chunk.sourceVersion) =
          some version ∧
        w.store.tables.chunks.get? (item.chunk.sourceId, item.chunk.sourceVersion) = some set ∧
        item.chunk ∈ set.chunks ∧ item.sourceName = version.source.name ∧
        item.trust = version.source.trust ∧ item.sourceCreatedAt = version.createdAt := by
  obtain ⟨sourceId, asked, source, version, set, found, own, active, trusted, stored, filed, mem,
    same⟩ := h
  have versionKey : version.key = (sourceId, source.contentVersion) := Registry.key_of_get? stored
  simp only [KnowledgeSourceVersion.key, Prod.mk.injEq] at versionKey
  obtain ⟨chunks, computed, cut⟩ := versioned.cut stored
  obtain rfl := Option.some.inj (filed.symm.trans cut)
  obtain ⟨workspace, chunkSource, number⟩ := (chunkContent_place computed).1 item.chunk mem
  obtain ⟨owner, foundOwner, identity⟩ := versioned.owned stored
  obtain rfl := Option.some.inj (found.symm.trans foundOwner)
  rw [versionKey.1] at chunkSource
  rw [versionKey.2] at number
  have name : item.sourceName = source.name := congrArg EvidenceCandidate.sourceName same
  have trust' : item.trust = source.trust := congrArg EvidenceCandidate.trust same
  have made : item.sourceCreatedAt = version.createdAt :=
    congrArg EvidenceCandidate.sourceCreatedAt same
  refine ⟨?_, chunkSource ▸ asked, congrArg EvidenceCandidate.score same, source, version,
    version.cutInto chunks, ?_, own, active, trusted, number.symm, ?_, ?_, mem,
    name.trans identity.name, trust'.trans identity.trust, made⟩
  · rw [workspace, ← identity.workspaceId]
    exact own
  · rw [chunkSource]
    exact found
  · rw [chunkSource, number]
    exact stored
  · rw [chunkSource, number]
    exact filed

/-- What is offered is evident for every pack of the query, whatever its score. -/
theorem Offered.evident {d : AgentDefinitionVersion} {pack : EvidencePack}
    {item : EvidenceCandidate} {score : Rat}
    (versioned : SourcesVersioned platform w.store.tables) (inScope : pack.query.inScope d)
    (h : Offered w.store.tables pack.workspaceId (pack.query.trust d) (pack.query.sources d) item)
    (positive : 0 < score) : Evident w.store.tables pack d { item with score := score } := by
  obtain ⟨home, asked, -, source, version, set, found, own, active, trusted, current, stored, filed,
    mem, shown⟩ := h.placed versioned
  have key : KnowledgeSource.id source = item.chunk.sourceId := Registry.key_of_get? found
  have granted : item.chunk.sourceId ∈ d.knowledgeSources := by
    by_cases all : pack.query.sourceFilters = []
    · simp only [KnowledgeQuery.sources, all, if_true] at asked
      exact asked
    · simp only [KnowledgeQuery.sources, all, if_false] at asked
      exact inScope.2.1 _ asked
  have allowed : source.trust ∈ d.knowledgeTrust := by
    by_cases all : pack.query.trustFilters = []
    · simp only [KnowledgeQuery.trust, all, if_true] at trusted
      exact trusted
    · simp only [KnowledgeQuery.trust, all, if_false] at trusted
      exact inScope.2.2 _ trusted
  rw [← key] at granted
  refine ⟨⟨source, found, own, active, current, granted, allowed, ?_, trusted⟩,
    ⟨set, filed, mem⟩, ⟨version, stored, shown⟩, home, positive⟩
  rw [key]
  exact asked

end Offers

/-! ## The guards agree -/

section Agreement

variable {platform : Platform} {lexicon : Lexicon} {w w' : World RuntimeStore}

/-- What the service has found out before it asks the retriever. -/
structure RetrievalAdmitted (s : RuntimeStore) (run : AgentRun) (query : KnowledgeQuery) :
    Prop where
  idle : run.status = .running ∧ run.workingState.invocationPending = false
  workspace : query.workspaceId = run.workspaceId
  inScope : query.inScope run.definitionVersion
  room : (s.evidencePacks.values.filter fun p =>
    p.workspaceId = run.workspaceId ∧ p.runId = run.id).length < 5

theorem checkRetrieval_eq_ok {env : Env} {run : AgentRun} {expected : Version}
    {query : KnowledgeQuery} {u : Unit} (h : checkRetrieval env run expected query w = .ok u w') :
    RetrievalAdmitted w.store run query ∧ w'.store = w.store := by
  have kept := Idle.store_eq (idle_checkRetrieval env run expected query) h
  obtain ⟨-, h⟩ := raiseIf_then h
  obtain ⟨idle, h⟩ := raiseIf_then h
  obtain ⟨at', v, -, same, h⟩ := Idle.then (moves_now env) h
  obtain ⟨-, h⟩ := raiseIf_then h
  obtain ⟨_, -, h⟩ := (reads_knowledgeParents run).then h
  obtain ⟨scope, h⟩ := raiseIf_then h
  have h := lookup_then (reads_getRun _ _) h
  obtain ⟨room, -⟩ := raiseIf_eq_ok.mp h
  simp only [not_or, not_not, Bool.not_eq_true] at idle scope
  rw [same] at room
  exact ⟨⟨idle, scope.1, scope.2, Nat.lt_of_not_le room⟩, kept⟩

/-- `save_pack` accepts candidates that are evident and diverse. -/
theorem checkPackCandidates_of {pack : EvidencePack} {d : AgentDefinitionVersion}
    {candidates : List EvidenceCandidate} : ∀ {before : List EvidenceCandidate},
    Diverse pack.query (before ++ candidates) →
    (∀ c ∈ candidates, Evident w.store.tables pack d c) →
    checkPackCandidates pack d before candidates w = .ok () w := by
  induction candidates with
  | nil => exact fun _ _ => rfl
  | cons candidate rest ih =>
      intro before diverse evident
      have here := evident candidate List.mem_cons_self
      have others : ∀ c ∈ rest, Evident w.store.tables pack d c :=
        fun c mem => evident c (List.mem_cons_of_mem _ mem)
      obtain ⟨source, found, own, active, current, granted, trusted, asked, allowed⟩ := here.source
      obtain ⟨set, filed, mem⟩ := here.chunk
      obtain ⟨version, stored, shown⟩ := here.version
      have key : KnowledgeSource.id source = candidate.chunk.sourceId := Registry.key_of_get? found
      have apart := (List.pairwise_append.mp diverse.distinct).2.2
      have few := diverse.few candidate.chunk.sourceId
      rw [List.filter_append, List.length_append,
        List.filter_cons_of_pos (by simp), List.length_cons] at few
      rw [show before ++ candidate :: rest = before ++ [candidate] ++ rest by simp] at diverse
      have bound : ¬(candidate.chunk.workspaceId ≠ pack.workspaceId ∨
          candidate.chunk.sourceId ∉ d.knowledgeSources ∨ source.trust ∉ d.knowledgeTrust ∨
          source.status ≠ .active ∨ source.contentVersion ≠ candidate.chunk.sourceVersion ∨
          source.id ∉ pack.query.sources d ∨ source.trust ∉ pack.query.trust d) := by
        rw [key] at granted
        simp only [not_or, not_not]
        exact ⟨here.workspace, granted, trusted, active, current, asked, allowed⟩
      have bindings : ¬(candidate.chunk ∉ set.chunks ∨
          candidate.sourceName ≠ version.source.name ∨ candidate.trust ≠ version.source.trust ∨
          candidate.sourceCreatedAt ≠ version.createdAt) := by
        simp only [not_or, not_not]
        exact ⟨mem, shown⟩
      have distinct : ¬((before.any fun c => c.chunk.sourceId = source.id ∧
            c.chunk.contentHash = candidate.chunk.contentHash) = true ∨
          pack.query.maxPerSource <
            (before.filter (·.chunk.sourceId = source.id)).length + 1 ∨
          candidate.score ≤ 0) := by
        rw [key]
        simp only [not_or, not_lt, not_le]
        refine ⟨?_, by omega, here.positive⟩
        intro same
        obtain ⟨c, cMem, equal⟩ := List.any_eq_true.mp same
        exact apart c cMem candidate List.mem_cons_self (of_decide_eq_true equal)
      unfold checkPackCandidates
      dsimp only
      rw [bind_of_ok (getSource_of_found found own),
        bind_of_ok (getSourceVersion_of_found found own stored),
        bind_of_ok (raiseIf_of_not bound w), key,
        bind_of_ok (getChunks_of_found found own stored filed),
        bind_of_ok (raiseIf_of_not bindings w), ← key, bind_of_ok (raiseIf_of_not distinct w)]
      exact ih diverse others

/-- `save_pack` accepts a pack of which all this holds. -/
theorem savePack_of {pack : EvidencePack} {run : AgentRun}
    (facts : Packable platform w.store pack run) :
    savePack platform pack w = .ok ()
      { w with store := { w.store with evidencePacks := w.store.evidencePacks.put pack } } := by
  obtain ⟨size, measured, fits⟩ := facts.fits
  have identity : ¬(w.store.evidencePacks.contains pack.id = true ∨
      pack.query.workspaceId ≠ pack.workspaceId) := by
    simp only [not_or, not_not, Bool.not_eq_true]
    exact ⟨Registry.contains_eq_false_iff.mpr facts.fresh, facts.query⟩
  have state : ¬(pack.query.maxContextChars < size ∨ run.status ≠ .running ∨
      run.workingState.invocationPending = true ∨
      ¬(run.createdAt ≤ pack.createdAt ∧ pack.createdAt < run.deadline)) := by
    simp only [not_or, not_not, not_lt, Bool.not_eq_true]
    exact ⟨fits, facts.idle.1, facts.idle.2, facts.timely⟩
  have found := getRun_of_found facts.stored facts.workspace
  have room : ¬5 ≤ (w.store.evidencePacks.values.filter fun p =>
      p.workspaceId = pack.workspaceId ∧ p.runId = pack.runId).length :=
    Nat.not_le.mpr facts.room
  have listed : listPacks pack.workspaceId pack.runId w =
      .ok (w.store.evidencePacks.values.filter fun p =>
        p.workspaceId = pack.workspaceId ∧ p.runId = pack.runId) w := by
    unfold listPacks
    rw [bind_of_ok found, bind_getStore]
    rfl
  have passed : checkPack platform pack w = .ok () w := by
    unfold checkPack
    rw [bind_of_ok found, bind_getStore, bind_of_ok (raiseIf_of_not identity w), bind_of_ok listed,
      bind_of_ok (raiseIf_of_not room w), measured]
    show (raiseIf _ _ >>= _) w = _
    rw [bind_of_ok (raiseIf_of_not state w),
      bind_of_ok (raiseIf_of_not (not_not.mpr facts.inScope) w)]
    exact checkPackCandidates_of facts.diverse facts.evident
  unfold savePack
  rw [atomic_eq_ok, bind_of_ok passed]
  rfl

/-- The pack that a retriever's answer leads to. -/
structure PackedFrom (platform : Platform) (run : AgentRun) (query : KnowledgeQuery)
    (result : RetrievalResult) (pack : EvidencePack) : Prop where
  owner : pack.workspaceId = run.workspaceId ∧ pack.runId = run.id ∧ pack.query = query
  first : pack.result.candidates <+: result.candidates
  fits : ∃ size, pack.contextChars platform.scoreText = .ok size ∧ size ≤ query.maxContextChars

theorem packOf_eq_ok {run : AgentRun} {query : KnowledgeQuery} {result : RetrievalResult}
    {pack : EvidencePack} (h : packOf platform run query result w = .ok pack w') :
    PackedFrom platform run query result pack ∧ w'.store = w.store := by
  have kept := Idle.store_eq (idle_packOf platform run query result) h
  obtain ⟨_, v1, -, -, h⟩ := Idle.then (moves_now _) h
  obtain ⟨-, h⟩ := raiseIf_then h
  obtain ⟨id, v2, -, -, h⟩ := Idle.then (moves_fresh _ _) h
  obtain ⟨createdAt, v3, -, -, h⟩ := Idle.then (moves_now _) h
  obtain ⟨full, created, h⟩ := (reads_checked _).then h
  obtain ⟨short, shortened, h⟩ := ofExcept_then h
  obtain ⟨size, measured, h⟩ := ofExcept_then h
  obtain ⟨fits, h⟩ := raiseIf_then h
  obtain ⟨rfl, -⟩ := pure_eq_ok.mp h
  have whole : full = ⟨id, run.workspaceId, run.id, query, result, createdAt⟩ := by
    have created := (checked_eq_ok.mp created).1
    unfold EvidencePack.create at created
    split at created
    · cases created
    · exact (Except.ok.inj created).symm
  rw [whole] at shortened
  have all : result.candidates.length ≤ result.candidates.length := Nat.le_refl _
  obtain ⟨⟨left, truncated, same⟩, first, -⟩ := shortenPack_eq_ok all shortened
  refine ⟨⟨?_, first, size, measured, Nat.le_of_not_lt fits⟩, kept⟩
  rw [same]
  exact ⟨rfl, rfl, rfl⟩

/-- The pack of a retrieval without any candidate. -/
def EnvelopeOf (run : AgentRun) (query : KnowledgeQuery) (result : RetrievalResult)
    (pack : EvidencePack) : Prop :=
  ∃ id createdAt truncated, pack = ⟨id, run.workspaceId, run.id, query,
    { result with candidates := [], truncated := truncated }, createdAt⟩

/-- Why a retrieval is refused after the retriever has answered, in the world `u`. -/
inductive PackRefused (platform : Platform) (run : AgentRun) (query : KnowledgeQuery)
    (result : RetrievalResult) (u : World RuntimeStore) : Exc → Prop
  /-- The clock shows the deadline of the run. -/
  | late (spent : run.deadline ≤ platform.clock u.reads) :
      PackRefused platform run query result u (violation "knowledge_deadline_exceeded")
  /-- The envelope alone, without any candidate, is too long. -/
  | envelope (pack : EvidencePack) (alone : EnvelopeOf run query result pack) (size : Nat)
      (measured : pack.contextChars platform.scoreText = .ok size)
      (exceeds : query.maxContextChars < size) :
      PackRefused platform run query result u (violation "knowledge_pack_envelope_exceeds_budget")

/-- A pack that does not fit after the loop is an envelope. -/
theorem ShortenedTo.envelope {run : AgentRun} {query : KnowledgeQuery} {result : RetrievalResult}
    {id : EvidencePackId} {createdAt : Instant} {short : EvidencePack} {size : Nat}
    (h : ShortenedTo platform ⟨id, run.workspaceId, run.id, query, result, createdAt⟩ short)
    (measured : short.contextChars platform.scoreText = .ok size)
    (exceeds : query.maxContextChars < size) : EnvelopeOf run query result short := by
  obtain ⟨⟨kept, truncated, same⟩, -, ended⟩ := h
  rcases ended with none | ⟨chars, again, fits⟩
  · rw [same] at none
    obtain rfl : kept = [] := none
    exact ⟨id, createdAt, truncated, same⟩
  · obtain rfl := Except.ok.inj (measured.symm.trans again)
    exact absurd exceeds (Nat.not_lt.mpr fits)

/-- The pack of an answer is refused for no other reason. -/
theorem packOf_refused {run : AgentRun} {query : KnowledgeQuery} {result : RetrievalResult}
    (workspace : query.workspaceId = run.workspaceId)
    (few : result.candidates.length ≤ query.topK)
    (home : ∀ c ∈ result.candidates, c.chunk.workspaceId = run.workspaceId)
    (encodable : ∀ c ∈ result.candidates, c.Encodable platform.scoreText)
    {u v : World RuntimeStore} {e : Exc} (h : packOf platform run query result u = .error e v) :
    PackRefused platform run query result u e := by
  by_cases spent : run.deadline ≤ platform.clock u.reads
  · rw [packOf, bind_of_ok (show now platform.toEnv u = .ok _ _ from rfl),
      bind_of_error (raiseIf_of spent _)] at h
    cases h
    exact .late spent
  · have full : ∀ id createdAt,
        EvidencePack.create ⟨id, run.workspaceId, run.id, query, result, createdAt⟩ =
          .ok ⟨id, run.workspaceId, run.id, query, result, createdAt⟩ := by
      intro id createdAt
      refine if_neg ?_
      simp only [not_or, not_not, not_lt, Bool.not_eq_true]
      refine ⟨workspace.symm, few, List.any_eq_false.mpr fun c mem => ?_⟩
      simp [home c mem]
    let pack : EvidencePack := ⟨platform.gen .evidencePack u.issued, run.workspaceId, run.id,
      query, result, platform.clock (u.reads + 1)⟩
    have each : ∀ c ∈ pack.result.candidates, c.Encodable platform.scoreText := encodable
    obtain ⟨short, shortened⟩ := shortenPack_of_encodable each
    have facts := shortenPack_eq_ok (Nat.le_refl pack.result.candidates.length) shortened
    have left : ∀ c ∈ short.result.candidates, c.Encodable platform.scoreText :=
      fun c mem => each c (facts.first.subset mem)
    obtain ⟨size, measured⟩ := contextChars_of_encodable left
    rw [packOf, bind_of_ok (show now platform.toEnv u = .ok _ _ from rfl),
      bind_of_ok (raiseIf_of_not spent _),
      bind_of_ok (show fresh platform.toEnv .evidencePack _ = .ok _ _ from rfl),
      bind_of_ok (show now platform.toEnv _ = .ok _ _ from rfl), full,
      bind_of_ok (show checked (.ok pack) _ = .ok pack _ from rfl)] at h
    rw [bind_of_ok (ofExcept_eq_ok.mpr ⟨shortened, rfl⟩),
      bind_of_ok (ofExcept_eq_ok.mpr ⟨measured, rfl⟩)] at h
    by_cases exceeds : query.maxContextChars < size
    · rw [bind_of_error (raiseIf_of exceeds _)] at h
      cases h
      exact .envelope short (facts.envelope measured exceeds) size measured exceeds
    · rw [bind_of_ok (raiseIf_of_not exceeds _)] at h
      cases h

/-- A retrieval up to the question to the retriever: the service has admitted the query of a
stored run, and the retriever is offered what the store has for it. -/
structure LexicalAsked (platform : Platform) (w : World RuntimeStore) (run : AgentRun)
    (query : KnowledgeQuery) (eligible : List EvidenceCandidate) : Prop where
  stored : w.store.runs.get? run.id = some run
  admitted : ∃ expected v, checkRetrieval platform.toEnv run expected query w = .ok () v
  offering : ∃ v : World RuntimeStore, v.store = w.store ∧
    eligibleCandidates run.workspaceId (query.trust run.definitionVersion)
      (query.sources run.definitionVersion) v = .ok eligible v

/-- A retrieval up to the answer of the retriever. -/
structure LexicalAnswer (platform : Platform) (lexicon : Lexicon) (w : World RuntimeStore)
    (run : AgentRun) (query : KnowledgeQuery) (eligible : List EvidenceCandidate)
    (result : RetrievalResult) : Prop extends LexicalAsked platform w run query eligible where
  answer : lexicalRetrieve platform lexicon query eligible = .ok result

/-- What becomes of an answer: the contract accepts it, and so does `save_pack`, for a pack
with a new identifier that is created in the time of its run. -/
structure AnswerKept (platform : Platform) (w : World RuntimeStore) (run : AgentRun)
    (query : KnowledgeQuery) (eligible : List EvidenceCandidate) (result : RetrievalResult) :
    Prop where
  validated : validateResult platform query result eligible = .ok ()
  refused : ∀ e u v, packOf platform run query result u = .error e v →
    PackRefused platform run query result u e
  saved : ∀ pack u v, u.store = w.store → packOf platform run query result u = .ok pack v →
    pack.result.candidates <+: result.candidates ∧
    (w.store.evidencePacks.get? pack.id = none → run.createdAt ≤ pack.createdAt →
      pack.createdAt < run.deadline → savePack platform pack v = .ok ()
        { v with store := { v.store with evidencePacks := v.store.evidencePacks.put pack } })

theorem Diverse.prefix {query : KnowledgeQuery} {candidates first : List EvidenceCandidate}
    (h : Diverse query candidates) (before : first <+: candidates) : Diverse query first := by
  refine ⟨h.distinct.sublist before.sublist, ?_⟩
  intro id
  exact Nat.le_trans (before.sublist.filter _).length_le (h.few id)

/-- With versioned sources the retriever's answer is kept. -/
theorem LexicalAnswer.kept {run : AgentRun} {query : KnowledgeQuery}
    {eligible : List EvidenceCandidate} {result : RetrievalResult}
    (versioned : SourcesVersioned platform w.store.tables)
    (h : LexicalAnswer platform lexicon w run query eligible result) :
    AnswerKept platform w run query eligible result := by
  obtain ⟨expected, v, checked⟩ := h.admitted
  obtain ⟨admitted, -⟩ := checkRetrieval_eq_ok checked
  obtain ⟨v, same, offering⟩ := h.offering
  have retrieved := lexicalRetrieve_eq_ok h.answer
  obtain ⟨size, bounds⟩ := retrieved.bounds
  have offered := eligibleCandidates_eq_ok offering
  rw [same] at offered
  -- A candidate of the answer is an offered one with a positive score.
  have origin : ∀ c ∈ result.candidates, ∃ item ∈ eligible, ∃ score, 0 < score ∧
      c = { item with score := score } := by
    intro c mem
    obtain ⟨item, itemMem, scored⟩ := mem_ranked (retrieved.ranked.mem mem)
    obtain ⟨⟨score, rfl⟩, positive, -⟩ := scored_eq_some scored
    exact ⟨item, itemMem, score, positive, rfl⟩
  refine ⟨validateResult_of (fun item mem => ?_) retrieved, ?_, ?_⟩
  · exact ((offered item mem).placed versioned).2.2.1
  · intro e u v failed
    refine packOf_refused admitted.workspace bounds.few (fun c mem => ?_)
      (encodable_of_measured bounds.measured) failed
    obtain ⟨item, itemMem, score, -, rfl⟩ := origin c mem
    exact ((offered item itemMem).placed versioned).1
  · intro pack u v store made
    obtain ⟨packed, kept⟩ := packOf_eq_ok made
    obtain ⟨home, own, asked⟩ := packed.owner
    obtain ⟨chars, measured, fits⟩ := packed.fits
    refine ⟨packed.first, ?_⟩
    intro fresh created timely
    have here : v.store = w.store := kept.trans store
    have inScope : pack.query.inScope run.definitionVersion := asked ▸ admitted.inScope
    have evident : ∀ c ∈ pack.result.candidates,
        Evident w.store.tables pack run.definitionVersion c := by
      intro c mem
      obtain ⟨item, itemMem, score, positive, rfl⟩ := origin c (packed.first.subset mem)
      have offer := offered item itemMem
      rw [← home, ← asked] at offer
      exact offer.evident versioned inScope positive
    have room := admitted.room
    rw [← home, ← own] at room
    have facts : Packable platform w.store pack run :=
      ⟨own ▸ h.stored, home.symm, by rw [asked, home]; exact admitted.workspace, fresh, room,
        ⟨chars, measured, asked ▸ fits⟩, admitted.idle, ⟨created, timely⟩, inScope, evident,
        asked ▸ bounds.diverse.prefix packed.first⟩
    rw [← here] at facts
    exact savePack_of facts

end Agreement

/-! ## What the ranking depends on -/

section Independence

variable {platform : Platform} {lexicon : Lexicon} {w w' : World RuntimeStore}

/-- The candidates of one source. -/
def KnowledgeTables.offersOf (t : KnowledgeTables) (trust : List TrustClass)
    (sourceId : KnowledgeSourceId) : List EvidenceCandidate :=
  match t.sources.get? sourceId with
  | some source =>
      if source.status ≠ .active ∨ source.trust ∉ trust then []
      else match t.versions.get? (sourceId, source.contentVersion),
          t.chunks.get? (sourceId, source.contentVersion) with
        | some version, some set =>
            set.chunks.map fun chunk => ⟨chunk, source.name, source.trust, version.createdAt, 0⟩
        | _, _ => []
  | none => []

/-- With versioned sources, a stored source adds its candidates. -/
theorem eligibleCandidates_cons {workspaceId : WorkspaceId} {trust : List TrustClass}
    (versioned : SourcesVersioned platform w.store.tables) {sourceId : KnowledgeSourceId}
    {source : KnowledgeSource} (found : w.store.tables.sources.get? sourceId = some source)
    (own : source.workspaceId = workspaceId) (rest : List KnowledgeSourceId) :
    eligibleCandidates workspaceId trust (sourceId :: rest) w =
      (eligibleCandidates workspaceId trust rest >>= fun others =>
        pure (w.store.tables.offersOf trust sourceId ++ others)) w := by
  have got : getSource workspaceId sourceId w = .ok source w := getSource_of_found found own
  rw [eligibleCandidates, bind_of_ok got]
  by_cases skipped : source.status ≠ .active ∨ source.trust ∉ trust
  · have nothing : w.store.tables.offersOf trust sourceId = [] := by
      unfold KnowledgeTables.offersOf
      rw [found]
      exact if_pos skipped
    rw [if_pos skipped, nothing]
    simp only [List.nil_append, bind_pure]
  · obtain ⟨version, stored, -⟩ := versioned.current found
    obtain ⟨chunks, -, filed⟩ := versioned.cut stored
    have all : w.store.tables.offersOf trust sourceId = chunks.map fun chunk =>
        ⟨chunk, source.name, source.trust, version.createdAt, 0⟩ := by
      unfold KnowledgeTables.offersOf
      rw [found]
      show (if _ then _ else _) = _
      rw [if_neg skipped, stored, filed]
      rfl
    rw [if_neg skipped, all, bind_of_ok (getSourceVersion_of_found found own stored),
      bind_of_ok (getChunks_of_found found own stored filed)]
    rfl

/-- A query whose sources are all in its workspace is offered the candidates of its
sources, one source after the other. -/
theorem eligibleCandidates_iff {workspaceId : WorkspaceId} {trust : List TrustClass}
    (versioned : SourcesVersioned platform w.store.tables) {sources : List KnowledgeSourceId} :
    ∀ {eligible : List EvidenceCandidate},
    eligibleCandidates workspaceId trust sources w = .ok eligible w ↔
      (∀ id ∈ sources, ∃ source, w.store.tables.sources.get? id = some source ∧
        source.workspaceId = workspaceId) ∧
      eligible = sources.flatMap (w.store.tables.offersOf trust) := by
  induction sources with
  | nil =>
      intro eligible
      unfold eligibleCandidates
      rw [pure_eq_ok]
      simp [eq_comm]
  | cons sourceId rest ih =>
      intro eligible
      rw [List.forall_mem_cons, List.flatMap_cons]
      constructor
      · intro h
        obtain ⟨source, read, -⟩ := (reads_getSource _ _).then h
        obtain ⟨found, own⟩ := getSource_eq_ok read
        rw [eligibleCandidates_cons versioned found own rest] at h
        obtain ⟨others, more, h⟩ := (reads_eligibleCandidates _ _ _).then h
        obtain ⟨rfl, -⟩ := pure_eq_ok.mp h
        obtain ⟨present, rfl⟩ := ih.mp more
        exact ⟨⟨⟨source, found, own⟩, present⟩, rfl⟩
      · rintro ⟨⟨⟨source, found, own⟩, present⟩, rfl⟩
        rw [eligibleCandidates_cons versioned found own rest, bind_of_ok (ih.mpr ⟨present, rfl⟩)]
        rfl

/-- Candidates of different places. -/
def Apart (a b : EvidenceCandidate) : Prop :=
  ¬(a.chunk.sourceId = b.chunk.sourceId ∧ a.chunk.ordinal = b.chunk.ordinal)

instance : Std.Symm Apart := ⟨fun _ _ h same => h ⟨same.1.symm, same.2.symm⟩⟩

/-- The candidates of a source are of this source and of different places. -/
theorem offersOf_apart (versioned : SourcesVersioned platform w.store.tables)
    (trust : List TrustClass) (sourceId : KnowledgeSourceId) :
    (∀ item ∈ w.store.tables.offersOf trust sourceId, item.chunk.sourceId = sourceId) ∧
      (w.store.tables.offersOf trust sourceId).Pairwise Apart := by
  unfold KnowledgeTables.offersOf
  cases found : w.store.tables.sources.get? sourceId with
  | none => exact ⟨fun _ mem => (List.not_mem_nil mem).elim, .nil⟩
  | some source =>
      dsimp only
      split
      · exact ⟨fun _ mem => (List.not_mem_nil mem).elim, .nil⟩
      · obtain ⟨version, stored, -⟩ := versioned.current found
        obtain ⟨chunks, computed, filed⟩ := versioned.cut stored
        have versionKey : version.key = (sourceId, source.contentVersion) :=
          Registry.key_of_get? stored
        simp only [KnowledgeSourceVersion.key, Prod.mk.injEq] at versionKey
        obtain ⟨place, ordinals⟩ := chunkContent_place computed
        rw [stored, filed]
        constructor
        · intro item mem
          obtain ⟨chunk, chunkMem, rfl⟩ := List.mem_map.mp mem
          exact (place chunk chunkMem).2.1.trans versionKey.1
        · rw [List.pairwise_map]
          refine (List.pairwise_map.mp ordinals).imp ?_
          intro a b other same
          exact other same.2

theorem eligible_apart (versioned : SourcesVersioned platform w.store.tables)
    (trust : List TrustClass) {sources : List KnowledgeSourceId} (distinct : sources.Nodup) :
    (sources.flatMap (w.store.tables.offersOf trust)).Pairwise Apart := by
  rw [List.pairwise_flatMap]
  refine ⟨fun id _ => (offersOf_apart versioned trust id).2, distinct.imp ?_⟩
  intro a b other x xMem y yMem same
  have first := (offersOf_apart versioned trust a).1 x xMem
  have second := (offersOf_apart versioned trust b).1 y yMem
  exact other (first.symm.trans (same.1.trans second))

/-- The answer does not depend on the order of candidates from different places. -/
theorem lexicalRetrieve_perm {query : KnowledgeQuery} {eligible eligible' : List EvidenceCandidate}
    (perm : eligible.Perm eligible') (apart : eligible.Pairwise Apart) :
    lexicalRetrieve platform lexicon query eligible =
      lexicalRetrieve platform lexicon query eligible' := by
  have ranked : lexicon.ranked query eligible = lexicon.ranked query eligible' := by
    have sorted (items : List EvidenceCandidate) :
        (lexicon.ranked query items).Pairwise rankedBefore := List.pairwise_insertionSort _ _
    have together : (lexicon.ranked query eligible).Perm (lexicon.ranked query eligible') :=
      (List.perm_insertionSort _ _).trans
        ((perm.filterMap _).trans (List.perm_insertionSort _ _).symm)
    refine together.eq_of_pairwise ?_ (sorted eligible) (sorted eligible')
    intro a b memA memB before after
    have memB := together.symm.subset memB
    obtain ⟨x, xMem, scoredX⟩ := mem_ranked memA
    obtain ⟨y, yMem, scoredY⟩ := mem_ranked memB
    obtain ⟨⟨scoreX, sameX⟩, -⟩ := scored_eq_some scoredX
    obtain ⟨⟨scoreY, sameY⟩, -⟩ := scored_eq_some scoredY
    have place := rankedBefore_antisymm before after
    have one : x = y := by
      by_contra other
      have here : Apart x y := apart.forall xMem yMem other
      rw [sameX, sameY] at place
      exact here place
    subst one
    exact Option.some.inj (scoredX.symm.trans scoredY)
  unfold lexicalRetrieve
  rw [ranked]

/-- Two states have the same records of some sources. -/
def AgreeOn (sources : List KnowledgeSourceId) (t t' : KnowledgeTables) : Prop :=
  ∀ id ∈ sources, t'.sources.get? id = t.sources.get? id ∧
    ∀ number, t'.versions.get? (id, number) = t.versions.get? (id, number) ∧
      t'.chunks.get? (id, number) = t.chunks.get? (id, number)

theorem AgreeOn.offersOf {sources : List KnowledgeSourceId} {t t' : KnowledgeTables}
    (h : AgreeOn sources t t') (trust : List TrustClass) {id : KnowledgeSourceId}
    (mem : id ∈ sources) : t'.offersOf trust id = t.offersOf trust id := by
  unfold KnowledgeTables.offersOf
  rw [(h id mem).1]
  cases t.sources.get? id with
  | none => rfl
  | some source =>
      dsimp only
      rw [((h id mem).2 source.contentVersion).1, ((h id mem).2 source.contentVersion).2]

end Independence

/-! ## What the retriever is asked -/

section Asked

variable {platform : Platform} {lexicon : Lexicon} {w : World RuntimeStore}

/-- What the constructors of a query, of the scope of a definition and of the limits of a version
have checked, and that the identifiers have a text in a reference. -/
structure WellFormed (s : RuntimeStore) (run : AgentRun) (query : KnowledgeQuery)
    (eligible : List EvidenceCandidate) : Prop where
  topK : query.topK ≤ 10
  sources : (query.sources run.definitionVersion).length ≤ 20
  limits : ∀ version ∈ s.knowledgeVersions.values, version.limits.chunks ≤ 128
  texts : ∀ item ∈ eligible, ∃ reference, item.chunk.reference = .ok reference

theorem offersOf_length (versioned : SourcesVersioned platform w.store.tables)
    (limits : ∀ version ∈ w.store.knowledgeVersions.values, version.limits.chunks ≤ 128)
    (trust : List TrustClass) (sourceId : KnowledgeSourceId) :
    (w.store.tables.offersOf trust sourceId).length ≤ 128 := by
  unfold KnowledgeTables.offersOf
  cases found : w.store.tables.sources.get? sourceId with
  | none => exact Nat.zero_le _
  | some source =>
      dsimp only
      split
      · exact Nat.zero_le _
      · obtain ⟨version, stored, -⟩ := versioned.current found
        obtain ⟨chunks, computed, filed⟩ := versioned.cut stored
        rw [stored, filed]
        dsimp only
        rw [List.length_map]
        exact Nat.le_trans (chunkContent_length computed)
          (limits version (Registry.mem_values_of_get? stored))

/-- A retriever that is asked answers. -/
theorem LexicalAsked.answers {run : AgentRun} {query : KnowledgeQuery}
    {eligible : List EvidenceCandidate} (versioned : SourcesVersioned platform w.store.tables)
    (h : LexicalAsked platform w run query eligible)
    (formed : WellFormed w.store run query eligible) :
    ∃ result, lexicalRetrieve platform lexicon query eligible = .ok result := by
  refine lexicalRetrieve_returns formed.texts formed.topK ?_
  obtain ⟨v, same, offering⟩ := h.offering
  rw [← same] at versioned
  obtain ⟨-, rfl⟩ := (eligibleCandidates_iff versioned).mp offering
  have each : ∀ id ∈ query.sources run.definitionVersion,
      (v.store.tables.offersOf (query.trust run.definitionVersion) id).length ≤ 128 :=
    fun id _ => offersOf_length versioned (same ▸ formed.limits) _ id
  have total := List.sum_le_card_nsmul
    ((query.sources run.definitionVersion).map fun id =>
      (v.store.tables.offersOf (query.trust run.definitionVersion) id).length) 128 ?_
  · rw [List.length_flatMap]
    rw [List.length_map, nsmul_eq_mul] at total
    have few := formed.sources
    exact Nat.le_trans total (Nat.mul_le_mul_right 128 few)
  · intro length mem
    obtain ⟨id, here, rfl⟩ := List.mem_map.mp mem
    exact each id here

end Asked

/-! ## Main results -/

/-- What the retriever answers in one state, it answers in another one that has the same
records of the sources that are asked for, in whatever order they are asked. -/
def SameAnswers (platform : Platform) (lexicon : Lexicon) (w w' : World RuntimeStore) : Prop :=
  ∀ workspaceId trust sources sources' eligible, sources.Nodup → sources.Perm sources' →
    AgreeOn sources w.store.tables w'.store.tables →
    eligibleCandidates workspaceId trust sources w = .ok eligible w →
    ∃ eligible', eligibleCandidates workspaceId trust sources' w' = .ok eligible' w' ∧
      ∀ query, lexicalRetrieve platform lexicon query eligible' =
        lexicalRetrieve platform lexicon query eligible

theorem sameAnswers_after (platform : Platform) (lexicon : Lexicon) (labels labels' : List Label) :
    SameAnswers platform lexicon (Sys.after platform labels).shared.world
      (Sys.after platform labels').shared.world := by
  intro workspaceId trust sources sources' eligible distinct perm agree offering
  have versioned := sourcesVersioned_after platform labels
  have versioned' := sourcesVersioned_after platform labels'
  obtain ⟨present, rfl⟩ := (eligibleCandidates_iff versioned).mp offering
  have same : sources.flatMap ((Sys.after platform labels').store.tables.offersOf trust) =
      sources.flatMap ((Sys.after platform labels).store.tables.offersOf trust) :=
    List.flatMap_congr fun id mem => agree.offersOf trust mem
  refine ⟨sources'.flatMap ((Sys.after platform labels').store.tables.offersOf trust),
    (eligibleCandidates_iff versioned').mpr ⟨?_, rfl⟩, ?_⟩
  · intro id mem
    have asked := perm.symm.subset mem
    obtain ⟨source, found, own⟩ := present id asked
    exact ⟨source, (agree id asked).1.trans found, own⟩
  · intro query
    rw [← same]
    refine (lexicalRetrieve_perm (perm.flatMap_right _) ?_).symm
    rw [same]
    exact eligible_apart versioned trust distinct

/-- The answer depends on the sources in scope only, and not on their order. -/
theorem same_answers (platform : Platform) (lexicon : Lexicon) (labels labels' : List Label) :
    SameAnswers platform lexicon (Sys.after platform labels).shared.world
      (Sys.after platform labels').shared.world :=
  sameAnswers_after platform lexicon labels labels'

end AgentCompanyOS.Runtime
