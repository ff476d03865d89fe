import AgentCompanyOS.Domain.Outcomes
import AgentCompanyOS.Runtime.Retrieval

/-!
# Chunked texts

`chunkContent` cuts an unstructured text at blank lines, then at the last blank or newline
before the limit, and strips every piece. The loop over a paragraph is bounded by fuel in the
model; the relation `Cut` is the loop of the source, which has no bound, and every paragraph
has one. A piece is not empty, has no outer white space and stays within the limit, and the
pieces have the visible code points of the text, in order.
-/

set_option autoImplicit false

namespace AgentCompanyOS.Runtime

open Foundation Domain

/-! ## Visible code points -/

/-- A text without its white space. -/
def visible (s : PyStr) : PyStr := s.filter fun c => !isSpace c

theorem visible_append (s t : PyStr) : visible (s ++ t) = visible s ++ visible t :=
  List.filter_append ..

theorem visible_dropWhile (s : PyStr) : visible (s.dropWhile isSpace) = visible s := by
  induction s with
  | nil => rfl
  | cons c rest ih =>
      cases space : isSpace c with
      | true =>
          rw [List.dropWhile_cons_of_pos space, ih]
          exact (List.filter_cons_of_neg (by simp [space])).symm
      | false => rw [List.dropWhile_cons_of_neg (by simp [space])]

theorem visible_reverse (s : PyStr) : visible s.reverse = (visible s).reverse :=
  List.filter_reverse ..

/-- Stripping takes no visible code point. -/
theorem visible_strip (s : PyStr) : visible (strip s) = visible s := by
  unfold strip List.rdropWhile
  rw [visible_reverse, visible_dropWhile, visible_reverse, List.reverse_reverse,
    visible_dropWhile]

theorem strip_sublist (s : PyStr) : (strip s).Sublist s :=
  (List.rdropWhile_prefix isSpace _).sublist.trans (List.dropWhile_sublist isSpace)

theorem visible_of_blank {s : PyStr} (blank : ∀ c ∈ s, isSpace c = true) : visible s = [] :=
  List.filter_eq_nil_iff.mpr fun c mem => by simp [blank c mem]

/-- A stripped text does not begin with white space. -/
theorem head_visible {c : CodePoint} {rest : PyStr} (stripped : strip (c :: rest) = c :: rest) :
    isSpace c = false := by
  cases space : isSpace c with
  | false => rfl
  | true =>
      have shorter : (strip (c :: rest)).length ≤ rest.length := by
        unfold strip
        rw [List.dropWhile_cons_of_pos space]
        exact ((List.rdropWhile_prefix isSpace _).sublist.trans
          (List.dropWhile_sublist isSpace)).length_le
      rw [stripped, List.length_cons] at shorter
      omega

/-- What is taken from the front of a stripped text is not blank. -/
theorem strip_take_ne_nil {s : PyStr} {n : Nat} (stripped : strip s = s) (some : s ≠ [])
    (positive : 1 ≤ n) : strip (s.take n) ≠ [] := by
  cases s with
  | nil => exact (some rfl).elim
  | cons c rest =>
      obtain ⟨m, rfl⟩ : ∃ m, n = m + 1 := ⟨n - 1, by omega⟩
      exact strip_ne_nil_of_mem (by rw [List.take_succ_cons]; exact List.mem_cons_self)
        (head_visible stripped)

/-! ## Where a paragraph is cut -/

theorem foldl_snd {α : Type} (items : List (α × Nat)) (first : Nat) :
    items.foldl (fun _ p => p.2) first = first ∨
      ∃ p ∈ items, items.foldl (fun _ p => p.2) first = p.2 := by
  induction items generalizing first with
  | nil => exact .inl rfl
  | cons item rest ih =>
      rw [List.foldl_cons]
      rcases ih item.2 with same | ⟨p, mem, same⟩
      · exact .inr ⟨item, List.mem_cons_self, same⟩
      · exact .inr ⟨p, List.mem_cons_of_mem _ mem, same⟩

theorem lastBreak_le (s : PyStr) : lastBreak s ≤ s.length := by
  unfold lastBreak
  rcases foldl_snd (s.zipIdx.filter fun p => p.1 = 32 ∨ p.1 = 10) 0 with same | ⟨p, mem, same⟩
  · rw [same]
    exact Nat.zero_le _
  · rw [same]
    obtain ⟨listed, -⟩ := List.mem_filter.mp mem
    have inside := List.mem_zipIdx_iff_getElem?.mp listed
    obtain ⟨bound, -⟩ := List.getElem?_eq_some_iff.mp inside
    omega

/-- A cut takes at least one code point and at most as many as the limit. -/
theorem cutEnd_bounds {limit : Nat} {s : PyStr} (positive : 1 ≤ limit) (some : s ≠ []) :
    1 ≤ cutEnd limit s ∧ cutEnd limit s ≤ limit := by
  have long : 1 ≤ s.length := List.length_pos_iff.mpr some
  have short := lastBreak_le (s.take (min limit s.length))
  rw [List.length_take] at short
  unfold cutEnd
  dsimp only
  split
  · next inner => omega
  · omega

/-! ## The pieces of a paragraph -/

/-- The loop over a paragraph: `pieces` are what it appends. -/
inductive Cut (limit : Nat) : PyStr → List PyStr → Prop
  | finished : Cut limit [] []
  | piece {remaining : PyStr} {pieces : List PyStr} (some : remaining ≠ [])
      (next : Cut limit (strip (remaining.drop (cutEnd limit remaining))) pieces) :
      Cut limit remaining
        ((if strip (remaining.take (cutEnd limit remaining)) = [] then []
          else [strip (remaining.take (cutEnd limit remaining))]) ++ pieces)

section Cut

variable {limit most : Nat} {remaining : PyStr} {pieces : List PyStr}

/-- The loop comes to its end for every paragraph. -/
theorem Cut.terminates (positive : 1 ≤ limit) (remaining : PyStr) :
    ∃ pieces, Cut limit remaining pieces := by
  induction h : remaining.length using Nat.strong_induction_on generalizing remaining with
  | h n ih =>
      by_cases some : remaining = []
      · exact ⟨[], some ▸ .finished⟩
      · obtain ⟨advance, -⟩ := cutEnd_bounds positive some
        have long : 1 ≤ remaining.length := List.length_pos_iff.mpr some
        have shorter : (strip (remaining.drop (cutEnd limit remaining))).length < n := by
          have inner := (strip_sublist (remaining.drop (cutEnd limit remaining))).length_le
          rw [List.length_drop] at inner
          omega
        obtain ⟨pieces, next⟩ := ih _ shorter _ rfl
        exact ⟨_, .piece some next⟩

theorem Cut.unique (h : Cut limit remaining pieces) {pieces' : List PyStr}
    (h' : Cut limit remaining pieces') : pieces' = pieces := by
  induction h generalizing pieces' with
  | finished =>
      cases h' with
      | finished => rfl
      | piece some => exact (some rfl).elim
  | piece some next ih =>
      cases h' with
      | finished => exact (some rfl).elim
      | piece _ next' => rw [ih next']

/-- The pieces that a text is cut into. -/
structure PiecesOf (limit : Nat) (text : PyStr) (pieces : List PyStr) : Prop where
  each : ∀ piece ∈ pieces, piece ≠ [] ∧ piece.length ≤ limit ∧ strip piece = piece
  inside : ∀ piece ∈ pieces, ∀ c ∈ piece, c ∈ text
  visible : visible pieces.flatten = visible text

theorem Cut.piecesOf (h : Cut limit remaining pieces) (positive : 1 ≤ limit)
    (stripped : strip remaining = remaining) : PiecesOf limit remaining pieces := by
  induction h with
  | finished => exact ⟨fun _ mem => (List.not_mem_nil mem).elim,
      fun _ mem => (List.not_mem_nil mem).elim, rfl⟩
  | @piece remaining pieces some next ih =>
      obtain ⟨advance, within⟩ := cutEnd_bounds positive some
      have first := strip_take_ne_nil stripped some advance
      obtain ⟨each, inside, same⟩ := ih (strip_strip _)
      rw [if_neg first]
      have taken := strip_sublist (remaining.take (cutEnd limit remaining))
      refine ⟨?_, ?_, ?_⟩
      · intro piece mem
        rcases List.mem_cons.mp mem with rfl | later
        · refine ⟨first, ?_, strip_strip _⟩
          have bound := taken.length_le
          rw [List.length_take] at bound
          omega
        · exact each piece later
      · intro piece mem c here
        rcases List.mem_cons.mp mem with rfl | later
        · exact List.take_subset _ _ (taken.subset here)
        · exact List.drop_subset _ _ ((strip_sublist _).subset (inside piece later c here))
      · rw [List.singleton_append, List.flatten_cons, visible_append, visible_strip, same,
          visible_strip, ← visible_append, List.take_append_drop]

/-- With fuel for every code point the bounded loop appends the pieces, or raises when there
are too many. -/
theorem cutParagraph_eq (h : Cut limit remaining pieces) (positive : 1 ≤ limit) {fuel : Nat}
    (enough : remaining.length < fuel) (parts : List PyStr) (few : parts.length ≤ most) :
    cutParagraph limit most fuel parts remaining =
      if most < (parts ++ pieces).length then
        .error (.invariantViolation "knowledge_chunk_count" [])
      else .ok (parts ++ pieces) := by
  induction h generalizing fuel parts with
  | finished =>
      obtain ⟨fuel, rfl⟩ : ∃ n, fuel = n + 1 := ⟨fuel - 1, by omega⟩
      rw [List.append_nil, if_neg (by omega)]
      rfl
  | @piece remaining pieces some next ih =>
      obtain ⟨fuel, rfl⟩ : ∃ n, fuel = n + 1 := ⟨fuel - 1, by omega⟩
      obtain ⟨advance, -⟩ := cutEnd_bounds positive some
      have shorter : (strip (remaining.drop (cutEnd limit remaining))).length < fuel := by
        have inner := (strip_sublist (remaining.drop (cutEnd limit remaining))).length_le
        have long : 1 ≤ remaining.length := List.length_pos_iff.mpr some
        rw [List.length_drop] at inner
        omega
      have unfolded : cutParagraph limit most (fuel + 1) parts remaining =
          let parts := if strip (remaining.take (cutEnd limit remaining)) = [] then parts
            else parts ++ [strip (remaining.take (cutEnd limit remaining))]
          if most < parts.length then .error (.invariantViolation "knowledge_chunk_count" [])
          else cutParagraph limit most fuel parts
            (strip (remaining.drop (cutEnd limit remaining))) := by
        cases remaining with
        | nil => exact (some rfl).elim
        | cons c rest => rfl
      rw [unfolded]
      have same : (if strip (remaining.take (cutEnd limit remaining)) = [] then parts
          else parts ++ [strip (remaining.take (cutEnd limit remaining))]) =
          parts ++ if strip (remaining.take (cutEnd limit remaining)) = [] then []
            else [strip (remaining.take (cutEnd limit remaining))] := by
        split
        · rw [List.append_nil]
        · rfl
      rw [same]
      generalize (if strip (remaining.take (cutEnd limit remaining)) = [] then []
        else [strip (remaining.take (cutEnd limit remaining))]) = piece
      dsimp only
      by_cases exceeds : most < (parts ++ piece).length
      · rw [if_pos exceeds, if_pos (by simp only [List.length_append] at exceeds ⊢; omega)]
      · rw [if_neg exceeds, ih shorter _ (Nat.le_of_not_lt exceeds), List.append_assoc]

end Cut

/-! ## The paragraphs of a text -/

theorem afterBlankLine_eq_some {s after : PyStr} (h : afterBlankLine s = some after) :
    after.length < s.length ∧ visible after = visible s ∧ ∀ c ∈ after, c ∈ s := by
  cases s with
  | nil => cases h
  | cons c rest =>
      unfold afterBlankLine at h
      dsimp only at h
      by_cases newline : c = 10
      · rw [if_pos newline] at h
        cases dropped : rest.dropWhile fun b => b = 32 ∨ b = 9 with
        | nil =>
            rw [dropped] at h
            cases h
        | cons b tail =>
            rw [dropped] at h
            dsimp only at h
            by_cases second : b = 10
            · rw [if_pos second] at h
              obtain rfl := Option.some.inj h
              subst newline second
              have split := List.takeWhile_append_dropWhile
                (p := fun b => Decidable.decide (b = 32 ∨ b = 9)) (l := rest)
              rw [dropped] at split
              have blank : visible (rest.takeWhile fun b => b = 32 ∨ b = 9) = [] := by
                apply visible_of_blank
                intro b mem
                have either : b = 32 ∨ b = 9 := by
                  simpa using List.mem_takeWhile_imp mem
                rcases either with rfl | rfl <;> rfl
              refine ⟨?_, ?_, ?_⟩
              · have length := congrArg List.length split
                rw [List.length_append, List.length_cons] at length
                rw [List.length_cons]
                omega
              · show _ = visible ([10] ++ rest)
                rw [← split, visible_append, visible_append, blank]
                rfl
              · intro c mem
                rw [← split]
                exact List.mem_cons_of_mem _ (List.mem_append_right _ (List.mem_cons_of_mem _ mem))
            · rw [if_neg second] at h
              cases h
      · rw [if_neg newline] at h
        cases h

/-- The paragraphs have the visible code points of the text. -/
theorem paragraphs_visible {fuel : Nat} {s : PyStr} (enough : s.length < fuel) (current : PyStr) :
    visible (paragraphs fuel current s).flatten = visible (current.reverse ++ s) ∧
      ∀ paragraph ∈ paragraphs fuel current s, ∀ c ∈ paragraph, c ∈ current.reverse ++ s := by
  induction fuel generalizing current s with
  | zero => omega
  | succ fuel ih =>
      cases s with
      | nil =>
          unfold paragraphs
          simp
      | cons c rest =>
          unfold paragraphs
          cases cut : afterBlankLine (c :: rest) with
          | some after =>
              obtain ⟨shorter, same, inside⟩ := afterBlankLine_eq_some cut
              obtain ⟨others, within⟩ := ih (s := after) (by omega) []
              constructor
              · rw [List.flatten_cons, visible_append, others, visible_append, visible_append, same]
                rfl
              · intro paragraph mem d here
                rcases List.mem_cons.mp mem with rfl | later
                · exact List.mem_append_left _ here
                · have found := within paragraph later d here
                  rw [List.reverse_nil, List.nil_append] at found
                  exact List.mem_append_right _ (inside d found)
          | none =>
              have next := ih (s := rest) (by rw [List.length_cons] at enough; omega) (c :: current)
              rw [List.reverse_cons, List.append_assoc, List.singleton_append] at next
              exact next

/-- The loop over the paragraphs. -/
inductive CutAll (limit : Nat) : List PyStr → List PyStr → Prop
  | nil : CutAll limit [] []
  | cons {paragraph : PyStr} {rest pieces others : List PyStr}
      (first : Cut limit (strip paragraph) pieces) (next : CutAll limit rest others) :
      CutAll limit (paragraph :: rest) (pieces ++ others)

section CutAll

variable {limit most : Nat} {texts pieces : List PyStr}

theorem CutAll.terminates (positive : 1 ≤ limit) (texts : List PyStr) :
    ∃ pieces, CutAll limit texts pieces := by
  induction texts with
  | nil => exact ⟨[], .nil⟩
  | cons text rest ih =>
      obtain ⟨pieces, first⟩ := Cut.terminates positive (strip text)
      obtain ⟨others, next⟩ := ih
      exact ⟨pieces ++ others, .cons first next⟩

theorem CutAll.unique (h : CutAll limit texts pieces) {pieces' : List PyStr}
    (h' : CutAll limit texts pieces') : pieces' = pieces := by
  induction h generalizing pieces' with
  | nil =>
      cases h'
      rfl
  | cons first next ih =>
      cases h' with
      | cons first' next' => rw [first.unique first', ih next']

theorem CutAll.piecesOf (h : CutAll limit texts pieces) (positive : 1 ≤ limit) :
    PiecesOf limit texts.flatten pieces := by
  induction h with
  | nil => exact ⟨fun _ mem => (List.not_mem_nil mem).elim,
      fun _ mem => (List.not_mem_nil mem).elim, rfl⟩
  | @cons text rest pieces others first next ih =>
      have here := first.piecesOf positive (strip_strip text)
      refine ⟨?_, ?_, ?_⟩
      · intro piece mem
        exact (List.mem_append.mp mem).elim (here.each piece) (ih.each piece)
      · intro piece mem c inside
        rw [List.flatten_cons]
        rcases List.mem_append.mp mem with early | late
        · exact List.mem_append_left _ ((strip_sublist text).subset
            (here.inside piece early c inside))
        · exact List.mem_append_right _ (ih.inside piece late c inside)
      · rw [List.flatten_append, visible_append, here.visible, ih.visible, visible_strip,
          ← visible_append, List.flatten_cons]

theorem CutAll.foldlM_eq (h : CutAll limit texts pieces) (positive : 1 ≤ limit)
    (parts : List PyStr) (few : parts.length ≤ most) :
    texts.foldlM (fun parts paragraph =>
        cutParagraph limit most (paragraph.length + 1) parts (strip paragraph)) parts =
      if most < (parts ++ pieces).length then
        Except.error (DomainError.invariantViolation "knowledge_chunk_count" [])
      else .ok (parts ++ pieces) := by
  induction h generalizing parts with
  | nil =>
      rw [List.append_nil, if_neg (by omega)]
      rfl
  | @cons text rest pieces others first next ih =>
      rw [List.foldlM_cons, cutParagraph_eq first positive
        (Nat.lt_succ_of_le (strip_sublist text).length_le) parts few]
      by_cases exceeds : most < (parts ++ pieces).length
      · rw [if_pos exceeds, if_pos (by simp only [List.length_append] at exceeds ⊢; omega)]
        rfl
      · rw [if_neg exceeds, ← List.append_assoc]
        exact ih _ (Nat.le_of_not_lt exceeds)

end CutAll

/-- The pieces that the loops of the source cut a text into. -/
def CutsTo (limit : Nat) (text : PyStr) (pieces : List PyStr) : Prop :=
  CutAll limit (paragraphs (text.length + 1) [] text) pieces

theorem CutsTo.piecesOf {limit : Nat} {text : PyStr} {pieces : List PyStr}
    (h : CutsTo limit text pieces) (positive : 1 ≤ limit) : PiecesOf limit text pieces := by
  obtain ⟨same, within⟩ := paragraphs_visible (Nat.lt_succ_self text.length) []
  have cut := CutAll.piecesOf h positive
  rw [List.reverse_nil, List.nil_append] at same within
  refine ⟨cut.each, fun piece mem c here => ?_, cut.visible.trans same⟩
  obtain ⟨paragraph, listed, inside⟩ := List.mem_flatten.mp (cut.inside piece mem c here)
  exact within paragraph listed c inside

/-! ## Texts in bounds -/

/-- What `bounded_text` asks of a text. -/
structure Bounded (text : PyStr) (maximum : Nat) : Prop where
  some : strip text ≠ []
  length : text.length ≤ maximum
  printable : ∀ c ∈ text, isControl c = false
  encodable : ∀ c ∈ text, isSurrogate c = false

theorem boundedText_eq_ok {text : PyStr} {maximum : Nat} {u : Unit} :
    boundedText text maximum = .ok u ↔ Bounded text maximum := by
  have any_false {P : CodePoint → Bool} : ¬text.any P = true ↔ ∀ c ∈ text, P c = false := by
    rw [Bool.not_eq_true, List.any_eq_false]
    simp
  unfold boundedText
  split
  · next bad =>
      refine ⟨nofun, fun h => ?_⟩
      exact (bad.elim h.some fun long => Nat.lt_irrefl _ (Nat.lt_of_lt_of_le long h.length)).elim
  · next good =>
      obtain ⟨some, length⟩ := not_or.mp good
      split
      · next control => exact ⟨nofun, fun h => (any_false.mpr h.printable control).elim⟩
      · next printable =>
          split
          · next lone => exact ⟨nofun, fun h => (any_false.mpr h.encodable lone).elim⟩
          · next encodable =>
              exact ⟨fun _ => ⟨some, Nat.le_of_not_lt length, any_false.mp printable,
                any_false.mp encodable⟩, fun _ => rfl⟩

theorem utf8_eq_some {text : PyStr} (encodable : ∀ c ∈ text, isSurrogate c = false) :
    utf8 text = some (text.flatMap utf8Bytes) := by
  unfold utf8
  rw [if_neg]
  rw [Bool.not_eq_true, List.any_eq_false]
  intro c mem
  simp [encodable c mem]

/-- The digest of a text without lone surrogates. -/
theorem hexdigest_eq_ok {platform : Platform} {text : PyStr}
    (encodable : ∀ c ∈ text, isSurrogate c = false) :
    platform.hexdigest text = .ok (platform.sha256 (text.flatMap utf8Bytes)) := by
  unfold Platform.hexdigest
  rw [utf8_eq_some encodable]

/-! ## The identity of a chunk -/

/-- The code points of a text are ASCII. -/
def Ascii (text : PyStr) : Prop := ∀ c ∈ text, c.val < 128

theorem Ascii.encodable {text : PyStr} (h : Ascii text) : ∀ c ∈ text, isSurrogate c = false := by
  intro c mem
  have small := h c mem
  unfold isSurrogate
  rw [Bool.and_eq_false_iff]
  left
  rw [decide_eq_false_iff_not]
  omega

theorem Ascii.append {s t : PyStr} (h : Ascii s) (h' : Ascii t) : Ascii (s ++ t) := fun c mem =>
  (List.mem_append.mp mem).elim (h c) (h' c)

theorem Ascii.cons {c : CodePoint} {s : PyStr} (h : c.val < 128) (h' : Ascii s) : Ascii (c :: s) :=
  List.forall_mem_cons.mpr ⟨h, h'⟩

theorem ascii_hexDigit (n : Nat) : (Json.hexDigit (n % 16)).val < 128 := by
  have small : n % 16 < 16 := Nat.mod_lt _ (by decide)
  generalize n % 16 = m at small
  have all : ∀ m < 16, (Json.hexDigit m).val < 128 := by decide
  exact all m small

theorem ascii_unicodeEscape (n : Nat) : Ascii (Json.unicodeEscape n) := by
  intro c mem
  simp only [Json.unicodeEscape, List.mem_cons, List.not_mem_nil, or_false] at mem
  rcases mem with rfl | rfl | rfl | rfl | rfl | rfl
  · decide
  · decide
  · exact ascii_hexDigit _
  · exact ascii_hexDigit _
  · exact ascii_hexDigit _
  · exact ascii_hexDigit _

theorem ascii_escape (c : CodePoint) : Ascii (Json.escape true c) := by
  have pair (n : CodePoint) (small : n.val < 128) : Ascii [92, n] :=
    .cons (by decide) (.cons small nofun)
  unfold Json.escape
  repeat' first
    | exact ascii_unicodeEscape _
    | exact (ascii_unicodeEscape _).append (ascii_unicodeEscape _)
    | exact pair _ (by decide)
    | split
  next large =>
    -- What is printed as it stands is below 127.
    have small : ¬126 < c.val := fun above => large ⟨rfl, above⟩
    exact .cons (by omega) nofun

theorem ascii_quote (s : PyStr) : Ascii (Json.quote true s) := by
  intro c mem
  simp only [Json.quote, List.cons_append, List.mem_cons, List.mem_append, List.mem_flatMap,
    List.not_mem_nil, or_false] at mem
  rcases mem with rfl | ⟨d, -, here⟩ | rfl
  · decide
  · exact ascii_escape d c here
  · decide

theorem ascii_pyNat (n : Nat) : Ascii (pyNat n) := fun c mem => by
  have bounds := digit_of_mem_pyNat mem
  omega

/-- The text whose digest identifies a chunk. -/
def chunkIdentity (version : KnowledgeSourceVersion) (ordinal : Nat) (contentHash : PyStr) :
    PyStr :=
  Json.dumps (.spaced true) (.arr [.str version.source.workspaceId.value,
    .str version.source.id.value, .int version.source.contentVersion.value, .str chunkingAlgorithm,
    .int version.limits.chunkChars, .int ordinal, .str contentHash])

/-- The part of the identity before the ordinal. -/
def identityHead (version : KnowledgeSourceVersion) : PyStr :=
  91 :: Json.quote true version.source.workspaceId.value ++ py ", " ++
    Json.quote true version.source.id.value ++ py ", " ++
    pyNat version.source.contentVersion.value ++ py ", " ++
    Json.quote true chunkingAlgorithm ++ py ", " ++ pyNat version.limits.chunkChars ++ py ", "

theorem chunkIdentity_eq (version : KnowledgeSourceVersion) (ordinal : Nat)
    (contentHash : PyStr) : chunkIdentity version ordinal contentHash =
      identityHead version ++ (pyNat ordinal ++
        (44 :: 32 :: (Json.quote true contentHash ++ [93]))) := by
  have sep : py ", " = [44, 32] := rfl
  simp only [chunkIdentity, identityHead, Json.dumps, Json.dumpsItems, Json.Style.spaced,
    Json.intText, sep, List.append_assoc, List.cons_append, List.nil_append]

theorem ascii_chunkIdentity (version : KnowledgeSourceVersion) (ordinal : Nat)
    (contentHash : PyStr) : Ascii (chunkIdentity version ordinal contentHash) := by
  have sep : Ascii (py ", ") := .cons (by decide) (.cons (by decide) nofun)
  rw [chunkIdentity_eq]
  unfold identityHead
  refine .append (.append (.append (.append (.append (.append (.append (.append (.append (.append
    (.cons (by decide) ?_) ?_) ?_) ?_) ?_) ?_) ?_) ?_) ?_) ?_) (.append ?_ ?_)
  all_goals try exact sep
  all_goals try exact ascii_quote _
  all_goals try exact ascii_pyNat _
  exact .cons (by decide) (.cons (by decide) ((ascii_quote _).append (.cons (by decide) nofun)))

theorem utf8Bytes_ascii {c : CodePoint} (small : c.val < 128) : utf8Bytes c = [c.val] := by
  unfold utf8Bytes
  exact if_pos small

/-- Chunks of one version with the same identity have the same place. -/
theorem chunkIdentity_ordinal {version : KnowledgeSourceVersion} {i j : Nat} {a b : PyStr}
    (same : (chunkIdentity version i a).flatMap utf8Bytes =
      (chunkIdentity version j b).flatMap utf8Bytes) : i = j := by
  have digits (n : Nat) : (pyNat n).flatMap utf8Bytes = (pyNat n).map Fin.val := by
    rw [List.map_eq_flatMap]
    exact List.flatMap_congr fun c mem => utf8Bytes_ascii (ascii_pyNat n c mem)
  have comma (n : Nat) (rest : List Nat) :
      ((pyNat n).map Fin.val ++ 44 :: rest).takeWhile (fun b => b ≠ 44) =
        (pyNat n).map Fin.val := by
    rw [List.takeWhile_append_of_pos, List.takeWhile_cons_of_neg (by simp), List.append_nil]
    intro b mem
    obtain ⟨c, listed, rfl⟩ := List.mem_map.mp mem
    have bounds := digit_of_mem_pyNat listed
    simp only [ne_eq, decide_not, Bool.not_eq_true', decide_eq_false_iff_not]
    omega
  rw [chunkIdentity_eq, chunkIdentity_eq, List.flatMap_append, List.flatMap_append,
    List.flatMap_append, List.flatMap_append, digits, digits] at same
  have tail := List.append_cancel_left same
  have first := congrArg (List.takeWhile fun b => Decidable.decide (b ≠ 44)) tail
  have separated (rest : PyStr) : (44 :: rest).flatMap utf8Bytes = 44 :: rest.flatMap utf8Bytes :=
    rfl
  rw [separated, separated, comma, comma] at first
  exact pyNat_injective (List.map_injective_iff.mpr Fin.val_injective first)

/-! ## The chunks of a version -/

/-- What the chunk at a place is made of. -/
structure ChunkAt (platform : Platform) (version : KnowledgeSourceVersion) (piece : PyStr)
    (place : Nat) (chunk : KnowledgeChunk) : Prop where
  text : chunk.text = piece
  ordinal : chunk.ordinal = place
  hash : chunk.contentHash = platform.sha256 (piece.flatMap utf8Bytes)
  id : chunk.id.value =
    platform.sha256 ((chunkIdentity version place chunk.contentHash).flatMap utf8Bytes)
  source : chunk.workspaceId = version.source.workspaceId ∧ chunk.sourceId = version.source.id ∧
    chunk.sourceVersion = version.source.contentVersion
  fact : chunk.fact = none

theorem mapM_eq_ok_of {α β ε : Type} {f : α → Except ε β} {R : α → β → Prop} {xs : List α}
    (h : ∀ x ∈ xs, ∃ y, f x = .ok y ∧ R x y) : ∃ ys, xs.mapM f = .ok ys ∧ List.Forall₂ R xs ys := by
  induction xs with
  | nil => exact ⟨[], rfl, .nil⟩
  | cons x rest ih =>
      obtain ⟨y, first, related⟩ := h x List.mem_cons_self
      obtain ⟨ys, others, all⟩ := ih fun z mem => h z (List.mem_cons_of_mem _ mem)
      refine ⟨y :: ys, ?_, .cons related all⟩
      rw [List.mapM_cons, first, others]
      rfl

theorem map_eq_of_forall₂ {α β γ : Type} {R : α → β → Prop} {f : α → γ} {g : β → γ} {xs : List α}
    {ys : List β} (all : List.Forall₂ R xs ys) (same : ∀ x y, R x y → g y = f x) :
    ys.map g = xs.map f := by
  induction all with
  | nil => rfl
  | cons related _ ih => rw [List.map_cons, List.map_cons, same _ _ related, ih]

/-- What the identifiers need of the digest: its text is the text of an identifier. -/
def DigestTexts (platform : Platform) : Prop := ∀ bytes, OpaqueId.Valid (platform.sha256 bytes)

section Chunks

variable {platform : Platform} {version : KnowledgeSourceVersion} {pieces : List PyStr}

/-- The step of `chunkContent` at one place. -/
theorem chunkAt_of (digests : DigestTexts platform) {text : PyStr}
    (bounded : Bounded text version.limits.chunkChars) (ordinal : Nat) :
    ∃ chunk, (do
      let _ ← (boundedText text version.limits.chunkChars).mapError Exc.domain
      let contentHash ← platform.hexdigest text
      let id ← platform.hexdigest (chunkIdentity version ordinal contentHash)
      let id ← (OpaqueId.parse .knowledgeChunk id).mapError Exc.domain
      .ok (⟨id, version.source.workspaceId, version.source.id, version.source.contentVersion,
        ordinal, text, contentHash, none⟩ : KnowledgeChunk)) = .ok chunk ∧
      ChunkAt platform version text ordinal chunk := by
  have hash : platform.hexdigest text = .ok (platform.sha256 (text.flatMap utf8Bytes)) :=
    hexdigest_eq_ok bounded.encodable
  have identity := @hexdigest_eq_ok platform _ (ascii_chunkIdentity version ordinal
    (platform.sha256 (text.flatMap utf8Bytes))).encodable
  rw [(boundedText_eq_ok (u := ())).mpr bounded, hash]
  show ∃ chunk, (platform.hexdigest (chunkIdentity _ _ _) >>= _) = _ ∧ _
  rw [identity]
  show ∃ chunk, ((OpaqueId.parse .knowledgeChunk _).mapError Exc.domain >>= _) = _ ∧ _
  unfold OpaqueId.parse
  rw [dif_pos (digests _)]
  exact ⟨_, rfl, rfl, rfl, rfl, rfl, ⟨rfl, rfl, rfl⟩, rfl⟩

/-- The pieces of a bounded text are bounded and there is one. -/
theorem pieces_bounded {text : PyStr} {limit maximum : Nat} (h : PiecesOf limit text pieces)
    (bounded : Bounded text maximum) : (∀ piece ∈ pieces, Bounded piece limit) ∧ pieces ≠ [] := by
  constructor
  · intro piece mem
    obtain ⟨some, length, stripped⟩ := h.each piece mem
    exact ⟨by rw [stripped]; exact some, length,
      fun c here => bounded.printable c (h.inside piece mem c here),
      fun c here => bounded.encodable c (h.inside piece mem c here)⟩
  · rintro rfl
    have blank : visible (strip text) = [] := by
      rw [visible_strip, ← h.visible]
      rfl
    cases first : strip text with
    | nil => exact bounded.some first
    | cons c rest =>
        have stripped : strip (c :: rest) = c :: rest := by
          rw [← first]
          exact strip_strip text
        have shown := head_visible stripped
        rw [first] at blank
        unfold visible at blank
        rw [List.filter_cons_of_pos (by simp [shown])] at blank
        cases blank

/-- `chunkContent` of an unstructured text raises exactly when there are too many pieces. -/
theorem chunkContent_of (digests : DigestTexts platform) (unstructured : version.content.facts = [])
    (positive : 1 ≤ version.limits.chunkChars)
    (cut : CutsTo version.limits.chunkChars version.content.text pieces)
    (bounded : (∀ piece ∈ pieces, Bounded piece version.limits.chunkChars) ∧ pieces ≠ []) :
    (version.limits.chunks < pieces.length →
      chunkContent platform version = .error (violation "knowledge_chunk_count")) ∧
    (pieces.length ≤ version.limits.chunks → ∃ chunks,
      chunkContent platform version = .ok chunks ∧
      List.Forall₂
        (fun (place : PyStr × Nat) chunk => ChunkAt platform version place.1 place.2 chunk)
        pieces.zipIdx chunks) := by
  have walked : cutText version.limits.chunkChars version.limits.chunks version.content.text =
      if version.limits.chunks < pieces.length then
        .error (.invariantViolation "knowledge_chunk_count" [])
      else .ok pieces := by
    have folded := @CutAll.foldlM_eq _ version.limits.chunks _ _ cut positive [] (Nat.zero_le _)
    rw [List.nil_append] at folded
    exact folded
  constructor
  · intro exceeds
    have parts : chunkParts version = .error (.invariantViolation "knowledge_chunk_count" []) := by
      unfold chunkParts
      dsimp only
      rw [walked, if_pos exceeds, unstructured]
      rfl
    unfold chunkContent
    rw [parts]
    rfl
  · intro few
    have parts : chunkParts version = .ok (pieces.map fun part => (part, none)) := by
      unfold chunkParts
      dsimp only
      rw [walked, if_neg (Nat.not_lt.mpr few), unstructured]
      rfl
    have each (place : PyStr × Nat) (mem : place ∈ pieces.zipIdx) :=
      chunkAt_of digests (bounded.1 place.1 (List.fst_mem_of_mem_zipIdx mem)) place.2
    obtain ⟨chunks, made, all⟩ := mapM_eq_ok_of each
    refine ⟨chunks, ?_, all⟩
    unfold chunkContent
    rw [parts]
    show (if _ then _ else _) = _
    rw [if_neg (by simp [bounded.2, few]), List.zipIdx_map, List.mapM_map]
    exact made

/-- What a version may be cut into. -/
structure ChunksOf (limit : Nat) (text : PyStr) (chunks : List KnowledgeChunk) : Prop where
  /-- A chunk is not empty, stays within the limit and has no outer white space. -/
  each : ∀ chunk ∈ chunks, chunk.text ≠ [] ∧ chunk.text.length ≤ limit ∧
    strip chunk.text = chunk.text
  ordinals : chunks.map KnowledgeChunk.ordinal = List.range chunks.length
  ids : (chunks.map KnowledgeChunk.id).Nodup
  /-- The chunks have the visible code points of the text, in order. -/
  content : visible (chunks.map KnowledgeChunk.text).flatten = visible text

theorem chunksOf_pieces (injective : Function.Injective platform.sha256) {text : PyStr}
    {limit : Nat} (pieces' : PiecesOf limit text pieces) {chunks : List KnowledgeChunk}
    (all : List.Forall₂ (fun (place : PyStr × Nat) chunk =>
      ChunkAt platform version place.1 place.2 chunk) pieces.zipIdx chunks) :
    chunks.map KnowledgeChunk.text = pieces ∧ ChunksOf limit text chunks := by
  have texts : chunks.map KnowledgeChunk.text = pieces := by
    rw [map_eq_of_forall₂ all (f := Prod.fst) fun _ _ made => made.text, List.zipIdx_map_fst]
  have length : chunks.length = pieces.length := by
    rw [← texts, List.length_map]
  have ordinals : chunks.map KnowledgeChunk.ordinal = List.range chunks.length := by
    rw [map_eq_of_forall₂ all (f := Prod.snd) fun _ _ made => made.ordinal, List.zipIdx_map_snd,
      length, List.range_eq_range']
  have made (chunk : KnowledgeChunk) (mem : chunk ∈ chunks) : chunk.id.value = platform.sha256
      ((chunkIdentity version chunk.ordinal chunk.contentHash).flatMap utf8Bytes) := by
    obtain ⟨i, inside, rfl⟩ := List.getElem_of_mem mem
    have at' := all.get (by rw [all.length_eq]; exact inside) inside
    simp only [List.get_eq_getElem] at at'
    rw [at'.id, at'.ordinal]
  refine ⟨texts, ?_, ordinals, ?_, ?_⟩
  · intro chunk mem
    apply pieces'.each
    rw [← texts]
    exact List.mem_map_of_mem mem
  · -- Two chunks with one identifier would have one place.
    have places : (chunks.map KnowledgeChunk.ordinal).Nodup := by
      rw [ordinals]
      exact List.nodup_range
    refine List.pairwise_map.mpr ((List.pairwise_map.mp places).imp_of_mem ?_)
    intro a b memA memB apart same
    have digest := congrArg OpaqueId.value same
    rw [made a memA, made b memB] at digest
    exact apart (chunkIdentity_ordinal (injective digest))
  · rw [texts]
    exact pieces'.visible

/-- For every version of an unstructured source the loops of `chunk_content` come to one end,
with some pieces. It raises when these are more than the limit, and for no other reason;
otherwise the chunks are the pieces, and they lose nothing of the text. -/
theorem chunking (digests : DigestTexts platform) (injective : Function.Injective platform.sha256)
    {source : KnowledgeSource} {content : NormalizedContent} {contentHash : PyStr}
    {createdAt : Instant} {limits : IngestionLimits}
    (made : KnowledgeSourceVersion.create source content contentHash createdAt limits = .ok version)
    (unstructured : content.facts = []) (positive : 1 ≤ limits.chunkChars) :
    ∃ pieces, (∀ other, CutsTo limits.chunkChars content.text other ↔ other = pieces) ∧
      (limits.chunks < pieces.length →
        chunkContent platform version = .error (violation "knowledge_chunk_count")) ∧
      (pieces.length ≤ limits.chunks → ∃ chunks,
        chunkContent platform version = .ok chunks ∧
        chunks.map KnowledgeChunk.text = pieces ∧
        ChunksOf limits.chunkChars content.text chunks) := by
  have facts : Bounded content.text limits.normalizedChars ∧
      version = ⟨source, content, contentHash, createdAt, limits⟩ := by
    obtain ⟨_, bounded, made⟩ := except_bind_ok made
    refine ⟨boundedText_eq_ok.mp bounded, ?_⟩
    split at made
    · cases made
    · exact (Except.ok.inj made).symm
  obtain ⟨bounded, rfl⟩ := facts
  obtain ⟨pieces, cut⟩ := CutAll.terminates positive
    (paragraphs (content.text.length + 1) [] content.text)
  have whole := CutsTo.piecesOf cut positive
  obtain ⟨many, few⟩ := chunkContent_of digests
    (show (⟨source, content, contentHash, createdAt, limits⟩ : KnowledgeSourceVersion).content.facts
      = [] from unstructured) positive cut (pieces_bounded whole bounded)
  refine ⟨pieces, fun other => ⟨fun theirs => cut.unique theirs, fun same => same ▸ cut⟩, many,
    fun within => ?_⟩
  obtain ⟨chunks, answered, all⟩ := few within
  exact ⟨chunks, answered, chunksOf_pieces injective whole all⟩

end Chunks

/-! ### A text of three pieces -/

section Sample

def sampleSource : KnowledgeSource where
  id := numbered .knowledgeSource 1
  workspaceId := numbered .workspace 0
  name := py "notes"
  sourceType := .text
  trust := .approvedInternal
  createdAt := 0
  version := .initial
  contentVersion := .initial
  status := .active

def sampleContent : NormalizedContent := ⟨py "one two\n\nthree", none, []⟩

def sampleLimits : IngestionLimits := { IngestionLimits.default with chunkChars := 5 }

/-- The digest of the sample text. -/
def sampleHash : PyStr := py "2103de9cd51e15078cf6ec0d0d8a3d9507b7289677fa22c5db4d758741fc821d"

def sampleVersion : KnowledgeSourceVersion :=
  ⟨sampleSource, sampleContent, sampleHash, 1, sampleLimits⟩

/-- The SHA-256 digests of the texts that the sample hashes. -/
def sampleDigests : List (PyStr × PyStr) :=
  let one := py "7692c3ad3540bb803c020b3aee66cd8887123234ea0c6e7143c0add73ff431ed"
  let two := py "3fc4ccfe745870e2c0d99f71f30ff0656c8dedd41cc1d7d3d376b0dbe685e2f3"
  let three := py "8b5b9db0c13db24256c829aa364aa90c6d2eba318b9232a4ab9313b954d3555f"
  [(py "one two\n\nthree", sampleHash), (py "one", one), (py "two", two), (py "three", three),
    (chunkIdentity sampleVersion 0 one,
      py "7e00d37e9e24c2a5a33c1c99e01ff2e623f10066f7bd1e089ba108dc5a0b98a2"),
    (chunkIdentity sampleVersion 1 two,
      py "9d43337189ba216459d0b7b0073117326c42c52be233052819fc38f805c36bff"),
    (chunkIdentity sampleVersion 2 three,
      py "51c9b85fc9c43691cc8d8fef9b526403a62991731c19d60e1e80622e1c6aa0a9")]

/-- A text for every other byte string; it is none of the digests. -/
def otherDigest (bytes : List Nat) : PyStr :=
  120 :: bytes.flatMap fun n => List.replicate n 97 ++ [98]

/-- The sample digests, and different texts for all other inputs. -/
def sampleSha256 (bytes : List Nat) : PyStr :=
  ((sampleDigests.map fun entry => (entry.1.flatMap utf8Bytes, entry.2)).lookup bytes).getD
    (otherDigest bytes)

def digestPlatform : Platform where
  toEnv := numberedEnv
  sha256 := sampleSha256
  floatRepr text := text
  scoreText _ := py "1.0"
  milliseconds duration := duration / 1000

theorem otherDigest_injective : Function.Injective otherDigest := by
  intro a b same
  have inner := List.tail_eq_of_cons_eq same
  induction a generalizing b with
  | nil =>
      cases b with
      | nil => rfl
      | cons m rest => cases m <;> cases inner
  | cons n rest ih =>
      cases b with
      | nil => cases n <;> cases inner
      | cons m others =>
          rw [List.flatMap_cons, List.flatMap_cons, List.append_assoc, List.append_assoc] at inner
          have runs (k : Nat) (tail : PyStr) :
              ((List.replicate k 97 ++ ([98] ++ tail) : PyStr).takeWhile fun c => c = 97) =
                List.replicate k 97 := by
            rw [List.takeWhile_append_of_pos (by simp [List.mem_replicate]), List.singleton_append,
              List.takeWhile_cons_of_neg (by decide), List.append_nil]
          have first := congrArg (List.takeWhile fun c => Decidable.decide (c = (97 : CodePoint)))
              inner
          rw [runs, runs] at first
          have sameCount : n = m := by simpa using congrArg List.length first
          subst sameCount
          have later := List.append_cancel_left inner
          rw [List.singleton_append, List.singleton_append] at later
          rw [ih (congrArg (120 :: ·) (List.tail_eq_of_cons_eq later))
            (List.tail_eq_of_cons_eq later)]

/-- The table of the sample digests, by the bytes of the texts. -/
def digestTable : List (List Nat × PyStr) :=
  sampleDigests.map fun entry => (entry.1.flatMap utf8Bytes, entry.2)

theorem digestTable_texts : (digestTable.map Prod.snd).Nodup ∧
    ∀ entry ∈ digestTable, entry.2.head? ≠ some 120 ∧ OpaqueId.Valid entry.2 := by
  decide +kernel

theorem mem_digestTable {bytes : List Nat} {text : PyStr}
    (found : digestTable.lookup bytes = some text) : (bytes, text) ∈ digestTable := by
  obtain ⟨before, after, split, -⟩ := List.lookup_eq_some_iff.mp found
  rw [split]
  exact List.mem_append_right _ List.mem_cons_self

theorem sampleSha256_eq (bytes : List Nat) :
    (∃ text, (bytes, text) ∈ digestTable ∧ sampleSha256 bytes = text) ∨
      sampleSha256 bytes = otherDigest bytes := by
  show _ ∨ (digestTable.lookup bytes).getD _ = _
  cases found : digestTable.lookup bytes with
  | some text =>
      refine .inl ⟨text, mem_digestTable found, ?_⟩
      show (digestTable.lookup bytes).getD _ = _
      rw [found]
      rfl
  | none => exact .inr rfl

theorem sampleSha256_injective : Function.Injective sampleSha256 := by
  have apart (bytes other : List Nat) {text : PyStr} (mem : (bytes, text) ∈ digestTable) :
      text ≠ otherDigest other := by
    rintro rfl
    exact (digestTable_texts.2 _ mem).1 rfl
  intro a b same
  rcases sampleSha256_eq a with ⟨text, mem, eq⟩ | eq
  · rcases sampleSha256_eq b with ⟨text', mem', eq'⟩ | eq'
    · have both : text = text' := eq.symm.trans (same.trans eq')
      subst both
      exact congrArg Prod.fst (List.inj_on_of_nodup_map digestTable_texts.1 mem mem' rfl)
    · exact (apart a b mem (eq.symm.trans (same.trans eq'))).elim
  · rcases sampleSha256_eq b with ⟨text', mem', eq'⟩ | eq'
    · exact (apart b a mem' (eq'.symm.trans (same.symm.trans eq))).elim
    · exact otherDigest_injective (eq.symm.trans (same.trans eq'))

/-- A text without white space is stripped. -/
theorem strip_of_visible {s : PyStr} (shown : ∀ c ∈ s, isSpace c = false) : strip s = s := by
  have kept : s.dropWhile isSpace = s := by
    cases s with
    | nil => rfl
    | cons c rest => exact List.dropWhile_cons_of_neg (by simp [shown c List.mem_cons_self])
  unfold strip
  rw [kept, List.rdropWhile_eq_self_iff]
  intro some
  simp [shown _ (List.getLast_mem some)]

theorem digestPlatform_texts : DigestTexts digestPlatform := by
  intro bytes
  show OpaqueId.Valid (sampleSha256 bytes)
  rcases sampleSha256_eq bytes with ⟨text, mem, eq⟩ | eq
  · rw [eq]
    exact (digestTable_texts.2 _ mem).2
  · rw [eq]
    refine ⟨List.cons_ne_nil _ _, strip_of_visible fun c mem => ?_⟩
    rcases List.mem_cons.mp mem with rfl | here
    · decide
    · obtain ⟨n, -, inside⟩ := List.mem_flatMap.mp here
      rcases List.mem_append.mp inside with run | last
      · rw [(List.mem_replicate.mp run).2]
        decide
      · rw [List.mem_singleton.mp last]
        decide

/-- The sample is cut at its blank line and at the blank before the limit. -/
theorem sample_chunking :
    (chunkContent digestPlatform sampleVersion).toOption.map (List.map KnowledgeChunk.text) =
      some [py "one", py "two", py "three"] ∧
    ∃ pieces, (∀ other, CutsTo 5 (py "one two\n\nthree") other ↔ other = pieces) ∧
      (sampleLimits.chunks < pieces.length →
        chunkContent digestPlatform sampleVersion = .error (violation "knowledge_chunk_count")) ∧
      (pieces.length ≤ sampleLimits.chunks → ∃ chunks,
        chunkContent digestPlatform sampleVersion = .ok chunks ∧
        chunks.map KnowledgeChunk.text = pieces ∧
        ChunksOf 5 (py "one two\n\nthree") chunks) := by
  have made : KnowledgeSourceVersion.create sampleSource sampleContent sampleHash 1 sampleLimits =
      .ok sampleVersion := by decide +kernel
  have injective : Function.Injective digestPlatform.sha256 := sampleSha256_injective
  exact ⟨by decide +kernel, chunking digestPlatform_texts injective made rfl (by decide)⟩

end Sample

end AgentCompanyOS.Runtime
