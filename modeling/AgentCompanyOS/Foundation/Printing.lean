import AgentCompanyOS.Foundation.Scanning
import Mathlib.Data.List.Nodup

/-!
# Printing and parsing

`loads` reads back what `dumps` prints, for every value that it can return itself. The
canonical form of a value has the same size as the value, and a second canonical form is
the first one. What `dumps` prints for a parsed value is never longer than the text it was
parsed from, since the compact style writes every string in its shortest form.
-/

set_option autoImplicit false

namespace AgentCompanyOS.Foundation

namespace Json

/-! ## Printable values -/

mutual

/-- The values that the parser returns: bounded integers, float texts and, where repeated
keys are refused, objects with distinct keys. -/
def Printable (unique : Bool) : Json → Prop
  | null => True
  | bool _ => True
  | int n => IntegerBound n
  | float text => FloatText text
  | str _ => True
  | arr items => PrintableItems unique items
  | obj members => (unique = true → (members.map Prod.fst).Nodup) ∧ PrintableMembers unique members

def PrintableItems (unique : Bool) : List Json → Prop
  | [] => True
  | x :: rest => Printable unique x ∧ PrintableItems unique rest

def PrintableMembers (unique : Bool) : List (PyStr × Json) → Prop
  | [] => True
  | (_, x) :: rest => Printable unique x ∧ PrintableMembers unique rest

end

/-- A style that escapes what it has to, with white space after its separators at most. -/
structure Style.Plain (style : Style) : Prop where
  ascii : style.ascii = false
  items : ∃ white, style.itemSep = 44 :: white ∧ ∀ c ∈ white, isWhite c = true
  keys : ∃ white, style.keySep = 58 :: white ∧ ∀ c ∈ white, isWhite c = true

theorem plain_compact : (Style.compact false).Plain :=
  ⟨rfl, ⟨[], rfl, fun _ mem => (List.not_mem_nil mem).elim⟩,
    ⟨[], rfl, fun _ mem => (List.not_mem_nil mem).elim⟩⟩

theorem plain_spaced : (Style.spaced false).Plain := by
  have space : ∀ c ∈ [(32 : CodePoint)], isWhite c = true := by
    intro c mem
    rw [List.mem_singleton.mp mem]
    decide
  exact ⟨rfl, ⟨[32], rfl, space⟩, ⟨[32], rfl, space⟩⟩

/-! ## Scalars -/

section Scalars

variable {s rest : PyStr} {x : Json}

theorem scanConstant_eq_ok (h : scanConstant s = .ok (x, rest)) (unique : Bool) (style : Style) :
    s = dumps style x ++ rest ∧ Printable unique x := by
  unfold scanConstant at h
  dsimp only at h
  split at h
  · next word value found =>
      cases h
      have listed := List.mem_of_find?_eq_some found
      have front := List.find?_some found
      have cut : s = word ++ s.drop word.length := by
        obtain ⟨tail, rfl⟩ := List.isPrefixOf_iff_prefix.mp front
        simp
      simp only [List.mem_cons, List.not_mem_nil, or_false, Prod.mk.injEq] at listed
      rcases listed with ⟨rfl, rfl⟩ | ⟨rfl, rfl⟩ | ⟨rfl, rfl⟩ | ⟨rfl, rfl⟩ | ⟨rfl, rfl⟩ | ⟨rfl, rfl⟩
      · exact ⟨cut, trivial⟩
      · exact ⟨cut, trivial⟩
      · exact ⟨cut, trivial⟩
      · exact ⟨cut, .nan⟩
      · exact ⟨cut, .infinity⟩
      · exact ⟨cut, .minusInfinity⟩
  · cases h

theorem bytes_intText_le {ds : PyStr} (negative : Bool) (integer : IntegerText ds) :
    bytes (intText (if negative then -(natValue ds : Int) else natValue ds)) ≤
      bytes ((if negative then [45] else []) ++ ds) ∧
    (ds.length ≤ maxDigits →
      IntegerBound (if negative then -(natValue ds : Int) else natValue ds)) := by
  have digits := digits_of_integerText integer
  have short := length_pyNat_natValue digits
  have size : ∀ n, bytes (pyNat n) = (pyNat n).length := fun n =>
    bytes_digits (digits_of_integerText (integerText_pyNat n)).2
  have own := bytes_digits digits.2
  rw [bytes_append]
  cases negative with
  | false =>
      refine ⟨?_, fun bound => short.trans bound⟩
      show bytes (pyNat (natValue ds)) ≤ 0 + bytes ds
      rw [own, size, Nat.zero_add]
      exact short
  | true =>
      have minus : bytes [45] = 1 := by decide
      refine ⟨?_, fun bound => ?_⟩
      · simp only [if_true, minus]
        cases value : natValue ds with
        | zero =>
            have one : bytes (intText (-((0 : Nat) : Int))) = 1 := by decide
            rw [one]
            exact Nat.le_add_right 1 _
        | succ n =>
            rw [value] at short
            show bytes (45 :: pyNat (n + 1)) ≤ _
            have one : (utf8Bytes 45).length = 1 := by decide
            rw [bytes_cons, size, own, one]
            omega
      · simp only [if_true, IntegerBound, Int.natAbs_neg, Int.natAbs_natCast]
        exact short.trans bound

/-- A scalar takes at least the bytes of its text. -/
theorem scanScalar_eq_ok (h : scanScalar s = .ok (x, rest)) (unique : Bool) (style : Style) :
    Printable unique x ∧ bytes (dumps style x) + bytes rest ≤ bytes s := by
  have unsigned : ∀ {negative : Bool} {s : PyStr}, scanUnsigned negative s = .ok (x, rest) →
      Printable unique x ∧ bytes (dumps style x) + bytes rest ≤
        bytes ((if negative then [45] else []) ++ s) := by
    intro negative s h
    obtain ⟨ds, rfl, integer, short, rfl⟩ | ⟨text, rfl, rfl, float⟩ := scanUnsigned_eq_ok h
    · obtain ⟨bound, printable⟩ := bytes_intText_le negative integer
      rw [← List.append_assoc, bytes_append]
      exact ⟨printable short, Nat.add_le_add_right bound _⟩
    · rw [← List.append_assoc, bytes_append]
      exact ⟨float, Nat.le_refl _⟩
  unfold scanScalar at h
  split at h
  · cases h
  · next c tail =>
      split at h
      · exact unsigned h
      · split at h
        · next minus =>
            have := unsigned h
            rw [minus.1]
            exact this
        · obtain ⟨cut, printable⟩ := scanConstant_eq_ok h unique style
          rw [cut, bytes_append]
          exact ⟨printable, Nat.le_refl _⟩

/-- A number is read back before a text that does not continue it. -/
theorem scanScalar_int {n : Int} (bound : IntegerBound n) (stop : Ends rest) :
    scanScalar (intText n ++ rest) = .ok (.int n, rest) := by
  have start : ∀ m, ∃ c tail, pyNat m = c :: tail ∧ isDigit c = true := by
    intro m
    obtain ⟨some, digits⟩ := digits_of_integerText (integerText_pyNat m)
    cases text : pyNat m with
    | nil => exact absurd text some
    | cons c tail => exact ⟨c, tail, rfl, digits c (by rw [text]; exact List.mem_cons_self)⟩
  cases n with
  | ofNat m =>
      obtain ⟨c, tail, text, digit⟩ := start m
      have scan := scanUnsigned_integer false stop (n := m) bound
      show scanScalar (pyNat m ++ rest) = _
      rw [text, List.cons_append] at scan ⊢
      simp only [scanScalar, digit, if_true]
      exact scan
  | negSucc m =>
      obtain ⟨c, tail, text, digit⟩ := start (m + 1)
      have scan := scanUnsigned_integer true stop (n := m + 1) bound
      show scanScalar (45 :: (pyNat (m + 1) ++ rest)) = _
      rw [text, List.cons_append] at scan ⊢
      have minus : isDigit 45 = false := by decide
      simp only [scanScalar, minus, digit, List.head?_cons, Option.any_some, true_and, if_true]
      exact scan

theorem scanScalar_float {text : PyStr} (float : FloatText text) (stop : Ends rest) :
    scanScalar (text ++ rest) = .ok (.float text, rest) := by
  cases float with
  | @number sign digits fraction exponent signed integer fractional exponential some =>
      have head : ∃ c tail, digits = c :: tail ∧ isDigit c = true := by
        obtain ⟨some, all⟩ := digits_of_integerText integer
        cases digits with
        | nil => exact absurd rfl some
        | cons c tail => exact ⟨c, tail, rfl, all c List.mem_cons_self⟩
      obtain ⟨c, tail, rfl, digit⟩ := head
      obtain rfl | rfl := signed
      · have scan := scanUnsigned_float false integer fractional exponential some stop
        simp only [List.nil_append, List.append_assoc, List.cons_append] at scan ⊢
        simp only [scanScalar, digit, if_true]
        exact scan
      · have scan := scanUnsigned_float true integer fractional exponential some stop
        have minus : isDigit 45 = false := by decide
        simp only [List.nil_append, List.append_assoc, List.cons_append] at scan ⊢
        simp only [scanScalar, minus, digit, List.head?_cons, Option.any_some, true_and, if_true]
        exact scan
  | nan => rfl
  | infinity => rfl
  | minusInfinity => rfl

end Scalars

/-! ## Round trip -/

/-- The items of an array from the first one, or from the separator before the next one. -/
def itemsText (style : Style) : Bool → List Json → PyStr
  | true, x :: rest => dumps style x ++ dumpsItems style rest
  | _, items => dumpsItems style items

/-- The members of an object, in the same way. -/
def membersText (style : Style) : Bool → List (PyStr × Json) → PyStr
  | true, (k, x) :: rest =>
      quote style.ascii k ++ style.keySep ++ dumps style x ++ dumpsMembers style rest
  | _, members => dumpsMembers style members

theorem itemsText_false (style : Style) (items : List Json) :
    itemsText style false items = dumpsItems style items := by
  cases items <;> rfl

theorem membersText_false (style : Style) (members : List (PyStr × Json)) :
    membersText style false members = dumpsMembers style members := by
  cases members <;> rfl

theorem dumps_arr (style : Style) (items : List Json) :
    dumps style (.arr items) = 91 :: itemsText style true items := by
  cases items <;> simp [dumps, dumpsItems, itemsText]

theorem dumps_obj (style : Style) (members : List (PyStr × Json)) :
    dumps style (.obj members) = 123 :: membersText style true members := by
  cases members <;> simp [dumps, dumpsMembers, membersText]

section RoundTrip

variable {style : Style} {unique : Bool}

/-- A printed value starts with a visible code point that closes nothing. -/
theorem dumps_head (style : Style) {x : Json} (printable : Printable unique x) :
    ∃ c tail, dumps style x = c :: tail ∧ isWhite c = false ∧ c ≠ 93 ∧ c ≠ 0xfeff := by
  have digit : ∀ ds, Digits ds →
      ∃ c tail, ds = c :: tail ∧ isWhite c = false ∧ c ≠ 93 ∧ c ≠ 0xfeff := by
    rintro ds ⟨some, digits⟩
    cases ds with
    | nil => exact absurd rfl some
    | cons c tail =>
        have digit := digits c List.mem_cons_self
        refine ⟨c, tail, rfl, ?_, ?_, ?_⟩
        · by_contra white
          simp only [isWhite, Bool.or_eq_true, Bool.not_eq_false, decide_eq_true_eq] at white
          rcases white with ((rfl | rfl) | rfl) | rfl <;> exact absurd digit (by decide)
        · rintro rfl
          exact absurd digit (by decide)
        · rintro rfl
          exact absurd digit (by decide)
  cases x with
  | null => exact ⟨_, _, rfl, by decide, by decide, by decide⟩
  | bool b => cases b <;> exact ⟨_, _, rfl, by decide, by decide, by decide⟩
  | int n =>
      cases n with
      | ofNat n =>
          rw [dumps]
          exact digit _ (digits_of_integerText (integerText_pyNat n))
      | negSucc n => exact ⟨45, pyNat (n + 1), by rw [dumps]; rfl, by decide, by decide, by decide⟩
  | float text =>
      rw [dumps]
      cases printable with
      | @number sign digits fraction exponent signed integer =>
          obtain rfl | rfl := signed
          · obtain ⟨c, tail, rfl, visible⟩ := digit digits (digits_of_integerText integer)
            exact ⟨c, _, rfl, visible⟩
          · exact ⟨45, _, rfl, by decide, by decide, by decide⟩
      | nan => exact ⟨_, _, rfl, by decide, by decide, by decide⟩
      | infinity => exact ⟨_, _, rfl, by decide, by decide, by decide⟩
      | minusInfinity => exact ⟨_, _, rfl, by decide, by decide, by decide⟩
  | str s => exact ⟨34, _, by rw [dumps, quote]; rfl, by decide, by decide, by decide⟩
  | arr items => exact ⟨91, _, dumps_arr style items, by decide, by decide, by decide⟩
  | obj members => exact ⟨123, _, dumps_obj style members, by decide, by decide, by decide⟩

/-- After a value comes a separator or a closing bracket. -/
theorem dumpsItems_head (plain : style.Plain) (items : List Json) :
    ∃ c tail, dumpsItems style items = c :: tail ∧ (c = 44 ∨ c = 93) := by
  cases items with
  | nil => exact ⟨93, [], by rw [dumpsItems], .inr rfl⟩
  | cons x rest =>
      obtain ⟨white, separator, -⟩ := plain.items
      exact ⟨44, _, by rw [dumpsItems, separator, List.cons_append, List.cons_append], .inl rfl⟩

theorem dumpsMembers_head (plain : style.Plain) (members : List (PyStr × Json)) :
    ∃ c tail, dumpsMembers style members = c :: tail ∧ (c = 44 ∨ c = 125) := by
  match members with
  | [] => exact ⟨125, [], by rw [dumpsMembers], .inr rfl⟩
  | (k, x) :: rest =>
      obtain ⟨white, separator, -⟩ := plain.items
      exact ⟨44, _, by rw [dumpsMembers, separator]; rfl, .inl rfl⟩

/-- A number or a constant is parsed as the scanner reads it. -/
theorem parseValue_scalar {s rest : PyStr} {x : Json} {fuel : Nat}
    (scan : scanScalar s = .ok (x, rest)) (enough : 1 ≤ fuel) :
    parseValue unique fuel s = .ok (x, rest) := by
  obtain ⟨fuel, rfl⟩ := Nat.exists_eq_add_of_le' enough
  cases s with
  | nil => cases scan
  | cons c tail =>
      have other : c ≠ 34 ∧ c ≠ 91 ∧ c ≠ 123 := by
        refine ⟨?_, ?_, ?_⟩ <;> rintro rfl <;> cases scan
      simp only [parseValue, other, if_false]
      exact scan

/-- The first code point of a printed value is not skipped. -/
theorem skip_dumps {x : Json} (printable : Printable unique x) (rest : PyStr) :
    skip (dumps style x ++ rest) = dumps style x ++ rest := by
  obtain ⟨c, tail, text, visible, -⟩ := dumps_head style printable
  rw [text]
  exact skip_cons visible

theorem length_dumps_pos {x : Json} (printable : Printable unique x) :
    1 ≤ (dumps style x).length := by
  obtain ⟨c, tail, text, -⟩ := dumps_head style printable
  rw [text]
  exact Nat.succ_pos _

theorem ends_items (plain : style.Plain) (items : List Json) (rest : PyStr) :
    Ends (dumpsItems style items ++ rest) := by
  obtain ⟨c, tail, text, rfl | rfl⟩ := dumpsItems_head plain items <;> rw [text] <;>
    exact ends_cons (by decide)

theorem ends_members (plain : style.Plain) (members : List (PyStr × Json)) (rest : PyStr) :
    Ends (dumpsMembers style members ++ rest) := by
  obtain ⟨c, tail, text, rfl | rfl⟩ := dumpsMembers_head plain members <;> rw [text] <;>
    exact ends_cons (by decide)

theorem skip_items (plain : style.Plain) (items : List Json) (rest : PyStr) :
    skip (dumpsItems style items ++ rest) = dumpsItems style items ++ rest := by
  obtain ⟨c, tail, text, rfl | rfl⟩ := dumpsItems_head plain items <;> rw [text] <;>
    exact skip_cons (by decide)

theorem skip_members (plain : style.Plain) (members : List (PyStr × Json)) (rest : PyStr) :
    skip (dumpsMembers style members ++ rest) = dumpsMembers style members ++ rest := by
  obtain ⟨c, tail, text, rfl | rfl⟩ := dumpsMembers_head plain members <;> rw [text] <;>
    exact skip_cons (by decide)

theorem length_le_flatMap (s : PyStr) : s.length ≤ (s.flatMap (escape false)).length := by
  induction s with
  | nil => exact Nat.le_refl 0
  | cons c s ih =>
      have one : 1 ≤ (escape false c).length := by
        unfold escape
        split_ifs <;> simp [unicodeEscape]
      rw [List.flatMap_cons, List.length_append, List.length_cons]
      omega

theorem length_itemsText_cons (first : Bool) (x : Json) (items : List Json) (style : Style) :
    (dumps style x).length + (dumpsItems style items).length ≤
      (itemsText style first (x :: items)).length := by
  cases first <;> simp only [itemsText, dumpsItems, List.length_append] <;> omega

theorem length_membersText_cons (first : Bool) (k : PyStr) (x : Json)
    (members : List (PyStr × Json)) (style : Style) :
    (dumps style x).length + (dumpsMembers style members).length ≤
      (membersText style first ((k, x) :: members)).length := by
  cases first <;> simp only [membersText, dumpsMembers, List.length_append] <;> omega

theorem skip_itemsText (plain : style.Plain) {items : List Json}
    (printable : PrintableItems unique items) (rest : PyStr) :
    skip (itemsText style true items ++ rest) = itemsText style true items ++ rest := by
  cases items with
  | nil => exact skip_items plain [] rest
  | cons x items =>
      rw [itemsText, List.append_assoc]
      exact skip_dumps printable.1 _

theorem skip_membersText (plain : style.Plain) (members : List (PyStr × Json)) (rest : PyStr) :
    skip (membersText style true members ++ rest) = membersText style true members ++ rest := by
  match members with
  | [] => exact skip_members plain [] rest
  | (k, x) :: members =>
      rw [membersText, quote]
      exact skip_cons (by decide)

/-- One item is read, and then the others. -/
theorem parseItems_cons (plain : style.Plain) {x : Json} {items : List Json} {rest : PyStr}
    {fuel : Nat} (first : Bool) (printable : Printable unique x)
    (value : parseValue unique fuel (dumps style x ++ (dumpsItems style items ++ rest)) =
      .ok (x, dumpsItems style items ++ rest))
    (others : parseItems unique fuel false (dumpsItems style items ++ rest) = .ok (items, rest)) :
    parseItems unique (fuel + 1) first (itemsText style first (x :: items) ++ rest) =
      .ok (x :: items, rest) := by
  cases first with
  | true =>
      obtain ⟨c, tail, text, -, open', -⟩ := dumps_head style printable
      rw [itemsText, List.append_assoc]
      rw [text, List.cons_append] at value ⊢
      simp only [parseItems, open', if_false, Bool.true_eq_false, false_and, if_true]
      rw [value]
      simp only [bind, Except.bind]
      rw [skip_items plain, others]
  | false =>
      obtain ⟨white, separator, blank⟩ := plain.items
      rw [itemsText_false, dumpsItems, separator]
      simp only [List.cons_append, List.append_assoc]
      have comma : ¬(44 : CodePoint) = 93 := by decide
      simp only [parseItems, comma, if_false, ne_eq, not_true_eq_false, and_false,
        Bool.false_eq_true]
      rw [skip_append blank, skip_dumps printable, value]
      simp only [bind, Except.bind]
      rw [skip_items plain, others]

/-- One member is read, and then the others. -/
theorem parseMembers_cons (plain : style.Plain) {k : PyStr} {x : Json}
    {members : List (PyStr × Json)} {rest : PyStr} {fuel : Nat} (first : Bool)
    (printable : Printable unique x)
    (value : parseValue unique fuel (dumps style x ++ (dumpsMembers style members ++ rest)) =
      .ok (x, dumpsMembers style members ++ rest))
    (others : parseMembers unique fuel false (dumpsMembers style members ++ rest) =
      .ok (members, rest)) :
    parseMembers unique (fuel + 1) first (membersText style first ((k, x) :: members) ++ rest) =
      .ok ((k, x) :: members, rest) := by
  obtain ⟨white, separator, blank⟩ := plain.items
  obtain ⟨white', colon, blank'⟩ := plain.keys
  -- The key and what comes after it, behind the opening quote.
  have key : ∀ tail : PyStr, scanString ((k.flatMap (escape false) ++ 34 :: tail).length + 1)
      (k.flatMap (escape false) ++ 34 :: tail) = .ok (k, tail) := by
    intro tail
    refine scanString_quote k tail _ (Nat.lt_succ_of_le ?_)
    rw [List.length_append]
    exact (length_le_flatMap k).trans (Nat.le_add_right _ _)
  cases first with
  | true =>
      rw [membersText, quote, plain.ascii, colon]
      simp only [List.cons_append, List.append_assoc, List.nil_append]
      have brace : ¬(34 : CodePoint) = 125 := by decide
      simp only [parseMembers, brace, if_false, Bool.true_eq_false, false_and, if_true, ne_eq,
        not_true_eq_false]
      rw [key]
      simp only [bind, Except.bind]
      rw [skip_cons (by decide)]
      simp only [not_true_eq_false, if_false]
      rw [skip_append blank', skip_dumps printable, value]
      simp only
      rw [skip_members plain, others]
  | false =>
      rw [membersText_false, dumpsMembers, separator, quote, plain.ascii, colon]
      simp only [List.cons_append, List.append_assoc, List.nil_append]
      have comma : ¬(44 : CodePoint) = 125 := by decide
      simp only [parseMembers, comma, if_false, ne_eq, not_true_eq_false, and_false,
        Bool.false_eq_true]
      rw [skip_append blank, skip_cons (by decide)]
      simp only [not_true_eq_false, if_false]
      rw [key]
      simp only [bind, Except.bind]
      rw [skip_cons (by decide)]
      simp only [not_true_eq_false, if_false]
      rw [skip_append blank', skip_dumps printable, value]
      simp only
      rw [skip_members plain, others]

mutual

/-- A printed value is read back, whatever follows it. -/
theorem parseValue_dumps (plain : style.Plain) (x : Json) (printable : Printable unique x)
    (rest : PyStr) (stop : Ends rest) (fuel : Nat) (enough : 2 * (dumps style x).length ≤ fuel) :
    parseValue unique fuel (dumps style x ++ rest) = .ok (x, rest) := by
  have positive : 1 ≤ (dumps style x).length := length_dumps_pos printable
  have one : 1 ≤ fuel := by omega
  cases x with
  | null => exact parseValue_scalar rfl one
  | bool b => cases b <;> exact parseValue_scalar rfl one
  | int n =>
      rw [dumps]
      exact parseValue_scalar (scanScalar_int printable stop) one
  | float text =>
      rw [dumps]
      exact parseValue_scalar (scanScalar_float printable stop) one
  | str s =>
      obtain ⟨fuel, rfl⟩ := Nat.exists_eq_add_of_le' one
      have scan := scanString_quote s rest
      rw [dumps, quote, plain.ascii]
      simp only [List.cons_append, List.append_assoc, List.nil_append, parseValue, if_true]
      rw [scan _ ?_]
      · rfl
      · rw [List.length_append]
        have short := length_le_flatMap s
        omega
  | arr items =>
      obtain ⟨fuel, rfl⟩ := Nat.exists_eq_add_of_le' one
      rw [dumps_arr] at enough ⊢
      rw [List.length_cons] at enough
      have read := parseItems_dumps plain items true printable rest fuel (by omega)
      have quote : ¬(91 : CodePoint) = 34 := by decide
      simp only [List.cons_append, parseValue, quote, if_false, if_true]
      rw [skip_itemsText plain printable, read]
      rfl
  | obj members =>
      obtain ⟨fuel, rfl⟩ := Nat.exists_eq_add_of_le' one
      rw [dumps_obj] at enough ⊢
      rw [List.length_cons] at enough
      have read := parseMembers_dumps plain members true printable.2 rest fuel (by omega)
      have quote : ¬(123 : CodePoint) = 34 := by decide
      have bracket : ¬(123 : CodePoint) = 91 := by decide
      simp only [List.cons_append, parseValue, quote, bracket, if_false, if_true]
      rw [skip_membersText plain, read]
      simp only [bind, Except.bind]
      rw [if_neg fun repeated => repeated.2 (printable.1 repeated.1)]

theorem parseItems_dumps (plain : style.Plain) (items : List Json) (first : Bool)
    (printable : PrintableItems unique items) (rest : PyStr) (fuel : Nat)
    (enough : 2 * (itemsText style first items).length + 1 ≤ fuel) :
    parseItems unique fuel first (itemsText style first items ++ rest) = .ok (items, rest) := by
  obtain ⟨fuel, rfl⟩ := Nat.exists_eq_add_of_le' (Nat.le_of_add_left_le enough)
  cases items with
  | nil => cases first <;> rfl
  | cons x tail =>
      have sizes := length_itemsText_cons first x tail style
      have positive : 1 ≤ (dumps style x).length := length_dumps_pos printable.1
      refine parseItems_cons plain first printable.1 ?_ ?_
      · exact parseValue_dumps plain x printable.1 _ (ends_items plain tail rest) fuel (by omega)
      · rw [← itemsText_false]
        exact parseItems_dumps plain tail false printable.2 rest fuel (by
          rw [itemsText_false]
          omega)

theorem parseMembers_dumps (plain : style.Plain) (members : List (PyStr × Json)) (first : Bool)
    (printable : PrintableMembers unique members) (rest : PyStr) (fuel : Nat)
    (enough : 2 * (membersText style first members).length + 1 ≤ fuel) :
    parseMembers unique fuel first (membersText style first members ++ rest) =
      .ok (members, rest) := by
  obtain ⟨fuel, rfl⟩ := Nat.exists_eq_add_of_le' (Nat.le_of_add_left_le enough)
  match members with
  | [] => cases first <;> rfl
  | (k, x) :: tail =>
      have sizes := length_membersText_cons first k x tail style
      have positive : 1 ≤ (dumps style x).length := length_dumps_pos printable.1
      refine parseMembers_cons plain first printable.1 ?_ ?_
      · exact parseValue_dumps plain x printable.1 _ (ends_members plain tail rest) fuel (by omega)
      · rw [← membersText_false]
        exact parseMembers_dumps plain tail false printable.2 rest fuel (by
          rw [membersText_false]
          omega)

end

end RoundTrip

/-- `loads` reads back what `dumps` prints. -/
theorem loads_dumps {style : Style} {unique : Bool} (plain : style.Plain) {x : Json}
    (printable : Printable unique x) : loads unique (dumps style x) = .ok x := by
  have read := parseValue_dumps plain x printable [] ends_nil (2 * (dumps style x).length + 2)
    (by omega)
  have visible : skip (dumps style x ++ []) = dumps style x ++ [] := skip_dumps printable []
  rw [List.append_nil] at read visible
  have mark : ¬(dumps style x).head? = some 0xfeff := by
    obtain ⟨c, tail, text, -, -, unmarked⟩ := dumps_head style printable
    rw [text]
    exact fun same => unmarked (Option.some.inj same)
  unfold loads
  rw [if_neg mark, visible, read]
  rfl

/-! ## What the parser returns -/

/-- A parsed value is printable, and its compact text has no more bytes than what was read. -/
structure Read (unique : Bool) (s : PyStr) (x : Json) (rest : PyStr) : Prop where
  printable : Printable unique x
  size : bytes (dumps (.compact false) x) + bytes rest ≤ bytes s

structure ReadItems (unique first : Bool) (s : PyStr) (items : List Json) (rest : PyStr) :
    Prop where
  printable : PrintableItems unique items
  size : bytes (itemsText (.compact false) first items) + bytes rest ≤ bytes s

structure ReadMembers (unique first : Bool) (s : PyStr) (members : List (PyStr × Json))
    (rest : PyStr) : Prop where
  printable : PrintableMembers unique members
  size : bytes (membersText (.compact false) first members) + bytes rest ≤ bytes s

section Reading

variable {unique : Bool} {fuel : Nat}

/-- The value of a bind of two parsers, taken apart. -/
theorem bind_eq_ok {α β : Type} {p : Except ParseError α} {f : α → Except ParseError β} {b : β}
    (h : (p >>= f) = .ok b) : ∃ a, p = .ok a ∧ f a = .ok b := by
  cases p with
  | error e => cases h
  | ok a => exact ⟨a, rfl, h⟩

theorem read_value
    (items : ∀ {first s xs rest}, parseItems unique fuel first s = .ok (xs, rest) →
      ReadItems unique first s xs rest)
    (members : ∀ {first s xs rest}, parseMembers unique fuel first s = .ok (xs, rest) →
      ReadMembers unique first s xs rest)
    {s rest : PyStr} {x : Json} (h : parseValue unique (fuel + 1) s = .ok (x, rest)) :
    Read unique s x rest := by
  cases s with
  | nil => cases h
  | cons c tail =>
      rw [parseValue] at h
      have one := utf8Bytes_pos c
      split at h
      · obtain ⟨⟨text, tail'⟩, scan, h⟩ := bind_eq_ok h
        cases h
        have size := bytes_scanString scan
        refine ⟨trivial, ?_⟩
        have quoted : bytes (dumps (.compact false) (.str text)) =
            bytes (text.flatMap (escape false)) + 2 := by
          simp only [dumps, quote, bytes_append, bytes_cons, bytes_nil]
          show 1 + bytes (text.flatMap (escape false)) + (1 + 0) = _
          omega
        rw [quoted, bytes_cons]
        omega
      · split at h
        · obtain ⟨⟨xs, tail'⟩, found, h⟩ := bind_eq_ok h
          cases h
          have read := items found
          have size := read.size
          have skipped := bytes_skip tail
          have bracket : (utf8Bytes 91).length = 1 := by decide
          refine ⟨read.printable, ?_⟩
          rw [dumps_arr, bytes_cons, bytes_cons, bracket]
          omega
        · split at h
          · obtain ⟨⟨xs, tail'⟩, found, h⟩ := bind_eq_ok h
            dsimp only at h
            split at h
            · cases h
            · next distinct =>
                cases h
                have read := members found
                have size := read.size
                have skipped := bytes_skip tail
                have brace : (utf8Bytes 123).length = 1 := by decide
                refine ⟨⟨fun only => ?_, read.printable⟩, ?_⟩
                · by_contra repeated
                  exact distinct ⟨only, repeated⟩
                · rw [dumps_obj, bytes_cons, bytes_cons, brace]
                  omega
          · obtain ⟨printable, size⟩ := scanScalar_eq_ok h unique (.compact false)
            exact ⟨printable, size⟩

theorem read_items
    (value : ∀ {s x rest}, parseValue unique fuel s = .ok (x, rest) → Read unique s x rest)
    (items : ∀ {first s xs rest}, parseItems unique fuel first s = .ok (xs, rest) →
      ReadItems unique first s xs rest)
    {first : Bool} {s rest : PyStr} {xs : List Json}
    (h : parseItems unique (fuel + 1) first s = .ok (xs, rest)) :
    ReadItems unique first s xs rest := by
  cases s with
  | nil => cases h
  | cons c tail =>
      rw [parseItems] at h
      have one := utf8Bytes_pos c
      split at h
      · cases h
        have bracket : bytes (itemsText (.compact false) first []) = 1 := by
          cases first <;> decide
        refine ⟨trivial, ?_⟩
        rw [bracket, bytes_cons]
        omega
      · split at h
        · cases h
        · obtain ⟨⟨x, tail'⟩, found, h⟩ := bind_eq_ok h
          obtain ⟨⟨xs, tail''⟩, others, h⟩ := bind_eq_ok h
          cases h
          have read := value found
          have rest := items others
          have size := rest.size
          have skipped := bytes_skip tail'
          rw [itemsText_false] at size
          refine ⟨⟨read.printable, rest.printable⟩, ?_⟩
          have own := read.size
          cases first with
          | true =>
              rw [if_pos rfl] at own
              rw [itemsText, bytes_append]
              omega
          | false =>
              have skipped' := bytes_skip tail
              have comma : bytes (Style.compact false).itemSep = 1 := by decide
              rw [if_neg (by decide)] at own
              rw [itemsText_false, dumpsItems, bytes_append, bytes_append, bytes_cons, comma]
              omega

theorem read_members
    (value : ∀ {s x rest}, parseValue unique fuel s = .ok (x, rest) → Read unique s x rest)
    (members : ∀ {first s xs rest}, parseMembers unique fuel first s = .ok (xs, rest) →
      ReadMembers unique first s xs rest)
    {first : Bool} {s rest : PyStr} {xs : List (PyStr × Json)}
    (h : parseMembers unique (fuel + 1) first s = .ok (xs, rest)) :
    ReadMembers unique first s xs rest := by
  cases s with
  | nil => cases h
  | cons c tail =>
      rw [parseMembers] at h
      have one := utf8Bytes_pos c
      split at h
      · cases h
        have brace : bytes (membersText (.compact false) first []) = 1 := by
          cases first <;> decide
        refine ⟨trivial, ?_⟩
        rw [brace, bytes_cons]
        omega
      · split at h
        · cases h
        · -- What is left after the separator, if there is one.
          have start : bytes (if first = true then c :: tail else skip tail) +
              (if first = true then 0 else 1) ≤ bytes (c :: tail) := by
            have skipped := bytes_skip tail
            cases first
            · rw [if_neg (by decide), if_neg (by decide), bytes_cons]
              omega
            · exact Nat.le_refl _
          split at h
          · cases h
          · next q tail' opened =>
              rw [opened] at start
              split at h
              · cases h
              · obtain ⟨⟨key, tail₁⟩, scan, h⟩ := bind_eq_ok h
                dsimp only at h
                split at h
                · cases h
                · next colon tail₂ afterKey =>
                    split at h
                    · cases h
                    · obtain ⟨⟨x, tail₃⟩, found, h⟩ := bind_eq_ok h
                      dsimp only at h
                      obtain ⟨⟨xs, tail₄⟩, others, h⟩ := bind_eq_ok h
                      cases h
                      have read := value found
                      have rest := members others
                      have text := bytes_scanString scan
                      have own := read.size
                      have size := rest.size
                      have skipped₁ := bytes_skip tail₁
                      have skipped₂ := bytes_skip tail₂
                      have skipped₃ := bytes_skip tail₃
                      have quoted := utf8Bytes_pos q
                      have sign := utf8Bytes_pos colon
                      rw [afterKey, bytes_cons] at skipped₁
                      rw [membersText_false] at size
                      rw [bytes_cons] at start
                      have comma : bytes (Style.compact false).itemSep = 1 := by decide
                      have point : bytes (Style.compact false).keySep = 1 := by decide
                      have key' : bytes (Json.quote (Style.compact false).ascii key) =
                          bytes (key.flatMap (escape false)) + 2 := by
                        simp only [Json.quote, bytes_append, bytes_cons, bytes_nil]
                        show 1 + bytes (key.flatMap (escape false)) + (1 + 0) = _
                        omega
                      refine ⟨⟨read.printable, rest.printable⟩, ?_⟩
                      cases first with
                      | true =>
                          rw [if_pos rfl] at start
                          simp only [membersText, bytes_append, key', point]
                          omega
                      | false =>
                          rw [if_neg (by decide)] at start
                          rw [membersText_false, dumpsMembers]
                          simp only [bytes_append, key', point, comma]
                          omega

/-- Everything that the parser returns, by induction on the fuel of its three parts. -/
theorem read_all (unique : Bool) (fuel : Nat) :
    (∀ {s x rest}, parseValue unique fuel s = .ok (x, rest) → Read unique s x rest) ∧
    (∀ {first s xs rest}, parseItems unique fuel first s = .ok (xs, rest) →
      ReadItems unique first s xs rest) ∧
    (∀ {first s xs rest}, parseMembers unique fuel first s = .ok (xs, rest) →
      ReadMembers unique first s xs rest) := by
  induction fuel with
  | zero =>
      refine ⟨?_, ?_, ?_⟩
      · intro s x rest h
        cases h
      · intro first s xs rest h
        cases h
      · intro first s xs rest h
        cases h
  | succ fuel ih =>
      obtain ⟨value, items, members⟩ := ih
      exact ⟨read_value items members, read_items value items, read_members value members⟩

/-- What `loads` returns can be printed, and its compact text is no longer than the input. -/
theorem loads_eq_ok {raw : PyStr} {x : Json} (h : loads unique raw = .ok x) :
    Printable unique x ∧ bytes (dumps (.compact false) x) ≤ bytes raw := by
  unfold loads at h
  split at h
  · cases h
  · obtain ⟨⟨y, rest⟩, found, h⟩ := bind_eq_ok h
    dsimp only at h
    split at h
    · cases h
      have read := (read_all unique _).1 found
      have size := read.size
      have skipped := bytes_skip raw
      exact ⟨read.printable, by omega⟩
    · cases h

end Reading

/-! ## Canonical forms -/

section Canonical

variable {floatRepr : PyStr → PyStr} {unique : Bool}

/-- How a float is written: as a float, and in the same way when it is read back. -/
structure FloatWriter (floatRepr : PyStr → PyStr) : Prop where
  float : ∀ {text}, FloatText text → FloatText (floatRepr text)
  again : ∀ {text}, FloatText text → floatRepr (floatRepr text) = floatRepr text

theorem textLe_total (a b : PyStr) : textLe a b = true ∨ textLe b a = true := by
  induction a generalizing b with
  | nil => exact .inl rfl
  | cons c a ih =>
      cases b with
      | nil => exact .inr rfl
      | cons d b =>
          simp only [textLe]
          rcases Nat.lt_trichotomy c.val d.val with less | same | more
          · have apart : c ≠ d := by
              rintro rfl
              omega
            exact .inl (by simp [apart, less])
          · obtain rfl := Fin.ext same
            simpa using ih b
          · have apart : d ≠ c := by
              rintro rfl
              omega
            exact .inr (by simp [apart, more])

theorem textLe_trans {a b c : PyStr} (first : textLe a b = true) (second : textLe b c = true) :
    textLe a c = true := by
  induction a generalizing b c with
  | nil => rfl
  | cons x a ih =>
      cases b with
      | nil => cases first
      | cons y b =>
          cases c with
          | nil => cases second
          | cons z c =>
              simp only [textLe] at first second ⊢
              split at first
              · next same =>
                  subst same
                  split at second
                  · next same =>
                      subst same
                      rw [if_pos rfl]
                      exact ih first second
                  · next apart =>
                      rw [if_neg apart]
                      exact second
              · next apart =>
                  have less : x.val < y.val := of_decide_eq_true first
                  split at second
                  · next same =>
                      subst same
                      rw [if_neg apart]
                      exact first
                  · next apart' =>
                      have less' : y.val < z.val := of_decide_eq_true second
                      have other : x ≠ z := by
                        rintro rfl
                        omega
                      rw [if_neg other]
                      exact decide_eq_true (less.trans less')

/-- Members in the order of their keys. -/
def SortedMembers (members : List (PyStr × Json)) : Prop :=
  members.Pairwise fun a b => textLe a.1 b.1 = true

theorem insertMember_perm (member : PyStr × Json) (members : List (PyStr × Json)) :
    (insertMember member members).Perm (member :: members) := by
  induction members with
  | nil => exact .refl _
  | cons head rest ih =>
      unfold insertMember
      split
      · exact .refl _
      · exact (ih.cons head).trans (.swap _ _ _)

theorem insertMember_sorted {members : List (PyStr × Json)} (member : PyStr × Json)
    (sorted : SortedMembers members) : SortedMembers (insertMember member members) := by
  induction members with
  | nil => exact List.pairwise_singleton _ _
  | cons head rest ih =>
      obtain ⟨first, others⟩ := List.pairwise_cons.mp sorted
      unfold insertMember
      split
      · next le =>
          refine List.pairwise_cons.mpr ⟨fun other mem => ?_, sorted⟩
          rcases List.mem_cons.mp mem with rfl | mem
          · exact le
          · exact textLe_trans le (first other mem)
      · next more =>
          refine List.pairwise_cons.mpr ⟨fun other mem => ?_, ih others⟩
          rcases List.mem_cons.mp ((insertMember_perm member rest).mem_iff.mp mem) with rfl | mem
          · exact (textLe_total head.1 other.1).resolve_right more
          · exact first other mem

/-- A member that comes first is inserted at the front. -/
theorem insertMember_front {member : PyStr × Json} {members : List (PyStr × Json)}
    (first : ∀ other ∈ members, textLe member.1 other.1 = true) :
    insertMember member members = member :: members := by
  cases members with
  | nil => rfl
  | cons head rest => simp [insertMember, first head List.mem_cons_self]

theorem canonicalMembers_sorted (members : List (PyStr × Json)) :
    SortedMembers (canonicalMembers floatRepr members) := by
  induction members with
  | nil => exact List.Pairwise.nil
  | cons head rest ih => exact insertMember_sorted _ ih

theorem canonicalMembers_keys (members : List (PyStr × Json)) :
    ((canonicalMembers floatRepr members).map Prod.fst).Perm (members.map Prod.fst) := by
  induction members with
  | nil => exact .refl _
  | cons head rest ih =>
      exact ((insertMember_perm _ _).map Prod.fst).trans (ih.cons head.1)

theorem printableMembers_iff {members : List (PyStr × Json)} :
    PrintableMembers unique members ↔ ∀ member ∈ members, Printable unique member.2 := by
  induction members with
  | nil => exact ⟨fun _ _ mem => (List.not_mem_nil mem).elim, fun _ => trivial⟩
  | cons head rest ih =>
      show _ ∧ _ ↔ _
      rw [ih, List.forall_mem_cons]

mutual

/-- The canonical form of a printable value is printable. -/
theorem canonical_printable (writer : FloatWriter floatRepr) (x : Json)
    (printable : Printable unique x) : Printable unique (canonical floatRepr x) := by
  cases x with
  | null => trivial
  | bool b => trivial
  | int n => exact printable
  | float text => exact writer.float printable
  | str s => trivial
  | arr items => exact canonicalItems_printable writer items printable
  | obj members =>
      refine ⟨fun only => ?_, canonicalMembers_printable writer members printable.2⟩
      exact (canonicalMembers_keys members).nodup_iff.mpr (printable.1 only)

theorem canonicalItems_printable (writer : FloatWriter floatRepr) (items : List Json)
    (printable : PrintableItems unique items) :
    PrintableItems unique (canonicalItems floatRepr items) := by
  cases items with
  | nil => trivial
  | cons x rest =>
      exact ⟨canonical_printable writer x printable.1,
        canonicalItems_printable writer rest printable.2⟩

theorem canonicalMembers_printable (writer : FloatWriter floatRepr)
    (members : List (PyStr × Json)) (printable : PrintableMembers unique members) :
    PrintableMembers unique (canonicalMembers floatRepr members) := by
  match members with
  | [] => trivial
  | (k, x) :: rest =>
      have first := canonical_printable writer x printable.1
      have others := canonicalMembers_printable writer rest printable.2
      rw [printableMembers_iff] at others ⊢
      intro member mem
      rcases List.mem_cons.mp ((insertMember_perm _ _).mem_iff.mp mem) with rfl | mem
      · exact first
      · exact others member mem

end

/-- Sorted members with canonical values are their own canonical form. -/
theorem canonicalMembers_fixed {members : List (PyStr × Json)} (sorted : SortedMembers members)
    (fixed : ∀ member ∈ members, canonical floatRepr member.2 = member.2) :
    canonicalMembers floatRepr members = members := by
  induction members with
  | nil => rfl
  | cons head rest ih =>
      obtain ⟨first, others⟩ := List.pairwise_cons.mp sorted
      have same := fixed head List.mem_cons_self
      rw [canonicalMembers, ih others fun member mem => fixed member (List.mem_cons_of_mem _ mem),
        same]
      exact insertMember_front first

mutual

/-- The canonical form of a canonical form is the same. -/
theorem canonical_canonical (writer : FloatWriter floatRepr) (x : Json)
    (printable : Printable unique x) :
    canonical floatRepr (canonical floatRepr x) = canonical floatRepr x := by
  cases x with
  | null => rfl
  | bool b => rfl
  | int n => rfl
  | float text => exact congrArg Json.float (writer.again printable)
  | str s => rfl
  | arr items => exact congrArg Json.arr (canonicalItems_canonical writer items printable)
  | obj members =>
      have values := canonicalMembers_values writer members printable.2
      exact congrArg Json.obj (canonicalMembers_fixed (canonicalMembers_sorted members) values)

theorem canonicalItems_canonical (writer : FloatWriter floatRepr) (items : List Json)
    (printable : PrintableItems unique items) :
    canonicalItems floatRepr (canonicalItems floatRepr items) = canonicalItems floatRepr items := by
  cases items with
  | nil => rfl
  | cons x rest =>
      have first := canonical_canonical writer x printable.1
      have others := canonicalItems_canonical writer rest printable.2
      simp only [canonicalItems, first, others]

theorem canonicalMembers_values (writer : FloatWriter floatRepr) (members : List (PyStr × Json))
    (printable : PrintableMembers unique members) :
    ∀ member ∈ canonicalMembers floatRepr members,
      canonical floatRepr member.2 = member.2 := by
  match members with
  | [] => exact fun _ mem => (List.not_mem_nil mem).elim
  | (k, x) :: rest =>
      have first := canonical_canonical writer x printable.1
      have others := canonicalMembers_values writer rest printable.2
      intro member mem
      rcases List.mem_cons.mp ((insertMember_perm _ _).mem_iff.mp mem) with rfl | mem
      · exact first
      · exact others member mem

end

/-- A printable value is read back from its canonical text as its canonical form. -/
theorem loads_canonical {style : Style} (plain : style.Plain) (writer : FloatWriter floatRepr)
    {x : Json} (printable : Printable unique x) :
    loads unique (dumps style (canonical floatRepr x)) = .ok (canonical floatRepr x) ∧
      canonical floatRepr (canonical floatRepr x) = canonical floatRepr x :=
  ⟨loads_dumps plain (canonical_printable writer x printable),
    canonical_canonical writer x printable⟩

mutual

/-- A value with distinct keys is printable for the parser that does not ask for them. -/
theorem printable_weaken (x : Json) (printable : Printable true x) : Printable unique x := by
  cases x with
  | arr items => exact printableItems_weaken items printable
  | obj members => exact ⟨fun _ => printable.1 rfl, printableMembers_weaken members printable.2⟩
  | _ => exact printable

theorem printableItems_weaken (items : List Json) (printable : PrintableItems true items) :
    PrintableItems unique items := by
  cases items with
  | nil => trivial
  | cons x rest =>
      exact ⟨printable_weaken x printable.1, printableItems_weaken rest printable.2⟩

theorem printableMembers_weaken (members : List (PyStr × Json))
    (printable : PrintableMembers true members) : PrintableMembers unique members := by
  match members with
  | [] => trivial
  | (_, x) :: rest =>
      exact ⟨printable_weaken x printable.1, printableMembers_weaken rest printable.2⟩

end

end Canonical

/-! ## Members -/

section Members

variable {members others : List (PyStr × Json)}

theorem mem_of_get? {key : PyStr} {x : Json} (h : get? key members = some x) :
    (key, x) ∈ members := by
  induction members with
  | nil => cases h
  | cons head rest ih =>
      obtain ⟨k, y⟩ := head
      unfold get? at h
      split at h
      · next same =>
          cases h
          rw [same]
          exact List.mem_cons_self
      · exact List.mem_cons_of_mem _ (ih h)

/-- With distinct keys, a member is what its key finds. -/
theorem get?_of_mem (distinct : (members.map Prod.fst).Nodup) {key : PyStr} {x : Json}
    (mem : (key, x) ∈ members) : get? key members = some x := by
  induction members with
  | nil => exact (List.not_mem_nil mem).elim
  | cons head rest ih =>
      obtain ⟨k, y⟩ := head
      obtain ⟨fresh, distinct⟩ := List.nodup_cons.mp distinct
      rcases List.mem_cons.mp mem with same | mem
      · cases same
        simp [get?]
      · have apart : k ≠ key := by
          intro same
          have listed := List.mem_map_of_mem (f := Prod.fst) mem
          exact fresh (same ▸ listed)
        simp [get?, apart, ih distinct mem]

/-- Members with the same distinct keys and the same values differ in their order only. -/
theorem perm_of_get? (distinct : (members.map Prod.fst).Nodup)
    (distinct' : (others.map Prod.fst).Nodup)
    (keys : ∀ key ∈ members.map Prod.fst, key ∈ others.map Prod.fst)
    (values : ∀ member ∈ others, get? member.1 members = some member.2) :
    members.Perm others := by
  refine (List.perm_ext_iff_of_nodup (List.Nodup.of_map _ distinct)
    (List.Nodup.of_map _ distinct')).mpr ?_
  rintro ⟨key, x⟩
  constructor
  · intro mem
    obtain ⟨⟨k, y⟩, listed, same⟩ := List.mem_map.mp (keys key (List.mem_map_of_mem mem))
    obtain rfl : k = key := same
    have found := values _ listed
    have own := get?_of_mem distinct mem
    rw [own] at found
    rw [Option.some.inj found]
    exact listed
  · intro mem
    exact mem_of_get? (values _ mem)

theorem printable_get? {unique : Bool} {key : PyStr} {x : Json}
    (printable : Printable unique (.obj members)) (found : get? key members = some x) :
    Printable unique x :=
  printableMembers_iff.mp printable.2 _ (mem_of_get? found)

/-- The order of the members does not change the size of an object. -/
theorem bytes_obj_perm (style : Style) (same : members.Perm others) :
    bytes (dumps style (.obj members)) = bytes (dumps style (.obj others)) := by
  have tail : ∀ {a b : List (PyStr × Json)}, a.Perm b →
      bytes (dumpsMembers style a) = bytes (dumpsMembers style b) := by
    intro a b same
    induction same with
    | nil => rfl
    | cons m _ ih => simp only [dumpsMembers, bytes_append, ih]
    | swap m n l =>
        simp only [dumpsMembers, bytes_append]
        omega
    | trans _ _ first second => exact first.trans second
  have whole : ∀ a : List (PyStr × Json), a ≠ [] →
      bytes (dumps style (.obj a)) + bytes style.itemSep = 1 + bytes (dumpsMembers style a) := by
    intro a some
    cases a with
    | nil => exact absurd rfl some
    | cons m l =>
        have brace : (utf8Bytes 123).length = 1 := by decide
        simp only [dumps, dumpsMembers, bytes_append, bytes_cons, brace]
        omega
  by_cases empty : members = []
  · subst empty
    rw [List.nil_perm.mp same]
  · have some : others ≠ [] := by
      rintro rfl
      exact empty (List.perm_nil.mp same)
    have first := whole members empty
    have second := whole others some
    have between := tail same
    omega

end Members

end Json

end AgentCompanyOS.Foundation
