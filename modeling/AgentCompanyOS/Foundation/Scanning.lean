import AgentCompanyOS.Foundation.Json

/-!
# Scanning printed texts

The two scanners under the JSON parser, for strings and for numbers. Each reads back what
the printer writes, whatever follows, and each reads from a text at least as many bytes as
the printer needs for the result.
-/

set_option autoImplicit false

namespace AgentCompanyOS.Foundation

/-! ## Bytes -/

/-- The number of bytes of a text, with three for half of a surrogate pair. -/
def bytes (s : PyStr) : Nat := (s.flatMap utf8Bytes).length

@[simp] theorem bytes_nil : bytes [] = 0 := rfl

@[simp] theorem bytes_cons (c : CodePoint) (s : PyStr) :
    bytes (c :: s) = (utf8Bytes c).length + bytes s := by
  simp [bytes]

@[simp] theorem bytes_append (s t : PyStr) : bytes (s ++ t) = bytes s + bytes t := by
  simp [bytes]

theorem utf8Bytes_pos (c : CodePoint) : 1 ≤ (utf8Bytes c).length := by
  simp only [utf8Bytes]
  split_ifs <;> simp

theorem utf8Bytes_le (c : CodePoint) : (utf8Bytes c).length ≤ 4 := by
  simp only [utf8Bytes]
  split_ifs <;> simp

theorem length_le_bytes (s : PyStr) : s.length ≤ bytes s := by
  induction s with
  | nil => exact Nat.le_refl 0
  | cons c rest ih =>
      have one := utf8Bytes_pos c
      rw [bytes_cons, List.length_cons]
      omega

theorem bytes_eq_of_utf8 {s : PyStr} {encoded : List Nat} (h : utf8 s = some encoded) :
    encoded.length = bytes s := by
  unfold utf8 at h
  split at h
  · cases h
  · cases h
    rfl

/-- A suffix of a text has no more bytes. -/
theorem bytes_suffix {s t : PyStr} (h : t <:+ s) : bytes t ≤ bytes s := by
  obtain ⟨front, rfl⟩ := h
  rw [bytes_append]
  exact Nat.le_add_left _ _

namespace Json

theorem skip_suffix (s : PyStr) : skip s <:+ s := List.dropWhile_suffix _

theorem bytes_skip (s : PyStr) : bytes (skip s) ≤ bytes s := bytes_suffix (skip_suffix s)

/-- No white space is skipped before a visible code point. -/
theorem skip_cons {c : CodePoint} {s : PyStr} (visible : isWhite c = false) :
    skip (c :: s) = c :: s := by
  simp [skip, visible]

/-- White space before a visible code point is skipped. -/
theorem skip_append {white s : PyStr} (blank : ∀ c ∈ white, isWhite c = true) :
    skip (white ++ s) = skip s := by
  induction white with
  | nil => rfl
  | cons c rest ih =>
      have first := blank c List.mem_cons_self
      show (c :: (rest ++ s)).dropWhile isWhite = skip s
      rw [List.dropWhile_cons_of_pos first]
      exact ih fun d mem => blank d (List.mem_cons_of_mem c mem)

/-! ## Strings -/

theorem hex4_control : ∀ n < 32, hex4 (hexDigit (n / 4096 % 16)) (hexDigit (n / 256 % 16))
    (hexDigit (n / 16 % 16)) (hexDigit (n % 16)) = some n := by
  decide

/-- The escape of one code point is read back as it. -/
theorem scanString_escape (fuel : Nat) (c : CodePoint) (rest : PyStr) :
    scanString (fuel + 1) (escape false c ++ rest) =
      (scanString fuel rest).map fun found => (c :: found.1, found.2) := by
  have bind : (scanString fuel rest >>= fun found => Except.ok (c :: found.1, found.2)) =
      (scanString fuel rest).map fun found => (c :: found.1, found.2) := by
    cases scanString fuel rest <;> rfl
  unfold escape
  split
  · next same => subst same; exact bind
  split
  · next same => subst same; exact bind
  split
  · next same => subst same; exact bind
  split
  · next same => subst same; exact bind
  split
  · next same => subst same; exact bind
  split
  · next same => subst same; exact bind
  split
  · next same => subst same; exact bind
  split
  · next control =>
      -- No control character is half of a surrogate pair.
      have read := hex4_control c.val control
      have small : ¬(0xd800 ≤ c.val ∧ c.val ≤ 0xdbff) := by omega
      have same : Fin.ofNat 0x110000 c.val = c := Fin.ext (Nat.mod_eq_of_lt c.isLt)
      simp only [unicodeEscape, List.cons_append, List.nil_append, scanString]
      rw [read]
      simp only [small, if_false, same]
      exact bind
  split
  · next ascii => exact absurd ascii.1 (by decide)
  · next quote backslash newline return' tab page back control _ =>
      show scanString (fuel + 1) (c :: rest) = _
      simp only [scanString, quote, backslash, control, if_false]
      exact bind

/-- A quoted string is read back, whatever follows. -/
theorem scanString_quote (s rest : PyStr) (fuel : Nat) (enough : s.length < fuel) :
    scanString fuel (s.flatMap (escape false) ++ 34 :: rest) = .ok (s, rest) := by
  induction s generalizing fuel with
  | nil =>
      obtain ⟨fuel, rfl⟩ := Nat.exists_eq_succ_of_ne_zero (Nat.ne_of_gt enough)
      rfl
  | cons c s ih =>
      obtain ⟨fuel, rfl⟩ := Nat.exists_eq_succ_of_ne_zero (Nat.ne_of_gt (Nat.zero_lt_of_lt enough))
      rw [List.flatMap_cons, List.append_assoc, scanString_escape,
        ih fuel (by simpa using enough)]
      rfl

theorem bytes_escape (c : CodePoint) : bytes (escape false c) ≤ 6 := by
  unfold escape
  split_ifs with quote backslash newline return' tab page back control ascii
  all_goals first
    | decide
    | skip
  · have digit : ∀ n, (utf8Bytes (hexDigit (n % 16))).length = 1 := by
      intro n
      have small : n % 16 < 16 := Nat.mod_lt _ (by decide)
      generalize n % 16 = d at small
      revert d
      decide
    simp only [unicodeEscape, bytes_cons, bytes_nil, digit]
    decide
  · exact absurd ascii.1 (by decide)
  · exact absurd ascii.1 (by decide)
  · have four := utf8Bytes_le c
    rw [bytes_cons, bytes_nil]
    omega

/-- A visible code point that needs no escape is printed as itself. -/
theorem escape_plain {c : CodePoint} (quote : ¬c = 34) (backslash : ¬c = 92)
    (visible : ¬c.val < 32) : escape false c = [c] := by
  have control : ∀ d : CodePoint, d.val < 32 → ¬c = d := by
    rintro d small rfl
    exact visible small
  simp [escape, quote, backslash, visible, control 10 (by decide), control 13 (by decide),
    control 9 (by decide), control 12 (by decide), control 8 (by decide)]

/-- A simple escape is as long as the escape of what it denotes, or longer. -/
theorem bytes_simpleEscape {e x : CodePoint} (h : simpleEscape e = some x) :
    bytes (escape false x) ≤ 2 := by
  unfold simpleEscape at h
  split at h
  · next listed =>
      cases h
      rcases listed with rfl | rfl | rfl <;> decide
  all_goals
    repeat' split at h
    all_goals cases h
    all_goals decide

theorem lowSurrogate_eq_some {s rest : PyStr} {v : Nat} (h : lowSurrogate s = some (v, rest)) :
    6 + bytes rest ≤ bytes s := by
  unfold lowSurrogate at h
  split at h
  · next x y a b c d tail =>
      repeat' split at h
      all_goals cases h
      have six := length_le_bytes [x, y, a, b, c, d]
      rw [show x :: y :: a :: b :: c :: d :: rest = [x, y, a, b, c, d] ++ rest from rfl,
        bytes_append]
      exact Nat.add_le_add_right six _
  · cases h

/-- One step of the scanner: what it read, and the scan of the rest. -/
theorem scanString_step {fuel : Nat} {s t rest : PyStr}
    (h : scanString (fuel + 1) s = .ok (t, rest)) :
    (s = 34 :: rest ∧ t = []) ∨
    ∃ x t' s', t = x :: t' ∧ scanString fuel s' = .ok (t', rest) ∧
      bytes (escape false x) + bytes s' ≤ bytes s := by
  -- The bind of every branch: the scan of the rest, and one code point before it.
  have peel : ∀ {x : CodePoint} {s' : PyStr},
      (scanString fuel s' >>= fun found => Except.ok (x :: found.1, found.2)) = .ok (t, rest) →
      ∃ t', t = x :: t' ∧ scanString fuel s' = .ok (t', rest) := by
    intro x s' h
    cases scan : scanString fuel s' with
    | error e =>
        rw [scan] at h
        cases h
    | ok found =>
        rw [scan] at h
        cases h
        exact ⟨found.1, rfl, rfl⟩
  cases s with
  | nil => cases h
  | cons c tail =>
      unfold scanString at h
      dsimp only at h
      split at h
      · next quote =>
          cases h
          exact .inl ⟨by rw [quote], rfl⟩
      · next notQuote =>
          apply Or.inr
          split at h
          · cases h
          · next visible =>
              split at h
              · next backslash =>
                  cases tail with
                  | nil => cases h
                  | cons e tail =>
                      have two := length_le_bytes [c, e]
                      have cut : bytes (c :: e :: tail) = bytes [c, e] + bytes tail := by
                        rw [← bytes_append]
                        rfl
                      rw [cut]
                      simp only [List.length_cons, List.length_nil] at two
                      dsimp only at h
                      split at h
                      · split at h
                        · next a b d f tail =>
                            have four := length_le_bytes [a, b, d, f]
                            have cut' : bytes (a :: b :: d :: f :: tail) =
                                bytes [a, b, d, f] + bytes tail := by
                              rw [← bytes_append]
                              rfl
                            rw [cut']
                            simp only [List.length_cons, List.length_nil] at four
                            split at h
                            · cases h
                            · next u _ =>
                                split at h
                                · next v low pair =>
                                    obtain ⟨t', same, scan⟩ := peel h
                                    have some : lowSurrogate tail = some (v, low) := by
                                      split at pair
                                      · exact pair
                                      · cases pair
                                    have six := lowSurrogate_eq_some some
                                    refine ⟨_, t', low, same, scan, ?_⟩
                                    have bound := bytes_escape
                                      (Fin.ofNat _ (0x10000 + (u - 0xd800) * 1024 + (v - 0xdc00)))
                                    omega
                                · obtain ⟨t', same, scan⟩ := peel h
                                  refine ⟨_, t', tail, same, scan, ?_⟩
                                  have bound := bytes_escape (Fin.ofNat _ u)
                                  omega
                        · cases h
                      · split at h
                        · cases h
                        · next x simple =>
                            obtain ⟨t', same, scan⟩ := peel h
                            refine ⟨x, t', tail, same, scan, ?_⟩
                            have bound := bytes_simpleEscape simple
                            omega
              · next notBackslash =>
                  obtain ⟨t', same, scan⟩ := peel h
                  refine ⟨c, t', tail, same, scan, ?_⟩
                  rw [escape_plain notQuote notBackslash visible, bytes_cons, bytes_nil, bytes_cons]
                  omega

/-- A scanned string takes at least the bytes of its printed body and the closing quote. -/
theorem bytes_scanString {fuel : Nat} {s t rest : PyStr}
    (h : scanString fuel s = .ok (t, rest)) :
    bytes (t.flatMap (escape false)) + 1 + bytes rest ≤ bytes s := by
  induction fuel generalizing s t with
  | zero => cases h
  | succ fuel ih =>
      obtain ⟨rfl, rfl⟩ | ⟨x, t', s', rfl, scan, bound⟩ := scanString_step h
      · rw [bytes_cons]
        exact Nat.le_refl _
      · have tail := ih scan
        rw [List.flatMap_cons, bytes_append]
        omega

/-! ## Numbers -/

/-- The text after a number does not continue it. -/
def Ends (rest : PyStr) : Prop := ∀ c ∈ rest.head?, isDigit c = false ∧ c ≠ 46 ∧ c ≠ 101 ∧ c ≠ 69

/-- At least one digit, and digits only. -/
def Digits (ds : PyStr) : Prop := ds ≠ [] ∧ ∀ c ∈ ds, isDigit c = true

/-- The digits of an integer: zero, or digits that do not start with zero. -/
def IntegerText (ds : PyStr) : Prop := ds = [48] ∨ (Digits ds ∧ ds.head? ≠ some 48)

/-- A fraction, which may be missing. -/
def FractionText (text : PyStr) : Prop := text = [] ∨ ∃ ds, text = 46 :: ds ∧ Digits ds

/-- An exponent, which may be missing. -/
def ExponentText (text : PyStr) : Prop :=
  text = [] ∨ ∃ c sign ds, text = c :: (sign ++ ds) ∧ (c = 101 ∨ c = 69) ∧
    (sign = [] ∨ sign = [43] ∨ sign = [45]) ∧ Digits ds

/-- The texts that are read as numbers with a fraction or an exponent. -/
inductive FloatText : PyStr → Prop where
  | number {sign digits fraction exponent : PyStr} (signed : sign = [] ∨ sign = [45])
      (integer : IntegerText digits) (fractional : FractionText fraction)
      (exponential : ExponentText exponent) (some : ¬(fraction = [] ∧ exponent = [])) :
      FloatText (sign ++ digits ++ fraction ++ exponent)
  | nan : FloatText (py "NaN")
  | infinity : FloatText (py "Infinity")
  | minusInfinity : FloatText (py "-Infinity")

theorem ends_nil : Ends [] := nofun

theorem ends_cons {c : CodePoint} {rest : PyStr}
    (h : isDigit c = false ∧ c ≠ 46 ∧ c ≠ 101 ∧ c ≠ 69) : Ends (c :: rest) := by
  intro d head
  cases head
  exact h

/-- Digits are taken up to the first code point that is none. -/
theorem span_digits {ds rest : PyStr} (digits : ∀ c ∈ ds, isDigit c = true)
    (stop : ∀ c ∈ rest.head?, isDigit c = false) :
    (ds ++ rest).takeWhile isDigit = ds ∧ (ds ++ rest).dropWhile isDigit = rest := by
  induction ds with
  | nil =>
      cases rest with
      | nil => exact ⟨rfl, rfl⟩
      | cons c rest =>
          have none := stop c rfl
          simp [none]
  | cons c ds ih =>
      have first := digits c List.mem_cons_self
      have tail := ih fun d mem => digits d (List.mem_cons_of_mem c mem)
      simp [first, tail]

theorem takeWhile_digits {s : PyStr} (some : s.takeWhile isDigit ≠ []) :
    Digits (s.takeWhile isDigit) := ⟨some, fun _ mem => List.mem_takeWhile_imp mem⟩

theorem scanInteger_eq_some {s ds rest : PyStr} (h : scanInteger s = some (ds, rest)) :
    s = ds ++ rest ∧ IntegerText ds := by
  unfold scanInteger at h
  split at h
  · cases h
  · next c tail =>
      split at h
      · next zero =>
          cases h
          exact ⟨rfl, .inl (by rw [zero])⟩
      · next zero =>
          split at h
          · next digit =>
              cases h
              refine ⟨by simp, .inr ⟨⟨List.cons_ne_nil _ _, ?_⟩, ?_⟩⟩
              · intro d mem
                rcases List.mem_cons.mp mem with rfl | mem
                · exact digit
                · exact List.mem_takeWhile_imp mem
              · intro head
                exact zero (Option.some.inj head)
          · cases h

theorem scanInteger_append {ds rest : PyStr} (integer : IntegerText ds)
    (stop : ∀ c ∈ rest.head?, isDigit c = false) : scanInteger (ds ++ rest) = some (ds, rest) := by
  obtain rfl | ⟨⟨some, digits⟩, head⟩ := integer
  · rfl
  · cases ds with
    | nil => exact absurd rfl some
    | cons c ds =>
        have notZero : ¬c = 48 := fun zero => head (by rw [zero]; rfl)
        have first := digits c List.mem_cons_self
        have span := span_digits (fun d mem => digits d (List.mem_cons_of_mem c mem)) stop
        simp [scanInteger, notZero, first, span]

theorem scanFraction_eq {s fraction rest : PyStr} (h : scanFraction s = (fraction, rest)) :
    s = fraction ++ rest ∧ FractionText fraction := by
  unfold scanFraction at h
  split at h
  · cases h
    exact ⟨rfl, .inl rfl⟩
  · next c tail =>
      split at h
      · next point =>
          cases h
          refine ⟨by simp, .inr ⟨_, by rw [point.1], takeWhile_digits point.2⟩⟩
      · cases h
        exact ⟨rfl, .inl rfl⟩

theorem scanFraction_append {fraction rest : PyStr} (fractional : FractionText fraction)
    (stop : ∀ c ∈ rest.head?, isDigit c = false ∧ c ≠ 46) :
    scanFraction (fraction ++ rest) = (fraction, rest) := by
  obtain rfl | ⟨ds, rfl, some, digits⟩ := fractional
  · cases rest with
    | nil => rfl
    | cons c rest =>
        have point := (stop c rfl).2
        simp [scanFraction, point]
  · have span := span_digits digits fun c head => (stop c head).1
    simp [scanFraction, span, some]

theorem scanSign_eq {s sign rest : PyStr} (h : scanSign s = (sign, rest)) :
    s = sign ++ rest ∧ (sign = [] ∨ sign = [43] ∨ sign = [45]) := by
  unfold scanSign at h
  split at h
  · cases h
    exact ⟨rfl, .inl rfl⟩
  · next c tail =>
      split at h
      · next signed =>
          cases h
          refine ⟨rfl, .inr ?_⟩
          rcases signed with rfl | rfl
          · exact .inl rfl
          · exact .inr rfl
      · cases h
        exact ⟨rfl, .inl rfl⟩

theorem scanSign_append {sign ds rest : PyStr} (signed : sign = [] ∨ sign = [43] ∨ sign = [45])
    (digits : Digits ds) : scanSign (sign ++ (ds ++ rest)) = (sign, ds ++ rest) := by
  obtain rfl | rfl | rfl := signed
  · cases ds with
    | nil => exact absurd rfl digits.1
    | cons c ds =>
        have digit := digits.2 c List.mem_cons_self
        have plus : c ≠ 43 := by
          rintro rfl
          exact absurd digit (by decide)
        have minus : c ≠ 45 := by
          rintro rfl
          exact absurd digit (by decide)
        simp [scanSign, plus, minus]
  · rfl
  · rfl

theorem scanExponent_eq {s exponent rest : PyStr} (h : scanExponent s = (exponent, rest)) :
    s = exponent ++ rest ∧ ExponentText exponent := by
  unfold scanExponent at h
  split at h
  · cases h
    exact ⟨rfl, .inl rfl⟩
  · next c tail =>
      cases signed : scanSign tail with
      | mk sign digits =>
          rw [signed] at h
          obtain ⟨rfl, signs⟩ := scanSign_eq signed
          dsimp only at h
          split at h
          · next letter =>
              cases h
              refine ⟨by simp, .inr ⟨c, sign, _, rfl, letter.1, signs,
              takeWhile_digits letter.2⟩⟩
          · cases h
            exact ⟨rfl, .inl rfl⟩

theorem scanExponent_append {exponent rest : PyStr} (exponential : ExponentText exponent)
    (stop : Ends rest) : scanExponent (exponent ++ rest) = (exponent, rest) := by
  obtain rfl | ⟨c, sign, ds, rfl, letter, signed, digits⟩ := exponential
  · cases rest with
    | nil => rfl
    | cons c rest =>
        obtain ⟨-, -, lower, upper⟩ := stop c rfl
        simp [scanExponent, lower, upper]
  · have sign' : scanSign (sign ++ (ds ++ rest)) = (sign, ds ++ rest) :=
      scanSign_append signed digits
    have span := span_digits digits.2 fun c head => (stop c head).1
    simp [scanExponent, sign', span, letter, digits.1]

/-- The code point of a digit. -/
theorem pyNat_digit : ∀ n < 10, pyNat n = [Fin.ofNat _ (48 + n)] := by decide

theorem pyNat_append {n : Nat} (h : 10 ≤ n) : pyNat n = pyNat (n / 10) ++ pyNat (n % 10) := by
  rw [pyNat, Nat.toDigits_of_base_le (by decide) h, List.map_append]
  rw [pyNat, pyNat, Nat.toDigits_of_lt_base (Nat.mod_lt n (by decide))]

theorem pyNat_ne_nil (n : Nat) : pyNat n ≠ [] := by
  simp [pyNat]

/-- The decimal text of a number is an integer text of its value. -/
theorem natValue_pyNat (n : Nat) : natValue (pyNat n) = n := by
  induction n using Nat.strong_induction_on with
  | _ n ih =>
      have digit : ∀ d < 10, natValue (pyNat d) = d := by decide
      by_cases small : n < 10
      · exact digit n small
      · have large : 10 ≤ n := Nat.le_of_not_lt small
        have last : n % 10 < 10 := Nat.mod_lt n (by decide)
        have value := ih (n / 10) (Nat.div_lt_self (Nat.zero_lt_of_lt large) (by decide))
        have code : (Fin.ofNat 0x110000 (48 + n % 10)).val = 48 + n % 10 :=
          Nat.mod_eq_of_lt (by omega)
        unfold natValue at value
        rw [pyNat_append large, natValue, List.foldl_append, value, pyNat_digit _ last]
        show n / 10 * 10 + ((Fin.ofNat 0x110000 (48 + n % 10)).val - 48) = n
        rw [code]
        omega

theorem integerText_pyNat (n : Nat) : IntegerText (pyNat n) := by
  have digits : Digits (pyNat n) := by
    refine ⟨pyNat_ne_nil n, fun c mem => ?_⟩
    have bounds := digit_of_mem_pyNat mem
    simp [isDigit, bounds.1, bounds.2]
  have head : ∀ n, 0 < n → (pyNat n).head? ≠ some 48 := by
    intro n
    induction n using Nat.strong_induction_on with
    | _ n ih =>
        intro positive
        by_cases small : n < 10
        · have digit : ∀ d < 10, 0 < d → (pyNat d).head? ≠ some 48 := by decide
          exact digit n small positive
        · have large : 10 ≤ n := Nat.le_of_not_lt small
          have front := ih (n / 10) (Nat.div_lt_self positive (by decide)) (by omega)
          rw [pyNat_append large, List.head?_append_of_ne_nil _ (pyNat_ne_nil _)]
          exact front
  cases n with
  | zero => exact .inl (by decide)
  | succ n => exact .inr ⟨digits, head _ n.succ_pos⟩

/-- No text with the value of some digits is longer than they are. -/
theorem length_pyNat_natValue {ds : PyStr} (digits : Digits ds) :
    (pyNat (natValue ds)).length ≤ ds.length := by
  have bound : ∀ (ds : PyStr) (n : Nat), (∀ c ∈ ds, isDigit c = true) →
      ds.foldl (fun n c => n * 10 + (c.val - 48)) n < (n + 1) * 10 ^ ds.length := by
    intro ds
    induction ds with
    | nil => simp
    | cons c ds ih =>
        intro n digits
        have tail := ih (n * 10 + (c.val - 48)) fun d mem => digits d (List.mem_cons_of_mem c mem)
        have digit := digits c List.mem_cons_self
        have nine : c.val ≤ 57 := by
          simp only [isDigit, Bool.and_eq_true, decide_eq_true_eq] at digit
          exact digit.2
        have front : n * 10 + (c.val - 48) + 1 ≤ (n + 1) * 10 := by omega
        calc (c :: ds).foldl (fun n c => n * 10 + (c.val - 48)) n
            < (n * 10 + (c.val - 48) + 1) * 10 ^ ds.length := tail
          _ ≤ (n + 1) * 10 * 10 ^ ds.length := Nat.mul_le_mul_right _ front
          _ = (n + 1) * 10 ^ (c :: ds).length := by
            rw [List.length_cons, Nat.pow_succ', Nat.mul_assoc]
  have value := bound ds 0 digits.2
  have some : 0 < ds.length := List.length_pos_iff.mpr digits.1
  rw [pyNat, List.length_map, Nat.length_toDigits_le_iff (by decide) some]
  simpa [natValue] using value

/-- A number that the parser may return. -/
def IntegerBound (n : Int) : Prop := (pyNat n.natAbs).length ≤ maxDigits

theorem digits_of_integerText {ds : PyStr} (integer : IntegerText ds) : Digits ds := by
  obtain rfl | ⟨digits, -⟩ := integer
  · refine ⟨List.cons_ne_nil _ _, fun c mem => ?_⟩
    rw [List.mem_singleton.mp mem]
    decide
  · exact digits

/-- A digit takes one byte. -/
theorem bytes_digits {ds : PyStr} (digits : ∀ c ∈ ds, isDigit c = true) : bytes ds = ds.length := by
  induction ds with
  | nil => rfl
  | cons c ds ih =>
      have digit := digits c List.mem_cons_self
      have small : c.val < 0x80 := by
        simp only [isDigit, Bool.and_eq_true, decide_eq_true_eq] at digit
        omega
      have tail := ih fun d mem => digits d (List.mem_cons_of_mem c mem)
      have one : (utf8Bytes c).length = 1 := by simp [utf8Bytes, small]
      rw [bytes_cons, one, tail, List.length_cons, Nat.add_comm]

/-- What an unsigned number is read as. -/
theorem scanUnsigned_eq_ok {negative : Bool} {s rest : PyStr} {x : Json}
    (h : scanUnsigned negative s = .ok (x, rest)) :
    (∃ ds, s = ds ++ rest ∧ IntegerText ds ∧ ds.length ≤ maxDigits ∧
      x = .int (if negative then -(natValue ds : Int) else natValue ds)) ∨
    ∃ text, x = .float ((if negative then [45] else []) ++ text) ∧ s = text ++ rest ∧
      FloatText ((if negative then [45] else []) ++ text) := by
  unfold scanUnsigned at h
  cases integer : scanInteger s with
  | none =>
      rw [integer] at h
      cases h
  | some found =>
      obtain ⟨digits, tail⟩ := found
      obtain ⟨rfl, digitsText⟩ := scanInteger_eq_some integer
      rw [integer] at h
      cases fractional : scanFraction tail with
      | mk fraction tail' =>
          cases exponential : scanExponent tail' with
          | mk exponent tail'' =>
              obtain ⟨rfl, fractionText⟩ := scanFraction_eq fractional
              obtain ⟨rfl, exponentText⟩ := scanExponent_eq exponential
              dsimp only at h
              rw [fractional] at h
              dsimp only at h
              rw [exponential] at h
              dsimp only at h
              split at h
              · next none =>
                  split at h
                  · cases h
                  · next short =>
                      cases h
                      refine .inl ⟨digits, ?_, digitsText, Nat.le_of_not_lt short, rfl⟩
                      simp [none.1, none.2]
              · next some =>
                  cases h
                  refine .inr ⟨digits ++ fraction ++ exponent, ?_, ?_, ?_⟩
                  · simp
                  · simp
                  · rw [← List.append_assoc, ← List.append_assoc]
                    apply FloatText.number _ digitsText fractionText exponentText some
                    cases negative
                    · exact .inl rfl
                    · exact .inr rfl

/-- An integer is read back before a text that does not continue it. -/
theorem scanUnsigned_integer {n : Nat} {rest : PyStr} (negative : Bool) (stop : Ends rest)
    (short : (pyNat n).length ≤ maxDigits) :
    scanUnsigned negative (pyNat n ++ rest) =
      .ok (.int (if negative then -(n : Int) else n), rest) := by
  have integer := scanInteger_append (integerText_pyNat n) fun c head => (stop c head).1
  have fraction : scanFraction rest = ([], rest) :=
    scanFraction_append (.inl rfl) fun c head => ⟨(stop c head).1, (stop c head).2.1⟩
  have exponent : scanExponent rest = ([], rest) := scanExponent_append (.inl rfl) stop
  simp [scanUnsigned, integer, fraction, exponent, natValue_pyNat, Nat.not_lt.mpr short]

/-- A number with a fraction or an exponent keeps its text. -/
theorem scanUnsigned_float {digits fraction exponent rest : PyStr} (negative : Bool)
    (integer : IntegerText digits) (fractional : FractionText fraction)
    (exponential : ExponentText exponent) (some : ¬(fraction = [] ∧ exponent = []))
    (stop : Ends rest) :
    scanUnsigned negative (digits ++ (fraction ++ (exponent ++ rest))) =
      .ok (.float ((if negative then [45] else []) ++ digits ++ fraction ++ exponent), rest) := by
  have afterFraction : ∀ c ∈ (exponent ++ rest).head?, isDigit c = false ∧ c ≠ 46 := by
    intro c head
    obtain rfl | ⟨e, sign, ds, rfl, letter, -⟩ := exponential
    · exact ⟨(stop c head).1, (stop c head).2.1⟩
    · cases head
      obtain rfl | rfl := letter <;> decide
  have afterDigits : ∀ c ∈ (fraction ++ (exponent ++ rest)).head?, isDigit c = false := by
    intro c head
    obtain rfl | ⟨ds, rfl, -⟩ := fractional
    · exact (afterFraction c head).1
    · cases head
      decide
  simp only [scanUnsigned, scanInteger_append integer afterDigits,
    scanFraction_append fractional afterFraction, scanExponent_append exponential stop, some,
    if_false]

end Json

end AgentCompanyOS.Foundation
