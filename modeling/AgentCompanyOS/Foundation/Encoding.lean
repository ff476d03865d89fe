import AgentCompanyOS.Foundation.Text

/-!
# Percent encoding

A text is encoded in UTF-8 and then byte by byte. Both steps are prefix codes, so an
encoding determines its text, and it has no separator: encoded texts can be joined with
colons and taken apart again.
-/

set_option autoImplicit false

namespace AgentCompanyOS.Foundation

/-! ## Prefix codes -/

/-- Where no code is a prefix of another one, the codes of a list determine the list. -/
theorem flatMap_injective {α β : Type*} {f : α → List β} {P : α → Prop}
    (some : ∀ a, P a → f a ≠ [])
    (split : ∀ a b s t, P a → P b → f a ++ s = f b ++ t → a = b ∧ s = t) {xs ys : List α}
    (inX : ∀ a ∈ xs, P a) (inY : ∀ a ∈ ys, P a) (same : xs.flatMap f = ys.flatMap f) :
    xs = ys := by
  induction xs generalizing ys with
  | nil =>
      cases ys with
      | nil => rfl
      | cons b ys =>
          have empty := List.append_eq_nil_iff.mp same.symm
          exact absurd empty.1 (some b (inY b List.mem_cons_self))
  | cons a xs ih =>
      cases ys with
      | nil =>
          have empty := List.append_eq_nil_iff.mp same
          exact absurd empty.1 (some a (inX a List.mem_cons_self))
      | cons b ys =>
          obtain ⟨inA, restX⟩ := List.forall_mem_cons.mp inX
          obtain ⟨inB, restY⟩ := List.forall_mem_cons.mp inY
          rw [List.flatMap_cons, List.flatMap_cons] at same
          obtain ⟨head, rest⟩ := split a b _ _ inA inB same
          rw [head, ih restX restY rest]

/-- Two lists with a separator after a part without it have the same parts. -/
theorem separated_inj {α : Type*} {separator : α} {s s' t t' : List α} (clean : separator ∉ s)
    (clean' : separator ∉ s') (same : s ++ separator :: t = s' ++ separator :: t') :
    s = s' ∧ t = t' := by
  induction s generalizing s' with
  | nil =>
      cases s' with
      | nil =>
          cases same
          exact ⟨rfl, rfl⟩
      | cons b s' =>
          obtain ⟨rfl, -⟩ := List.cons.inj same
          exact absurd List.mem_cons_self clean'
  | cons a s ih =>
      cases s' with
      | nil =>
          obtain ⟨rfl, -⟩ := List.cons.inj same
          exact absurd List.mem_cons_self clean
      | cons b s' =>
          obtain ⟨rfl, rest⟩ := List.cons.inj same
          have tails := ih (fun mem => clean (List.mem_cons_of_mem _ mem))
            (fun mem => clean' (List.mem_cons_of_mem _ mem)) rest
          exact ⟨by rw [tails.1], tails.2⟩

/-! ## UTF-8 -/

theorem utf8Bytes_ne_nil (c : CodePoint) : utf8Bytes c ≠ [] := by
  simp only [utf8Bytes]
  split_ifs <;> exact List.cons_ne_nil _ _

theorem utf8Bytes_lt {c : CodePoint} {b : Nat} (mem : b ∈ utf8Bytes c) : b < 256 := by
  have bound := c.isLt
  simp only [utf8Bytes] at mem
  split_ifs at mem <;> simp only [List.mem_cons, List.not_mem_nil, or_false] at mem <;> omega

/-- The first byte says how many follow, and together they determine the code point. -/
theorem utf8Bytes_split (c d : CodePoint) (s t : List Nat)
    (same : utf8Bytes c ++ s = utf8Bytes d ++ t) : c = d ∧ s = t := by
  have boundC := c.isLt
  have boundD := d.isLt
  have value : c.val = d.val → c = d := Fin.ext
  simp only [utf8Bytes] at same
  split_ifs at same <;>
    simp only [List.cons_append, List.nil_append, List.cons.injEq] at same <;>
    refine ⟨value ?_, ?_⟩ <;>
    first
      | omega
      | exact same.2
      | exact same.2.2
      | exact same.2.2.2
      | exact same.2.2.2.2

theorem utf8_injective {s t : PyStr} {encoded : List Nat} (first : utf8 s = some encoded)
    (second : utf8 t = some encoded) : s = t := by
  have bytes : ∀ {u : PyStr}, utf8 u = some encoded → u.flatMap utf8Bytes = encoded := by
    intro u h
    unfold utf8 at h
    split at h
    · cases h
    · exact Option.some.inj h
  have same : s.flatMap utf8Bytes = t.flatMap utf8Bytes := by rw [bytes first, bytes second]
  exact flatMap_injective (P := fun _ => True) (fun c _ => utf8Bytes_ne_nil c)
    (fun c d s t _ _ => utf8Bytes_split c d s t) (fun _ _ => trivial) (fun _ _ => trivial) same

/-! ## Percent encoding -/

/-- The value of an upper-case hexadecimal digit. -/
def upperHexValue (c : CodePoint) : Nat := if c.val < 58 then c.val - 48 else c.val - 55

/-- A byte is written as itself, or as two digits behind a percent sign; a colon is not
written as itself. -/
theorem percentByte_cases {b : Nat} (bound : b < 256) :
    (percentByte b = [Fin.ofNat _ b] ∧ b ≠ 37 ∧ b ≠ 58) ∨
    ∃ hi lo : CodePoint, percentByte b = [37, hi, lo] ∧ hi ≠ 58 ∧ lo ≠ 58 ∧
      b = upperHexValue hi * 16 + upperHexValue lo := by
  have digit : ∀ n < 16, (Fin.ofNat 0x110000 (if n < 10 then 48 + n else 55 + n)) ≠ 58 ∧
      upperHexValue (Fin.ofNat _ (if n < 10 then 48 + n else 55 + n)) = n := by decide
  by_cases plain : isUnreserved b = true
  · refine .inl ⟨by simp [percentByte, plain], ?_, ?_⟩ <;> rintro rfl <;>
      exact absurd plain (by decide)
  · obtain ⟨hi, value⟩ := digit (b / 16) (by omega)
    obtain ⟨lo, value'⟩ := digit (b % 16) (by omega)
    refine .inr ⟨_, _, by simp [percentByte, plain], hi, lo, ?_⟩
    rw [value, value']
    omega

theorem percentByte_split (a b : Nat) (s t : PyStr) (boundA : a < 256) (boundB : b < 256)
    (same : percentByte a ++ s = percentByte b ++ t) : a = b ∧ s = t := by
  have code : ∀ {n : Nat}, n < 256 → (Fin.ofNat 0x110000 n).val = n := fun bound =>
    Nat.mod_eq_of_lt (by omega)
  have percent : (37 : CodePoint).val = 37 := rfl
  obtain ⟨plain, sign, -⟩ | ⟨hi, lo, escaped, -, -, value⟩ := percentByte_cases boundA
  · obtain ⟨plain', sign', -⟩ | ⟨hi', lo', escaped', -⟩ := percentByte_cases boundB
    · rw [plain, plain'] at same
      obtain ⟨heads, tails⟩ := List.cons.inj same
      have values := congrArg Fin.val heads
      rw [code boundA, code boundB] at values
      exact ⟨values, tails⟩
    · rw [plain, escaped'] at same
      have values := congrArg Fin.val (List.cons.inj same).1
      rw [code boundA, percent] at values
      exact absurd values sign
  · obtain ⟨plain', sign', -⟩ | ⟨hi', lo', escaped', -, -, value'⟩ := percentByte_cases boundB
    · rw [escaped, plain'] at same
      have values := congrArg Fin.val (List.cons.inj same).1
      rw [code boundB, percent] at values
      exact absurd values.symm sign'
    · rw [escaped, escaped'] at same
      obtain ⟨-, digits⟩ := List.cons.inj same
      obtain ⟨high, digits⟩ := List.cons.inj digits
      obtain ⟨low, tails⟩ := List.cons.inj digits
      rw [← high, ← low] at value'
      exact ⟨value.trans value'.symm, tails⟩

theorem percentByte_clean {b : Nat} (bound : b < 256) : (58 : CodePoint) ∉ percentByte b := by
  intro mem
  obtain ⟨plain, -, colon⟩ | ⟨hi, lo, escaped, high, low, -⟩ := percentByte_cases bound
  · rw [plain, List.mem_singleton] at mem
    have value := congrArg Fin.val mem
    have same : (Fin.ofNat 0x110000 b).val = b := Nat.mod_eq_of_lt (by omega)
    rw [same] at value
    exact colon value.symm
  · rw [escaped] at mem
    simp only [List.mem_cons, List.not_mem_nil, or_false] at mem
    obtain same | same | same := mem
    · exact absurd same (by decide)
    · exact high same.symm
    · exact low same.symm

theorem percentEncode_eq_some {s encoded : PyStr} (h : percentEncode s = some encoded) :
    ∃ bytes, utf8 s = some bytes ∧ encoded = bytes.flatMap percentByte ∧ ∀ b ∈ bytes, b < 256 := by
  unfold percentEncode at h
  cases inBytes : utf8 s with
  | none =>
      rw [inBytes] at h
      cases h
  | some bytes =>
      rw [inBytes] at h
      cases h
      refine ⟨bytes, rfl, rfl, fun b mem => ?_⟩
      unfold utf8 at inBytes
      split at inBytes
      · cases inBytes
      · cases inBytes
        obtain ⟨c, -, listed⟩ := List.mem_flatMap.mp mem
        exact utf8Bytes_lt listed

/-- `quote(s, safe="")` determines its text. -/
theorem percentEncode_injective {s t encoded : PyStr} (first : percentEncode s = some encoded)
    (second : percentEncode t = some encoded) : s = t := by
  obtain ⟨bytes, inBytes, rfl, bounds⟩ := percentEncode_eq_some first
  obtain ⟨bytes', inBytes', same, bounds'⟩ := percentEncode_eq_some second
  have some : ∀ b < 256, percentByte b ≠ [] := by
    intro b bound
    obtain ⟨plain, -⟩ | ⟨hi, lo, escaped, -⟩ := percentByte_cases bound
    · rw [plain]
      exact List.cons_ne_nil _ _
    · rw [escaped]
      exact List.cons_ne_nil _ _
  have equal : bytes = bytes' := flatMap_injective some
    (fun a b s t boundA boundB => percentByte_split a b s t boundA boundB) bounds bounds' same
  rw [← equal] at inBytes'
  exact utf8_injective inBytes inBytes'

/-- `quote(s, safe="")` has no colon. -/
theorem percentEncode_clean {s encoded : PyStr} (h : percentEncode s = some encoded) :
    (58 : CodePoint) ∉ encoded := by
  obtain ⟨bytes, -, rfl, bounds⟩ := percentEncode_eq_some h
  intro mem
  obtain ⟨b, listed, colon⟩ := List.mem_flatMap.mp mem
  exact percentByte_clean (bounds b listed) colon

theorem pyNat_clean (n : Nat) : (58 : CodePoint) ∉ pyNat n := by
  intro mem
  have bounds := digit_of_mem_pyNat mem
  exact absurd bounds.2 (by decide)

end AgentCompanyOS.Foundation
