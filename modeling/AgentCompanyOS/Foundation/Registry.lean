import Mathlib.Data.List.Induction
import Mathlib.Data.List.Nodup

/-!
# Keyed collections in insertion order

The containers of the modelled stores are insertion-ordered dictionaries that file
every record under a key which is part of the record. `Registry key` is such a
container: the records in order of first insertion, no two with the same key.
Filing a record whose key is present replaces the old record in its place, any
other record goes to the end. Lookup and filing satisfy the laws of a map
(`get?_put`).
-/

set_option autoImplicit false

namespace AgentCompanyOS.Foundation

universe u v

variable {κ : Type u} {υ : Type v}

/-- Records in order of first insertion, filed under distinct keys. -/
structure Registry (key : υ → κ) where
  items : List υ
  nodup : (items.map key).Nodup

variable {key : υ → κ}

namespace Registry

theorem ext_items {d e : Registry key} (h : d.items = e.items) : d = e := by
  cases d; cases e; cases h; rfl

instance [DecidableEq υ] : DecidableEq (Registry key) := fun d e =>
  decidable_of_iff (d.items = e.items) ⟨ext_items, fun h => h ▸ rfl⟩

/-- The empty registry. -/
def empty : Registry key := ⟨[], List.nodup_nil⟩

instance : Inhabited (Registry key) := ⟨empty⟩

/-- The records in insertion order. -/
def values (d : Registry key) : List υ := d.items

@[simp] theorem values_empty : (empty : Registry key).values = [] := rfl

end Registry

variable [DecidableEq κ]

/-! ## Lists of records -/

/-- File a record in a list: in place of the first record with its key, or at the
end. -/
def fileRecord (key : υ → κ) (x : υ) : List υ → List υ
  | [] => [x]
  | y :: rest => if key y = key x then x :: rest else y :: fileRecord key x rest

theorem find?_fileRecord (x : υ) (k : κ) (ys : List υ) :
    (fileRecord key x ys).find? (key · = k) =
      if key x = k then some x else ys.find? (key · = k) := by
  induction ys with
  | nil => by_cases h : key x = k <;> simp [fileRecord, h]
  | cons y rest ih =>
      by_cases hy : key y = key x
      · by_cases h : key x = k <;> simp [fileRecord, hy, h]
      · by_cases h : key y = k
        · subst h
          simp [fileRecord, hy, Ne.symm hy]
        · simp [fileRecord, hy, h, ih]

/-- Order law: a present key keeps its place, an absent key is appended. -/
theorem map_key_fileRecord (x : υ) (ys : List υ) :
    (fileRecord key x ys).map key =
      if key x ∈ ys.map key then ys.map key else ys.map key ++ [key x] := by
  induction ys with
  | nil => simp [fileRecord]
  | cons y rest ih =>
      by_cases h : key y = key x
      · simp [fileRecord, h]
      · simp only [fileRecord, h, if_false, List.map_cons, ih, List.mem_cons, Ne.symm h, false_or]
        split <;> simp

theorem fileRecord_of_not_mem {x : υ} {ys : List υ} (h : key x ∉ ys.map key) :
    fileRecord key x ys = ys ++ [x] := by
  induction ys with
  | nil => rfl
  | cons y rest ih =>
      simp only [List.map_cons, List.mem_cons, not_or] at h
      simp [fileRecord, Ne.symm h.1, ih h.2]

theorem fileRecord_fileRecord {x y : υ} (same : key x = key y) (ys : List υ) :
    fileRecord key y (fileRecord key x ys) = fileRecord key y ys := by
  induction ys with
  | nil => simp [fileRecord, same]
  | cons z rest ih =>
      by_cases here : key z = key y
      · simp [fileRecord, same, here]
      · simp [fileRecord, same, here, ih]

theorem fileRecord_comm {x y : υ} (other : key x ≠ key y) {ys : List υ}
    (present : key y ∈ ys.map key) :
    fileRecord key y (fileRecord key x ys) = fileRecord key x (fileRecord key y ys) := by
  induction ys with
  | nil => cases present
  | cons z rest ih =>
      by_cases here : key z = key y
      · simp [fileRecord, here, Ne.symm other]
      · have later : key y ∈ rest.map key := by simpa [Ne.symm here] using present
        by_cases there : key z = key x
        · simp [fileRecord, there, other]
        · simp [fileRecord, here, there, ih later]

theorem nodup_fileRecord (x : υ) {ys : List υ} (nodup : (ys.map key).Nodup) :
    ((fileRecord key x ys).map key).Nodup := by
  rw [map_key_fileRecord]
  split
  · exact nodup
  · next absent =>
      refine List.nodup_append.mpr ⟨nodup, List.nodup_singleton _, ?_⟩
      rintro a ha b hb rfl
      exact absent (List.mem_singleton.mp hb ▸ ha)

/-! ## Registries -/

namespace Registry

/-- The record filed under `k`. -/
def get? (d : Registry key) (k : κ) : Option υ := d.items.find? (key · = k)

/-- Whether a record is filed under `k`. -/
def contains (d : Registry key) (k : κ) : Bool := (d.get? k).isSome

/-- File a record under its key. -/
def put (d : Registry key) (x : υ) : Registry key where
  items := fileRecord key x d.items
  nodup := nodup_fileRecord x d.nodup

@[simp] theorem get?_empty (k : κ) : (empty : Registry key).get? k = none := rfl

theorem get?_put (d : Registry key) (x : υ) (k : κ) :
    (d.put x).get? k = if key x = k then some x else d.get? k :=
  find?_fileRecord x k d.items

@[simp] theorem get?_put_self (d : Registry key) (x : υ) : (d.put x).get? (key x) = some x := by
  simp [get?_put]

theorem get?_put_ne (d : Registry key) {x : υ} {k : κ} (h : key x ≠ k) :
    (d.put x).get? k = d.get? k := by
  simp [get?_put, h]

/-- A record filed twice is filed as it was the second time. -/
theorem put_put (d : Registry key) {x y : υ} (same : key x = key y) :
    (d.put x).put y = d.put y :=
  ext_items (fileRecord_fileRecord same d.items)

/-- A record that replaces another one may be filed before a new one. -/
theorem put_comm {d : Registry key} {x y : υ} (other : key x ≠ key y)
    (present : (d.get? (key y)).isSome = true) : (d.put x).put y = (d.put y).put x := by
  refine ext_items (fileRecord_comm other ?_)
  obtain ⟨z, found⟩ := Option.isSome_iff_exists.mp present
  exact List.mem_map.mpr ⟨z, List.mem_of_find?_eq_some found, by simpa using List.find?_some found⟩

/-- A record is filed under its own key. -/
theorem key_of_get? {d : Registry key} {k : κ} {x : υ} (h : d.get? k = some x) : key x = k := by
  simpa using List.find?_some h

theorem mem_values_of_get? {d : Registry key} {k : κ} {x : υ} (h : d.get? k = some x) :
    x ∈ d.values :=
  List.mem_of_find?_eq_some h

theorem get?_of_mem_values {d : Registry key} {x : υ} (h : x ∈ d.values) :
    d.get? (key x) = some x := by
  cases found : d.get? (key x) with
  | none =>
      have absent := List.find?_eq_none.mp found x h
      simp at absent
  | some y =>
      have same : key y = key x := key_of_get? found
      exact congrArg some (List.inj_on_of_nodup_map d.nodup (mem_values_of_get? found) h same)

/-- The key tells the records apart. -/
theorem eq_of_key {d : Registry key} {x y : υ} (memX : x ∈ d.values) (memY : y ∈ d.values)
    (same : key x = key y) : x = y := by
  have found := get?_of_mem_values memX
  rw [same, get?_of_mem_values memY] at found
  exact (Option.some.inj found).symm

omit [DecidableEq κ] in
theorem nodup_values (d : Registry key) : d.values.Nodup := List.Nodup.of_map key d.nodup

theorem get?_eq_none_iff {d : Registry key} {k : κ} :
    d.get? k = none ↔ ∀ x ∈ d.values, key x ≠ k := by
  show d.items.find? (key · = k) = none ↔ ∀ x ∈ d.items, key x ≠ k
  simp

theorem contains_eq_false_iff {d : Registry key} {k : κ} :
    d.contains k = false ↔ d.get? k = none := by
  simp [contains]

/-- Filing under an absent key appends the record. -/
theorem values_put_of_absent {d : Registry key} {x : υ} (h : d.get? (key x) = none) :
    (d.put x).values = d.values ++ [x] := by
  refine fileRecord_of_not_mem fun mem => ?_
  obtain ⟨y, hy, same⟩ := List.mem_map.mp mem
  exact get?_eq_none_iff.mp h y hy same

/-- Filing under a present key replaces the record in its place. -/
theorem values_put_of_present {d : Registry key} {x y : υ} (present : d.get? (key x) = some y) :
    (d.put x).values = d.values.map fun z => if key z = key x then x else z := by
  obtain ⟨items, nodup⟩ := d
  show fileRecord key x items = items.map fun z => if key z = key x then x else z
  replace present : items.find? (key · = key x) = some y := present
  induction items with
  | nil => cases present
  | cons z rest ih =>
      by_cases here : key z = key x
      · have others : ∀ a ∈ rest, key a ≠ key x := by
          intro a ha same
          exact (List.nodup_cons.mp nodup).1 (List.mem_map.mpr ⟨a, ha, same.trans here.symm⟩)
        have kept : rest.map (fun a => if key a = key x then x else a) = rest := by
          calc
            rest.map (fun a => if key a = key x then x else a) = rest.map id :=
              List.map_congr_left fun a ha => if_neg (others a ha)
            _ = rest := List.map_id rest
        simp [fileRecord, here, kept]
      · have later : rest.find? (key · = key x) = some y := by simpa [here] using present
        simp [fileRecord, here, ih (List.nodup_cons.mp nodup).2 later]

/-- A view that a replaced record agrees on does not change. -/
theorem map_values_put_of_present {α : Type*} {f : υ → α} {d : Registry key} {x y : υ}
    (present : d.get? (key x) = some y) (same : f x = f y) :
    (d.put x).values.map f = d.values.map f := by
  obtain ⟨items, nodup⟩ := d
  show (fileRecord key x items).map f = items.map f
  replace present : items.find? (key · = key x) = some y := present
  induction items with
  | nil => cases present
  | cons z rest ih =>
      by_cases here : key z = key x
      · obtain rfl : z = y := by simpa [here] using present
        simp [fileRecord, here, same]
      · simp only [fileRecord, here, if_false, List.map_cons]
        refine congrArg _ (ih (List.nodup_cons.mp nodup).2 ?_)
        simpa [here] using present

theorem mem_values_put {d : Registry key} {x y : υ} :
    y ∈ (d.put x).values ↔ y = x ∨ (y ∈ d.values ∧ key y ≠ key x) := by
  constructor
  · intro h
    have found := get?_of_mem_values h
    rw [get?_put] at found
    split at found
    · exact .inl (Option.some.inj found).symm
    · next other => exact .inr ⟨mem_values_of_get? found, Ne.symm other⟩
  · rintro (rfl | ⟨h, other⟩)
    · exact mem_values_of_get? (get?_put_self d y)
    · refine mem_values_of_get? (k := key y) ?_
      rw [get?_put_ne d (Ne.symm other)]
      exact get?_of_mem_values h

/-- A selection that a replaced record stays in or out of. -/
theorem filter_values_put_of_present {p : υ → Bool} {d : Registry key} {x y : υ}
    (present : d.get? (key x) = some y) (same : p x = p y) :
    (d.put x).values.filter p =
      (d.values.filter p).map fun z => if key z = key x then x else z := by
  rw [values_put_of_present present, List.filter_map]
  congr 1
  apply List.filter_congr
  intro z mem
  by_cases here : key z = key x
  · have found := get?_of_mem_values mem
    rw [here, present] at found
    obtain rfl := Option.some.inj found
    simp [here, same]
  · simp [here]

/-! ## Registries built from a list -/

/-- The registry of a list of records: of several records with one key the last one is
kept, in the place of the first. -/
def ofList (xs : List υ) : Registry key := xs.foldl put empty

/-- A record of a list that no later record of the list replaces. -/
def Survives (key : υ → κ) (xs : List υ) (x : υ) : Prop :=
  ∃ before after, xs = before ++ x :: after ∧ ∀ y ∈ after, key y ≠ key x

omit [DecidableEq κ] in
theorem Survives.mem {xs : List υ} {x : υ} (h : Survives key xs x) : x ∈ xs := by
  obtain ⟨before, after, rfl, -⟩ := h
  exact List.mem_append_right _ List.mem_cons_self

theorem ofList_concat (xs : List υ) (x : υ) :
    (ofList (xs ++ [x]) : Registry key) = (ofList xs).put x := by
  simp [ofList]

/-- What is filed under a key is the record of the list that survives under it. -/
theorem get?_ofList_eq_some_iff {xs : List υ} {k : κ} {x : υ} :
    (ofList xs : Registry key).get? k = some x ↔ Survives key xs x ∧ key x = k := by
  induction xs using List.reverseRecOn with
  | nil =>
      constructor
      · intro h
        cases h
      · rintro ⟨⟨before, after, split, -⟩, -⟩
        simp at split
  | append_singleton xs y ih =>
      rw [ofList_concat, get?_put]
      constructor
      · intro h
        split at h
        · next here =>
            cases h
            exact ⟨⟨xs, [], rfl, nofun⟩, here⟩
        · next other =>
            obtain ⟨⟨before, after, rfl, last⟩, here⟩ := ih.mp h
            refine ⟨⟨before, after ++ [y], by simp, ?_⟩, here⟩
            intro z mem
            rcases List.mem_append.mp mem with mem | mem
            · exact last z mem
            · rw [List.mem_singleton.mp mem, here]
              exact other
      · rintro ⟨⟨before, after, split, last⟩, rfl⟩
        cases after using List.reverseRecOn with
        | nil =>
            obtain ⟨-, same⟩ := List.append_inj' split rfl
            cases same
            exact if_pos rfl
        | append_singleton after z =>
            rw [← List.cons_append, ← List.append_assoc] at split
            obtain ⟨same, tail⟩ := List.append_inj' split rfl
            cases tail
            rw [if_neg (last y (List.mem_append_right _ List.mem_cons_self))]
            exact ih.mpr ⟨⟨before, after, same, fun w mem =>
              last w (List.mem_append_left _ mem)⟩, rfl⟩

/-- Every key of the list is a key of the registry. -/
theorem contains_ofList_iff {xs : List υ} {k : κ} :
    (ofList xs : Registry key).contains k = true ↔ k ∈ xs.map key := by
  induction xs using List.reverseRecOn with
  | nil => simp [ofList, contains]
  | append_singleton xs y ih =>
      simp only [contains] at ih
      rw [ofList_concat, contains, get?_put, List.map_append, List.mem_append, ← ih]
      by_cases here : key y = k
      · simp [here]
      · simp [here, Ne.symm here]

/-! ## Registries that only grow -/

/-- Every record of `d` is still filed in `e`, as it was or as a record related to it. -/
structure Evolves (R : υ → υ → Prop) (d e : Registry key) : Prop where
  later : ∀ {k : κ} {x : υ}, d.get? k = some x → ∃ y, e.get? k = some y ∧ R x y

namespace Evolves

variable {R : υ → υ → Prop}

theorem refl (reflexive : ∀ x, R x x) (d : Registry key) : Evolves R d d :=
  ⟨fun found => ⟨_, found, reflexive _⟩⟩

theorem trans (transitive : ∀ {x y z}, R x y → R y z → R x z) {d e f : Registry key}
    (h : Evolves R d e) (h' : Evolves R e f) : Evolves R d f := by
  constructor
  intro k x found
  obtain ⟨y, found, first⟩ := h.later found
  obtain ⟨z, found, second⟩ := h'.later found
  exact ⟨z, found, transitive first second⟩

/-- Filing a record that is related to the one it replaces. -/
theorem put (reflexive : ∀ x, R x x) {d : Registry key} {x : υ}
    (h : ∀ old, d.get? (key x) = some old → R old x) : Evolves R d (d.put x) := by
  constructor
  intro k old found
  rw [get?_put]
  by_cases here : key x = k
  · subst here
    exact ⟨x, if_pos rfl, h old found⟩
  · exact ⟨old, (if_neg here).trans found, reflexive old⟩

/-- Filing under an absent key. -/
theorem put_new (reflexive : ∀ x, R x x) {d : Registry key} {x : υ}
    (absent : d.get? (key x) = none) : Evolves R d (d.put x) := by
  refine .put reflexive fun old present => ?_
  cases absent.symm.trans present

end Evolves

end Registry

end AgentCompanyOS.Foundation
