import AgentCompanyOS.Foundation.Registry
import AgentCompanyOS.Foundation.Transaction

/-!
# Tables written from dictionaries

A table holds the records of several dictionaries, each row under the key of its record
and marked with its dictionary; a row that is written again stays in its place. Reading
one dictionary back is a `filterMap` over the rows. Filing a row files its record in the
dictionary that the row belongs to (`filterMap_fileRecord`) and leaves the others alone
(`filterMap_fileRecord_of_none`), and filing all the records of a dictionary over an
older state of it, whose keys are the first of its keys, makes exactly that dictionary
(`fileAll_eq_of_older`).

The loops that write and read such tables are reasoned about with an invariant over the
part of the list that has been visited (`Txn.forEach_visited`, `foldlM_visited`).
-/

set_option autoImplicit false

namespace AgentCompanyOS.Foundation

universe u v w

variable {κ : Type u} {υ : Type v} {key : υ → κ}

/-! ## Filing a list of records -/

section

variable [DecidableEq κ]

/-- File the records of a list one after the other. -/
def fileAll (key : υ → κ) (xs ys : List υ) : List υ :=
  xs.foldl (fun ys x => fileRecord key x ys) ys

@[simp] theorem fileAll_nil (ys : List υ) : fileAll key [] ys = ys := rfl

theorem fileAll_concat (xs : List υ) (x : υ) (ys : List υ) :
    fileAll key (xs ++ [x]) ys = fileRecord key x (fileAll key xs ys) := by
  simp [fileAll]

theorem fileRecord_in_place {before : List υ} {x y : υ} (absent : key x ∉ before.map key)
    (same : key y = key x) (rest : List υ) :
    fileRecord key x (before ++ y :: rest) = before ++ x :: rest := by
  induction before with
  | nil => simp [fileRecord, same]
  | cons z before ih =>
      simp only [List.map_cons, List.mem_cons, not_or] at absent
      simp [fileRecord, Ne.symm absent.1, ih absent.2]

/-- The records filed over an older state of a list, behind what is filed already. -/
theorem fileAll_append_of_older {first xs ys : List υ} (nodup : ((first ++ xs).map key).Nodup)
    (older : ys.map key <+: xs.map key) : fileAll key xs (first ++ ys) = first ++ xs := by
  induction xs generalizing first ys with
  | nil =>
      have none_left : ys = [] := by simpa using older
      simp [none_left]
  | cons x xs ih =>
      have absent : key x ∉ first.map key := by
        intro mem
        have apart := (List.nodup_append.mp (List.map_append ▸ nodup)).2.2
        exact apart (key x) mem (key x) (by simp) rfl
      have shifted : (((first ++ [x]) ++ xs).map key).Nodup := by simpa using nodup
      cases ys with
      | nil =>
          show fileAll key xs (fileRecord key x (first ++ [])) = first ++ x :: xs
          rw [List.append_nil, fileRecord_of_not_mem absent]
          have older : ([] : List υ).map key <+: xs.map key := List.nil_prefix
          simpa using ih shifted older
      | cons y ys =>
          obtain ⟨same, later⟩ := List.cons_prefix_cons.mp older
          show fileAll key xs (fileRecord key x (first ++ y :: ys)) = first ++ x :: xs
          rw [fileRecord_in_place absent same]
          simpa using ih shifted later

/-- Filing all records over an older state, whose keys are their first keys. -/
theorem fileAll_eq_of_older {xs ys : List υ} (nodup : (xs.map key).Nodup)
    (older : ys.map key <+: xs.map key) : fileAll key xs ys = xs := by
  show fileAll key xs ([] ++ ys) = [] ++ xs
  exact fileAll_append_of_older nodup older

omit [DecidableEq κ] in
/-- A key that the older state has not reached. -/
theorem older_of_not_mem {first rest older : List κ} {k : κ} (h : older <+: first ++ k :: rest)
    (absent : k ∉ older) : older <+: first := by
  rcases List.prefix_or_prefix_of_prefix h (List.prefix_append first (k :: rest)) with here | past
  · exact here
  · obtain ⟨more, rfl⟩ := past
    cases more with
    | nil => simp
    | cons y more =>
        have rests := (List.prefix_append_right_inj first).mp h
        have same : y = k := (List.cons_prefix_cons.mp rests).1
        exact absurd (by simp [same]) absent

/-- A record that is filed already. -/
theorem fileRecord_of_mem {x : υ} {ys : List υ} (mem : x ∈ ys) (nodup : (ys.map key).Nodup) :
    fileRecord key x ys = ys := by
  obtain ⟨before, rest, rfl⟩ := List.append_of_mem mem
  apply fileRecord_in_place _ rfl
  intro again
  rw [List.map_append, List.map_cons] at nodup
  exact (List.nodup_append.mp nodup).2.2 (key x) again (key x) List.mem_cons_self rfl

/-- A registry in which a record is filed already. -/
theorem Registry.put_of_get? {d : Registry key} {x : υ} (found : d.get? (key x) = some x) :
    d.put x = d :=
  Registry.ext_items (fileRecord_of_mem (Registry.mem_values_of_get? found) d.nodup)

end

/-! ## Reading one dictionary of a table -/

section

variable {κ' : Type w} {β : Type w} [DecidableEq κ] [DecidableEq κ'] {key' : β → κ'}
  {read : υ → Option β}

/-- Filing a row files what it reads as. -/
theorem filterMap_fileRecord {x : υ} {b : β} (reads : read x = some b) {ys : List υ}
    (apart : ∀ y ∈ ys, ∀ e, read y = some e → (key' e = key' b ↔ key y = key x))
    (whole : ∀ y ∈ ys, key y = key x → (read y).isSome = true) :
    (fileRecord key x ys).filterMap read = fileRecord key' b (ys.filterMap read) := by
  induction ys with
  | nil => simp [fileRecord, reads]
  | cons y ys ih =>
      have rest := ih (fun z mem => apart z (List.mem_cons_of_mem y mem))
        (fun z mem => whole z (List.mem_cons_of_mem y mem))
      by_cases here : key y = key x
      · obtain ⟨e, found⟩ := Option.isSome_iff_exists.mp (whole y List.mem_cons_self here)
        have same : key' e = key' b := (apart y List.mem_cons_self e found).mpr here
        simp [fileRecord, here, found, reads, same]
      · cases found : read y with
        | none => simp [fileRecord, here, found, rest]
        | some e =>
            have other : key' e ≠ key' b := fun same =>
              here ((apart y List.mem_cons_self e found).mp same)
            simp [fileRecord, here, found, rest, other]

omit [DecidableEq κ'] in
/-- A row of another dictionary. -/
theorem filterMap_fileRecord_of_none {x : υ} (skips : read x = none) {ys : List υ}
    (same : ∀ y ∈ ys, key y = key x → read y = none) :
    (fileRecord key x ys).filterMap read = ys.filterMap read := by
  induction ys with
  | nil => simp [fileRecord, skips]
  | cons y ys ih =>
      have rest := ih fun z mem => same z (List.mem_cons_of_mem y mem)
      by_cases here : key y = key x
      · simp [fileRecord, here, skips, same y List.mem_cons_self here]
      · simp [fileRecord, here, List.filterMap_cons, rest]

end

/-! ## The records of all dictionaries -/

section

variable {γ β : Type u} [DecidableEq γ]

/-- The part of a marked list that belongs to one dictionary. -/
def ofGroup (g : γ) (p : γ × β) : Option β := if p.1 = g then some p.2 else none

theorem filterMap_ofGroup_map (g : γ) (h : γ) (xs : List β) :
    (xs.map (Prod.mk h)).filterMap (ofGroup g) = if h = g then xs else [] := by
  induction xs with
  | nil => simp
  | cons x xs ih =>
      rw [List.map_cons, List.filterMap_cons, ih]
      by_cases here : h = g <;> simp [ofGroup, here]

theorem filterMap_ofGroup_concat (g : γ) (xs : List (γ × β)) (x : γ × β) :
    (xs ++ [x]).filterMap (ofGroup g) =
      xs.filterMap (ofGroup g) ++ if x.1 = g then [x.2] else [] := by
  rw [List.filterMap_append]
  congr 1
  by_cases here : x.1 = g <;> simp [ofGroup, here]

omit [DecidableEq γ] in
theorem nodup_flatMap_groups {groups : List γ} (nodup : groups.Nodup) {f : γ → List β}
    (each : ∀ g, (f g).Nodup) : (groups.flatMap fun g => (f g).map (Prod.mk g)).Nodup := by
  rw [List.nodup_flatMap]
  constructor
  · intro g _
    exact (each g).map fun x y same => congrArg Prod.snd same
  · refine nodup.imp ?_
    intro g h apart p inG inH
    obtain ⟨_, -, rfl⟩ := List.mem_map.mp inG
    obtain ⟨_, -, same⟩ := List.mem_map.mp inH
    exact apart (congrArg Prod.fst same).symm

omit [DecidableEq γ] in
/-- The dictionaries come in their order. -/
theorem pairwise_flatMap_groups {S : γ → γ → Prop} {groups : List γ} (order : groups.Pairwise S)
    (f : γ → List β) : (groups.flatMap fun g => (f g).map (Prod.mk g)).Pairwise
      fun p q => p.1 = q.1 ∨ S p.1 q.1 := by
  rw [List.pairwise_flatMap]
  constructor
  · intro g _
    rw [List.pairwise_map]
    exact List.pairwise_of_forall fun x y => .inl rfl
  · refine order.imp ?_
    intro g h before p inG q inH
    obtain ⟨_, -, rfl⟩ := List.mem_map.mp inG
    obtain ⟨_, -, rfl⟩ := List.mem_map.mp inH
    exact .inr before

/-- Each dictionary comes back out of the list of all. -/
theorem filterMap_ofGroup_flatMap {groups : List γ} (nodup : groups.Nodup) (f : γ → List β)
    {g : γ} (mem : g ∈ groups) :
    (groups.flatMap fun h => (f h).map (Prod.mk h)).filterMap (ofGroup g) = f g := by
  induction groups with
  | nil => cases mem
  | cons h groups ih =>
      obtain ⟨fresh, nodup⟩ := List.nodup_cons.mp nodup
      rw [List.flatMap_cons, List.filterMap_append, filterMap_ofGroup_map]
      by_cases here : h = g
      · subst here
        have others :
            (groups.flatMap fun i => (f i).map (Prod.mk i)).filterMap (ofGroup h) = [] := by
          rw [List.filterMap_eq_nil_iff]
          intro p inside
          obtain ⟨i, among, x, -, rfl⟩ : ∃ i ∈ groups, ∃ x ∈ f i, (i, x) = p := by
            simpa [List.mem_flatMap] using inside
          have apart : i ≠ h := fun same => fresh (same ▸ among)
          simp [ofGroup, apart]
        simp [others]
      · have later : g ∈ groups := by
          rcases List.mem_cons.mp mem with same | later
          · exact absurd same.symm here
          · exact later
        simp [here, ih nodup later]

end

/-! ## Loops over a list, with an invariant over the part visited -/

section

variable {ε σ β : Type}

/-- A loop that ran through. -/
theorem Txn.forEach_visited {P : List β → σ → Prop} {xs : List β} {f : β → Txn ε σ Unit}
    (step : ∀ before x after, xs = before ++ x :: after → ∀ {v v' : World σ},
      P before v.store → f x v = .ok () v' → P (before ++ [x]) v'.store)
    {w w' : World σ} (start : P [] w.store) (h : Txn.forEach xs f w = .ok () w') :
    P xs w'.store := by
  -- by induction on what is left, with what has been visited as a parameter
  suffices general : ∀ (rest before : List β) (v : World σ), xs = before ++ rest →
      P before v.store → Txn.forEach rest f v = .ok () w' → P xs w'.store from
    general xs [] w rfl start h
  intro rest
  induction rest with
  | nil =>
      intro before v split holds finished
      cases finished
      rw [split, List.append_nil]
      exact holds
  | cons x rest ih =>
      intro before v split holds finished
      obtain ⟨_, v', visited, later⟩ := Txn.bind_eq_ok.mp finished
      refine ih (before ++ [x]) v' (by simpa using split) ?_ later
      exact step before x rest split holds visited

/-- A loop whose every turn returns. -/
theorem foldlM_visited {P : List β → σ → Prop} {xs : List β} {f : σ → β → Except ε σ}
    (step : ∀ before x after, xs = before ++ x :: after → ∀ s, P before s →
      ∃ s', f s x = .ok s' ∧ P (before ++ [x]) s')
    {s : σ} (start : P [] s) : ∃ s', xs.foldlM f s = .ok s' ∧ P xs s' := by
  suffices general : ∀ (rest before : List β) (s : σ), xs = before ++ rest → P before s →
      ∃ s', rest.foldlM f s = .ok s' ∧ P xs s' from general xs [] s rfl start
  intro rest
  induction rest with
  | nil =>
      intro before s split holds
      rw [List.append_nil] at split
      exact ⟨s, rfl, split ▸ holds⟩
  | cons x rest ih =>
      intro before s split holds
      obtain ⟨s', turned, after⟩ := step before x rest split s holds
      obtain ⟨last, finished, all⟩ := ih (before ++ [x]) s' (by simpa using split) after
      refine ⟨last, ?_, all⟩
      rw [List.foldlM_cons, turned]
      exact finished

end

end AgentCompanyOS.Foundation
