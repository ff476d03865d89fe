import Mathlib.Data.List.Sort
import Mathlib.Data.Prod.Lex

/-!
# Reports in a fixed order

A report gathers what it finds and sorts it by a key. What it has gathered depends on the
order of its sources, the report does not: lists with the same members (`SameMembers`)
stay so under the list operations, and where their keys differ they sort to one list
(`SameMembers.sortedBy_eq`).

`SameWhere p` compares two lists only among the members with a property; it is all that a
report can tell them apart by when it filters by that property first.
-/

set_option autoImplicit false

namespace AgentCompanyOS.Foundation

variable {α β κ : Type}

/-- The same members, each as often and in the order that the lists have them. -/
def SameMembers (xs ys : List α) : Prop := ∀ a, a ∈ xs ↔ a ∈ ys

/-- The same members with a property. -/
def SameWhere (p : α → Prop) (xs ys : List α) : Prop := ∀ a, p a → (a ∈ xs ↔ a ∈ ys)

/-- `sorted(xs, key=key)`. -/
def sortedBy [LinearOrder κ] (key : α → κ) (xs : List α) : List α :=
  xs.insertionSort fun a b => key a ≤ key b

namespace SameWhere

variable {p : α → Prop} {xs ys : List α}

theorem symm (h : SameWhere p xs ys) : SameWhere p ys xs := by
  intro a here
  exact (h a here).symm

theorem filter [DecidablePred p] (h : SameWhere p xs ys) :
    SameMembers (xs.filter p) (ys.filter p) := by
  intro a
  simp only [List.mem_filter, decide_eq_true_eq]
  constructor
  · rintro ⟨mem, here⟩
    exact ⟨(h a here).mp mem, here⟩
  · rintro ⟨mem, here⟩
    exact ⟨(h a here).mpr mem, here⟩

/-- A property of the members that have `p` in both lists. -/
theorem filter_of_imp {q : α → Prop} [DecidablePred q] (h : SameWhere p xs ys)
    (first : ∀ a ∈ xs, q a → p a) (second : ∀ a ∈ ys, q a → p a) :
    SameMembers (xs.filter q) (ys.filter q) := by
  intro a
  simp only [List.mem_filter, decide_eq_true_eq]
  constructor
  · rintro ⟨mem, here⟩
    exact ⟨(h a (first a mem here)).mp mem, here⟩
  · rintro ⟨mem, here⟩
    exact ⟨(h a (second a mem here)).mpr mem, here⟩

theorem of_filter_eq [DecidablePred p] (same : xs.filter p = ys.filter p) :
    SameWhere p xs ys := by
  intro a here
  have both : a ∈ xs.filter p ↔ a ∈ ys.filter p := by rw [same]
  simpa [List.mem_filter, here] using both

end SameWhere

namespace SameMembers

variable {xs ys zs vs : List α}

theorem refl (xs : List α) : SameMembers xs xs := fun _ => Iff.rfl

theorem symm (h : SameMembers xs ys) : SameMembers ys xs := fun a => (h a).symm

theorem append (first : SameMembers xs ys) (second : SameMembers zs vs) :
    SameMembers (xs ++ zs) (ys ++ vs) := by
  intro a
  rw [List.mem_append, List.mem_append, first a, second a]

theorem filter (h : SameMembers xs ys) (q : α → Bool) :
    SameMembers (xs.filter q) (ys.filter q) := by
  intro a
  rw [List.mem_filter, List.mem_filter, h a]

theorem map (h : SameMembers xs ys) (f : α → β) : SameMembers (xs.map f) (ys.map f) := by
  intro b
  simp only [List.mem_map]
  constructor
  · rintro ⟨a, mem, rfl⟩
    exact ⟨a, (h a).mp mem, rfl⟩
  · rintro ⟨a, mem, rfl⟩
    exact ⟨a, (h a).mpr mem, rfl⟩

/-- Visits that find the same at each member find the same together. -/
theorem flatMap (h : SameMembers xs ys) {f g : α → List β}
    (each : ∀ a ∈ xs, SameMembers (f a) (g a)) : SameMembers (xs.flatMap f) (ys.flatMap g) := by
  intro b
  simp only [List.mem_flatMap]
  constructor
  · rintro ⟨a, mem, found⟩
    exact ⟨a, (h a).mp mem, (each a mem b).mp found⟩
  · rintro ⟨a, mem, found⟩
    exact ⟨a, (h a).mpr mem, (each a ((h a).mpr mem) b).mpr found⟩

theorem nil_iff (h : SameMembers xs ys) : xs = [] ↔ ys = [] := by
  simp only [List.eq_nil_iff_forall_not_mem, h _]

end SameMembers

section Sorted

variable [LinearOrder κ] {key : α → κ} {xs ys : List α}

theorem mem_sortedBy {a : α} : a ∈ sortedBy key xs ↔ a ∈ xs := List.mem_insertionSort _

theorem sortedBy_pairwise (key : α → κ) (xs : List α) :
    (sortedBy key xs).Pairwise fun a b => key a ≤ key b := by
  have total : Std.Total fun a b : α => key a ≤ key b := ⟨fun a b => le_total (key a) (key b)⟩
  have trans : IsTrans α fun a b => key a ≤ key b := ⟨fun _ _ _ => le_trans⟩
  exact List.pairwise_insertionSort _ xs

theorem nodup_map_sortedBy {f : α → β} (nodup : (xs.map f).Nodup) :
    ((sortedBy key xs).map f).Nodup :=
  (((List.perm_insertionSort _ xs).map f).nodup_iff).mpr nodup

/-- What a sorted report shows does not depend on the order in which it was gathered. -/
theorem SameMembers.sortedBy_eq (same : SameMembers xs ys) (nodup : (xs.map key).Nodup)
    (nodup' : (ys.map key).Nodup) : sortedBy key xs = sortedBy key ys := by
  have perm : xs.Perm ys :=
    (List.perm_ext_iff_of_nodup (List.Nodup.of_map key nodup) (List.Nodup.of_map key nodup')).mpr
      same
  have together : (sortedBy key xs).Perm (sortedBy key ys) :=
    (List.perm_insertionSort _ _).trans (perm.trans (List.perm_insertionSort _ _).symm)
  refine together.eq_of_pairwise ?_ (sortedBy_pairwise key xs) (sortedBy_pairwise key ys)
  intro a b memA memB before after
  have memB := together.symm.subset memB
  exact List.inj_on_of_nodup_map nodup (mem_sortedBy.mp memA) (mem_sortedBy.mp memB)
    (le_antisymm before after)

end Sorted

/-- Keys of visits that are distinct in each visit and name the place visited. -/
theorem nodup_flatMap_keys {γ : Type} {places : List γ} {f : γ → List α}
    {key : α → κ} (place : κ → γ → Prop)
    (each : ∀ x ∈ places, ((f x).map key).Nodup)
    (names : ∀ x ∈ places, ∀ a ∈ f x, place (key a) x)
    (apart : places.Pairwise fun x y => ∀ k, place k x → ¬place k y) :
    ((places.flatMap f).map key).Nodup := by
  rw [List.map_flatMap, List.nodup_flatMap]
  refine ⟨each, apart.imp_of_mem ?_⟩
  intro x y memX memY other
  refine List.disjoint_left.mpr ?_
  intro k here there
  obtain ⟨a, memA, rfl⟩ := List.mem_map.mp here
  obtain ⟨b, memB, same⟩ := List.mem_map.mp there
  exact other _ (names x memX a memA) (same ▸ names y memY b memB)

end AgentCompanyOS.Foundation
