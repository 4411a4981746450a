import Balance.Weight
import Mathlib.Data.List.Nodup

/-!
What expansion by weight does to a list. A URL stands in the expanded list if one
of its places has a positive weight. Where every URL has such a place, expansion
adds no URL and loses none, so that it does not change how many distinct ones
there are.
-/

namespace Balance

namespace Url

variable {urls others : List Url}

theorem perm_distinct (same : ∀ url, url ∈ urls ↔ url ∈ others) :
    (distinct urls).Perm (distinct others) := by
  refine (List.perm_ext_iff_of_nodup (nodup_distinct urls) (nodup_distinct others)).mpr fun url => ?_
  rw [mem_distinct, mem_distinct, same]

end Url

namespace Weight

/-- The weight of the URL at a place; a missing entry weighs 1. -/
def effective (weights : List UInt32) (place : Nat) : Nat := (weights.getD place 1).toNat

theorem capped_eq_zero_iff (weight : UInt32) : capped weight = 0 ↔ weight.toNat = 0 := by
  simp only [capped, maxWeight, UInt32.reduceToNat]
  omega

theorem mem_expandWith {url : Url} {urls : List Url} {weights : List UInt32} :
    url ∈ expandWith urls weights ↔
      ∃ place, urls[place]? = some url ∧ 0 < effective weights place := by
  induction urls generalizing weights with
  | nil => simp [expandWith]
  | cons first urls ih =>
    rw [← Nat.or_exists_add_one]
    cases weights with
    | nil =>
      simp [expandWith, ih, effective, eq_comm]
    | cons weight weights =>
      have positive := not_congr (capped_eq_zero_iff weight)
      simp [expandWith, ih, effective, positive, Nat.pos_iff_ne_zero, eq_comm, and_comm]

theorem expandWith_eq_flatMap (urls : List Url) (weights : List UInt32) :
    expandWith urls weights = urls.zipIdx.flatMap fun (url, place) =>
      List.replicate (min (effective weights place) maxWeight.toNat) url := by
  induction urls generalizing weights with
  | nil => rfl
  | cons url urls ih =>
    cases weights with
    | nil =>
      simpa [expandWith, effective, List.zipIdx_succ, List.flatMap_map, maxWeight] using ih []
    | cons weight weights =>
      simpa [expandWith, effective, capped, List.zipIdx_succ, List.flatMap_map] using ih weights

variable {urls : List Url} {weights : Option (List UInt32)}

/-- Every URL has a place of positive weight. -/
def Positive (urls : List Url) (weights : Option (List UInt32)) : Prop :=
  ∀ url ∈ urls, ∃ place, urls[place]? = some url ∧ 0 < effective (weights.getD []) place

theorem mem_expand_of_positive (positive : Positive urls weights) (url : Url) :
    url ∈ expand urls weights ↔ url ∈ urls := by
  rw [expand, mem_expandWith]
  constructor
  · rintro ⟨place, located, _⟩
    exact List.mem_of_getElem? located
  · exact positive url

theorem distinctCount_expand (positive : Positive urls weights) :
    distinctCount (expand urls weights) = distinctCount urls :=
  (Url.perm_distinct (mem_expand_of_positive positive)).length_eq

end Weight

end Balance
