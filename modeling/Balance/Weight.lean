import Balance.Url

/-!
Weights turn a list of URLs into a longer candidate sequence in which each URL
stands as often as its weight says. The weight list runs parallel to the URLs:
a missing entry weighs 1, an entry too many weighs nothing, and no URL is
repeated more than `maxWeight` times.
-/

namespace Balance.Weight
open Url

def maxWeight : UInt32 := 1000

def capped (weight : UInt32) : Nat := min weight.toNat maxWeight.toNat

def expandWith : List Url → List UInt32 → List Url
  | [], _ => []
  | url :: urls, [] => url :: expandWith urls []
  | url :: urls, weight :: weights =>
    List.replicate (capped weight) url ++ expandWith urls weights

/-- Without a weight list every URL weighs 1. -/
def expand (urls : List Url) (weights : Option (List UInt32)) : List Url :=
  expandWith urls (weights.getD [])

theorem expandWith_nil (urls : List Url) : expandWith urls [] = urls := by
  induction urls with
  | nil => rfl
  | cons url urls ih => rw [expandWith, ih]

@[simp] theorem expand_none (urls : List Url) : expand urls none = urls :=
  expandWith_nil urls

def distinctCount (urls : List Url) : Nat := (distinct urls).length

end Balance.Weight
