import Balance.Clock
import Balance.Url

/-!
A pool that takes failing URLs out of rotation. Every configured URL is
active, excluded until an expiry, or on probation after an expired exclusion
was handed to one caller. `baseline` is the configured sequence, expanded by
weight, and `excluded` is in the order of the failures. `degraded` is set while
a URL is excluded or on probation; readers look there first. The transitions
here are plain functions on the pool; the operations built from them are in
`Balance.Pool.Operations`.
-/

namespace Balance
open Url

structure Exclusion where
  url : Url
  expiry : Option Instant
deriving Repr, DecidableEq

namespace Exclusion

/-- An exclusion ends strictly after its expiry; without one it has ended. -/
def hasExpired (exclusion : Exclusion) (now : Instant) : Bool :=
  exclusion.expiry.all (· < now)

end Exclusion

inductive Take
  | active
  | canary
  | withheld
deriving Repr, DecidableEq

/-- Take the first `x` out and move the last entry into its place. -/
def swapErase {α : Type} [DecidableEq α] (x : α) : List α → List α
  | [] => []
  | y :: ys =>
    if y = x then
      match ys.getLast? with
      | none => []
      | some last => last :: ys.dropLast
    else y :: swapErase x ys

theorem perm_swapErase {α : Type} [DecidableEq α] (x : α) (xs : List α) :
    (swapErase x xs).Perm (xs.erase x) := by
  induction xs with
  | nil => simp [swapErase]
  | cons y ys ih =>
    rw [swapErase]
    by_cases h : y = x
    · rw [if_pos h, h, List.erase_cons_head]
      cases found : ys.getLast? with
      | none => simp [List.getLast?_eq_none_iff.mp found]
      | some last =>
        obtain ⟨front, rfl⟩ := List.getLast?_eq_some_iff.mp found
        simpa using (List.perm_append_singleton last front).symm
    · rw [if_neg h, List.erase_cons_tail (by simpa using h)]
      exact ih.cons y

structure Pool where
  baseline : List Url
  active : List Url
  excluded : List Exclusion
  probation : List Url
  degraded : Bool
deriving Repr, DecidableEq

namespace Pool

def ofBaseline (baseline : List Url) : Pool := ⟨baseline, baseline, [], [], false⟩

def isClean (pool : Pool) : Bool := pool.excluded.isEmpty && pool.probation.isEmpty

def configured (pool : Pool) : List Url := distinct pool.baseline

/-- The longest configured URL that the called one begins with. -/
def resolve (pool : Pool) (called : Url) : Option Url :=
  longest (pool.configured.filter (covers · called))

def weight (pool : Pool) (url : Url) : Nat := pool.baseline.count url

/-- The active URLs followed by every exclusion that has expired. -/
def offered (pool : Pool) (now : Instant) : List Url :=
  pool.active ++ (pool.excluded.filter (·.hasExpired now)).map Exclusion.url

def exclusion? (pool : Pool) (url : Url) : Option Exclusion :=
  pool.excluded.find? (·.url = url)

def withoutExclusion (pool : Pool) (url : Url) : List Exclusion :=
  pool.excluded.eraseP (·.url = url)

def reset (pool : Pool) : Pool :=
  { pool with active := pool.baseline, excluded := [], probation := [] }

/-- Put a URL out of rotation, whatever its place was. -/
def exclude (pool : Pool) (url : Url) (expiry : Option Instant) : Pool :=
  { pool with
    excluded := pool.withoutExclusion url ++ [⟨url, expiry⟩]
    probation := swapErase url pool.probation
    active := pool.active.filter (· ≠ url) }

def promote (pool : Pool) (url : Url) : Pool :=
  { pool with
    excluded := pool.withoutExclusion url
    probation := pool.probation ++ [url] }

/-- Return a URL from probation with its full weight, behind the others; a
pool that this leaves clean is back in the configured order. -/
def readmit (pool : Pool) (url : Url) : Pool :=
  let next := { pool with
    probation := swapErase url pool.probation
    excluded := pool.withoutExclusion url
    active := pool.active ++ List.replicate (pool.weight url) url }
  if next.isClean then next.reset else next

def outOfRotation (pool : Pool) : Nat := pool.excluded.length + pool.probation.length

def flagged (pool : Pool) : Pool := { pool with degraded := !pool.isClean }

@[simp] theorem isClean_ofBaseline (baseline : List Url) :
    (ofBaseline baseline).isClean = true := rfl

@[simp] theorem isClean_reset (pool : Pool) : pool.reset.isClean = true := rfl

theorem isClean_iff {pool : Pool} :
    pool.isClean = true ↔ pool.excluded = [] ∧ pool.probation = [] := by
  simp [isClean]

theorem offered_of_isClean {pool : Pool} (h : pool.isClean = true) (now : Instant) :
    pool.offered now = pool.active := by
  simp [offered, (isClean_iff.mp h).1]

theorem mem_configured {pool : Pool} {url : Url} :
    url ∈ pool.configured ↔ url ∈ pool.baseline := mem_distinct

theorem mem_configured_of_resolve {pool : Pool} {called url : Url}
    (h : pool.resolve called = some url) : url ∈ pool.configured :=
  (List.mem_filter.mp (longest_mem h)).1

end Pool

end Balance
