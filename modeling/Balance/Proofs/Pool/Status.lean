import Balance.Proofs.Pool.Invariant
import Mathlib.Data.List.Nodup
import Mathlib.Logic.Function.Basic
import Mathlib.Tactic.Tauto

/-!
A pool as a map from URLs to statuses. Each URL is active, excluded until an
expiry, or on probation, and every call moves at most the URL it is about,
apart from a failure that leaves no URL active, which makes all of them active.
`statuses` reads this map off the three lists, and each transition of a pool is
an update of it.
-/

namespace Balance

inductive Status
  | active
  | excluded (expiry : Option Instant)
  | probation
deriving Repr, DecidableEq

/-- The place of every URL; those that are not configured count as active. -/
abbrev Statuses := Url → Status

namespace Pool

def statuses (pool : Pool) : Statuses := fun url =>
  if url ∈ pool.probation then .probation
  else (pool.exclusion? url).elim .active fun exclusion => .excluded exclusion.expiry

variable {pool : Pool} {url other : Url} {expiry : Option Instant}

theorem mem_excludedUrls : url ∈ pool.excludedUrls ↔ ∃ expiry, ⟨url, expiry⟩ ∈ pool.excluded := by
  constructor
  · intro member
    obtain ⟨exclusion, found, rfl⟩ := List.mem_map.mp member
    exact ⟨exclusion.expiry, found⟩
  · rintro ⟨expiry, member⟩
    exact List.mem_map.mpr ⟨_, member, rfl⟩

theorem exclusion?_eq_some_iff (partitioned : pool.Partitioned) {exclusion : Exclusion} :
    pool.exclusion? url = some exclusion ↔ exclusion ∈ pool.excluded ∧ exclusion.url = url := by
  constructor
  · intro found
    exact ⟨List.mem_of_find?_eq_some found, by simpa using List.find?_some found⟩
  · rintro ⟨member, rfl⟩
    have present : (pool.exclusion? exclusion.url).isSome := by
      rw [exclusion?, List.find?_isSome]
      exact ⟨exclusion, member, by simp⟩
    obtain ⟨first, found⟩ := Option.isSome_iff_exists.mp present
    have same : first.url = exclusion.url := by simpa using List.find?_some found
    rw [found, List.inj_on_of_nodup_map partitioned.nodup_excludedUrls
      (List.mem_of_find?_eq_some found) member same]

theorem exclusion?_eq_none_iff : pool.exclusion? url = none ↔ url ∉ pool.excludedUrls := by
  simp [exclusion?, excludedUrls, List.find?_eq_none]

theorem statuses_eq_probation_iff : pool.statuses url = .probation ↔ url ∈ pool.probation := by
  unfold statuses
  split
  · simpa
  · cases pool.exclusion? url <;> simpa

theorem statuses_eq_excluded_iff (partitioned : pool.Partitioned) :
    pool.statuses url = .excluded expiry ↔ ⟨url, expiry⟩ ∈ pool.excluded := by
  unfold statuses
  split
  · next held =>
    have elsewhere : url ∉ pool.excludedUrls := by
      have placed := partitioned.once url
      simp only [← List.count_pos_iff] at held ⊢
      omega
    simpa using fun member => elsewhere (mem_excludedUrls.mpr ⟨expiry, member⟩)
  · cases found : pool.exclusion? url with
    | none =>
      have elsewhere := exclusion?_eq_none_iff.mp found
      simpa using fun member => elsewhere (mem_excludedUrls.mpr ⟨expiry, member⟩)
    | some exclusion =>
      have located := (exclusion?_eq_some_iff partitioned).mp found
      simp only [Option.elim_some, Status.excluded.injEq]
      constructor
      · rintro rfl
        exact located.2 ▸ located.1
      · intro member
        have same := (exclusion?_eq_some_iff partitioned).mpr ⟨member, rfl⟩
        rw [found] at same
        rw [Option.some.inj same]

theorem statuses_eq_active_iff :
    pool.statuses url = .active ↔ url ∉ pool.excludedUrls ∧ url ∉ pool.probation := by
  unfold statuses
  rw [← exclusion?_eq_none_iff]
  split
  · next held => simp [held]
  · next free => cases pool.exclusion? url <;> simp [free]

theorem statuses_eq_active_iff_mem (partitioned : pool.Partitioned) (configured : url ∈ pool.baseline) :
    pool.statuses url = .active ↔ url ∈ pool.active := by
  rw [statuses_eq_active_iff]
  have placed := partitioned.place configured
  tauto

theorem active_eq_nil_iff (partitioned : pool.Partitioned) :
    pool.active = [] ↔ ¬ ∃ url ∈ pool.baseline, pool.statuses url = .active := by
  constructor
  · rintro empty ⟨url, configured, active⟩
    have member := (statuses_eq_active_iff_mem partitioned configured).mp active
    simp [empty] at member
  · intro none
    by_contra nonempty
    obtain ⟨url, member⟩ := List.exists_mem_of_ne_nil _ nonempty
    have configured := partitioned.mem_baseline_of_active member
    exact none ⟨url, configured, (statuses_eq_active_iff_mem partitioned configured).mpr member⟩

theorem statuses_congr {next : Pool} (partitioned : pool.Partitioned) (kept : next.Partitioned)
    (probation : url ∈ next.probation ↔ url ∈ pool.probation)
    (excluded : ∀ expiry, ⟨url, expiry⟩ ∈ next.excluded ↔ ⟨url, expiry⟩ ∈ pool.excluded) :
    next.statuses url = pool.statuses url := by
  cases status : pool.statuses url with
  | active =>
    rw [statuses_eq_active_iff, mem_excludedUrls] at status ⊢
    simpa only [probation, excluded] using status
  | excluded expiry =>
    rw [statuses_eq_excluded_iff (by assumption)] at status ⊢
    exact (excluded expiry).mpr status
  | probation =>
    rw [statuses_eq_probation_iff] at status ⊢
    exact probation.mpr status

theorem mem_swapErase {urls : List Url} (nodup : urls.Nodup) :
    other ∈ swapErase url urls ↔ other ∈ urls ∧ other ≠ url := by
  rw [(perm_swapErase url urls).mem_iff, nodup.mem_erase_iff, and_comm]

theorem mem_withoutExclusion (partitioned : pool.Partitioned) {exclusion : Exclusion} :
    exclusion ∈ pool.withoutExclusion url ↔ exclusion ∈ pool.excluded ∧ exclusion.url ≠ url := by
  by_cases h : exclusion.url = url
  · have placed := partitioned.once url
    have counted := count_withoutExclusion pool url url
    have gone : url ∉ (pool.withoutExclusion url).map Exclusion.url := by
      rw [← List.count_eq_zero]
      simp only [excludedUrls, if_pos] at placed counted
      omega
    simpa [h] using fun member => gone (h ▸ List.mem_map_of_mem member)
  · rw [withoutExclusion, List.mem_eraseP_of_neg (by simpa using h)]
    simp [h]

theorem statuses_eq_update {next : Pool} {status : Status} (partitioned : pool.Partitioned)
    (kept : next.Partitioned) (moved : next.statuses url = status)
    (probation : ∀ other ≠ url, other ∈ next.probation ↔ other ∈ pool.probation)
    (excluded : ∀ other ≠ url, ∀ expiry,
      ⟨other, expiry⟩ ∈ next.excluded ↔ ⟨other, expiry⟩ ∈ pool.excluded) :
    next.statuses = Function.update pool.statuses url status := by
  funext other
  by_cases h : other = url
  · rw [h, Function.update_self, moved]
  · rw [Function.update_of_ne h]
    exact statuses_congr partitioned kept (probation other h) (excluded other h)

theorem statuses_exclude (partitioned : pool.Partitioned) (configured : url ∈ pool.baseline) :
    (pool.exclude url expiry).statuses =
      Function.update pool.statuses url (.excluded expiry) := by
  have kept := partitioned.exclude configured expiry
  refine statuses_eq_update partitioned kept ?_ (fun other h => ?_) fun other h expiry => ?_
  · rw [statuses_eq_excluded_iff kept]
    simp [exclude]
  · simp [exclude, mem_swapErase partitioned.nodup_probation, h]
  · simp [exclude, mem_withoutExclusion partitioned, h]

theorem statuses_promote (partitioned : pool.Partitioned) (excluded : url ∈ pool.excludedUrls) :
    (pool.promote url).statuses = Function.update pool.statuses url .probation := by
  have kept := partitioned.promote excluded
  refine statuses_eq_update partitioned kept ?_ (fun other h => ?_) fun other h expiry => ?_
  · rw [statuses_eq_probation_iff]
    simp [promote]
  · simp [promote, h]
  · simp [promote, mem_withoutExclusion partitioned, h]

theorem statuses_rejoin (partitioned : pool.Partitioned) (held : url ∈ pool.probation) :
    (pool.rejoin url).statuses = Function.update pool.statuses url .active := by
  have kept := partitioned.rejoin held
  refine statuses_eq_update partitioned kept ?_ (fun other h => ?_) fun other h expiry => ?_
  · rw [statuses_eq_active_iff, mem_excludedUrls]
    simp [rejoin, mem_swapErase partitioned.nodup_probation, mem_withoutExclusion partitioned]
  · simp [rejoin, mem_swapErase partitioned.nodup_probation, h]
  · simp [rejoin, mem_withoutExclusion partitioned, h]

theorem statuses_of_isClean (clean : pool.isClean = true) : pool.statuses = fun _ => .active := by
  obtain ⟨excluded, probation⟩ := isClean_iff.mp clean
  funext url
  rw [statuses_eq_active_iff]
  simp [excludedUrls, excluded, probation]

theorem statuses_readmit (partitioned : pool.Partitioned) (held : url ∈ pool.probation) :
    (pool.readmit url).statuses = Function.update pool.statuses url .active := by
  rw [← statuses_rejoin partitioned held, readmit_eq]
  split
  · next clean => rw [statuses_of_isClean (isClean_reset _), statuses_of_isClean clean]
  · rfl

theorem statuses_flagged (pool : Pool) : pool.flagged.statuses = pool.statuses := rfl

theorem statuses_settled (pool : Pool) :
    pool.settled.statuses = if pool.active = [] then fun _ => .active else pool.statuses := by
  unfold settled
  cases active : pool.active with
  | nil => simpa [statuses_flagged] using statuses_of_isClean (isClean_reset pool)
  | cons first rest => simp [statuses_flagged]

end Pool

end Balance
