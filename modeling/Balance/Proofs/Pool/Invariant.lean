import Balance.Proofs.Pool.Calls

/-!
What holds of a pool at all times. The invariant counts how often a URL stands
in each of the three lists: a configured URL has one place, a URL that is not
configured has none, and the active sequence holds all copies of a URL or none
of them. Beside the counts stand the flag and the two resets. Every change of a
pool keeps the invariant, and so does every run of calls.
-/

namespace Balance.Pool

def excludedUrls (pool : Pool) : List Url := pool.excluded.map Exclusion.url

def expired (pool : Pool) (now : Instant) : List Url :=
  (pool.excluded.filter (·.hasExpired now)).map Exclusion.url

theorem expired_sublist (pool : Pool) (now : Instant) :
    (pool.expired now).Sublist pool.excludedUrls := List.filter_sublist.map Exclusion.url

theorem count_swapErase (url other : Url) (urls : List Url) :
    (swapErase url urls).count other = urls.count other - if other = url then 1 else 0 := by
  rw [(perm_swapErase url urls).count_eq, List.count_erase]
  simp only [beq_iff_eq, @eq_comm _ url other]

theorem count_withoutExclusion (pool : Pool) (url other : Url) :
    ((pool.withoutExclusion url).map Exclusion.url).count other =
      (pool.excluded.map Exclusion.url).count other - if other = url then 1 else 0 := by
  have erased : (pool.withoutExclusion url).map Exclusion.url =
      (pool.excluded.map Exclusion.url).erase url := by
    rw [withoutExclusion, List.erase_eq_eraseP', List.eraseP_map]
    rfl
  rw [erased, List.count_erase]
  simp only [beq_iff_eq, @eq_comm _ url other]

theorem count_filter_ne (url other : Url) (urls : List Url) :
    (urls.filter (· ≠ url)).count other = if other = url then 0 else urls.count other := by
  by_cases h : other = url
  · rw [if_pos h, List.count_eq_zero]
    simp [h]
  · rw [if_neg h, List.count_filter (by simpa using h)]

/-- A URL back from probation, before the pool is found clean or not. -/
def rejoin (pool : Pool) (url : Url) : Pool :=
  { pool with
    probation := swapErase url pool.probation
    excluded := pool.withoutExclusion url
    active := pool.active ++ List.replicate (pool.weight url) url }

theorem readmit_eq (pool : Pool) (url : Url) :
    pool.readmit url =
      if (pool.rejoin url).isClean then (pool.rejoin url).reset else pool.rejoin url := rfl

structure Partitioned (pool : Pool) : Prop where
  once : ∀ url, min (pool.active.count url) 1 + pool.excludedUrls.count url +
    pool.probation.count url = min (pool.baseline.count url) 1
  weighted : ∀ url, pool.active.count url = 0 ∨ pool.active.count url = pool.baseline.count url

structure Sound (pool : Pool) : Prop extends Partitioned pool where
  active_ne_nil : pool.baseline ≠ [] → pool.active ≠ []
  degraded_eq : pool.degraded = !pool.isClean
  active_of_isClean : pool.isClean = true → pool.active = pool.baseline

namespace Partitioned

variable {pool : Pool} {url : Url}

theorem reset (pool : Pool) : pool.reset.Partitioned where
  once url := by simp [Pool.reset, excludedUrls]
  weighted url := .inr rfl

theorem exclude (partitioned : pool.Partitioned) (configured : url ∈ pool.baseline)
    (expiry : Option Instant) : (pool.exclude url expiry).Partitioned := by
  have present : 0 < pool.baseline.count url := List.count_pos_iff.mpr configured
  have active (other : Url) := count_filter_ne url other pool.active
  have excluded (other : Url) := count_withoutExclusion pool url other
  have probation (other : Url) := count_swapErase url other pool.probation
  refine ⟨fun other => ?_, fun other => ?_⟩
  · have placed := partitioned.once other
    simp only [Pool.exclude, excludedUrls, List.map_append, List.count_append, List.map_cons,
      List.map_nil, List.count_singleton, active, excluded, probation] at placed ⊢
    by_cases h : other = url
    · subst h
      simp
      omega
    · simp [h, Ne.symm h]
      omega
  · have weighted := partitioned.weighted other
    simp only [Pool.exclude, active]
    split <;> omega

theorem promote (partitioned : pool.Partitioned) (excluded : url ∈ pool.excludedUrls) :
    (pool.promote url).Partitioned := by
  have present : 0 < pool.excludedUrls.count url := List.count_pos_iff.mpr excluded
  refine ⟨fun other => ?_, partitioned.weighted⟩
  have placed := partitioned.once other
  simp only [Pool.promote, excludedUrls, List.count_append, List.count_singleton,
    count_withoutExclusion] at placed present ⊢
  by_cases h : other = url
  · subst h
    simp
    omega
  · simp [h, Ne.symm h]
    omega

theorem rejoin (partitioned : pool.Partitioned) (held : url ∈ pool.probation) :
    (pool.rejoin url).Partitioned := by
  have present : 0 < pool.probation.count url := List.count_pos_iff.mpr held
  refine ⟨fun other => ?_, fun other => ?_⟩
  all_goals
    have placed := partitioned.once other
    have weighted := partitioned.weighted other
    simp only [Pool.rejoin, weight, excludedUrls, List.count_append, List.count_replicate,
      count_withoutExclusion, count_swapErase] at placed ⊢
    by_cases h : other = url
    · subst h
      simp
      omega
    · simp [h, Ne.symm h]
      omega

theorem not_mem_of_not_mem_baseline (partitioned : pool.Partitioned) (other : url ∉ pool.baseline) :
    url ∉ pool.active ∧ url ∉ pool.excludedUrls ∧ url ∉ pool.probation := by
  have placed := partitioned.once url
  simp only [← List.count_eq_zero] at other ⊢
  omega

theorem mem_baseline_of_active (partitioned : pool.Partitioned) (active : url ∈ pool.active) :
    url ∈ pool.baseline := by
  have present : 0 < pool.active.count url := List.count_pos_iff.mpr active
  have weighted := partitioned.weighted url
  exact List.count_pos_iff.mp (by omega)

theorem mem_baseline_of_excluded (partitioned : pool.Partitioned)
    (excluded : url ∈ pool.excludedUrls) : url ∈ pool.baseline := by
  have placed := partitioned.once url
  simp only [← List.count_pos_iff] at excluded ⊢
  omega

theorem mem_baseline_of_probation (partitioned : pool.Partitioned) (held : url ∈ pool.probation) :
    url ∈ pool.baseline := by
  have placed := partitioned.once url
  simp only [← List.count_pos_iff] at held ⊢
  omega

theorem not_active_of_excluded (partitioned : pool.Partitioned)
    (excluded : url ∈ pool.excludedUrls) : url ∉ pool.active := by
  have placed := partitioned.once url
  simp only [← List.count_pos_iff] at excluded ⊢
  omega

theorem place (partitioned : pool.Partitioned) (configured : url ∈ pool.baseline) :
    (url ∈ pool.active ∧ url ∉ pool.excludedUrls ∧ url ∉ pool.probation) ∨
      (url ∉ pool.active ∧ url ∈ pool.excludedUrls ∧ url ∉ pool.probation) ∨
      (url ∉ pool.active ∧ url ∉ pool.excludedUrls ∧ url ∈ pool.probation) := by
  have placed := partitioned.once url
  simp only [← List.count_pos_iff] at configured ⊢
  omega

theorem nodup_excludedUrls (partitioned : pool.Partitioned) : pool.excludedUrls.Nodup := by
  rw [List.nodup_iff_count]
  intro url
  have placed := partitioned.once url
  omega

theorem nodup_expired (partitioned : pool.Partitioned) (now : Instant) :
    (pool.expired now).Nodup :=
  partitioned.nodup_excludedUrls.sublist (pool.expired_sublist now)

theorem nodup_probation (partitioned : pool.Partitioned) : pool.probation.Nodup := by
  rw [List.nodup_iff_count]
  intro url
  have placed := partitioned.once url
  omega

theorem count_active (partitioned : pool.Partitioned) (active : url ∈ pool.active) :
    pool.active.count url = pool.baseline.count url := by
  have present : 0 < pool.active.count url := List.count_pos_iff.mpr active
  have weighted := partitioned.weighted url
  omega

end Partitioned

namespace Sound

variable {pool : Pool} {url : Url}

theorem ofBaseline (baseline : List Url) : (Pool.ofBaseline baseline).Sound where
  once url := by simp [Pool.ofBaseline, excludedUrls]
  weighted url := .inr rfl
  active_ne_nil := id
  degraded_eq := rfl
  active_of_isClean _ := rfl

theorem reset (pool : Pool) : pool.reset.flagged.Sound where
  toPartitioned := ⟨(Partitioned.reset pool).once, (Partitioned.reset pool).weighted⟩
  active_ne_nil := id
  degraded_eq := rfl
  active_of_isClean _ := rfl

theorem flagged (partitioned : pool.Partitioned) (active : pool.active ≠ [])
    (degraded : pool.isClean = false) : pool.flagged.Sound where
  toPartitioned := ⟨partitioned.once, partitioned.weighted⟩
  active_ne_nil _ := active
  degraded_eq := rfl
  active_of_isClean clean := absurd (degraded.symm.trans clean) Bool.false_ne_true

theorem exclude (sound : pool.Sound) (configured : url ∈ pool.baseline)
    (expiry : Option Instant) : (pool.exclude url expiry).settled.Sound := by
  unfold settled
  split
  · exact reset _
  · next active =>
    refine flagged (sound.toPartitioned.exclude configured expiry) (by simpa using active) ?_
    simp [Pool.exclude, isClean]

theorem promote (sound : pool.Sound) (excluded : url ∈ pool.excludedUrls) :
    (pool.promote url).flagged.Sound := by
  have present : 0 < pool.excludedUrls.count url := List.count_pos_iff.mpr excluded
  have configured : pool.baseline ≠ [] := by
    intro empty
    have placed := sound.once url
    rw [empty, List.count_nil] at placed
    omega
  refine flagged (sound.toPartitioned.promote excluded) (sound.active_ne_nil configured) ?_
  simp [Pool.promote, isClean]

theorem readmit (sound : pool.Sound) (held : url ∈ pool.probation) :
    (pool.readmit url).flagged.Sound := by
  rw [readmit_eq]
  split
  · exact reset _
  · next clean =>
    have present : 0 < pool.probation.count url := List.count_pos_iff.mpr held
    have configured : 0 < pool.baseline.count url := by
      have placed := sound.once url
      omega
    refine flagged (sound.toPartitioned.rejoin held) ?_ (by simpa using clean)
    have copies : pool.weight url ≠ 0 := Nat.ne_of_gt configured
    simp [rejoin, copies]

theorem change {next : Pool} (sound : pool.Sound) (change : Change pool next) : next.Sound := by
  cases change with
  | same => exact sound
  | excluded expiry resolved =>
    exact sound.exclude (mem_configured.mp (mem_configured_of_resolve resolved)) expiry
  | readmitted held => exact sound.readmit held
  | promoted found =>
    have member := List.mem_of_find?_eq_some found
    have same := List.find?_some found
    refine sound.promote (List.mem_map.mpr ⟨_, member, by simpa using same⟩)

end Sound

theorem Change.baseline_eq {pool next : Pool} (change : Change pool next) :
    next.baseline = pool.baseline := by
  cases change with
  | same => rfl
  | excluded expiry resolved =>
    unfold settled
    split <;> rfl
  | readmitted held =>
    rw [readmit_eq]
    split <;> rfl
  | promoted found => rfl

section Runs

variable {baseline : List Url} {moments : List (Moment Call.perform)} {pool : Pool}

theorem sound_of_run (run : Run Call.perform (ofBaseline baseline) moments pool) : pool.Sound :=
  run.keeps (fun moment _ sound => sound.change (change_left moment)) (.ofBaseline baseline)

theorem baseline_of_run (run : Run Call.perform (ofBaseline baseline) moments pool) :
    pool.baseline = baseline :=
  run.keeps (P := (·.baseline = baseline))
    (fun moment _ same => (change_left moment).baseline_eq.trans same) rfl

theorem sound_of_mem (run : Run Call.perform (ofBaseline baseline) moments pool)
    {moment : Moment Call.perform} (member : moment ∈ moments) : moment.found.Sound :=
  run.found (P := Sound) (fun other _ sound => sound.change (change_left other))
    (.ofBaseline baseline) moment member

theorem baseline_of_mem (run : Run Call.perform (ofBaseline baseline) moments pool)
    {moment : Moment Call.perform} (member : moment ∈ moments) :
    moment.found.baseline = baseline :=
  run.found (P := (·.baseline = baseline))
    (fun other _ same => (change_left other).baseline_eq.trans same) rfl moment member

/-- After any run from a baseline, with any readings of the clock, the three
lists split the configured URLs, the active ones in full weight; some URL is
active; the flag tells whether any is not; and a pool without exclusion and
probation is back in the configured order. -/
theorem partition_of_run (run : Run Call.perform (ofBaseline baseline) moments pool) :
    (∀ url ∈ baseline,
      (url ∈ pool.active ∧ url ∉ pool.excludedUrls ∧ url ∉ pool.probation) ∨
        (url ∉ pool.active ∧ url ∈ pool.excludedUrls ∧ url ∉ pool.probation) ∨
        (url ∉ pool.active ∧ url ∉ pool.excludedUrls ∧ url ∈ pool.probation)) ∧
      (∀ url ∉ baseline,
        url ∉ pool.active ∧ url ∉ pool.excludedUrls ∧ url ∉ pool.probation) ∧
      pool.excludedUrls.Nodup ∧ pool.probation.Nodup ∧
      (∀ url ∈ pool.active, pool.active.count url = baseline.count url) ∧
      (baseline ≠ [] → pool.active ≠ []) ∧
      (pool.degraded = true ↔ pool.excluded ≠ [] ∨ pool.probation ≠ []) ∧
      (pool.excluded = [] ∧ pool.probation = [] → pool.active = baseline) := by
  have sound := sound_of_run run
  obtain rfl := baseline_of_run run
  refine ⟨fun url => sound.place, fun url => sound.not_mem_of_not_mem_baseline,
    sound.nodup_excludedUrls, sound.nodup_probation, fun url => sound.count_active,
    sound.active_ne_nil, ?_, ?_⟩
  · rw [sound.degraded_eq, Bool.not_eq_true', ← Bool.not_eq_true, isClean_iff]
    exact Decidable.not_and_iff_not_or_not
  · intro clean
    exact sound.active_of_isClean (isClean_iff.mpr clean)

theorem partition_of_run_probation :
    let pool : Pool := ⟨["a", "b", "a"], ["b"], [], ["a"], true⟩
    Run Call.perform (ofBaseline ["a", "b", "a"])
        (history Call.perform (ofBaseline ["a", "b", "a"])
          [(.fail "a/x" 5, .standing 10), (.take "a", .standing 16), (.candidates, .standing 0)])
        pool ∧
      (∀ url ∈ pool.active, pool.active.count url = ["a", "b", "a"].count url) ∧
      (pool.degraded = true ↔ pool.excluded ≠ [] ∨ pool.probation ≠ []) := by
  intro pool
  have run : Run Call.perform (ofBaseline ["a", "b", "a"])
      (history Call.perform (ofBaseline ["a", "b", "a"])
        [(.fail "a/x" 5, .standing 10), (.take "a", .standing 16), (.candidates, .standing 0)])
      pool := ⟨rfl, rfl, rfl, rfl⟩
  obtain ⟨_, _, _, _, weights, _, flag, _⟩ := partition_of_run run
  exact ⟨run, weights, flag⟩

end Runs

end Balance.Pool
