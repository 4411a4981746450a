import Balance.Proofs.Pool.Status

/-!
The machine of statuses, and how a pool follows it. The machine knows the
baseline, the reading of the clock and one status for each URL. It says which
status a call gives to which URL and what it may answer; the candidates are
fixed up to their order. A pool answers as the machine allows, and its statuses
move as the machine says, in every state that a run reaches.
-/

namespace Balance

def Status.hasExpired (status : Status) (now : Instant) : Bool :=
  match status with
  | .excluded expiry => expiry.all (· < now)
  | _ => false

namespace Statuses

variable (statuses : Statuses) (baseline : List Url) (now : Instant)

/-- A URL fails. When this leaves no URL active, all of them become active. -/
def fail (url : Url) (expiry : Option Instant) : Statuses :=
  let next := Function.update statuses url (.excluded expiry)
  if ∃ other ∈ baseline, next other = .active then next else fun _ => .active

def take (url : Url) : Take :=
  match statuses url with
  | .active => .active
  | .excluded expiry => if expiry.all (· < now) then .canary else .withheld
  | .probation => .withheld

/-- The active URLs with their copies, and once each whose exclusion is over. -/
def offered : List Url :=
  baseline.filter (statuses · = .active) ++
    (Url.distinct baseline).filter fun url => (statuses url).hasExpired now

section Offers

variable {statuses baseline now} {later : Instant} {url : Url}

theorem take_eq_active_iff : statuses.take now url = .active ↔ statuses url = .active := by
  unfold take
  cases statuses url with
  | active => simp
  | excluded expiry => by_cases expired : expiry.all (· < now) = true <;> simp [expired]
  | probation => simp

theorem take_eq_canary_iff :
    statuses.take now url = .canary ↔ (statuses url).hasExpired now = true := by
  unfold take Status.hasExpired
  cases statuses url <;> simp

theorem take_ne_withheld_iff :
    statuses.take now url ≠ .withheld ↔
      statuses url = .active ∨ (statuses url).hasExpired now = true := by
  unfold take Status.hasExpired
  cases statuses url <;> simp

theorem mem_offered :
    url ∈ statuses.offered baseline now ↔
      url ∈ baseline ∧ statuses.take now url ≠ .withheld := by
  rw [take_ne_withheld_iff, offered, List.mem_append, List.mem_filter, List.mem_filter,
    Url.mem_distinct, decide_eq_true_iff, ← and_or_left]

theorem take_mono (order : now ≤ later) (taken : statuses.take now url ≠ .withheld) :
    statuses.take later url ≠ .withheld := by
  rw [take_ne_withheld_iff] at taken ⊢
  refine taken.imp_right fun expired => ?_
  cases status : statuses url with
  | active => simp [status, Status.hasExpired] at expired
  | probation => simp [status, Status.hasExpired] at expired
  | excluded expiry =>
    rw [status] at expired
    cases expiry with
    | none => rfl
    | some due =>
      simp only [Status.hasExpired, Option.all_some, decide_eq_true_eq] at expired ⊢
      exact Nat.lt_of_lt_of_le expired order

end Offers

open Pool (Call Answer ofBaseline)

def next (call : Call) : Statuses :=
  match call with
  | .fail called timeout =>
    match (ofBaseline baseline).resolve called with
    | none => statuses
    | some url => statuses.fail baseline url
        (if now + timeout < Instant.horizon then some (now + timeout) else none)
  | .confirm called =>
    match (ofBaseline baseline).resolve called with
    | none => statuses
    | some url =>
      if statuses url = .probation then Function.update statuses url .active else statuses
  | .take url =>
    if statuses.take now url = .canary then Function.update statuses url .probation else statuses
  | .candidates | .snapshot => statuses

variable {statuses baseline now} in
theorem next_fail {called url : Url} (timeout : Duration)
    (resolved : (ofBaseline baseline).resolve called = some url) :
    statuses.next baseline now (.fail called timeout) =
      statuses.fail baseline url (Instant.deadline now timeout) := by
  rw [next, resolved]
  rfl

def Allows (call : Call) (answer : Answer) : Prop :=
  match call with
  | .candidates => ∃ urls, answer = .candidates urls ∧ urls.Perm (statuses.offered baseline now)
  | .fail called _ => answer = .failed ((ofBaseline baseline).resolve called)
  | .confirm called =>
    answer = .confirmed (((ofBaseline baseline).resolve called).any (statuses · = .probation))
  | .take url => answer = .taken (statuses.take now url)
  | .snapshot => ∃ view, answer = .shown view ∧ ∀ url ∈ baseline,
    (url ∈ view.active ↔ statuses url = .active) ∧
      (∀ remaining, ⟨url, remaining⟩ ∈ view.excluded ↔ ∃ expiry,
        statuses url = .excluded expiry ∧ remaining = expiry.map (Instant.remainingMillis · now)) ∧
      (url ∈ view.probation ↔ statuses url = .probation)

end Statuses

namespace Pool

variable {pool : Pool} {ambient : Ambient}

theorem candidates_answer (sound : pool.Sound) :
    (candidates pool ambient).answer = pool.offered ambient.reading := by
  rw [(candidates_apply pool ambient).1, sound.degraded_eq]
  cases clean : pool.isClean with
  | true => simp [offered_of_isClean clean, sound.active_of_isClean clean]
  | false => simp

theorem take_answer (sound : pool.Sound) (url : Url) :
    (take url pool ambient).answer = pool.statuses.take ambient.reading url := by
  rw [take_apply, sound.degraded_eq, Statuses.take]
  cases clean : pool.isClean with
  | true => simp [statuses_of_isClean clean]
  | false =>
    unfold statuses
    by_cases held : url ∈ pool.probation
    · simp [held]
    · cases found : pool.exclusion? url with
      | none => simp [held]
      | some exclusion =>
        by_cases expired : exclusion.hasExpired ambient.reading = true
        all_goals
          have ended := expired
          unfold Exclusion.hasExpired at ended
          simp [held, expired, ended]

theorem confirm_answer (sound : pool.Sound) (called : Url) :
    (confirm called pool ambient).answer =
      (pool.resolve called).any (pool.statuses · = .probation) := by
  rw [(confirm_apply pool ambient called).1, sound.degraded_eq]
  simp only [statuses_eq_probation_iff]
  cases clean : pool.isClean with
  | false => simp
  | true => cases pool.resolve called <;> simp [(isClean_iff.mp clean).2]

theorem perm_filter_active (partitioned : pool.Partitioned) :
    pool.active.Perm (pool.baseline.filter (pool.statuses · = .active)) := by
  rw [List.perm_iff_count]
  intro url
  have weighted := partitioned.weighted url
  by_cases configured : url ∈ pool.baseline
  · have active := statuses_eq_active_iff_mem partitioned configured
    by_cases member : url ∈ pool.active
    · rw [List.count_filter (by simpa using active.mpr member), partitioned.count_active member]
    · rw [List.count_eq_zero.mpr member, eq_comm, List.count_eq_zero]
      simp [active, member]
  · have missing := List.count_eq_zero.mpr configured
    rw [show pool.active.count url = 0 by omega, eq_comm, List.count_eq_zero]
    simp [configured]

theorem perm_filter_expired (partitioned : pool.Partitioned) (now : Instant) :
    (pool.expired now).Perm
      ((Url.distinct pool.baseline).filter fun url => (pool.statuses url).hasExpired now) := by
  refine (List.perm_ext_iff_of_nodup (partitioned.nodup_expired now)
    ((Url.nodup_distinct pool.baseline).filter _)).mpr ?_
  intro url
  rw [List.mem_filter, Url.mem_distinct]
  constructor
  · intro member
    obtain ⟨exclusion, ended, rfl⟩ := List.mem_map.mp member
    obtain ⟨found, ended⟩ := List.mem_filter.mp ended
    have status := (statuses_eq_excluded_iff partitioned).mpr found
    exact ⟨partitioned.mem_baseline_of_excluded (List.mem_map_of_mem found),
      by rw [status]; exact ended⟩
  · rintro ⟨_, ended⟩
    cases status : pool.statuses url with
    | active => simp [status, Status.hasExpired] at ended
    | probation => simp [status, Status.hasExpired] at ended
    | excluded expiry =>
      rw [status] at ended
      have found := (statuses_eq_excluded_iff partitioned).mp status
      exact List.mem_map.mpr ⟨_, List.mem_filter.mpr ⟨found, ended⟩, rfl⟩

theorem perm_offered (partitioned : pool.Partitioned) (now : Instant) :
    (pool.offered now).Perm (pool.statuses.offered pool.baseline now) :=
  (perm_filter_active partitioned).append (perm_filter_expired partitioned now)

theorem mem_offered (partitioned : pool.Partitioned) {now : Instant} {url : Url} :
    url ∈ pool.offered now ↔ url ∈ pool.baseline ∧ pool.statuses.take now url ≠ .withheld := by
  rw [(perm_offered partitioned now).mem_iff, Statuses.mem_offered]

theorem statuses_fail (partitioned : pool.Partitioned) {url : Url} (configured : url ∈ pool.baseline)
    (expiry : Option Instant) :
    (pool.exclude url expiry).settled.statuses = pool.statuses.fail pool.baseline url expiry := by
  have empty_iff : (pool.exclude url expiry).active = [] ↔
      ¬ ∃ other ∈ pool.baseline, (pool.exclude url expiry).statuses other = .active :=
    active_eq_nil_iff (partitioned.exclude configured expiry)
  rw [statuses_settled, Statuses.fail, ← statuses_exclude partitioned configured]
  by_cases empty : (pool.exclude url expiry).active = []
  · rw [if_pos empty, if_neg (empty_iff.mp empty)]
  · rw [if_neg empty, if_pos (not_not.mp (mt empty_iff.mpr empty))]

theorem resolve_ofBaseline (pool : Pool) (called : Url) :
    (ofBaseline pool.baseline).resolve called = pool.resolve called := rfl

theorem statuses_next (sound : pool.Sound) (call : Call) (ambient : Ambient) :
    (call.perform pool ambient).state.statuses =
      pool.statuses.next pool.baseline ambient.reading call := by
  cases call with
  | candidates => simp [Call.perform, Statuses.next, (candidates_apply pool ambient).2]
  | snapshot => simp [Call.perform, Statuses.next, (snapshot_apply pool ambient).2]
  | fail called timeout =>
    rw [Call.perform, Operation.map_apply, (fail_apply pool ambient called timeout).2]
    cases resolved : pool.resolve called with
    | none =>
      rw [Statuses.next, resolve_ofBaseline, resolved]
      rfl
    | some url =>
      have configured := mem_configured.mp (mem_configured_of_resolve resolved)
      rw [Statuses.next_fail timeout resolved]
      exact statuses_fail sound.toPartitioned configured _
  | confirm called =>
    rw [Call.perform, Operation.map_apply, (confirm_apply pool ambient called).2,
      confirm_answer sound, Statuses.next, resolve_ofBaseline]
    cases resolved : pool.resolve called with
    | none => rfl
    | some url =>
      by_cases held : url ∈ pool.probation
      · have status := statuses_eq_probation_iff.mpr held
        simp [status, statuses_flagged, statuses_readmit sound.toPartitioned held]
      · have status := mt statuses_eq_probation_iff.mp held
        simp [status]
  | take url =>
    rw [Call.perform, Operation.map_apply, Statuses.next, ← take_answer sound]
    rcases take_cases pool ambient url with ⟨kept, same⟩ | ⟨exclusion, found, _, canary, _, promoted⟩
    · rw [if_neg kept, same]
    · have located := (exclusion?_eq_some_iff sound.toPartitioned).mp found
      have excluded : url ∈ pool.excludedUrls := located.2 ▸ List.mem_map_of_mem located.1
      rw [if_pos canary, promoted, statuses_flagged, statuses_promote sound.toPartitioned excluded]

theorem allows_snapshot (partitioned : pool.Partitioned) (now : Instant) :
    ∀ url ∈ pool.baseline,
      (url ∈ (pool.snapshotAt now).active ↔ pool.statuses url = .active) ∧
        (∀ remaining, ⟨url, remaining⟩ ∈ (pool.snapshotAt now).excluded ↔ ∃ expiry,
          pool.statuses url = .excluded expiry ∧
            remaining = expiry.map (Instant.remainingMillis · now)) ∧
        (url ∈ (pool.snapshotAt now).probation ↔ pool.statuses url = .probation) := by
  intro url configured
  refine ⟨?_, fun remaining => ?_, statuses_eq_probation_iff.symm⟩
  · rw [statuses_eq_active_iff_mem partitioned configured, snapshotAt, Url.mem_distinct]
  · simp only [statuses_eq_excluded_iff partitioned, snapshotAt, List.mem_map, Exclusion.view]
    constructor
    · rintro ⟨exclusion, found, same⟩
      obtain ⟨rfl, rfl⟩ := ExcludedUrl.mk.inj same
      exact ⟨exclusion.expiry, found, rfl⟩
    · rintro ⟨expiry, found, rfl⟩
      exact ⟨_, found, rfl⟩

theorem allows_answer (sound : pool.Sound) (call : Call) (ambient : Ambient) :
    pool.statuses.Allows pool.baseline ambient.reading call (call.perform pool ambient).answer := by
  cases call with
  | candidates =>
    refine ⟨_, rfl, ?_⟩
    rw [candidates_answer sound]
    exact perm_offered sound.toPartitioned ambient.reading
  | fail called timeout =>
    exact congrArg Answer.failed (fail_apply pool ambient called timeout).1
  | confirm called => exact congrArg Answer.confirmed (confirm_answer sound called)
  | take url => exact congrArg Answer.taken (take_answer sound url)
  | snapshot =>
    refine ⟨_, rfl, ?_⟩
    rw [(snapshot_apply pool ambient).1]
    exact allows_snapshot sound.toPartitioned ambient.reading

section Runs

variable {baseline : List Url} {moments : List (Moment Call.perform)}

theorem statuses_of_run (run : Run Call.perform (ofBaseline baseline) moments pool) :
    pool.statuses = moments.foldl
      (fun (statuses : Statuses) moment => statuses.next baseline moment.ambient.reading moment.call)
      fun _ => .active := by
  rw [← statuses_of_isClean (isClean_ofBaseline baseline)]
  refine run.view_eq_foldl statuses fun moment member => ?_
  rw [← baseline_of_mem run member]
  exact statuses_next (sound_of_mem run member) moment.call moment.ambient

/-- In every state that a run reaches, the statuses are those of the lists and
those of the machine after the same calls, and every further call at every
reading answers and moves them as the machine says. -/
theorem refines_statuses (run : Run Call.perform (ofBaseline baseline) moments pool)
    (call : Call) (ambient : Ambient) :
    (∀ url ∈ baseline,
      (pool.statuses url = .active ↔ url ∈ pool.active) ∧
        (∀ expiry, pool.statuses url = .excluded expiry ↔ ⟨url, expiry⟩ ∈ pool.excluded) ∧
        (pool.statuses url = .probation ↔ url ∈ pool.probation)) ∧
      pool.statuses = moments.foldl
        (fun (statuses : Statuses) moment => statuses.next baseline moment.ambient.reading moment.call)
        (fun _ => .active) ∧
      pool.statuses.Allows baseline ambient.reading call (call.perform pool ambient).answer ∧
      (call.perform pool ambient).state.statuses =
        pool.statuses.next baseline ambient.reading call := by
  have sound := sound_of_run run
  have folded := statuses_of_run run
  obtain rfl := baseline_of_run run
  refine ⟨fun url configured => ⟨?_, fun expiry => ?_, ?_⟩, folded, ?_, ?_⟩
  · exact statuses_eq_active_iff_mem sound.toPartitioned configured
  · exact statuses_eq_excluded_iff sound.toPartitioned
  · exact statuses_eq_probation_iff
  · exact allows_answer sound call ambient
  · exact statuses_next sound call ambient

theorem refines_statuses_last_active :
    let pool : Pool := ⟨["a", "b"], ["b"], [], ["a"], true⟩
    Run Call.perform (ofBaseline ["a", "b"])
        (history Call.perform (ofBaseline ["a", "b"])
          [(.fail "a" 5, .standing 0), (.take "a", .standing 6)]) pool ∧
      pool.statuses "a" = .probation ∧
      (Call.perform (.fail "a" 5) pool (.standing 7)).state.statuses "a" = .excluded (some 12) ∧
      (Call.perform (.fail "a" Duration.max) pool (.standing 7)).state.statuses "a" =
        .excluded none ∧
      (Call.perform (.fail "b/x" 5) pool (.standing 7)).state.statuses = fun _ => .active := by
  intro pool
  have run : Run Call.perform (ofBaseline ["a", "b"])
      (history Call.perform (ofBaseline ["a", "b"])
        [(.fail "a" 5, .standing 0), (.take "a", .standing 6)]) pool := ⟨rfl, rfl, rfl⟩
  have moved (called : Url) (timeout : Duration) :=
    (refines_statuses run (.fail called timeout) (.standing 7)).2.2.2
  obtain ⟨lists, _⟩ := refines_statuses run .snapshot (.standing 7)
  refine ⟨run, ((lists "a" (by simp)).2.2).mpr (by simp [pool]), ?_, ?_, ?_⟩
  · rw [moved]
    decide +kernel
  · rw [moved]
    decide +kernel
  · have resolved : (ofBaseline ["a", "b"]).resolve "b/x" = some "b" := rfl
    have left : ¬ ∃ other ∈ ["a", "b"],
        Function.update pool.statuses "b" (.excluded (some 12)) other = .active := by decide
    rw [moved, Statuses.next_fail 5 resolved, Statuses.fail]
    exact if_neg left

end Runs

end Pool

end Balance
