import Balance.Proofs.Client.Looks
import Balance.Proofs.Client.Rotation

/-!
How long a URL stays away. An exclusion goes back to the latest failure of its
URL, and a snapshot tells what is left of the timeout since then, in whole
milliseconds. Where readings do not go back and stay well before the horizon,
every exclusion has an expiry and the count is exact. While the count is positive
the URL is not handed out, and a millisecond after the count has run out the URL
is offered again.
-/

namespace Balance

namespace Instant

/-- 2^62 seconds. No timeout that can be configured leads from before them to the horizon. -/
def halfway : Instant := 0x4000000000000000 * nanosPerSecond

theorem deadline_of_lt_halfway {start : Instant} (early : start < halfway) (millis : UInt64) :
    deadline start (Duration.ofMillis millis.toNat) =
      some (start + Duration.ofMillis millis.toNat) := by
  have short : Duration.ofMillis millis.toNat < halfway :=
    Nat.lt_of_lt_of_le (Nat.mul_lt_mul_of_pos_right millis.toNat_lt (by decide)) (by decide)
  refine deadline_eq_some_iff.mpr ⟨rfl, ?_⟩
  calc start + Duration.ofMillis millis.toNat
      < halfway + halfway := Nat.add_lt_add early short
    _ = horizon := by decide

theorem remainingMillis_eq {start now : Instant} (order : start ≤ now) (millis : UInt64) :
    remainingMillis (start + Duration.ofMillis millis.toNat) now =
      (start + Duration.ofMillis millis.toNat - now) / nanosPerMilli := by
  refine Nat.mod_eq_of_lt ?_
  calc (start + Duration.ofMillis millis.toNat - now) / nanosPerMilli
      ≤ Duration.ofMillis millis.toNat / nanosPerMilli :=
        Nat.div_le_div_right (Nat.sub_le_iff_le_add'.mpr (Nat.add_le_add_right order _))
    _ = millis.toNat := Nat.mul_div_cancel _ (by decide)
    _ < UInt64.size := millis.toNat_lt

theorem le_of_remaining {due now : Instant} (left : 0 < (due - now) / nanosPerMilli) :
    now ≤ due := by
  by_contra past
  rw [Nat.sub_eq_zero_of_le (Nat.le_of_not_le past), Nat.zero_div] at left
  contradiction

theorem lt_of_elapsed (due now : Instant) :
    due < now + ((due - now) / nanosPerMilli + 1) * nanosPerMilli :=
  calc due
      ≤ now + (due - now) := le_add_tsub
    _ < now + ((due - now) / nanosPerMilli + 1) * nanosPerMilli :=
        Nat.add_lt_add_left (Nat.lt_mul_of_div_lt (Nat.lt_succ_self _) (by decide)) now

end Instant

namespace Pool

variable {pool : Pool} {url : Url} {due : Instant} {ambient : Ambient}

theorem withheld_of_excluded (sound : pool.Sound) (excluded : pool.statuses url = .excluded (some due))
    (early : ambient.reading ≤ due) : (take url pool ambient).answer = .withheld := by
  rw [take_answer sound, Statuses.take, excluded]
  simp [early]

theorem offered_of_elapsed (partitioned : pool.Partitioned) {now : Instant}
    (excluded : pool.statuses url = .excluded (some due)) (late : due < now) :
    url ∈ pool.offered now := by
  have member := (statuses_eq_excluded_iff partitioned).mp excluded
  refine (mem_offered partitioned).mpr
    ⟨partitioned.mem_baseline_of_excluded (mem_excludedUrls.mpr ⟨_, member⟩), ?_⟩
  rw [Statuses.take, excluded]
  simp [late]

end Pool

namespace Client

variable {config : BalancingConfig} {client : Client} {moments : List (Moment Call.perform)}
variable {moment : Moment Call.perform} {shadow : Moment Pool.Call.perform} {url : Url}
variable {pool : Pool} {expiry : Option Instant}

def Fails (moment : Moment Call.perform) (url : Url) : Prop :=
  moment.answer = .failed (.ok (some url))

namespace Shadow

theorem fail_call (behind : Shadow moment shadow) {called : Url} {timeout : Duration}
    (failed : shadow.call = .fail called timeout) :
    ∃ error policy, moment.call = .fail called error ∧ moment.found.policy? = some policy ∧
      timeout = policy.timeout ∧ shadow.ambient = moment.ambient := by
  have mirrored := behind.call
  cases call : moment.call with
  | fail target error =>
    rw [call] at mirrored
    obtain ⟨same, mirrored⟩ := mirrored
    cases ruled : moment.found.policy? with
    | none => simp [ruled, failed] at mirrored
    | some policy =>
      rw [ruled, Option.elim_some, failed] at mirrored
      obtain ⟨rfl, rfl⟩ := Pool.Call.fail.inj mirrored
      exact ⟨error, policy, rfl, rfl, rfl, same⟩
  | url default id =>
    rw [call] at mirrored
    rcases mirrored with ⟨_, _, taken, _⟩ | looks
    · cases failed.symm.trans taken
    · cases failed.symm.trans looks
  | confirm | init | hasFailover | algorithm | snapshot =>
    rw [call] at mirrored
    cases failed.symm.trans mirrored

theorem fails_iff (behind : Shadow moment shadow) :
    Fails moment url ↔ Pool.Fails shadow url := by
  constructor
  · intro fails
    obtain ⟨client, call, ambient⟩ := moment
    cases call with
    | fail called error =>
      obtain ⟨_, call⟩ := behind.call
      have answer := Answer.failed.inj fails
      cases ruled : client.policy? with
      | none => cases (fail_refused (.inr ruled) called error ambient).symm.trans answer
      | some policy =>
        refine ⟨called, policy.timeout, by simpa [ruled] using call, ?_⟩
        exact Except.ok.inj ((fail_answer behind.found ruled called error ambient).symm.trans answer)
    | url | confirm | init | hasFailover | algorithm | snapshot => cases fails
  · rintro ⟨called, timeout, failed, resolved⟩
    obtain ⟨error, policy, call, ruled, _⟩ := behind.fail_call failed
    have answer := fail_answer behind.found ruled called error moment.ambient
    rw [Fails, Moment.answer, Moment.step, call, Call.perform, Operation.map_apply]
    exact congrArg Answer.failed (answer.trans (congrArg Except.ok resolved))

theorem excluded_cases (behind : Shadow moment shadow) (sound : shadow.found.Sound)
    (excluded : shadow.left.statuses url = .excluded expiry) :
    (¬ Fails moment url ∧ shadow.found.statuses url = .excluded expiry) ∨
      Fails moment url ∧ ∃ policy, moment.found.policy? = some policy ∧
        expiry = Instant.deadline moment.ambient.reading policy.timeout := by
  by_cases fails : Fails moment url
  · obtain ⟨called, timeout, failed, resolved⟩ := behind.fails_iff.mp fails
    obtain ⟨_, policy, _, ruled, rfl, same⟩ := behind.fail_call failed
    refine .inr ⟨fails, policy, ruled, ?_⟩
    rw [← same]
    exact Pool.expiry_of_fail sound failed resolved excluded
  · exact .inl ⟨fails, Pool.excluded_found sound (mt behind.fails_iff.mpr fails) excluded⟩

end Shadow

/-- Among the moments the failure is the latest one of the URL. -/
def LatestFailure (moments : List (Moment Call.perform)) (failure : Moment Call.perform)
    (url : Url) : Prop :=
  ∃ earlier later, moments = earlier ++ failure :: later ∧ Fails failure url ∧
    ∀ moment ∈ later, ¬ Fails moment url

namespace LatestFailure

variable {failure : Moment Call.perform}

theorem of_last (fails : Fails moment url) : LatestFailure (moments ++ [moment]) moment url :=
  ⟨moments, [], rfl, fails, List.forall_mem_nil _⟩

theorem append (latest : LatestFailure moments failure url) (spared : ¬ Fails moment url) :
    LatestFailure (moments ++ [moment]) failure url := by
  obtain ⟨earlier, later, rfl, fails, none⟩ := latest
  refine ⟨earlier, later ++ [moment], by simp, fails, List.forall_mem_append.mpr ⟨none, ?_⟩⟩
  exact List.forall_mem_singleton.mpr spared

theorem mem_shown (latest : LatestFailure moments failure url) :
    failure.ambient.reading ∈ shown moments := by
  obtain ⟨earlier, later, rfl, _⟩ := latest
  exact List.mem_flatMap.mpr ⟨failure, by simp, failure.ambient.clock.read_mem_shows⟩

end LatestFailure

section Runs

theorem latest_of_run (run : Run Call.perform { config } moments client)
    (tracked : client.pool? = some pool) (excluded : pool.statuses url = .excluded expiry) :
    ∃ failure policy, LatestFailure moments failure url ∧ config.failover = some policy ∧
      expiry = Instant.deadline failure.ambient.reading policy.timeout := by
  induction moments using List.reverseRecOn generalizing client pool with
  | nil =>
    obtain rfl : ({ config } : Client) = client := run
    rw [Pool.statuses_of_isClean (isClean_new tracked)] at excluded
    cases excluded
  | append_singleton moments last ih =>
    obtain ⟨before, rfl⟩ := Run.split_iff.mp run
    obtain ⟨found, tracks⟩ := pool?_found tracked
    obtain ⟨shadow, behind, rfl⟩ := exists_shadow tracks
    obtain rfl := Option.some.inj (tracked.symm.trans behind.left)
    rcases behind.excluded_cases (sound_of_run before tracks) excluded with
      ⟨spared, still⟩ | ⟨fails, policy, ruled, made⟩
    · obtain ⟨failure, policy, latest, made⟩ := ih before tracks still
      exact ⟨failure, policy, latest.append spared, made⟩
    · refine ⟨last, policy, .of_last fails, ?_, made⟩
      rwa [policy?, config_of_run before] at ruled

theorem expiry_of_run (run : Run Call.perform { config } moments client)
    (early : ∀ reading ∈ shown moments, reading < Instant.halfway)
    (tracked : client.pool? = some pool) (excluded : pool.statuses url = .excluded expiry) :
    ∃ failure policy, LatestFailure moments failure url ∧ config.failover = some policy ∧
      expiry = some (failure.ambient.reading + policy.timeout) := by
  obtain ⟨failure, policy, latest, ruled, made⟩ := latest_of_run run tracked excluded
  have representable :=
    Instant.deadline_of_lt_halfway (early _ latest.mem_shown) policy.timeoutMillis
  exact ⟨failure, policy, latest, ruled, made.trans representable⟩

/-- While no reading of a run comes near the horizon, every exclusion has an expiry. A
snapshot that is taken later shows the excluded URLs. Each has a latest failure, and
the snapshot tells the whole milliseconds that are left of the timeout since then.
While there are any, the URL is neither offered nor can it be taken. Whatever is
asked of the client meanwhile, the URL is offered once these milliseconds and one
more have gone by. -/
theorem remaining_of_run (run : Run Call.perform { config } moments client)
    (tracked : client.pool? = some pool)
    (early : ∀ reading ∈ shown moments, reading < Instant.halfway) (ambient : Ambient)
    (order : ∀ reading ∈ shown moments, reading ≤ ambient.reading) :
    (∀ exclusion ∈ pool.excluded, exclusion.expiry ≠ none) ∧
      ∃ view, (snapshot client ambient).answer = some view ∧
        view.excluded.map ExcludedUrl.url = pool.excludedUrls ∧
        ∀ entry ∈ view.excluded, ∃ failure policy remaining,
          LatestFailure moments failure entry.url ∧ config.failover = some policy ∧
            entry.remainingMillis = some remaining ∧
            remaining = (failure.ambient.reading + policy.timeoutMillis.toNat * nanosPerMilli -
              ambient.reading) / nanosPerMilli ∧
            (0 < remaining → entry.url ∉ client.offered ambient ∧
              ∃ balancer ∈ client.balancer?,
                (Balancer.take entry.url balancer ambient).answer = .withheld) ∧
            ∀ looks finish afterwards, Run Call.perform client looks finish →
              (∀ moment ∈ looks, moment.call.isLook = true) →
              afterwards.reading = ambient.reading + (remaining + 1) * nanosPerMilli →
              entry.url ∈ finish.offered afterwards := by
  have sound := sound_of_run run tracked
  have status (exclusion : Exclusion) (member : exclusion ∈ pool.excluded) :
      pool.statuses exclusion.url = .excluded exclusion.expiry :=
    (Pool.statuses_eq_excluded_iff sound.toPartitioned).mpr member
  have answer := snapshot_answer client ambient
  rw [tracked] at answer
  refine ⟨fun exclusion member => ?_, _, answer, ?_, ?_⟩
  · obtain ⟨_, _, _, _, made⟩ := expiry_of_run run early tracked (status exclusion member)
    simp [made]
  · simp [Pool.snapshotAt, Pool.excludedUrls, Exclusion.view]
  intro entry listed
  obtain ⟨⟨url, expiry⟩, member, rfl⟩ := List.mem_map.mp listed
  have excluded := status _ member
  obtain ⟨failure, policy, latest, ruled, rfl⟩ := expiry_of_run run early tracked excluded
  refine ⟨failure, policy, _, latest, ruled, ?_, rfl, fun left => ?_, ?_⟩
  · exact congrArg some
      (Instant.remainingMillis_eq (order _ latest.mem_shown) policy.timeoutMillis)
  · have soon := Instant.le_of_remaining left
    obtain ⟨balancer, behind, source⟩ := balancer_of_pool? tracked
    refine ⟨?_, balancer, behind, ?_⟩
    · rw [offered_of_pool? tracked sound]
      exact Pool.not_offered_of_excluded sound.toPartitioned excluded soon
    · rw [Balancer.take_answer, source, Source.take_failover]
      exact Pool.withheld_of_excluded sound excluded soon
  · intro looks finish afterwards onward look elapsed
    have still : finish.pool? = some pool := by
      rwa [pool?, balancer?_of_looks onward look]
    rw [offered_of_pool? still sound, elapsed]
    exact Pool.offered_of_elapsed sound.toPartitioned excluded (Instant.lt_of_elapsed _ _)

theorem remaining_of_run_longest :
    let config : BalancingConfig :=
      { active := true, urls := ["a", "b"]
        failover := some { active := true, timeoutMillis := 18446744073709551615 } }
    let failure : Moment Call.perform := ⟨{ config }, .fail "a/x" (.status 503), .standing 500000⟩
    let client := failure.left
    Run Call.perform { config } [failure] client ∧
      (snapshot client (.standing 1000000)).answer =
        some ⟨["b"], [⟨"a", some 18446744073709551614⟩], []⟩ ∧
      "a" ∉ client.offered (.standing 1000000) ∧
      "a" ∈ client.offered (.standing 18446744073709551616000000) := by
  intro config failure client
  have run : Run Call.perform { config } [failure] client := ⟨rfl, rfl⟩
  have tracked : client.pool? =
      some ⟨["a", "b"], ["b"], [⟨"a", some 18446744073709551615500000⟩], [], true⟩ := by
    decide +kernel
  have shows : shown [failure] = [500000] := rfl
  have answer : (snapshot client (.standing 1000000)).answer =
      some ⟨["b"], [⟨"a", some 18446744073709551614⟩], []⟩ := by decide +kernel
  obtain ⟨_, view, seen, _, each⟩ := remaining_of_run run tracked
    (by rw [shows]; decide +kernel) (.standing 1000000) (by rw [shows]; decide +kernel)
  obtain rfl := Option.some.inj (seen.symm.trans answer)
  obtain ⟨_, _, remaining, _, _, told, _, away, back⟩ := each _ (List.mem_singleton_self _)
  obtain rfl := Option.some.inj told
  refine ⟨run, answer, (away (by decide)).1, ?_⟩
  exact back [] client (.standing 18446744073709551616000000) rfl (List.forall_mem_nil _)
    (by decide +kernel)

end Runs

end Client

end Balance
