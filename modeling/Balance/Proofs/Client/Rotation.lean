import Balance.Proofs.Balancer.Rotation
import Balance.Proofs.Client.Probation
import Balance.Proofs.Config.Validation

/-!
Where the next attempt goes. Under round robin two calls of the loop that follow
each other take slots of neighbouring counters, each from the candidates that are
offered at its own selection. While the candidates stay as they are, or while the
URL that failed stays excluded, the next attempt goes to another URL. The report
in between can also change the candidates, by a readmission or a reset that
brings back the configured order, and then the next slot may hold the very URL
that was just called.
-/

namespace Balance

theorem Pool.nodup_offered {pool : Pool} (partitioned : pool.Partitioned)
    (nodup : pool.baseline.Nodup) (now : Instant) : (pool.offered now).Nodup := by
  rw [(perm_offered partitioned now).nodup_iff, Statuses.offered]
  refine List.Nodup.append (nodup.filter _) ((Url.nodup_distinct _).filter _) ?_
  intro url active expired
  have status := of_decide_eq_true (List.mem_filter.mp active).2
  simp [status, Status.hasExpired] at expired

theorem slot_ne {counter : UInt64} {length : Nat} (kept : counter + 1 ≠ 0) (several : 2 ≤ length) :
    (counter + 1).toNat % length ≠ counter.toNat % length := by
  have below : counter.toNat + 1 < UInt64.size := by
    by_contra wraps
    have most := counter.toNat_lt
    refine kept (UInt64.toNat.inj ?_)
    rw [UInt64.toNat_add, UInt64.toNat_zero, UInt64.toNat_one]
    simp only [UInt64.size] at wraps
    omega
  rw [UInt64.toNat_add, UInt64.toNat_one, Nat.mod_eq_of_lt below]
  intro same
  have divides := Nat.sub_mod_eq_zero_of_mod_eq same
  rw [Nat.add_sub_cancel_left, Nat.mod_eq_of_lt (by omega)] at divides
  contradiction

theorem picked_ne {urls : List Url} (nodup : urls.Nodup) (several : 2 ≤ urls.length)
    {counter : UInt64} (kept : counter + 1 ≠ 0) {first second : Url}
    (picked : urls[counter.toNat % urls.length]? = some first)
    (next : urls[(counter + 1).toNat % urls.length]? = some second) : second ≠ first := by
  rintro rfl
  refine slot_ne kept several ((List.getElem?_inj (Nat.mod_lt _ (by omega)) nodup).mp ?_)
  rw [next, picked]

namespace Client

variable {κ α : Type} {remote : Remote κ α} {default : Url}

/-- A client that goes round robin through a pool without repeated URLs. -/
def Rotates (client : Client) (pool : Pool) (counter : UInt64) : Prop :=
  ∃ balancer, client.balancer? = some balancer ∧ balancer.source = .failover pool ∧
    balancer.strategy = some (.roundRobin counter) ∧
    pool.Sound ∧ pool.baseline.Nodup ∧ pool.baseline ≠ []

def offered (client : Client) (ambient : Ambient) : List Url :=
  client.balancer?.elim [] fun balancer => (Balancer.candidates balancer ambient).answer

theorem offered_of_pool? {client : Client} {pool : Pool} (tracked : client.pool? = some pool)
    (sound : pool.Sound) (ambient : Ambient) :
    client.offered ambient = pool.offered ambient.reading := by
  obtain ⟨balancer, behind, source⟩ := balancer_of_pool? tracked
  simp [offered, behind, Balancer.candidates_failover ambient source,
    Pool.candidates_answer sound]

namespace Rotates

variable {client : Client} {pool : Pool} {counter : UInt64} {ambient : Ambient}

theorem tracked (rotates : client.Rotates pool counter) : client.pool? = some pool := by
  obtain ⟨balancer, behind, source, _⟩ := rotates
  simp [pool?, behind, source, Source.pool?]

theorem offered_eq (rotates : client.Rotates pool counter) (ambient : Ambient) :
    client.offered ambient = pool.offered ambient.reading := by
  obtain ⟨_, _, _, _, sound, _⟩ := id rotates
  exact offered_of_pool? rotates.tracked sound ambient

theorem of_left {moment : Moment Call.perform} (rotates : moment.found.Rotates pool counter)
    (next : Balancer) {counter : UInt64} (left : moment.left.balancer? = some next)
    (strategy : next.strategy = some (.roundRobin counter)) :
    ∃ pool, moment.left.Rotates pool counter := by
  have tracked := rotates.tracked
  obtain ⟨_, _, _, _, sound, nodup, configured⟩ := rotates
  obtain ⟨shadow, mirrors, rfl⟩ := exists_shadow tracked
  have change := Pool.change_left shadow
  obtain ⟨other, same, source⟩ := balancer_of_pool? mirrors.left
  obtain rfl := Option.some.inj (left.symm.trans same)
  exact ⟨_, next, left, source, strategy, sound.change change, by rwa [change.baseline_eq],
    by rwa [change.baseline_eq]⟩

theorem select (moment : Moment Call.perform) (rotates : moment.found.Rotates pool counter)
    (forward : moment.ambient.clock.Forward) (selects : moment.call = .url default none) :
    (∃ url, moment.answer = .url url ∧
        (moment.found.offered moment.ambient)[counter.toNat %
          (moment.found.offered moment.ambient).length]? = some url) ∧
      (∃ pool, moment.left.Rotates pool (counter + 1)) ∧ moment.step.ambient.clock.Forward := by
  obtain ⟨client, call, ambient⟩ := moment
  obtain rfl : call = .url default none := selects
  have offers := rotates.offered_eq ambient
  obtain ⟨balancer, behind, source, strategy, sound, _, configured⟩ := id rotates
  obtain ⟨url, slot, selected, stepped, onward⟩ :=
    Balancer.select_roundRobin source sound configured strategy forward none
  obtain ⟨answer, state, spent⟩ := url_some ambient default none behind
  rw [selected] at answer
  refine ⟨⟨url, congrArg Answer.url answer, by rwa [offers]⟩, ?_, ?_⟩
  · exact rotates.of_left (Balancer.select none balancer ambient).state (congrArg balancer? state)
      stepped
  · change (Client.url default none client ambient).ambient.clock.Forward
    rwa [spent]

theorem report (moment : Moment Call.perform) (rotates : moment.found.Rotates pool counter)
    (forward : moment.ambient.clock.Forward) {called : Url}
    (reports : (∃ error, moment.call = .fail called error) ∨ moment.call = .confirm called) :
    (∃ pool, moment.left.Rotates pool counter) ∧ moment.step.ambient.clock.Forward := by
  obtain ⟨client, call, ambient⟩ := moment
  obtain ⟨balancer, behind, source, strategy, _⟩ := id rotates
  have tracks := Balancer.hasFailover_of_source source
  rcases reports with ⟨error, reports⟩ | reports
  · obtain rfl : call = .fail called error := reports
    obtain ⟨refused, accepted⟩ := fail_some ambient called error behind
    change _ ∧ (fail called error client ambient).ambient.clock.Forward
    cases ruled : client.config.failover with
    | none =>
      obtain ⟨_, state, spent⟩ := refused (.inr ruled)
      exact ⟨rotates.of_left balancer (congrArg balancer? state) strategy, by rwa [spent]⟩
    | some policy =>
      obtain ⟨_, state, spent⟩ := accepted policy tracks ruled
      refine ⟨rotates.of_left _ (congrArg balancer? state) ?_, ?_⟩
      · rwa [Balancer.fail_strategy]
      · rw [spent, Balancer.fail_failover ambient source]
        exact Pool.fail_forward forward called policy.timeout
  · obtain rfl : call = .confirm called := reports
    obtain ⟨_, state, spent⟩ := confirm_some ambient called behind
    change _ ∧ (confirm called client ambient).ambient.clock.Forward
    refine ⟨rotates.of_left _ (congrArg balancer? state) ?_, ?_⟩
    · rwa [Balancer.confirm_strategy]
    · rw [spent, Balancer.confirm_failover ambient source]
      exact (Pool.confirm_ambient called).symm ▸ forward

end Rotates

theorem Pass.turn {pass : Pass remote default} {pool : Pool} {counter : UInt64}
    (rotates : pass.found.1.Rotates pool counter) (forward : pass.ambient.clock.Forward) :
    (pass.found.1.offered pass.ambient)[counter.toNat %
        (pass.found.1.offered pass.ambient).length]? = some pass.answer.url ∧
      (∃ next, pass.left.1.Rotates next (counter + 1)) ∧ pass.step.ambient.clock.Forward := by
  obtain ⟨⟨url, answer, slot⟩, ⟨middle, selected⟩, onward⟩ :=
    Rotates.select (selection pass) rotates forward rfl
  obtain rfl : pass.answer.url = url := Answer.url.inj answer
  rw [(left_eq pass).1, (left_eq pass).2]
  exact ⟨slot, Rotates.report (report pass) selected (onward.advance _) (report_call pass)⟩

section Reports

variable {pass : Pass remote default} {pool middle : Pool} {counter : UInt64}

theorem Rotates.configured (rotates : pass.found.1.Rotates pool counter)
    (forward : pass.ambient.clock.Forward) : pass.answer.url ∈ pool.baseline := by
  obtain ⟨slot, _⟩ := Pass.turn rotates forward
  have member := List.mem_of_getElem? slot
  rw [rotates.offered_eq] at member
  obtain ⟨_, _, _, _, sound, _⟩ := rotates
  exact ((Pool.mem_offered sound.toPartitioned).mp member).1

theorem Rotates.sound {client : Client} (rotates : client.Rotates pool counter) :
    ∀ other, client.pool? = some other → other.Sound := by
  intro other tracked
  obtain rfl := Option.some.inj (rotates.tracked.symm.trans tracked)
  obtain ⟨_, _, _, _, sound, _⟩ := rotates
  exact sound

theorem Pass.exists_shadows_configured (rotates : pass.found.1.Rotates pool counter)
    (forward : pass.ambient.clock.Forward) :
    ∃ taking reporting : Moment Pool.Call.perform,
      Shadow (selection pass) taking ∧ Shadow (report pass) reporting ∧ taking.found = pool ∧
      reporting.found = taking.left ∧ reporting.found.Sound ∧
      pass.answer.url ∈ reporting.found.configured := by
  have begins : (selection pass).found.pool? = some pool := rotates.tracked
  obtain ⟨middle, tracked, _⟩ := pool?_left begins
  obtain ⟨taking, reporting, selected, reported, rfl, same, _, sound⟩ :=
    exists_shadows rotates.sound tracked
  have first := Option.some.inj (selected.found.symm.trans rotates.tracked)
  refine ⟨taking, reporting, selected, reported, first, same, sound, ?_⟩
  rw [same, Pool.mem_configured, (Pool.change_left taking).baseline_eq, first]
  exact rotates.configured forward

theorem Pass.pool?_of_spared (rotates : pass.found.1.Rotates pool counter)
    (forward : pass.ambient.clock.Forward) (spared : pass.answer.verdict ≠ some .fail)
    (active : pass.answer.url ∉ (selection pass).left.probation) :
    pass.left.1.pool? = some pool := by
  obtain ⟨taking, reporting, selected, reported, rfl, same, sound, configured⟩ :=
    exists_shadows_configured rotates forward
  have free : pass.answer.url ∉ taking.left.probation := fun held =>
    active (mem_probation_iff.mpr ⟨_, selected.left, held⟩)
  have taken : taking.left = taking.found := by
    rcases selection_cases selected with take | looks
    · exact Pool.left_of_take take free
    · exact Pool.left_of_candidates looks
  have confirmed : reporting.left = reporting.found := by
    rcases report_cases reported with ⟨failed, _⟩ | ⟨_, confirm⟩
    · exact absurd failed spared
    · exact Pool.left_of_confirm configured confirm (same ▸ free)
  rw [(left_eq pass).1, reported.left, confirmed, same, taken]

theorem Pass.not_offered_of_fail (rotates : pass.found.1.Rotates pool counter)
    (forward : pass.ambient.clock.Forward) (failed : pass.answer.verdict = some .fail)
    {policy : FailoverConfig} (ruled : pass.found.1.policy? = some policy)
    (tracked : (selection pass).left.pool? = some middle)
    (another : ∃ other ∈ middle.active, other ≠ pass.answer.url) {later : Ambient}
    (early : later.reading ≤ (report pass).ambient.reading + policy.timeout)
    (representable : (report pass).ambient.reading + policy.timeout < Instant.horizon) :
    pass.answer.url ∉ pass.left.1.offered later := by
  obtain ⟨_, ⟨next, left⟩, _⟩ := Pass.turn rotates forward
  obtain ⟨taking, reporting, selected, reported, rfl, same, sound, configured⟩ :=
    exists_shadows_configured rotates forward
  obtain rfl : middle = reporting.found := by
    rw [same]
    exact Option.some.inj (tracked.symm.trans selected.left)
  obtain rfl : next = reporting.left := by
    have behind := left.tracked
    rw [(left_eq pass).1] at behind
    exact Option.some.inj (behind.symm.trans reported.left)
  rcases report_cases reported with ⟨_, _, same, call, ambient⟩ | ⟨spared, _⟩
  · obtain rfl := Option.some.inj (ruled.symm.trans same)
    have resolved := Pool.resolve_self configured
    have kept : ¬ Pool.Resets reporting := by
      rintro ⟨url, ⟨called, timeout, fails, found⟩, last⟩
      obtain ⟨rfl, _⟩ := Pool.Call.fail.inj (call.symm.trans fails)
      obtain rfl := Option.some.inj (resolved.symm.trans found)
      obtain ⟨other, active, different⟩ := another
      exact different (last other active)
    have excluded := Pool.excluded_of_fail sound call resolved kept
    rw [ambient, Instant.deadline_eq_some_iff.mpr ⟨rfl, representable⟩] at excluded
    rw [left.offered_eq]
    exact Pool.not_offered_of_excluded (sound.change (Pool.change_left reporting)).toPartitioned
      excluded early
  · exact absurd failed spared

end Reports

theorem rotates_of_mem {start : Client × κ} {pool : Pool} {counter : UInt64} {ambient : Ambient}
    (rotates : start.1.Rotates pool counter) (forward : ambient.clock.Forward) :
    ∀ pass ∈ passes remote default start ambient,
      (∃ pool counter, pass.found.1.Rotates pool counter) ∧ pass.ambient.clock.Forward := by
  refine (execute_passes remote default start ambient).2.1.induction _ _ ?_ ?_
  · rintro first _ rfl ⟨⟨pool, counter, rotates⟩, forward⟩
    obtain ⟨_, ⟨next, later⟩, onward⟩ := Pass.turn rotates forward
    exact ⟨⟨next, counter + 1, later⟩, onward⟩
  · intro nonempty
    have first : (passes remote default start ambient).head? = _ := head?_passes start ambient
    rw [List.head?_eq_some_head nonempty, Option.some.injEq] at first
    rw [first]
    exact ⟨⟨pool, counter, rotates⟩, forward⟩

section Runs

variable {fault : String → Option String} {config : Config} {client : Client}
variable {moments : List (Moment Call.perform)}

theorem rotates_of_run (accepted : Validation.problems fault config = [])
    (robin : config.balancing.algorithm.getD .roundRobin = .roundRobin)
    (run : Run Call.perform { config := config.balancing } moments client)
    (tracked : client.tracks = true) : ∃ pool counter, client.Rotates pool counter := by
  rw [tracks_eq_isSome, Option.isSome_iff_exists] at tracked
  obtain ⟨pool, tracked⟩ := tracked
  obtain ⟨balancer, behind, source⟩ := balancer_of_pool? tracked
  cases on : balancerFor config.balancing with
  | none => simp [balancer?_of_run_none run on] at behind
  | some first =>
    obtain ⟨_, same, sound, baseline⟩ := source_of_run run on
    obtain rfl := Option.some.inj (behind.symm.trans same)
    obtain ⟨_, inner, same, calls⟩ := balancer?_of_run_some run on
    obtain rfl := Option.some.inj (behind.symm.trans same)
    obtain ⟨_, urls, rfl⟩ := balancerFor_eq_some on
    have tracks := Balancer.hasFailover_of_source source
    rw [Balancer.hasFailover_of_run calls] at tracks
    obtain ⟨counter, strategy⟩ := Balancer.isRoundRobin_of_run calls
      ⟨0, by rw [Balancer.strategy_create_of_tracked tracks, robin]; rfl⟩
    rw [source, Balancer.baseline_create, robin] at baseline
    have baseline : pool.baseline = config.balancing.urls := by
      simpa [Source.baseline, Algorithm.isWeighted] using baseline
    rw [source] at sound
    exact ⟨pool, counter, balancer, behind, source, strategy, sound,
      baseline ▸ Validation.nodup_of_accepted accepted, baseline ▸ urls⟩

/-- Calls that follow each other take slots of neighbouring counters, each from
its own candidates. Candidates that have not changed send the next call to
another URL, unless the counter wraps around; a report that is no failure
changes the pool for a canary only. Behind a failure the next call goes to another
URL as long as the exclusion lasts, if that was not the last active URL. -/
theorem next_attempt (accepted : Validation.problems fault config = [])
    (robin : config.balancing.algorithm.getD .roundRobin = .roundRobin)
    (run : Run Call.perform { config := config.balancing } moments client)
    (tracked : client.tracks = true) {state : κ} {ambient : Ambient}
    (forward : ambient.clock.Forward) {earlier later : List (Pass remote default)}
    {first second : Pass remote default}
    (made : passes remote default (client, state) ambient = earlier ++ first :: second :: later) :
    let before := first.found.1.offered first.ambient
    let after := second.found.1.offered second.ambient
    (∃ counter : UInt64,
      before[counter.toNat % before.length]? = some first.answer.url ∧
        after[(counter + 1).toNat % after.length]? = some second.answer.url ∧
        (after = before → 2 ≤ before.length → counter + 1 ≠ 0 →
          second.answer.url ≠ first.answer.url)) ∧
      (first.answer.verdict ≠ some .fail →
        first.answer.url ∉ (Pass.selection first).left.probation →
        second.found.1.pool? = first.found.1.pool?) ∧
      ∀ policy pool, config.balancing.failover = some policy →
        first.answer.verdict = some .fail → (Pass.selection first).left.pool? = some pool →
        (∃ other ∈ pool.active, other ≠ first.answer.url) →
        second.ambient.reading ≤ (Pass.report first).ambient.reading + policy.timeout →
        (Pass.report first).ambient.reading + policy.timeout < Instant.horizon →
        second.answer.url ≠ first.answer.url := by
  intro before after
  obtain ⟨through, chain, _⟩ := execute_passes remote default (client, state) ambient
  obtain rfl : second = Pass.next first := by
    rw [made] at chain
    exact (List.isChain_append_cons_cons.mp chain).2.1
  have member : first ∈ passes remote default (client, state) ambient := by simp [made]
  obtain ⟨_, _, rotates⟩ := rotates_of_run accepted robin run tracked
  obtain ⟨⟨pool, counter, rotates⟩, forward⟩ := rotates_of_mem rotates forward first member
  obtain ⟨slot, ⟨next, left⟩, onward⟩ := Pass.turn rotates forward
  have found : (Pass.next first).found.1.Rotates next (counter + 1) := left
  obtain ⟨picked, _⟩ := Pass.turn found onward
  refine ⟨⟨counter, slot, picked, fun same several kept => ?_⟩, fun spared active => ?_, ?_⟩
  · have nodup : before.Nodup := by
      simp only [before, rotates.offered_eq]
      obtain ⟨_, _, _, _, sound, nodup, _⟩ := rotates
      exact Pool.nodup_offered sound.toPartitioned nodup _
    exact picked_ne nodup several kept slot (same ▸ picked)
  · exact (Pass.pool?_of_spared rotates forward spared active).trans rotates.tracked.symm
  · rintro policy middle ruled failed selected another early representable same
    obtain ⟨calls, reached⟩ := Pass.calls_of_mem through member
    have config := config_of_run (Run.append_iff.mpr ⟨client, run, reached⟩)
    have offered := List.mem_of_getElem? picked
    rw [same] at offered
    refine Pass.not_offered_of_fail rotates forward failed ?_ selected another early representable
      offered
    rw [policy?, config, ruled]

theorem next_attempt_failed :
    let policy : FailoverConfig := { active := true, timeoutMillis := 1 }
    let config : Config := { balancing :=
      { active := true, urls := ["http://a", "http://b"], failover := some policy } }
    let client : Client := { config := config.balancing }
    let remote : Remote Nat Unit := fun _ made =>
      (⟨if made = 0 then .error (.status 503) else .ok (), 5⟩, made + 1)
    let first : Pass remote "" := ⟨(client, 0), (), .standing 0⟩
    let second : Pass remote "" := Pass.next first
    Validation.problems (fun _ => none) config = [] ∧ client.tracks = true ∧
      passes remote "" (client, 0) (.standing 0) = [] ++ first :: second :: [] ∧
      first.answer.verdict = some .fail ∧ second.answer.url ≠ first.answer.url := by
  intro policy config client remote first second
  have accepted : Validation.problems (fun _ => none) config = [] := by decide
  have run : Run Call.perform { config := config.balancing } [] client := rfl
  have tracked : client.tracks = true := by decide +kernel
  have forward : (Ambient.standing 0).clock.Forward := List.pairwise_singleton ..
  have goes : first.answer.next? first.found.1.limit {} = some ⟨1, 0⟩ := by decide +kernel
  have stops : second.answer.next? first.found.1.limit ⟨1, 0⟩ = none := by decide +kernel
  have made : passes remote "" (client, 0) (.standing 0) = [] ++ first :: second :: [] :=
    passes_eq_pair rfl goes stops
  have failed : first.answer.verdict = some .fail := by decide +kernel
  refine ⟨accepted, tracked, made, failed, ?_⟩
  obtain ⟨_, _, moves⟩ := next_attempt accepted rfl run tracked forward made
  have taken : (Pass.selection first).left.pool? =
      some (.ofBaseline ["http://a", "http://b"]) := by decide +kernel
  exact moves policy _ rfl failed taken
    ⟨"http://b", by decide, by decide +kernel⟩ (by decide +kernel) (by decide +kernel)

theorem next_attempt_canary :
    let config : Config := { balancing :=
      { active := true, urls := ["http://a", "http://b"],
        failover := some { active := true, timeoutMillis := 1000, retryStatus := [429] } } }
    let failure : Moment Call.perform :=
      ⟨{ config := config.balancing }, .fail "http://a" (.status 503), .standing 0⟩
    let selection : Moment Call.perform := ⟨failure.left, .url "" none, .standing 1001000000⟩
    let remote : Remote Nat Unit := fun _ made =>
      (⟨if made = 0 then .error (.status 429) else .ok (), 0⟩, made + 1)
    let first : Pass remote "" := ⟨(selection.left, 0), (), .standing 1001000000⟩
    let second : Pass remote "" := Pass.next first
    Validation.problems (fun _ => none) config = [] ∧
      Run Call.perform { config := config.balancing } [failure, selection] selection.left ∧
      passes remote "" (selection.left, 0) (.standing 1001000000) = [first, second] ∧
      first.answer.verdict = some .retry ∧
      first.found.1.offered first.ambient = ["http://b", "http://a"] ∧
      second.found.1.offered second.ambient = ["http://a", "http://b"] ∧
      first.answer.url = "http://a" ∧ second.answer.url = "http://a" := by
  intro config failure selection remote first second
  have goes : first.answer.next? first.found.1.limit {} = some ⟨0, 1⟩ := by decide +kernel
  have stops : second.answer.next? first.found.1.limit ⟨0, 1⟩ = none := by decide +kernel
  have made : passes remote "" (selection.left, 0) (.standing 1001000000) = [first, second] :=
    passes_eq_pair rfl goes stops
  have accepted : Validation.problems (fun _ => none) config = [] := by decide
  have run : Run Call.perform { config := config.balancing } [failure, selection] selection.left :=
    ⟨rfl, rfl, rfl⟩
  refine ⟨accepted, run, made, ?_⟩
  decide +kernel

end Runs

end Client

end Balance
