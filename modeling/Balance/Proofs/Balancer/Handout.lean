import Balance.Proofs.Balancer.Availability
import Balance.Proofs.Balancer.Transition
import Balance.Proofs.Pool.Reports

/-!
What a selection moves. Of all the takes that it makes only the one of the URL
that it answers can change the pool, and all that this one can do is turn an
exclusion that is over into a probation. So no URL is on probation without a
caller that was given it, in whichever order the clock shows its readings.
-/

namespace Balance

namespace Pool

variable {pool : Pool} {url : Url} {ambient : Ambient}

/-- An exclusion of the URL that is over leaves the excluded ones, and the URL
goes to the end of those on probation. Nothing else changes. -/
def EndsExclusion (pool : Pool) (url : Url) (now : Instant) (next : Pool) : Prop :=
  ∃ before exclusion after, pool.excluded = before ++ exclusion :: after ∧
    exclusion.url = url ∧ exclusion.hasExpired now = true ∧
    next = { pool with excluded := before ++ after, probation := pool.probation ++ [url] }

theorem endsExclusion_promote (sound : pool.Sound) {exclusion : Exclusion} {now : Instant}
    (found : pool.exclusion? url = some exclusion) (expired : exclusion.hasExpired now = true) :
    pool.EndsExclusion url now (pool.promote url).flagged := by
  obtain ⟨same, before, after, excluded, others⟩ := List.find?_eq_some_iff_append.mp found
  have left : pool.withoutExclusion url = before ++ after := by
    rw [withoutExclusion, excluded, List.eraseP_append_right _ (by simpa using others),
      List.eraseP_cons_of_pos (by simpa using same)]
  have degraded : pool.degraded = true := by simp [sound.degraded_eq, isClean, excluded]
  refine ⟨before, exclusion, after, excluded, by simpa using same, expired, ?_⟩
  simp [promote, flagged, left, isClean, degraded]

theorem take_moves (sound : pool.Sound) (configured : url ∈ pool.baseline)
    (taken : (take url pool ambient).answer ≠ .withheld) :
    (url ∈ pool.active ∧ (take url pool ambient).state = pool) ∨
      ((take url pool ambient).ambient.clock = ambient.clock.read.2 ∧
        pool.EndsExclusion url ambient.reading (take url pool ambient).state) := by
  rcases take_cases pool ambient url with
    ⟨kept, same⟩ | ⟨exclusion, found, expired, _, clock, promoted⟩
  · have active : (take url pool ambient).answer = .active := by
      cases answer : (take url pool ambient).answer with
      | active => rfl
      | canary => exact absurd answer kept
      | withheld => exact absurd answer taken
    exact .inl ⟨(take_eq_active_iff sound configured).mp active, same⟩
  · rw [promoted]
    exact .inr ⟨clock, endsExclusion_promote sound found expired⟩

end Pool

namespace Balancer

variable {balancer : Balancer} {pool : Pool}

/-- What a selection with the given answer makes of a pool, between a clock and
what its readings leave of it. -/
def Moves (pool : Pool) (clock : Clock) (answer : Except BalancerError Url) (spent : Clock)
    (next : Pool) : Prop :=
  match answer with
  | .error error => error = .noUrlAvailable ∧ next = pool
  | .ok url =>
    (url ∈ pool.active ∧ next = pool) ∨
      ∃ last, clock.LeadsTo last ∧ spent = last.read.2 ∧ pool.EndsExclusion url last.read.1 next

theorem moves_select (sound : pool.Sound) (tracked : balancer.source = .failover pool)
    (client : Option String) (ambient : Ambient) :
    ∃ next, (select client balancer ambient).state.source = .failover next ∧
      Moves pool ambient.clock (select client balancer ambient).answer
        (select client balancer ambient).ambient.clock next := by
  have chooses := chooses_select client balancer ambient
  have kept : balancer.source.Sound := by rwa [tracked]
  obtain ⟨fails, succeeds⟩ := select_answer ambient client kept
  rw [tracked] at fails succeeds
  by_cases empty : pool.baseline = []
  · rw [fails empty] at chooses ⊢
    exact ⟨pool, (chooses.source_of_none rfl).trans tracked, rfl, rfl⟩
  · obtain ⟨url, configured, answer⟩ := succeeds empty
    rw [answer] at chooses ⊢
    obtain ⟨reading, leads, taken, source, spent⟩ := chooses.source_of_some url rfl
    rw [tracked, Source.take_failover] at taken source spent
    refine ⟨_, source, ?_⟩
    rcases Pool.take_moves sound configured taken with active | ⟨clock, ends⟩
    · exact .inl active
    · exact .inr ⟨reading.clock, leads, spent.trans clock, ends⟩

theorem returns_of_probation {moment : Moment Call.perform} {next : Pool} {url : Url}
    (sound : pool.Sound) (tracked : moment.found.source = .failover pool)
    (left : moment.left.source = .failover next) (held : url ∈ next.probation)
    (free : url ∉ pool.probation) : Returns moment url := by
  obtain ⟨shadow, behind⟩ := exists_shadow moment tracked
  obtain rfl : pool = shadow.found := Source.failover.inj (tracked.symm.trans behind.found)
  obtain rfl : next = shadow.left := Source.failover.inj (left.symm.trans behind.left)
  rcases Pool.probation_of_left sound (Pool.statuses_eq_probation_iff.mpr held) with before | handed
  · exact absurd (Pool.statuses_eq_probation_iff.mp before) free
  · exact behind.returns_iff.mpr ⟨handed.1, by simp [handed.2]⟩

/-- In every state that a run reaches, a selection takes at most the URL that it
answers, whatever the clock shows and the random numbers are: with an answer the
pool is as before and the URL is active, or one exclusion of the URL, over at
the last reading, has become a probation; without one the pool is as before. And
no call puts a URL on probation but a selection that answers it. -/
theorem takes_only_answer {algorithm : Option Algorithm} {urls : List Url}
    {weights : Option (List UInt32)} {failover : Bool} {moments : List (Moment Call.perform)}
    (run : Run Call.perform (create algorithm urls weights failover) moments balancer)
    (tracked : balancer.source = .failover pool) :
    (∀ client ambient, ∃ next,
        (select client balancer ambient).state.source = .failover next ∧
          Moves pool ambient.clock (select client balancer ambient).answer
            (select client balancer ambient).ambient.clock next) ∧
      ∀ moment : Moment Call.perform, moment.found = balancer →
        ∀ next, moment.left.source = .failover next →
          ∀ url ∈ next.probation, url ∉ pool.probation → Returns moment url := by
  have sound := sound_of_run run tracked
  refine ⟨moves_select sound tracked, ?_⟩
  rintro moment rfl next left url held free
  exact returns_of_probation sound tracked left held free

theorem takes_only_answer_withheld :
    let balancer := create (some .roundRobin) ["a", "b"] none true
    let pool : Pool := ⟨["a", "b"], ["b"], [⟨"a", some 5⟩], [], true⟩
    let ambient : Ambient := ⟨⟨20, [6, 3, 7]⟩, ⟨fun _ => 0, 0⟩⟩
    let failure : Moment Call.perform := ⟨balancer, .fail "a" 5, .standing 0⟩
    let first : Moment Call.perform := ⟨failure.left, .select none, .standing 1⟩
    Run Call.perform balancer [failure, first] first.left ∧
      first.left.source = .failover pool ∧
      (select none first.left ambient).answer = .ok "b" ∧
      Event.withheld "a" ∈ (select none first.left ambient).events ∧
      (select none first.left ambient).state.source = .failover pool := by
  intro balancer pool ambient failure first
  have run : Run Call.perform balancer [failure, first] first.left := by
    refine ⟨?_, ?_, rfl⟩ <;> with_reducible rfl
  have tracked : first.left.source = .failover pool := by decide +kernel
  have answer : (select none first.left ambient).answer = .ok "b" := by decide +kernel
  obtain ⟨selects, _⟩ := takes_only_answer run tracked
  have selected := selects none ambient
  rw [answer] at selected
  obtain ⟨next, left, moves⟩ := selected
  refine ⟨run, tracked, answer, by decide +kernel, left.trans (congrArg Source.failover ?_)⟩
  rcases moves with ⟨_, same⟩ | ⟨_, _, _, before, exclusion, after, excluded, url, _⟩
  · exact same
  · -- The only exclusion is not one of the answer.
    have member : exclusion ∈ [⟨"a", some 5⟩] := by
      change exclusion ∈ pool.excluded
      simp [excluded]
    obtain rfl := List.mem_singleton.mp member
    exact absurd url (by decide)

end Balancer

end Balance
