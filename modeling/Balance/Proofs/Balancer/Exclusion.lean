import Balance.Proofs.Balancer.Transition

/-!
An exclusion lasts. From the failure of a URL on, and until the next failure of
it or the next reset, no selection returns the URL before the exclusion is due.
The first selection that does return it puts it on probation, whatever
successes were reported before, and only a success that is reported behind
this selection lets the URL be returned again.
-/

namespace Balance.Balancer

variable {algorithm : Option Algorithm} {urls : List Url} {weights : Option (List UInt32)}
variable {failover : Bool} {url called : Url} {timeout : Duration} {status : Status}
variable {start middle finish : Balancer} {failure moment : Moment Call.perform}
variable {moments earlier later before after rest : List (Moment Call.perform)}

/-- The call is no failure of the URL, and no reset. -/
def Quiet (moment : Moment Call.perform) (url : Url) : Prop :=
  ¬ Fails moment url ∧ ¬ Resets moment

theorem quiet_of_call (call : ∀ called timeout, moment.call ≠ .fail called timeout) :
    Quiet moment url := by
  constructor
  · rintro ⟨called, timeout, failed, _⟩
    exact call called timeout failed
  · rintro ⟨_, _, _, ⟨called, timeout, failed, _⟩, _⟩
    exact call called timeout failed

theorem puts_of_run (run : Run Call.perform start moments finish) (puts : Puts start url status) :
    ∃ status, Puts finish url status :=
  run.keeps (P := fun balancer => ∃ status, Puts balancer url status)
    (fun _ _ ⟨_, puts⟩ => puts_left puts) ⟨status, puts⟩

theorem excluded_of_run {expiry : Option Instant} (run : Run Call.perform start moments finish)
    (puts : Puts start url (.excluded expiry)) (quiet : ∀ moment ∈ moments, Quiet moment url)
    (returns : ∀ moment ∈ moments, Puts moment.found url (.excluded expiry) →
      ¬ Returns moment url) : Puts finish url (.excluded expiry) := by
  refine run.keeps (P := (Puts · url (.excluded expiry))) (fun moment member held => ?_) puts
  obtain ⟨fails, resets⟩ := quiet moment member
  exact excluded_left held fails resets (returns moment member held)

theorem probation_of_run (run : Run Call.perform start moments finish)
    (puts : Puts start url .probation) (quiet : ∀ moment ∈ moments, Quiet moment url)
    (confirms : ∀ moment ∈ moments, ¬ Confirms moment url) : Puts finish url .probation := by
  refine run.keeps (P := (Puts · url .probation)) (fun moment member held => ?_) puts
  obtain ⟨fails, resets⟩ := quiet moment member
  exact probation_left held fails (confirms moment member) resets

/-- Behind a failure of a URL that resets nothing, up to the next failure of it
or the next reset: no selection returns the URL while no clock is past the
expiry; until it is returned first, successes of it are refused and change
nothing; the selection that returns it first moves it to probation; and each
later one has a success of it between. -/
theorem exclusion_lasts
    (tracked : (create algorithm urls weights failover).hasFailover = true)
    (run : Run Call.perform (create algorithm urls weights failover)
      (earlier ++ failure :: later) finish)
    (failed : failure.call = .fail called timeout)
    (resolved : failure.found.resolve called = some url) (kept : ¬ Resets failure)
    (representable : failure.ambient.reading + timeout < Instant.horizon)
    (ordered : (shown later).Pairwise (· ≤ ·)) (quiet : ∀ moment ∈ later, Quiet moment url) :
    (∀ moment ∈ later, (∀ reading ∈ moment.ambient.clock.shows,
        reading ≤ failure.ambient.reading + timeout) → ¬ Returns moment url) ∧
      ∀ before first after, later = before ++ first :: after →
        (∀ moment ∈ before, ¬ Returns moment url) →
        (∀ moment ∈ before, Confirms moment url →
          moment.answer = .confirmed (.ok false) ∧ moment.left = moment.found) ∧
        (Returns first url → Promotes first url ∧
          ∀ between again rest, after = between ++ again :: rest → Returns again url →
            ∃ moment ∈ between, Confirms moment url) := by
  obtain ⟨first, run⟩ := Run.split_iff.mp run
  obtain ⟨status, puts⟩ := puts_of_run first (.of_create tracked url)
  have excluded : Puts failure.left url (.excluded (some (failure.ambient.reading + timeout))) := by
    have moved := excluded_of_fail puts failed resolved kept
    rwa [Instant.deadline_eq_some_iff.mpr ⟨rfl, representable⟩] at moved
  constructor
  · intro moment member early
    obtain ⟨before, after, rfl⟩ := List.append_of_mem member
    obtain ⟨run, _⟩ := Run.split_iff.mp run
    refine not_returns_of_le (excluded_of_run run excluded ?_ ?_) early
    · exact fun other member => quiet other (by simp [member])
    · intro other member still
      refine not_returns_of_le still fun reading shows => ?_
      have now := early moment.ambient.clock.now (by simp [Clock.shows])
      exact Nat.le_trans (le_now_of_shown ordered member reading shows) now
  · rintro before first after rfl unreturned
    obtain ⟨waiting, run⟩ := Run.split_iff.mp run
    constructor
    · intro moment member
      obtain ⟨sooner, _, rfl⟩ := List.append_of_mem member
      obtain ⟨run, _⟩ := Run.split_iff.mp waiting
      refine confirm_excluded (excluded_of_run run excluded ?_ ?_)
      · exact fun other member => quiet other (by simp [member])
      · exact fun other member _ => unreturned other (by simp [member])
    · intro returns
      have still := excluded_of_run waiting excluded
        (fun other member => quiet other (by simp [member])) fun other member _ =>
          unreturned other member
      obtain ⟨promotes, probation⟩ := promotes_of_returns still returns
      refine ⟨promotes, ?_⟩
      rintro between again rest rfl once
      by_contra unconfirmed
      obtain ⟨run, _⟩ := Run.split_iff.mp run
      refine not_returns_of_probation (probation_of_run run probation ?_ ?_) once
      · exact fun other member => quiet other (by simp [member])
      · exact fun other member confirms => unconfirmed ⟨other, member, confirms⟩

theorem exclusion_lasts_round_robin :
    let balancer := create (some .roundRobin) ["a", "b"] none true
    let failure : Moment Call.perform := ⟨balancer, .fail "a/x" 5, .standing 10⟩
    let early : Moment Call.perform := ⟨failure.left, .confirm "a", .standing 15⟩
    let due : Moment Call.perform := ⟨early.left, .select none, .standing 15⟩
    let canary : Moment Call.perform := ⟨due.left, .select none, .standing 16⟩
    Run Call.perform balancer ([] ++ failure :: [early, due, canary]) canary.left ∧
      early.answer = .confirmed (.ok false) ∧ early.left = early.found ∧
      ¬ Returns due "a" ∧ Returns canary "a" ∧ Promotes canary "a" := by
  intro balancer failure early due canary
  have run : Run Call.perform balancer ([] ++ failure :: [early, due, canary]) canary.left := by
    refine ⟨?_, ?_, ?_, ?_, rfl⟩ <;> with_reducible rfl
  have kept : ¬ Resets failure := by
    rintro ⟨pool, url, source, _, last⟩
    obtain rfl : Pool.ofBaseline ["a", "b"] = pool := Source.failover.inj source
    exact absurd ((last "a" (by decide)).trans (last "b" (by decide)).symm) (by decide)
  have returns : Returns canary "a" := by decide +kernel
  have quiet : ∀ moment ∈ [early, due, canary], Quiet moment "a" := by
    intro moment member
    refine quiet_of_call fun called timeout call => ?_
    simp only [List.mem_cons, List.not_mem_nil, or_false] at member
    rcases member with rfl | rfl | rfl <;> exact Call.noConfusion call
  obtain ⟨untaken, handed⟩ := exclusion_lasts rfl run rfl rfl kept (by decide) (by decide) quiet
  have unreturned : ∀ moment ∈ [early, due], ¬ Returns moment "a" := by
    intro moment member
    refine untaken moment (List.mem_append_left [canary] member) ?_
    simp only [List.mem_cons, List.not_mem_nil, or_false] at member
    rcases member with rfl | rfl <;> decide
  obtain ⟨refused, promotes⟩ := handed [early, due] canary [] rfl unreturned
  obtain ⟨answer, same⟩ := refused early (by simp) ⟨"a", rfl, rfl⟩
  exact ⟨run, answer, same, unreturned due (by simp), returns, (promotes returns).1⟩

end Balance.Balancer
