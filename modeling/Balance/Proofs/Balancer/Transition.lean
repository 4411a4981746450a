import Balance.Proofs.Balancer.Calls
import Balance.Proofs.Pool.Canary

/-!
What one call of a run on a balancer does to one URL. The calls are those of
the pool seen from outside: a report is about the URL that its argument
resolves to, and a selection takes the URL that it answers. Each lemma here
looks at the shadow of a call and reads its pool.
-/

namespace Balance.Balancer

def resolve (balancer : Balancer) (called : Url) : Option Url :=
  balancer.source.pool?.bind (·.resolve called)

variable {moment : Moment Call.perform} {shadow : Moment Pool.Call.perform} {url : Url}

def Returns (moment : Moment Call.perform) (url : Url) : Prop :=
  moment.answer = .selected (.ok url)

instance (moment : Moment Call.perform) (url : Url) : Decidable (Returns moment url) :=
  inferInstanceAs (Decidable (moment.answer = .selected (.ok url)))

theorem Returns.unique {other : Url} (returns : Returns moment url)
    (again : Returns moment other) : url = other := by
  simpa using returns.symm.trans again

def Fails (moment : Moment Call.perform) (url : Url) : Prop :=
  ∃ called timeout, moment.call = .fail called timeout ∧ moment.found.resolve called = some url

def Confirms (moment : Moment Call.perform) (url : Url) : Prop :=
  ∃ called, moment.call = .confirm called ∧ moment.found.resolve called = some url

def Resets (moment : Moment Call.perform) : Prop :=
  ∃ pool url, moment.found.source = .failover pool ∧ Fails moment url ∧
    ∀ active ∈ pool.active, active = url

/-- The call moves the URL from the excluded ones to those on probation. -/
def Promotes (moment : Moment Call.perform) (url : Url) : Prop :=
  ∃ pool next, moment.found.source = .failover pool ∧ moment.left.source = .failover next ∧
    url ∈ pool.excludedUrls ∧ url ∉ pool.probation ∧
    url ∉ next.excludedUrls ∧ url ∈ next.probation

namespace Shadow

theorem resolve_eq (behind : Shadow moment shadow) (called : Url) :
    moment.found.resolve called = shadow.found.resolve called := by
  simp [resolve, behind.found, Source.pool?]

theorem fail_iff (behind : Shadow moment shadow) {called : Url} {timeout : Duration} :
    shadow.call = .fail called timeout ↔ moment.call = .fail called timeout := by
  have mirrored := behind.call
  constructor
  · intro call
    split at mirrored <;> simp_all
  · intro call
    rw [call] at mirrored
    exact mirrored.1

theorem confirm_iff (behind : Shadow moment shadow) {called : Url} :
    shadow.call = .confirm called ↔ moment.call = .confirm called := by
  have mirrored := behind.call
  constructor
  · intro call
    split at mirrored <;> simp_all
  · intro call
    rw [call] at mirrored
    exact mirrored.1

theorem fails_iff (behind : Shadow moment shadow) :
    Pool.Fails shadow url ↔ Fails moment url := by
  simp only [Pool.Fails, Fails, behind.fail_iff, behind.resolve_eq]

theorem confirms_iff (behind : Shadow moment shadow) :
    Pool.Confirms shadow url ↔ Confirms moment url := by
  simp only [Pool.Confirms, Confirms, behind.confirm_iff, behind.resolve_eq]

theorem resets_iff (behind : Shadow moment shadow) : Pool.Resets shadow ↔ Resets moment := by
  simp [Pool.Resets, Resets, behind.fails_iff, behind.found]

theorem returns_iff (behind : Shadow moment shadow) :
    Returns moment url ↔ shadow.call = .take url ∧ shadow.answer ≠ .taken .withheld := by
  have mirrored := behind.call
  constructor
  · intro returns
    unfold Returns at returns
    split at mirrored <;> simp_all
  · rintro ⟨call, taken⟩
    split at mirrored
    · rcases mirrored with ⟨other, answer, take, _⟩ | ⟨_, candidates⟩
      · obtain rfl : other = url := Pool.Call.take.inj (take.symm.trans call)
        exact answer
      · exact absurd (candidates.symm.trans call) (by simp)
    all_goals simp_all

end Shadow

section Creation

variable {algorithm : Option Algorithm} {urls : List Url} {weights : Option (List UInt32)}
variable {failover : Bool}

theorem build_of_isFailover (tracked : (Source.build urls weights failover).isFailover = true) :
    Source.build urls weights failover =
      .failover (Pool.ofBaseline (Weight.expand urls weights)) := by
  unfold Source.build at tracked ⊢
  by_cases both : (failover && 2 ≤ Weight.distinctCount urls) = true
  · simp [both]
  · simp [both, Source.isFailover, Source.pool?] at tracked

theorem source_create (tracked : (create algorithm urls weights failover).hasFailover = true) :
    ∃ baseline, (create algorithm urls weights failover).source =
      .failover (Pool.ofBaseline baseline) := by
  unfold create at tracked ⊢
  split at tracked
  · next few =>
    simp only [hasFailover] at tracked
    have built := build_of_isFailover tracked
    simp [few, built]
  · next many =>
    simp only [hasFailover] at tracked
    have built := build_of_isFailover tracked
    simp [many, built]

end Creation

/-- Failures are tracked, in a sound pool that gives the URL the status. -/
def Puts (balancer : Balancer) (url : Url) (status : Status) : Prop :=
  ∃ pool, balancer.source = .failover pool ∧ pool.Sound ∧ pool.statuses url = status

variable {status : Status}

namespace Puts

theorem exists_shadow (puts : Puts moment.found url status) :
    ∃ shadow, Shadow moment shadow ∧ shadow.found.Sound ∧ shadow.found.statuses url = status := by
  obtain ⟨pool, source, sound, held⟩ := puts
  obtain ⟨shadow, behind⟩ := Balancer.exists_shadow moment source
  obtain rfl : pool = shadow.found := Source.failover.inj (source.symm.trans behind.found)
  exact ⟨shadow, behind, sound, held⟩

theorem of_shadow (behind : Shadow moment shadow) (sound : shadow.found.Sound)
    (held : shadow.left.statuses url = status) : Puts moment.left url status :=
  ⟨shadow.left, behind.left, sound.change (Pool.change_left shadow), held⟩

theorem of_create {algorithm : Option Algorithm} {urls : List Url}
    {weights : Option (List UInt32)} {failover : Bool}
    (tracked : (create algorithm urls weights failover).hasFailover = true) (url : Url) :
    Puts (create algorithm urls weights failover) url .active := by
  obtain ⟨baseline, source⟩ := source_create tracked
  exact ⟨_, source, .ofBaseline baseline,
    congrFun (Pool.statuses_of_isClean (Pool.isClean_ofBaseline baseline)) url⟩

end Puts

theorem puts_left (puts : Puts moment.found url status) :
    ∃ status, Puts moment.left url status := by
  obtain ⟨shadow, behind, sound, _⟩ := puts.exists_shadow
  exact ⟨_, .of_shadow behind sound rfl⟩

theorem excluded_of_fail (puts : Puts moment.found url status) {called : Url} {timeout : Duration}
    (failed : moment.call = .fail called timeout)
    (resolved : moment.found.resolve called = some url) (kept : ¬ Resets moment) :
    Puts moment.left url (.excluded (Instant.deadline moment.ambient.reading timeout)) := by
  obtain ⟨shadow, behind, sound, _⟩ := puts.exists_shadow
  have ambient : shadow.ambient = moment.ambient := by
    have mirrored := behind.call
    rw [failed] at mirrored
    exact mirrored.2.1
  refine .of_shadow behind sound ?_
  rw [← ambient]
  exact Pool.excluded_of_fail sound (behind.fail_iff.mpr failed)
    ((behind.resolve_eq called).symm.trans resolved) (mt behind.resets_iff.mp kept)

section Excluded

variable {expiry : Option Instant}

theorem excluded_left (puts : Puts moment.found url (.excluded expiry))
    (fails : ¬ Fails moment url) (resets : ¬ Resets moment) (returns : ¬ Returns moment url) :
    Puts moment.left url (.excluded expiry) := by
  obtain ⟨shadow, behind, sound, excluded⟩ := puts.exists_shadow
  refine .of_shadow behind sound ?_
  refine Pool.excluded_left sound (mt behind.fails_iff.mp fails) (mt behind.resets_iff.mp resets)
    (fun canary => returns ?_) excluded
  exact behind.returns_iff.mpr ⟨canary.1, by simp [canary.2]⟩

theorem handsOut_of_returns (behind : Shadow moment shadow) (sound : shadow.found.Sound)
    (excluded : shadow.found.statuses url = .excluded expiry) (returns : Returns moment url) :
    Pool.HandsOut shadow url ∧ ∀ due ∈ expiry, due < shadow.ambient.reading := by
  obtain ⟨call, taken⟩ := behind.returns_iff.mp returns
  have answer := Pool.answer_take sound call
  rw [Statuses.take, excluded] at answer
  by_cases expired : expiry.all (· < shadow.ambient.reading) = true
  · refine ⟨⟨call, by simpa [expired] using answer⟩, ?_⟩
    simpa [Option.all_eq_true] using expired
  · exact absurd (by simpa [expired] using answer) taken

theorem not_returns_of_le {due : Instant} (puts : Puts moment.found url (.excluded (some due)))
    (early : ∀ reading ∈ moment.ambient.clock.shows, reading ≤ due) : ¬ Returns moment url := by
  intro returns
  obtain ⟨shadow, behind, sound, excluded⟩ := puts.exists_shadow
  obtain ⟨_, late⟩ := handsOut_of_returns behind sound excluded returns
  have reading := early _ (behind.shows shadow.ambient.clock.read_mem_shows)
  exact absurd reading (Nat.not_le.mpr (late due rfl))

theorem promotes_of_returns (puts : Puts moment.found url (.excluded expiry))
    (returns : Returns moment url) :
    Promotes moment url ∧ Puts moment.left url .probation := by
  obtain ⟨shadow, behind, sound, excluded⟩ := puts.exists_shadow
  obtain ⟨canary, _⟩ := handsOut_of_returns behind sound excluded returns
  have held := Pool.probation_of_handsOut sound canary
  have kept : shadow.left.Sound := sound.change (Pool.change_left shadow)
  refine ⟨⟨shadow.found, shadow.left, behind.found, behind.left, ?_, ?_, ?_, ?_⟩,
    .of_shadow behind sound held⟩
  · exact Pool.mem_excludedUrls.mpr
      ⟨expiry, (Pool.statuses_eq_excluded_iff sound.toPartitioned).mp excluded⟩
  · rw [← Pool.statuses_eq_probation_iff, excluded]
    exact Status.noConfusion
  · rintro member
    obtain ⟨other, found⟩ := Pool.mem_excludedUrls.mp member
    rw [← Pool.statuses_eq_excluded_iff kept.toPartitioned, held] at found
    contradiction
  · exact Pool.statuses_eq_probation_iff.mp held

theorem confirm_excluded (puts : Puts moment.found url (.excluded expiry))
    (confirms : Confirms moment url) :
    moment.answer = .confirmed (.ok false) ∧ moment.left = moment.found := by
  obtain ⟨pool, source, sound, excluded⟩ := puts
  obtain ⟨balancer, call, ambient⟩ := moment
  obtain ⟨called, rfl, resolved⟩ := confirms
  change balancer.source = .failover pool at source
  have answer : (Pool.confirm called pool ambient).answer = false := by
    have known : pool.resolve called = some url := by
      simpa [resolve, source, Source.pool?] using resolved
    rw [Pool.confirm_answer sound, known, Option.any_some, excluded]
    rfl
  have state : (Pool.confirm called pool ambient).state = pool := by
    simp [(Pool.confirm_apply pool ambient called).2, answer]
  simp [Moment.answer, Moment.left, Moment.step, Call.perform, confirm_failover ambient source, answer,
    state, ← source]

end Excluded

section Probation

theorem probation_left (puts : Puts moment.found url .probation) (fails : ¬ Fails moment url)
    (confirms : ¬ Confirms moment url) (resets : ¬ Resets moment) :
    Puts moment.left url .probation := by
  obtain ⟨shadow, behind, sound, held⟩ := puts.exists_shadow
  refine .of_shadow behind sound (Pool.probation_left sound ?_ held)
  rintro (failed | confirmed | reset)
  · exact fails (behind.fails_iff.mp failed)
  · exact confirms (behind.confirms_iff.mp confirmed)
  · exact resets (behind.resets_iff.mp reset)

theorem not_returns_of_probation (puts : Puts moment.found url .probation) :
    ¬ Returns moment url := by
  intro returns
  obtain ⟨shadow, behind, sound, held⟩ := puts.exists_shadow
  obtain ⟨call, taken⟩ := behind.returns_iff.mp returns
  exact taken (Pool.taken_withheld sound call held)

end Probation

end Balance.Balancer
