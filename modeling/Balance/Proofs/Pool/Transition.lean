import Balance.Proofs.Pool.Refinement

/-!
What one call of a run does to one URL. A call is about the URL that it takes
or that its argument resolves to; any other URL keeps its status, unless the
call fails the last active URL and resets the pool. `status_cases` lists
everything that can become of a status.
-/

namespace Balance.Pool

variable {moment : Moment Call.perform} {url : Url}

def Fails (moment : Moment Call.perform) (url : Url) : Prop :=
  ∃ called timeout, moment.call = .fail called timeout ∧ moment.found.resolve called = some url

def Confirms (moment : Moment Call.perform) (url : Url) : Prop :=
  ∃ called, moment.call = .confirm called ∧ moment.found.resolve called = some url

/-- The call reports a failure of the last active URL. -/
def Resets (moment : Moment Call.perform) : Prop :=
  ∃ url, Fails moment url ∧ ∀ other ∈ moment.found.active, other = url

/-- The call can end a probation of the URL. -/
def Releases (moment : Moment Call.perform) (url : Url) : Prop :=
  Fails moment url ∨ Confirms moment url ∨ Resets moment

def HandsOut (moment : Moment Call.perform) (url : Url) : Prop :=
  moment.call = .take url ∧ moment.answer = .taken .canary

theorem statuses_left (sound : moment.found.Sound) :
    moment.left.statuses = moment.found.statuses.next moment.found.baseline
      moment.ambient.reading moment.call :=
  statuses_next sound moment.call moment.ambient

theorem answer_take (sound : moment.found.Sound) (called : moment.call = .take url) :
    moment.answer = .taken (moment.found.statuses.take moment.ambient.reading url) := by
  obtain ⟨pool, call, ambient⟩ := moment
  obtain rfl : call = .take url := called
  exact allows_answer sound (.take url) ambient

theorem answer_candidates (sound : moment.found.Sound) {urls : List Url}
    (answer : moment.answer = .candidates urls) :
    urls.Perm (moment.found.statuses.offered moment.found.baseline moment.ambient.reading) := by
  obtain ⟨pool, call, ambient⟩ := moment
  cases call with
  | candidates =>
    obtain ⟨_, given, perm⟩ := allows_answer sound .candidates ambient
    rwa [Answer.candidates.inj (answer.symm.trans given)]
  | fail => exact Answer.noConfusion answer
  | confirm => exact Answer.noConfusion answer
  | take => exact Answer.noConfusion answer
  | snapshot => exact Answer.noConfusion answer

theorem handsOut_iff (sound : moment.found.Sound) :
    HandsOut moment url ↔ moment.call = .take url ∧ ∃ expiry,
      moment.found.statuses url = .excluded expiry ∧
        expiry.all (· < moment.ambient.reading) = true := by
  refine and_congr_right fun called => ?_
  rw [answer_take sound called, Answer.taken.injEq, Statuses.take]
  cases moment.found.statuses url <;> simp

theorem fail_cases {pool : Pool} (partitioned : pool.Partitioned) (failed : Url)
    (expiry : Option Instant) (url : Url) :
    pool.statuses.fail pool.baseline failed expiry url =
        Function.update pool.statuses failed (.excluded expiry) url ∨
      (∀ active ∈ pool.active, active = failed) ∧
        pool.statuses.fail pool.baseline failed expiry url = .active := by
  unfold Statuses.fail
  split
  · exact .inl rfl
  · next none =>
    refine .inr ⟨fun active member => ?_, rfl⟩
    by_contra different
    have configured := partitioned.mem_baseline_of_active member
    have status := (statuses_eq_active_iff_mem partitioned configured).mpr member
    exact none ⟨active, configured, by rwa [Function.update_of_ne different]⟩

theorem excluded_of_fail (sound : moment.found.Sound) {called : Url} {timeout : Duration}
    (failed : moment.call = .fail called timeout)
    (resolved : moment.found.resolve called = some url) (kept : ¬ Resets moment) :
    moment.left.statuses url = .excluded (Instant.deadline moment.ambient.reading timeout) := by
  rw [statuses_left sound, failed, Statuses.next_fail timeout resolved]
  rcases fail_cases sound.toPartitioned url (Instant.deadline moment.ambient.reading timeout) url
    with moved | ⟨last, _⟩
  · rwa [Function.update_self] at moved
  · exact absurd ⟨url, ⟨called, timeout, failed, resolved⟩, last⟩ kept

theorem status_cases (sound : moment.found.Sound) (url : Url) :
    moment.left.statuses url = moment.found.statuses url ∨
      (∃ called timeout, moment.call = .fail called timeout ∧
        moment.found.resolve called = some url ∧
        moment.left.statuses url =
          .excluded (Instant.deadline moment.ambient.reading timeout)) ∨
      (Resets moment ∧ moment.left.statuses url = .active) ∨
      (Confirms moment url ∧ moment.found.statuses url = .probation ∧
        moment.left.statuses url = .active) ∨
      (HandsOut moment url ∧ moment.left.statuses url = .probation) := by
  rw [statuses_left sound]
  cases called : moment.call with
  | candidates => exact .inl rfl
  | snapshot => exact .inl rfl
  | fail target timeout =>
    cases resolved : moment.found.resolve target with
    | none =>
      rw [Statuses.next, resolve_ofBaseline, resolved]
      exact .inl rfl
    | some failed =>
      rw [Statuses.next_fail timeout resolved]
      rcases fail_cases sound.toPartitioned failed
        (Instant.deadline moment.ambient.reading timeout) url with moved | ⟨last, back⟩
      · by_cases same : url = failed
        · subst same
          rw [Function.update_self] at moved
          exact .inr (.inl ⟨target, timeout, rfl, resolved, moved⟩)
        · rw [Function.update_of_ne same] at moved
          exact .inl moved
      · exact .inr (.inr (.inl ⟨⟨failed, ⟨target, timeout, called, resolved⟩, last⟩, back⟩))
  | confirm target =>
    rw [Statuses.next, resolve_ofBaseline]
    cases resolved : moment.found.resolve target with
    | none => exact .inl rfl
    | some ended =>
      simp only
      split
      · next held =>
        by_cases same : url = ended
        · subst same
          exact .inr (.inr (.inr (.inl
            ⟨⟨target, called, resolved⟩, held, by rw [Function.update_self]⟩)))
        · exact .inl (Function.update_of_ne same _ _)
      · exact .inl rfl
  | take target =>
    rw [Statuses.next]
    split
    · next canary =>
      by_cases same : url = target
      · subst same
        have answer := answer_take sound called
        exact .inr (.inr (.inr (.inr
          ⟨⟨called, by rw [answer, canary]⟩, by rw [Function.update_self]⟩)))
      · exact .inl (Function.update_of_ne same _ _)
    · exact .inl rfl

theorem probation_left (sound : moment.found.Sound) (quiet : ¬ Releases moment url)
    (held : moment.found.statuses url = .probation) : moment.left.statuses url = .probation := by
  rcases status_cases sound url with same | ⟨called, timeout, failed, resolved, _⟩ | ⟨resets, _⟩ |
    ⟨confirms, _⟩ | ⟨_, probation⟩
  · exact same.trans held
  · exact absurd (.inl ⟨called, timeout, failed, resolved⟩) quiet
  · exact absurd (.inr (.inr resets)) quiet
  · exact absurd (.inr (.inl confirms)) quiet
  · exact probation

theorem excluded_left (sound : moment.found.Sound) {expiry : Option Instant}
    (fails : ¬ Fails moment url) (resets : ¬ Resets moment) (handsOut : ¬ HandsOut moment url)
    (excluded : moment.found.statuses url = .excluded expiry) :
    moment.left.statuses url = .excluded expiry := by
  rcases status_cases sound url with same | ⟨called, timeout, failed, resolved, _⟩ | ⟨reset, _⟩ |
    ⟨_, held, _⟩ | ⟨canary, _⟩
  · exact same.trans excluded
  · exact absurd ⟨called, timeout, failed, resolved⟩ fails
  · exact absurd reset resets
  · rw [excluded] at held
    contradiction
  · exact absurd canary handsOut

theorem excluded_found (sound : moment.found.Sound) (fails : ¬ Fails moment url)
    {expiry : Option Instant} (excluded : moment.left.statuses url = .excluded expiry) :
    moment.found.statuses url = .excluded expiry := by
  rcases status_cases sound url with same | ⟨called, timeout, failed, resolved, _⟩ | ⟨_, moved⟩ |
    ⟨_, _, moved⟩ | ⟨_, moved⟩
  · exact same.symm.trans excluded
  · exact absurd ⟨called, timeout, failed, resolved⟩ fails
  · cases excluded.symm.trans moved
  · cases excluded.symm.trans moved
  · cases excluded.symm.trans moved

theorem not_excluded_left (sound : moment.found.Sound) (fails : ¬ Fails moment url)
    (free : ∀ expiry, moment.found.statuses url ≠ .excluded expiry) :
    ∀ expiry, moment.left.statuses url ≠ .excluded expiry :=
  fun expiry excluded => free expiry (excluded_found sound fails excluded)

theorem expiry_of_fail (sound : moment.found.Sound) {called : Url} {timeout : Duration}
    (failed : moment.call = .fail called timeout)
    (resolved : moment.found.resolve called = some url) {expiry : Option Instant}
    (excluded : moment.left.statuses url = .excluded expiry) :
    expiry = Instant.deadline moment.ambient.reading timeout := by
  rw [statuses_left sound, failed, Statuses.next_fail timeout resolved] at excluded
  rcases fail_cases sound.toPartitioned url (Instant.deadline moment.ambient.reading timeout) url
    with moved | ⟨_, moved⟩
  · rw [Function.update_self] at moved
    exact Status.excluded.inj (excluded.symm.trans moved)
  · cases excluded.symm.trans moved

end Balance.Pool
