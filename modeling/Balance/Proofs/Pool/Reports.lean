import Balance.Proofs.Pool.Transition

/-!
A report on a configured URL is about that URL, however many other configured
URLs its text begins with: it is the longest of them. Behind such a report the
URL is not on probation, and a success brings it from there back to the active
ones. Nothing but a take puts a URL on probation.
-/

namespace Balance

namespace Url

variable {url other : Url} {urls : List Url}

theorem longest_eq_none_iff : longest urls = none ↔ urls = [] := by
  cases urls with
  | nil => simp [longest]
  | cons first urls =>
    rw [longest]
    split
    · simp
    · split <;> simp

theorem length_le_of_longest (found : longest urls = some url) (member : other ∈ urls) :
    other.length ≤ url.length := by
  induction urls generalizing url with
  | nil => contradiction
  | cons first urls ih =>
    rw [longest] at found
    split at found
    · next empty =>
      obtain rfl := longest_eq_none_iff.mp empty
      obtain rfl := Option.some.inj found
      exact Nat.le_of_eq (congrArg String.length (List.mem_singleton.mp member))
    · next rest most =>
      rcases List.mem_cons.mp member with rfl | member
      · split at found <;> obtain rfl := Option.some.inj found <;> omega
      · have shorter := ih most member
        split at found <;> obtain rfl := Option.some.inj found <;> omega

theorem eq_of_covers (covering : covers url other = true) (long : other.length ≤ url.length) :
    url = other := by
  have begins := covers_iff.mp covering
  rw [← String.length_toList, ← String.length_toList] at long
  exact String.toList_inj.mp (begins.eq_of_length_le long)

end Url

namespace Pool

variable {pool : Pool} {moment : Moment Call.perform} {url : Url}

theorem resolve_self (configured : url ∈ pool.configured) : pool.resolve url = some url := by
  have candidate : url ∈ pool.configured.filter (Url.covers · url) :=
    List.mem_filter.mpr ⟨configured, Url.covers_refl url⟩
  cases found : pool.resolve url with
  | none =>
    rw [resolve, Url.longest_eq_none_iff] at found
    rw [found] at candidate
    contradiction
  | some longest =>
    have covering := (List.mem_filter.mp (Url.longest_mem found)).2
    rw [Url.eq_of_covers covering (Url.length_le_of_longest found candidate)]

theorem probation_of_left (sound : moment.found.Sound)
    (held : moment.left.statuses url = .probation) :
    moment.found.statuses url = .probation ∨ HandsOut moment url := by
  rcases status_cases sound url with same | ⟨_, _, _, _, moved⟩ | ⟨_, moved⟩ | ⟨_, _, moved⟩ |
    ⟨canary, _⟩
  · exact .inl (same ▸ held)
  · cases held.symm.trans moved
  · cases held.symm.trans moved
  · cases held.symm.trans moved
  · exact .inr canary

theorem not_probation_of_fail (sound : moment.found.Sound) (configured : url ∈ moment.found.configured)
    {timeout : Duration} (failed : moment.call = .fail url timeout) :
    moment.left.statuses url ≠ .probation := by
  rw [statuses_left sound, failed, Statuses.next_fail timeout (resolve_self configured)]
  rcases fail_cases sound.toPartitioned url (Instant.deadline moment.ambient.reading timeout) url
    with moved | ⟨_, moved⟩
  · rw [moved, Function.update_self]
    exact Status.noConfusion
  · rw [moved]
    exact Status.noConfusion

theorem statuses_of_confirm (sound : moment.found.Sound) (configured : url ∈ moment.found.configured)
    (confirmed : moment.call = .confirm url) :
    moment.left.statuses url =
      if moment.found.statuses url = .probation then .active else moment.found.statuses url := by
  rw [statuses_left sound, confirmed, Statuses.next, resolve_ofBaseline, resolve_self configured]
  simp only
  split
  · exact Function.update_self ..
  · rfl

def Reports (moment : Moment Call.perform) (called : Url) : Prop :=
  (∃ timeout, moment.call = .fail called timeout) ∨ moment.call = .confirm called

theorem probation_of_reports {called : Url} (sound : moment.found.Sound)
    (reports : Reports moment called) (held : moment.left.statuses url = .probation) :
    moment.found.statuses url = .probation ∧ url ≠ called := by
  have before : moment.found.statuses url = .probation := by
    rcases probation_of_left sound held with before | ⟨taken, _⟩
    · exact before
    · rcases reports with ⟨timeout, failed⟩ | confirmed
      · cases taken.symm.trans failed
      · cases taken.symm.trans confirmed
  refine ⟨before, ?_⟩
  rintro rfl
  have configured : url ∈ moment.found.configured :=
    mem_configured.mpr (sound.mem_baseline_of_probation (statuses_eq_probation_iff.mp before))
  rcases reports with ⟨timeout, failed⟩ | confirmed
  · exact not_probation_of_fail sound configured failed held
  · rw [statuses_of_confirm sound configured confirmed, if_pos before] at held
    cases held

section Visits

variable {taking reporting : Moment Call.perform} {called : Url}

theorem probation_of_visit (sound : taking.found.Sound) (onward : reporting.found = taking.left)
    (takes : taking.call = .take called ∨ taking.call = .candidates)
    (reports : Reports reporting called) (held : url ∈ reporting.left.probation) :
    url ∈ taking.found.probation ∧ url ≠ called := by
  have middle : reporting.found.Sound := onward ▸ sound.change (change_left taking)
  rw [← statuses_eq_probation_iff] at held ⊢
  obtain ⟨held, different⟩ := probation_of_reports middle reports held
  refine ⟨?_, different⟩
  rw [onward] at held
  rcases probation_of_left sound held with before | ⟨taken, _⟩
  · exact before
  · -- What was taken is the URL that was reported.
    rcases takes with called | looks
    · exact absurd (Call.take.inj (taken.symm.trans called)) different
    · cases taken.symm.trans looks

theorem excluded_of_visit (sound : taking.found.Sound) (onward : reporting.found = taking.left)
    (takes : taking.call = .take called ∨ taking.call = .candidates)
    (excluded : url ∈ reporting.left.excludedUrls) :
    Fails reporting url ∨ url ∈ taking.found.excludedUrls := by
  have middle : reporting.found.Sound := onward ▸ sound.change (change_left taking)
  have last := middle.change (change_left reporting)
  obtain ⟨expiry, member⟩ := mem_excludedUrls.mp excluded
  have status := (statuses_eq_excluded_iff last.toPartitioned).mpr member
  by_cases fails : Fails reporting url
  · exact .inl fails
  have spared : ¬ Fails taking url := by
    rintro ⟨target, timeout, failed, _⟩
    rcases takes with taken | looks
    · cases failed.symm.trans taken
    · cases failed.symm.trans looks
  have before := excluded_found sound spared (onward ▸ excluded_found middle fails status)
  exact .inr (mem_excludedUrls.mpr
    ⟨expiry, (statuses_eq_excluded_iff sound.toPartitioned).mp before⟩)

end Visits

theorem left_of_confirm (configured : url ∈ moment.found.configured)
    (confirmed : moment.call = .confirm url) (free : url ∉ moment.found.probation) :
    moment.left = moment.found := by
  obtain ⟨pool, call, ambient⟩ := moment
  obtain rfl : call = .confirm url := confirmed
  change (confirm url pool ambient).state = pool
  rcases confirm_cases pool ambient url with ⟨_, same⟩ | ⟨other, resolved, held, _⟩
  · exact same
  · obtain rfl := Option.some.inj ((resolve_self configured).symm.trans resolved)
    exact absurd held free

theorem left_of_candidates (looks : moment.call = .candidates) : moment.left = moment.found := by
  obtain ⟨pool, call, ambient⟩ := moment
  obtain rfl : call = .candidates := looks
  exact (candidates_apply pool ambient).2

theorem left_of_take (taken : moment.call = .take url) (free : url ∉ moment.left.probation) :
    moment.left = moment.found := by
  obtain ⟨pool, call, ambient⟩ := moment
  obtain rfl : call = .take url := taken
  change url ∉ (take url pool ambient).state.probation at free
  change (take url pool ambient).state = pool
  rcases take_cases pool ambient url with ⟨_, same⟩ | ⟨_, _, _, _, _, promoted⟩
  · exact same
  · rw [promoted] at free
    simp [flagged, promote] at free

theorem not_offered_of_excluded (partitioned : pool.Partitioned) {due now : Instant}
    (excluded : pool.statuses url = .excluded (some due)) (early : now ≤ due) :
    url ∉ pool.offered now := by
  rw [mem_offered partitioned, Statuses.take, excluded]
  simp [early]

end Pool

end Balance
