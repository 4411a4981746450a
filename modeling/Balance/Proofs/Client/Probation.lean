import Balance.Proofs.Client.Rounds
import Balance.Proofs.Pool.Reports

/-!
The loop strands no canary. Whatever becomes of a call, its URL is reported: a
failure takes it from probation to the excluded ones, and any other outcome
brings it back to the active ones. So a pass leaves on probation what it found
there, without the URL that it called, and so does the loop.
-/

namespace Balance.Client

variable {κ α : Type} {remote : Remote κ α} {default : Url}

def probation (client : Client) : List Url := client.pool?.elim [] (·.probation)

theorem mem_probation_iff {client : Client} {url : Url} :
    url ∈ client.probation ↔ ∃ pool, client.pool? = some pool ∧ url ∈ pool.probation := by
  unfold probation
  cases client.pool? <;> simp

namespace Pass

variable {pass : Pass remote default} {pool : Pool} {shadow : Moment Pool.Call.perform}

theorem selection_cases (behind : Shadow (selection pass) shadow) :
    shadow.call = .take pass.answer.url ∨ shadow.call = .candidates := by
  rcases behind.call with ⟨url, answer, taken, _⟩ | looks
  · obtain rfl : pass.answer.url = url := Answer.url.inj answer
    exact .inl taken
  · exact .inr looks

theorem report_cases (behind : Shadow (report pass) shadow) :
    (pass.answer.verdict = some .fail ∧ ∃ policy, pass.found.1.policy? = some policy ∧
        shadow.call = .fail pass.answer.url policy.timeout ∧
        shadow.ambient = (report pass).ambient) ∨
      pass.answer.verdict ≠ some .fail ∧ shadow.call = .confirm pass.answer.url := by
  have mirrored := behind.call
  by_cases failed : pass.answer.verdict = some .fail
  · refine .inl ⟨failed, ?_⟩
    have ruled := verdict_eq pass ▸ failed
    cases outcome : pass.answer.outcome with
    | ok value =>
      rw [outcome] at ruled
      cases ruled
    | error error =>
      have call : (report pass).call = .fail pass.answer.url error := by
        simp [report, Round.report, failed, outcome]
      rw [call] at mirrored
      obtain ⟨policy, found⟩ := Option.isSome_iff_exists.mp (policy_of_fail ruled)
      have kept : (report pass).found.policy? = some policy := by
        rw [report_found, policy?, config_selected]
        exact found
      refine ⟨policy, found, ?_, mirrored.1⟩
      simpa [kept] using mirrored.2
  · refine .inr ⟨failed, ?_⟩
    have call : (report pass).call = .confirm pass.answer.url := by
      simp only [report, Round.report]
      split
      · contradiction
      · rfl
    rwa [call] at mirrored

section Sound

variable (sound : ∀ pool, pass.found.1.pool? = some pool → pool.Sound)
include sound

theorem exists_shadows {middle : Pool} (tracked : (selection pass).left.pool? = some middle) :
    ∃ taking reporting : Moment Pool.Call.perform,
      Shadow (selection pass) taking ∧ Shadow (report pass) reporting ∧
      taking.left = middle ∧ reporting.found = middle ∧
      taking.found.Sound ∧ reporting.found.Sound := by
  obtain ⟨pool, found⟩ := pool?_found tracked
  obtain ⟨taking, selected, rfl⟩ := exists_shadow found
  obtain ⟨reporting, reported, same⟩ := exists_shadow ((report_found pass).symm ▸ tracked)
  have left := Option.some.inj (selected.left.symm.trans tracked)
  have first := sound _ selected.found
  refine ⟨taking, reporting, selected, reported, left, same, first, ?_⟩
  rw [same, ← left]
  exact first.change (Pool.change_left taking)

theorem probation_left {url : Url} (held : url ∈ pass.left.1.probation) :
    url ∈ pass.found.1.probation ∧ url ≠ pass.answer.url := by
  rw [(left_eq pass).1, mem_probation_iff] at held
  obtain ⟨next, left, held⟩ := held
  obtain ⟨middle, tracked⟩ := pool?_found left
  obtain ⟨taking, reporting, selected, reported, rfl, same, first, second⟩ :=
    exists_shadows sound tracked
  obtain rfl := Option.some.inj (left.symm.trans reported.left)
  have reports : Pool.Reports reporting pass.answer.url := by
    rcases report_cases reported with ⟨_, _, _, failed, _⟩ | ⟨_, confirmed⟩
    · exact .inl ⟨_, failed⟩
    · exact .inr confirmed
  obtain ⟨before, different⟩ :=
    Pool.probation_of_visit first same (selection_cases selected) reports held
  exact ⟨mem_probation_iff.mpr ⟨_, selected.found, before⟩, different⟩

theorem active_of_probation (canary : pass.answer.url ∈ (selection pass).left.probation)
    (spared : pass.answer.verdict ≠ some .fail) :
    ∃ pool, (report pass).left.pool? = some pool ∧ pass.answer.url ∈ pool.active := by
  obtain ⟨middle, tracked, held⟩ := mem_probation_iff.mp canary
  obtain ⟨_, reporting, _, reported, _, rfl, _, second⟩ := exists_shadows sound tracked
  have confirmed : reporting.call = .confirm pass.answer.url := by
    rcases report_cases reported with ⟨failed, _⟩ | ⟨_, confirmed⟩
    · exact absurd failed spared
    · exact confirmed
  have configured := second.mem_baseline_of_probation held
  have change := Pool.change_left reporting
  have active := Pool.statuses_of_confirm second (Pool.mem_configured.mpr configured) confirmed
  rw [if_pos (Pool.statuses_eq_probation_iff.mpr held)] at active
  refine ⟨_, reported.left, ?_⟩
  rw [← change.baseline_eq] at configured
  exact (Pool.statuses_eq_active_iff_mem (second.change change).toPartitioned configured).mp active

end Sound

end Pass

section Runs

variable {config : BalancingConfig} {moments : List (Moment Call.perform)} {client : Client}

/-- Of a client that any run of calls has left, the loop leaves no URL on
probation that was not there before. Every configured URL that it calls is
active or excluded in the end, and one that it calls as a canary is active as
soon as an outcome is reported that is no failure. -/
theorem execute_releases (run : Run Call.perform { config } moments client)
    (remote : Remote κ α) (default : Url) (state : κ) (ambient : Ambient) :
    let done := execute remote default (client, state) ambient
    let passes := passes remote default (client, state) ambient
    (∀ url ∈ done.state.1.probation, url ∈ client.probation) ∧
      (∀ pool, client.pool? = some pool → ∃ next, done.state.1.pool? = some next ∧
        ∀ pass ∈ passes, pass.answer.url ∈ pool.configured →
          pass.answer.url ∈ next.active ∨ pass.answer.url ∈ next.excludedUrls) ∧
      ∀ pass ∈ passes, pass.answer.url ∈ (Pass.selection pass).left.probation →
        pass.answer.verdict ≠ some .fail →
        ∃ pool, (Pass.report pass).left.pool? = some pool ∧ pass.answer.url ∈ pool.active := by
  intro done passes
  have through : Run _ (client, state) passes done.state :=
    (execute_passes remote default (client, state) ambient).1
  have sound : ∀ pass ∈ passes, ∀ pool, pass.found.1.pool? = some pool → pool.Sound := by
    intro pass member pool tracked
    obtain ⟨calls, reached⟩ := Pass.calls_of_mem through member
    exact sound_of_run (Run.append_iff.mpr ⟨client, run, reached⟩) tracked
  refine ⟨?_, ?_, fun pass member => Pass.active_of_probation (sound pass member)⟩
  · refine through.keeps (P := fun found => ∀ url ∈ found.1.probation, url ∈ client.probation)
      ?_ fun url => id
    exact fun pass member before url held =>
      before url (Pass.probation_left (sound pass member) held).1
  · intro pool tracked
    have calls := Pass.calls_of_passes through
    obtain ⟨next, left, same⟩ := pool?_of_run calls tracked
    have placed : next.Sound := sound_of_run (Run.append_iff.mpr ⟨client, run, calls⟩) left
    refine ⟨next, left, fun pass member configured => ?_⟩
    have released : pass.answer.url ∉ done.state.1.probation := by
      obtain ⟨earlier, later, cut⟩ := List.append_of_mem member
      have rest := (Run.split_iff.mp (cut ▸ through)).2
      refine rest.keeps (P := fun found => pass.answer.url ∉ found.1.probation) ?_
        fun held => (Pass.probation_left (sound pass member) held).2 rfl
      intro other among free held
      exact free (Pass.probation_left (sound other (by simp [cut, among])) held).1
    rw [Pool.mem_configured, ← same] at configured
    rcases placed.place configured with ⟨active, _⟩ | ⟨_, excluded, _⟩ | ⟨_, _, probation⟩
    · exact .inl active
    · exact .inr excluded
    · exact absurd (mem_probation_iff.mpr ⟨next, left, probation⟩) released

theorem execute_releases_retried :
    let config : BalancingConfig :=
      { active := true, urls := ["a", "b"],
        failover := some { active := true, timeoutMillis := 1, retryStatus := [429] } }
    let failure : Moment Call.perform := ⟨{ config }, .fail "b/x" (.status 503), .standing 0⟩
    let selection : Moment Call.perform := ⟨failure.left, .url "" none, .standing 1⟩
    let remote : Remote Unit Unit := fun _ state => (⟨.error (.status 429), 0⟩, state)
    let canary : Pass remote "" := ⟨(selection.left, ()), (), .standing 2000000⟩
    Run Call.perform { config } [failure, selection] selection.left ∧
      canary.answer.url = "b" ∧ "b" ∈ (Pass.selection canary).left.probation ∧
      canary.answer.verdict ≠ some .fail ∧
      ∃ pool, (Pass.report canary).left.pool? = some pool ∧ "b" ∈ pool.active := by
  intro config failure selection remote canary
  have run : Run Call.perform { config } [failure, selection] selection.left := ⟨rfl, rfl, rfl⟩
  have member : canary ∈ passes remote "" (selection.left, ()) (.standing 2000000) :=
    List.mem_of_mem_head? (head?_passes ..)
  have url : canary.answer.url = "b" := by decide
  have handed : "b" ∈ (Pass.selection canary).left.probation := by decide
  have spared : canary.answer.verdict ≠ some .fail := by decide
  refine ⟨run, url, handed, spared, ?_⟩
  obtain ⟨_, _, readmits⟩ := execute_releases run remote "" () (.standing 2000000)
  exact url ▸ readmits canary member (url ▸ handed) spared

end Runs

end Balance.Client
