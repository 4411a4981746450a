import Balance.Proofs.Client.Looks
import Balance.Proofs.Client.Service
import Balance.Simulation

/-!
What a simulation tells of its client. Each request selects a URL and reports what
became of it, so that behind a client that tracks failures stand a take and a report.
A canary is reported at once, and no probation outlives its request. The tally counts
what was selected, hence everything that can have been excluded.
-/

namespace Balance

namespace Simulation

variable {fault : String → Option String} {config : Config} {simulation : Simulation}
variable {client : Client} {ambient : Ambient} {tally : Tally}

def outcome (simulation : Simulation) (url : Url) : Client.Call :=
  if simulation.fails url then .fail url (.status FailoverConfig.serviceUnavailable)
  else .confirm url

theorem settle_apply (url : Url) :
    ((simulation.settle url) client ambient).state =
        ((simulation.outcome url).perform client ambient).state ∧
      ((simulation.settle url) client ambient).ambient =
        ((simulation.outcome url).perform client ambient).ambient := by
  cases fails : simulation.fails url with
  | true =>
    simp only [settle, outcome, fails, if_true, Operation.bind_apply, Client.Call.perform,
      Operation.map_apply]
    cases (Client.fail url (.status FailoverConfig.serviceUnavailable) client ambient).answer <;>
      simp
  | false => simp [settle, outcome, fails, Operation.bind_apply, Client.Call.perform]

theorem request_moments (simulation : Simulation) (client : Client) (ambient : Ambient) :
    ∃ selection report : Moment Client.Call.perform,
      Run Client.Call.perform client [selection, report]
        (simulation.request client ambient).state ∧
      selection.call = .url simulation.default simulation.client ∧
      selection.answer = .url (simulation.request client ambient).answer ∧
      report.call = simulation.outcome (simulation.request client ambient).answer := by
  let selected := Client.url simulation.default simulation.client client ambient
  refine ⟨⟨client, .url simulation.default simulation.client, ambient⟩,
    ⟨selected.state, simulation.outcome selected.answer, selected.ambient⟩,
    ⟨rfl, rfl, ?_⟩, rfl, rfl, rfl⟩
  exact (settle_apply selected.answer).1.symm

/-- Two calls on a pool that stand behind a request: a take of the URL, if of any, and the
report of it, which is a failure just if the URL fails. -/
structure Visit (simulation : Simulation) (url : Url)
    (taking reporting : Moment Pool.Call.perform) : Prop where
  sound : taking.found.Sound
  onward : reporting.found = taking.left
  takes : taking.call = .take url ∨ taking.call = .candidates
  reports : if simulation.fails url = true then ∃ timeout, reporting.call = .fail url timeout
    else reporting.call = .confirm url

namespace Visit

variable {url other : Url} {taking reporting : Moment Pool.Call.perform}

theorem probation_found (visit : simulation.Visit url taking reporting)
    (held : other ∈ reporting.left.probation) : other ∈ taking.found.probation := by
  have reports : Pool.Reports reporting url := by
    have reports := visit.reports
    split at reports
    · exact .inl reports
    · exact .inr reports
  exact (Pool.probation_of_visit visit.sound visit.onward visit.takes reports held).1

theorem excluded_cases (visit : simulation.Visit url taking reporting)
    (configured : url ∈ taking.found.baseline) (excluded : other ∈ reporting.left.excludedUrls) :
    (other = url ∧ simulation.fails url = true) ∨ other ∈ taking.found.excludedUrls := by
  rcases Pool.excluded_of_visit visit.sound visit.onward visit.takes excluded with fails | before
  · refine .inl ?_
    have listed : url ∈ reporting.found.configured := by
      rwa [visit.onward, Pool.mem_configured, (Pool.change_left taking).baseline_eq]
    obtain ⟨called, timeout, failed, resolved⟩ := fails
    have reports := visit.reports
    split at reports
    · next failing =>
      obtain ⟨_, reported⟩ := reports
      obtain ⟨rfl, rfl⟩ := Pool.Call.fail.inj (failed.symm.trans reported)
      exact ⟨Option.some.inj (resolved.symm.trans (Pool.resolve_self listed)), failing⟩
    · cases failed.symm.trans reports
  · exact .inr before

end Visit

theorem exists_visit {config : BalancingConfig} {moments : List (Moment Client.Call.perform)}
    (run : Run Client.Call.perform { config } moments client) {pool : Pool}
    (tracked : (simulation.request client ambient).state.pool? = some pool) :
    ∃ taking reporting, client.pool? = some taking.found ∧ reporting.left = pool ∧
      simulation.Visit (simulation.request client ambient).answer taking reporting := by
  obtain ⟨selection, report, ⟨rfl, onward, left⟩, selects, answer, reports⟩ :=
    request_moments simulation client ambient
  have left : report.left.pool? = some pool := left ▸ tracked
  obtain ⟨middle, found⟩ := Client.pool?_found left
  obtain ⟨reporting, reported, rfl⟩ := Client.exists_shadow found
  obtain ⟨_, tracks⟩ := Client.pool?_found (onward ▸ found)
  obtain ⟨taking, taken, rfl⟩ := Client.exists_shadow tracks
  refine ⟨taking, reporting, taken.found, ?_, Client.sound_of_run run taken.found, ?_, ?_, ?_⟩
  · exact Option.some.inj (reported.left.symm.trans left)
  · exact Option.some.inj (found.symm.trans (onward ▸ taken.left))
  · have mirrored := taken.call
    rw [selects] at mirrored
    rcases mirrored with ⟨url, answered, call, _⟩ | looks
    · obtain rfl := Client.Answer.url.inj (answered.symm.trans answer)
      exact .inl call
    · exact .inr looks
  · have mirrored := reported.call
    rw [reports, outcome] at mirrored
    split
    · next fails =>
      have selected : Run Client.Call.perform selection.found [selection] report.found :=
        ⟨rfl, onward.symm⟩
      have through := Run.append_iff.mpr ⟨selection.found, run, selected⟩
      obtain ⟨policy, ruled⟩ := Client.policy_of_run through found
      rw [if_pos fails, ruled] at mirrored
      exact ⟨_, mirrored.2⟩
    · next spared =>
      rwa [if_neg spared] at mirrored

/-- What the tally of a simulation says about its client: the client goes back to the
configuration, it has served what was counted, no probation is pending, and what is
excluded has been counted and fails. -/
structure Accounts (simulation : Simulation) (config : BalancingConfig) (client : Client)
    (tally : Tally) : Prop where
  reached : ∃ moments, Run Client.Call.perform { config } moments client
  served : ∀ url ∈ tally.map Prod.fst,
    if config.active = true then url ∈ config.urls else url = simulation.default
  released : ∀ pool, client.pool? = some pool → pool.probation = []
  charged : ∀ pool, client.pool? = some pool → ∀ url ∈ pool.excludedUrls,
    simulation.fails url = true ∧ 0 < tally.count url

namespace Accounts

theorem start (simulation : Simulation) (config : BalancingConfig) :
    simulation.Accounts config { config } [] where
  reached := ⟨[], rfl⟩
  served := List.forall_mem_nil _
  released _ tracked := (Pool.isClean_iff.mp (Client.isClean_new tracked)).2
  charged pool tracked := by
    simp [Pool.excludedUrls, (Pool.isClean_iff.mp (Client.isClean_new tracked)).1]

theorem request (accepted : Validation.problems fault config = [])
    (accounts : simulation.Accounts config.balancing client tally) (ambient : Ambient) :
    let done := simulation.request client ambient
    simulation.Accounts config.balancing done.state (tally.increment done.answer) := by
  intro done
  obtain ⟨moments, run⟩ := accounts.reached
  have answered := Client.url_of_accepted accepted run simulation.default simulation.client ambient
  constructor
  case reached =>
    obtain ⟨selection, report, visit, _⟩ := request_moments simulation client ambient
    exact ⟨_, Run.append_iff.mpr ⟨client, run, visit⟩⟩
  case served =>
    intro url counted
    rcases Tally.mem_increment.mp counted with rfl | earlier
    · exact answered
    · exact accounts.served url earlier
  case released =>
    intro pool tracked
    obtain ⟨taking, reporting, found, rfl, visit⟩ := exists_visit run tracked
    refine List.eq_nil_iff_forall_not_mem.mpr fun url held => ?_
    have before := visit.probation_found held
    rw [accounts.released _ found] at before
    contradiction
  case charged =>
    intro pool tracked url excluded
    obtain ⟨taking, reporting, found, rfl, visit⟩ := exists_visit run tracked
    obtain ⟨active, configured⟩ := Client.configured_of_accepted accepted run found
    rw [if_pos active] at answered
    rw [Tally.count_increment]
    rcases visit.excluded_cases ((configured _).mpr answered) excluded with ⟨same, fails⟩ | before
    · exact ⟨same ▸ fails, by simp [same, done]⟩
    · obtain ⟨fails, counted⟩ := accounts.charged _ found url before
      exact ⟨fails, Nat.add_pos_left counted _⟩

theorem run (accepted : Validation.problems fault config = []) (requests : Nat)
    (accounts : simulation.Accounts config.balancing client tally) (ambient : Ambient) :
    let done := simulation.run requests tally client ambient
    simulation.Accounts config.balancing done.state done.answer ∧
      done.answer.total = tally.total + requests := by
  induction requests generalizing client ambient tally with
  | zero => exact ⟨accounts, rfl⟩
  | succ requests ih =>
    obtain ⟨last, total⟩ := ih (accounts.request accepted ambient)
      (simulation.request client ambient).ambient
    refine ⟨last, total.trans ?_⟩
    rw [Tally.total_increment]
    exact Nat.add_right_comm ..

end Accounts

/-- Of an accepted configuration: the counts of a simulation add up to its requests, and
counted are configured URLs, or only the default where balancing is off. A pool that is
shown at the end has no URL on probation. Every URL that it excludes fails and has been
counted, and every configured URL that does not fail is active. -/
theorem report_consistent (accepted : Validation.problems fault config = [])
    (simulation : Simulation) (ambient : Ambient) :
    let report := (simulation.report { config := config.balancing } ambient).answer
    report.selections.total = simulation.requests ∧
      (∀ url ∈ report.selections.map Prod.fst,
        if config.balancing.active = true then url ∈ config.balancing.urls
        else url = simulation.default) ∧
      ∀ view, report.pool = some view →
        view.probation = [] ∧
          (∀ entry ∈ view.excluded,
            simulation.fails entry.url = true ∧ 0 < report.selections.count entry.url) ∧
          ∀ url ∈ config.balancing.urls, simulation.fails url = false → url ∈ view.active := by
  intro report
  obtain ⟨accounts, total⟩ := (Accounts.start simulation config.balancing).run accepted
    simulation.requests ambient
  refine ⟨total.trans (Nat.zero_add _), accounts.served, fun view shown => ?_⟩
  obtain ⟨pool, tracked, rfl⟩ := Option.map_eq_some_iff.mp
    ((Client.snapshot_answer _ _).symm.trans shown)
  have released := accounts.released pool tracked
  have charged := accounts.charged pool tracked
  refine ⟨released, fun entry listed => ?_, fun url configured spared => ?_⟩
  · obtain ⟨exclusion, member, rfl⟩ := List.mem_map.mp listed
    exact charged _ (List.mem_map_of_mem member)
  · obtain ⟨moments, run⟩ := accounts.reached
    obtain ⟨_, same⟩ := Client.configured_of_accepted accepted run tracked
    rcases (Client.sound_of_run run tracked).place ((same url).mpr configured) with
      ⟨active, _⟩ | ⟨_, excluded, _⟩ | ⟨_, _, held⟩
    · exact Url.mem_distinct.mpr active
    · exact absurd (charged url excluded).1 (by simp [spared])
    · rw [released] at held
      contradiction

theorem report_consistent_canary :
    let config : Config := { balancing :=
      { active := true, urls := ["http://a", "http://b1", "http://b2"],
        failover := some { active := true, timeoutMillis := 1 } } }
    let simulation : Simulation := { requests := 7, failing := ["http://b"] }
    let ambient : Ambient := ⟨⟨3000000, [0, 0, 0, 0, 2000000, 2000000]⟩, ⟨fun _ => 0, 0⟩⟩
    let report := (simulation.report { config := config.balancing } ambient).answer
    let view : Snapshot :=
      ⟨["http://a"], [⟨"http://b2", some 0⟩, ⟨"http://b1", some 1⟩], []⟩
    Validation.problems (fun _ => none) config = [] ∧ report.pool = some view ∧
      report.selections.total = 7 ∧ 0 < report.selections.count "http://b1" ∧
      "http://a" ∈ view.active := by
  intro config simulation ambient report view
  have accepted : Validation.problems (fun _ => none) config = [] := by decide
  have shown : report.pool = some view := by decide +kernel
  obtain ⟨total, _, consistent⟩ := report_consistent accepted simulation ambient
  obtain ⟨_, charged, active⟩ := consistent view shown
  refine ⟨accepted, shown, total, ?_, active _ (by decide) (by decide)⟩
  exact (charged ⟨"http://b1", some 1⟩ (by decide)).2

end Simulation

end Balance
