import Balance.Proofs.Balancer.Availability
import Balance.Proofs.Balancer.Events
import Balance.Proofs.Balancer.Transition
import Balance.Proofs.Pool.Ledger

/-!
The books of a balancer that tracks failures. What its counters show is weighed
as in a pool. Beyond that, every URL that is handed out is counted as selected,
and a canary is handed out by the selection that takes it, so that no URL is
tried as a canary more often than it is selected.
-/

namespace Balance

def Event.ofChoice : Event → Bool
  | canary _ | outOfRotation _ | withheld _ => true
  | _ => false

namespace Balancer
open Metrics

def Answer.url? : Answer → Option Url
  | selected (.ok url) => some url
  | _ => none

section Selections

variable (client : Option String) (balancer : Balancer) (ambient : Ambient)

theorem ofChoice_of_chooseTaken :
    ∀ event ∈ (chooseTaken client balancer ambient).events, event.ofChoice = true := by
  have composes : Operation.Composes fun (_ : Option Pool) events (_ : Option Pool) =>
      ∀ event ∈ events, event.ofChoice = true :=
    ⟨fun _ => List.forall_mem_nil _, fun one two => List.forall_mem_append.mpr ⟨one, two⟩⟩
  refine (selects_of_records composes ?_ ?_ client).chooseTaken balancer ambient
  · exact fun url _ => List.forall_mem_singleton.mpr rfl
  · intro pool next url events records
    cases records with
    | same => exact List.forall_mem_nil _
    | promoted => simp [Event.ofChoice]

theorem select_events :
    (select client balancer ambient).events = (chooseTaken client balancer ambient).events ++
      (select client balancer ambient).answer.toOption.toList.map Event.selected := by
  cases chosen : (chooseTaken client balancer ambient).answer <;>
    simp [select, Operation.bind_apply, chosen, Except.toOption]

theorem handedOut_select :
    handedOut (select client balancer ambient).events =
      (select client balancer ambient).answer.toOption.toList := by
  have none : handedOut (chooseTaken client balancer ambient).events = [] := by
    refine List.filterMap_eq_nil_iff.mpr fun event member => ?_
    have choice := ofChoice_of_chooseTaken client balancer ambient event member
    cases event <;> first | rfl | contradiction
  rw [select_events, handedOut_append, none, List.nil_append]
  cases (select client balancer ambient).answer <;> rfl

theorem not_poolReset_of_select : .poolReset ∉ (select client balancer ambient).events := by
  rw [select_events, List.mem_append, not_or]
  constructor
  · exact fun member => absurd (ofChoice_of_chooseTaken client balancer ambient _ member) (by decide)
  · simp

end Selections

section Moments

variable {moment : Moment Call.perform} {pool next : Pool} {client : Option String}

theorem step_of_select (call : moment.call = .select client) :
    moment.step =
      let done := select client moment.found moment.ambient
      ⟨.selected done.answer, done.state, done.ambient, done.events⟩ := by
  rw [Moment.step, call, Call.perform, Operation.map_apply]

theorem url?_of_report (reports : ∀ client, moment.call ≠ .select client) :
    moment.answer.url? = none := by
  obtain ⟨balancer, call, ambient⟩ := moment
  cases call with
  | select client => exact absurd rfl (reports client)
  | _ => rfl

theorem handedOut_step (tracked : moment.found.source = .failover pool) :
    handedOut moment.step.events = moment.answer.url?.toList := by
  rcases moment.call.select_or_reports with ⟨client, call⟩ | reports
  · rw [Moment.answer, step_of_select call, handedOut_select]
    generalize select client moment.found moment.ambient = selected
    obtain ⟨answer, left, spent, events⟩ := selected
    cases answer <;> rfl
  · obtain ⟨pooled, next, _, records, _⟩ := records_of_report tracked reports moment.ambient
    rw [url?_of_report reports]
    exact Pool.handedOut_of_records records

theorem active_of_poolReset (tracked : moment.found.source = .failover pool)
    (told : .poolReset ∈ moment.step.events) (left : moment.left.source = .failover next) :
    next.active = next.baseline := by
  rcases moment.call.select_or_reports with ⟨client, call⟩ | reports
  · rw [step_of_select call] at told
    exact absurd told (not_poolReset_of_select client moment.found moment.ambient)
  · obtain ⟨pooled, other, kept, records, _⟩ := records_of_report tracked reports moment.ambient
    obtain rfl := Source.failover.inj (kept.symm.trans left)
    exact Pool.active_of_poolReset records told

theorem probes_select (call : moment.call = .select client) (url : Url) :
    Sees (Pool.Tracked (Pool.Probes url)) moment.found moment.step.events moment.left := by
  have law := Pool.tracked_law (Pool.composes_probes url) fun _ => Pool.probes_silent url
  rw [Moment.left, step_of_select call]
  exact (selects_of_records law.toComposes (fun url => law.silent _ rfl)
    Pool.probes_of_records client).select (fun _ _ => law.silent _ rfl _) _ _

theorem moves_canaries_of_select (tracked : moment.found.source = .failover pool)
    (call : moment.call = .select client) (url : Url) :
    moves moment.step.events (.canaries url) ≤ moment.answer.url?.toList.count url := by
  obtain ⟨shadow, behind⟩ := exists_shadow moment tracked
  have records : Pool.Records shadow.found shadow.call shadow.step.events shadow.left :=
    Pool.records_perform shadow.found shadow.ambient shadow.call
  have probes := probes_select call url
  rw [Sees, behind.found, behind.left] at probes
  change shadow.left.probation.count url = _ at probes
  have mirrored := behind.call
  rw [call] at mirrored
  rcases mirrored with ⟨taken, answer, take, _⟩ | ⟨⟨error, answer⟩, candidates⟩
  · rw [take] at records
    have added : shadow.left.probation.count url ≤
        shadow.found.probation.count url + [taken].count url :=
      Pool.count_probation_of_take records
    rw [answer]
    change _ ≤ [taken].count url
    omega
  · have same : shadow.left = shadow.found := by
      rw [Moment.left, Moment.step, candidates]
      exact (Pool.candidates_apply shadow.found shadow.ambient).2
    rw [same] at probes
    omega

theorem moves_canaries_le (tracked : moment.found.source = .failover pool) (url : Url) :
    moves moment.step.events (.canaries url) ≤ (handedOut moment.step.events).count url := by
  rcases moment.call.select_or_reports with ⟨client, call⟩ | reports
  · rw [handedOut_step tracked]
    exact moves_canaries_of_select tracked call url
  · obtain ⟨pooled, next, _, records, takeless⟩ := records_of_report tracked reports moment.ambient
    exact (Pool.moves_canaries_of_records records takeless).trans_le (Nat.zero_le _)

end Moments

section Runs

variable {start finish : Balancer} {moments : List (Moment Call.perform)} {pool : Pool}

theorem tracked_of_run {R : Pool → List Event → Pool → Prop} (composes : Operation.Composes R)
    (silent : ∀ event, event.ofPool = false → ∀ pool, R pool [event] pool)
    (records : ∀ {pool next : Pool} {call : Pool.Call} {events : List Event},
      Pool.Records pool call events next → R pool events next)
    (run : Run Call.perform start moments finish) (tracked : start.source = .failover pool) :
    ∃ next, finish.source = .failover next ∧ R pool (recorded moments) next := by
  have law := Pool.tracked_law composes silent
  have seen : Sees (Pool.Tracked R) start (recorded moments) finish :=
    run.obeys (composes_sees law.toComposes) fun moment _ =>
      obeys_perform law records moment.call moment.found moment.ambient
  rw [Sees, tracked] at seen
  cases source : finish.source with
  | fixed urls => rw [source] at seen; contradiction
  | failover next => rw [source] at seen; exact ⟨next, rfl, seen⟩

theorem exists_pool_of_run (run : Run Call.perform start moments finish)
    (tracked : start.source = .failover pool) : ∃ next, finish.source = .failover next := by
  have tracks := hasFailover_of_run run
  rw [hasFailover_of_source tracked] at tracks
  cases source : finish.source with
  | fixed urls => simp [hasFailover, source, Source.isFailover, Source.pool?] at tracks
  | failover next => exact ⟨next, rfl⟩

theorem tracked_of_mem (run : Run Call.perform start moments finish)
    (tracked : start.source = .failover pool) :
    ∀ moment ∈ moments, ∃ found, moment.found.source = .failover found := by
  intro moment member
  obtain ⟨earlier, later, rfl⟩ := List.append_of_mem member
  exact exists_pool_of_run (Run.split_iff.mp run).1 tracked

theorem accounts_of_run (run : Run Call.perform start moments finish)
    (tracked : start.source = .failover pool) (url : Url) :
    ∃ next, finish.source = .failover next ∧ Pool.Accounts url pool (recorded moments) next :=
  tracked_of_run (Pool.composes_accounts url) (fun _ => Pool.accounts_silent url)
    Pool.accounts_of_records run tracked

theorem resets_of_run (run : Run Call.perform start moments finish)
    (tracked : start.source = .failover pool) (fresh : pool.active = pool.baseline) {url : Url}
    (configured : url ∈ pool.baseline) :
    counter (recorded moments) .poolResets ≤ counter (recorded moments) (.exclusions url) := by
  obtain ⟨next, _, accounts⟩ := accounts_of_run run tracked url
  have resets := accounts.resets configured
  have active : pool.missing url = 0 := if_pos (fresh ▸ configured)
  rw [counter_eq _ Metric.noConfusion, counter_eq _ Metric.noConfusion]
  omega

theorem canaries_of_run (run : Run Call.perform start moments finish)
    (tracked : start.source = .failover pool) (url : Url) :
    moves (recorded moments) (.canaries url) ≤ (handedOut (recorded moments)).count url := by
  have composes : Operation.Composes fun (_ : Balancer) events (_ : Balancer) =>
      moves events (.canaries url) ≤ (handedOut events).count url := by
    refine ⟨fun _ => Nat.zero_le _, fun first second => ?_⟩
    rw [moves_append, handedOut_append, List.count_append]
    exact Nat.add_le_add first second
  refine run.obeys composes fun moment member => ?_
  obtain ⟨found, source⟩ := tracked_of_mem run tracked moment member
  exact moves_canaries_le source url

theorem handedOut_of_run (run : Run Call.perform start moments finish)
    (tracked : start.source = .failover pool) :
    handedOut (recorded moments) = moments.filterMap (·.answer.url?) := by
  rw [recorded, handedOut, List.filterMap_flatMap, List.filterMap_eq_flatMap_toList]
  refine List.flatMap_congr fun moment member => ?_
  obtain ⟨found, source⟩ := tracked_of_mem run tracked moment member
  exact handedOut_step source

theorem mem_baseline_of_url? {moment : Moment Call.perform} {url : Url}
    (sound : moment.found.source.Sound) (answer : moment.answer.url? = some url) :
    url ∈ moment.found.source.baseline := by
  rcases moment.call.select_or_reports with ⟨client, call⟩ | reports
  · obtain ⟨nothing, something⟩ := select_answer moment.ambient client sound
    rw [Moment.answer, step_of_select call] at answer
    by_cases empty : moment.found.source.baseline = []
    · simp [nothing empty, Answer.url?] at answer
    · obtain ⟨other, member, selected⟩ := something empty
      obtain rfl : other = url := by simpa [selected, Answer.url?] using answer
      exact member
  · rw [url?_of_report reports] at answer
    contradiction

end Runs

/-- The counters of a URL, and where the URL stands in the pool that is left. -/
structure Conserved (events : List Event) (pool : Pool) (url : Url) : Prop where
  readmissions : counter events (.readmissions url) + (if url ∈ pool.probation then 1 else 0) ≤
    counter events (.canaries url)
  canaries : counter events (.canaries url) + (if url ∈ pool.excludedUrls then 1 else 0) ≤
    counter events (.exclusions url)
  selections : counter events (.canaries url) ≤ counter events (.selections url)
  resets : counter events .poolResets ≤ counter events (.exclusions url)

section Creation

variable {start middle finish : Balancer} {before moments : List (Moment Call.perform)}
variable {baseline : List Url} {pool : Pool} {url : Url}

theorem ite_mem_le_count (url : Url) (urls : List Url) :
    (if url ∈ urls then 1 else 0) ≤ urls.count url := by
  split
  · next member => exact List.count_pos_iff.mpr member
  · exact Nat.zero_le _

theorem baseline_of_run (run : Run Call.perform start moments finish)
    (created : start.source = .failover (Pool.ofBaseline baseline))
    (left : finish.source = .failover pool) : pool.baseline = baseline := by
  have sound : start.source.Sound := created ▸ Pool.Sound.ofBaseline baseline
  have kept := (source_of_run run sound).2
  rwa [left, created] at kept

theorem conserved_of_run (run : Run Call.perform start moments finish)
    (created : start.source = .failover (Pool.ofBaseline baseline))
    (left : finish.source = .failover pool) (configured : url ∈ baseline) :
    Conserved (recorded moments) pool url := by
  obtain ⟨next, source, accounts⟩ := accounts_of_run run created url
  obtain rfl := Source.failover.inj (source.symm.trans left)
  have readmissions := accounts.readmissions
  have canaries := accounts.canaries
  have probation := ite_mem_le_count url next.probation
  have excluded := ite_mem_le_count url next.excludedUrls
  change _ ≤ _ + 0 at readmissions canaries
  constructor
  · rw [counter_eq _ Metric.noConfusion, counter_eq _ Metric.noConfusion]
    omega
  · rw [counter_eq _ Metric.noConfusion, counter_eq _ Metric.noConfusion]
    omega
  · rw [counter_eq _ Metric.noConfusion, counter_eq _ Metric.noConfusion, moves_selections]
    exact canaries_of_run run created url
  · exact resets_of_run run created rfl configured

theorem active_of_run (run : Run Call.perform start before middle)
    (created : start.source = .failover (Pool.ofBaseline baseline))
    (reset : ∀ last ∈ before.getLast?, .poolReset ∈ last.step.events) :
    ∃ found, middle.source = .failover found ∧ found.active = found.baseline ∧
      found.baseline = baseline := by
  obtain ⟨found, source⟩ := exists_pool_of_run run created
  refine ⟨found, source, ?_, baseline_of_run run created source⟩
  rcases List.eq_nil_or_concat before with rfl | ⟨_, last, rfl⟩
  · obtain rfl : start = middle := run
    obtain rfl := Source.failover.inj (created.symm.trans source)
    rfl
  · obtain ⟨pool, tracked⟩ := tracked_of_mem run created last (by simp)
    rw [List.concat_eq_append] at run
    obtain rfl : last.left = middle := (Run.split_iff.mp run).2
    exact active_of_poolReset tracked (reset last (by simp)) source

theorem sum_selections_of_run (run : Run Call.perform start moments finish)
    (created : start.source = .failover (Pool.ofBaseline baseline)) {all : Finset Url}
    (covers : ∀ url ∈ baseline, url ∈ all) :
    ∑ url ∈ all, counter (recorded moments) (.selections url) =
      moments.countP (·.answer.url?.isSome) := by
  have answers := handedOut_of_run run created
  rw [sum_selections, answers, List.length_filterMap_eq_countP]
  intro url handed
  rw [answers] at handed
  obtain ⟨moment, member, answer⟩ := List.mem_filterMap.mp handed
  obtain ⟨earlier, later, rfl⟩ := List.append_of_mem member
  have initially : start.source.Sound := created ▸ Pool.Sound.ofBaseline baseline
  obtain ⟨sound, same⟩ := source_of_run (Run.split_iff.mp run).1 initially
  have selected := mem_baseline_of_url? sound answer
  rw [same, created] at selected
  exact covers url selected

/-- No counter shows more than was paid for. A readmission is paid for by a
canary, a canary by an exclusion and by a selection, and a reset by an exclusion
of every configured URL since the reset before it. The selections of all URLs
make up the calls that answered one. -/
theorem counters_conserved {algorithm : Option Algorithm} {urls : List Url}
    {weights : Option (List UInt32)} {failover : Bool}
    (tracked : (create algorithm urls weights failover).hasFailover = true)
    (run : Run Call.perform (create algorithm urls weights failover) moments finish) :
    ∃ pool, finish.source = .failover pool ∧
      (∀ url ∈ pool.configured, Conserved (recorded moments) pool url ∧
        ∀ before stretch after, moments = before ++ stretch ++ after →
          (∀ last ∈ before.getLast?, .poolReset ∈ last.step.events) →
          counter (recorded stretch) .poolResets ≤ counter (recorded stretch) (.exclusions url)) ∧
      ∀ all : Finset Url, (∀ url ∈ pool.configured, url ∈ all) →
        ∑ url ∈ all, counter (recorded moments) (.selections url) =
          moments.countP (·.answer.url?.isSome) := by
  obtain ⟨baseline, created⟩ := source_create tracked
  obtain ⟨pool, source⟩ := exists_pool_of_run run created
  have kept : ∀ url, url ∈ pool.configured ↔ url ∈ baseline := by
    intro url
    rw [Pool.mem_configured, baseline_of_run run created source]
  refine ⟨pool, source, fun url configured => ⟨?_, ?_⟩, fun all covers => ?_⟩
  · exact conserved_of_run run created source ((kept url).mp configured)
  · rintro before stretch after rfl reset
    rw [List.append_assoc] at run
    obtain ⟨middle, first, rest⟩ := Run.append_iff.mp run
    obtain ⟨_, second, _⟩ := Run.append_iff.mp rest
    obtain ⟨found, tracked, active, same⟩ := active_of_run first created reset
    exact resets_of_run second tracked active (same ▸ (kept url).mp configured)
  · exact sum_selections_of_run run created fun url member => covers url ((kept url).mpr member)

theorem counters_conserved_reset :
    let balancer := create (some .roundRobin) ["a", "b"] none true
    let failure : Moment Call.perform := ⟨balancer, .fail "a" 5, .standing 0⟩
    let other : Moment Call.perform := ⟨failure.left, .select none, .standing 6⟩
    let canary : Moment Call.perform := ⟨other.left, .select none, .standing 6⟩
    let success : Moment Call.perform := ⟨canary.left, .confirm "a", .standing 6⟩
    let again : Moment Call.perform := ⟨success.left, .fail "a" 5, .standing 7⟩
    let last : Moment Call.perform := ⟨again.left, .fail "b" 5, .standing 7⟩
    let moments := [failure, other, canary, success, again, last]
    Run Call.perform balancer moments last.left ∧
      counter (recorded moments) .poolResets = 1 ∧
      counter (recorded moments) (.exclusions "a") = 2 ∧
      Conserved (recorded moments) (Pool.ofBaseline ["a", "b"]) "a" ∧
      ∑ url ∈ {"a", "b"}, counter (recorded moments) (.selections url) = 2 := by
  intro balancer failure other canary success again last moments
  have run : Run Call.perform balancer moments last.left := by
    refine ⟨?_, ?_, ?_, ?_, ?_, ?_, rfl⟩ <;> with_reducible rfl
  obtain ⟨pool, source, conserved, sum⟩ := counters_conserved rfl run
  have reset : last.left.source = .failover (Pool.ofBaseline ["a", "b"]) := by decide +kernel
  obtain rfl := Source.failover.inj (reset.symm.trans source)
  refine ⟨run, by decide +kernel, by decide +kernel, (conserved "a" (by decide)).1, ?_⟩
  rw [sum {"a", "b"} (by decide)]
  decide +kernel

end Creation

end Balancer

end Balance
