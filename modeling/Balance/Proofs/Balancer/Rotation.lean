import Balance.Proofs.Balancer.Events
import Balance.Proofs.Balancer.SinglePick

/-!
Where a selection goes. While the readings of the clock never go back, a
candidate that was offered can be taken, so that a selection is a single pick.
Round robin answers the candidate in the slot of its counter, and the counter
goes up by one. What a report does to the candidates between two selections
decides whether the next slot holds another URL.
-/

namespace Balance

/-- The readings of the clock never go back. -/
def Clock.Forward (clock : Clock) : Prop := clock.shows.Pairwise (· ≤ ·)

def Ambient.spent (ambient : Ambient) : Ambient :=
  { ambient with clock := ambient.clock.read.2 }

section Clocks

variable {clock : Clock} {ambient : Ambient}

theorem Clock.Forward.le_of_read (forward : clock.Forward) :
    clock.read.1 ≤ clock.read.2.read.1 := by
  have later := clock.read.2.read_mem_shows
  obtain ⟨now, _ | ⟨reading, rest⟩⟩ := clock
  · exact Nat.le_refl now
  · exact (List.pairwise_cons.mp forward).1 _ later

theorem Clock.Forward.read (forward : clock.Forward) : clock.read.2.Forward := by
  obtain ⟨now, _ | ⟨reading, rest⟩⟩ := clock
  · exact forward
  · exact (List.pairwise_cons.mp forward).2

theorem Clock.Forward.of_leadsTo {later : Clock} (forward : clock.Forward)
    (leads : clock.LeadsTo later) : later.Forward :=
  leads.keeps Clock.Forward.read forward

theorem Clock.Forward.advance (forward : clock.Forward) (length : Duration) :
    (clock.advance length).Forward := by
  unfold Clock.Forward Clock.shows at forward ⊢
  rw [List.pairwise_append] at forward ⊢
  refine ⟨forward.1, List.pairwise_singleton .., fun reading announced now shown => ?_⟩
  obtain rfl := List.mem_singleton.mp shown
  exact Nat.le_trans (forward.2.2 reading announced clock.now (by simp)) (Nat.le_add_right ..)

end Clocks

namespace Pool

variable {pool : Pool} {ambient : Ambient} {url : Url}

theorem candidates_ambient (sound : pool.Sound) :
    (candidates pool ambient).ambient = if pool.isClean then ambient else ambient.spent := by
  cases clean : pool.isClean <;>
    simp [candidates, candidatesGuarded, Operation.bind_apply, sound.degraded_eq, clean,
      Ambient.spent]

theorem settle_ambient (next : Pool) : (settle next pool ambient).ambient = ambient := by
  by_cases empty : next.active.isEmpty = true <;>
    simp [settle, publish, Operation.bind_apply, empty]

theorem fail_ambient (called : Url) (timeout : Duration) :
    (fail called timeout pool ambient).ambient =
      if (pool.resolve called).isSome then ambient.spent else ambient := by
  cases resolved : pool.resolve called <;>
    simp [fail, Operation.bind_apply, resolved, settle_ambient, Ambient.spent]

theorem confirm_ambient (called : Url) : (confirm called pool ambient).ambient = ambient := by
  by_cases flag : pool.degraded = true
  · cases resolved : pool.resolve called with
    | none => simp [confirm, confirmGuarded, Operation.bind_apply, flag, resolved]
    | some url =>
      by_cases held : url ∈ pool.probation <;>
        simp [confirm, confirmGuarded, Operation.bind_apply, flag, resolved, held, publish]
  · simp [confirm, Operation.bind_apply, flag]

theorem fail_forward (forward : ambient.clock.Forward) (called : Url) (timeout : Duration) :
    (fail called timeout pool ambient).ambient.clock.Forward := by
  rw [fail_ambient]
  split
  · exact forward.read
  · exact forward

theorem take_candidate (sound : pool.Sound) (forward : ambient.clock.Forward)
    (offered : url ∈ (candidates pool ambient).answer) {later : Ambient}
    (behind : later.clock = (candidates pool ambient).ambient.clock) :
    (take url pool later).answer ≠ .withheld := by
  rw [candidates_answer sound, mem_offered sound.toPartitioned] at offered
  have order : ambient.reading ≤ later.reading := by
    rw [Ambient.reading, Ambient.reading, behind, candidates_ambient sound]
    split
    · exact Nat.le_refl _
    · exact forward.le_of_read
  rw [take_answer sound]
  exact Statuses.take_mono order offered.2

end Pool

namespace Source

variable {source : Source} {ambient : Ambient} {url : Url}

theorem honours_of_forward (sound : source.Sound) (forward : ambient.clock.Forward) :
    source.Honours ambient := by
  intro url offered later behind
  cases source with
  | fixed urls => simp [(take_fixed urls url later).1]
  | failover pool =>
    rw [candidates_failover] at offered
    rw [take_failover]
    refine Pool.take_candidate sound forward offered (behind.trans ?_)
    simp [candidates, Operation.bind_apply]

end Source

namespace Balancer

variable {balancer : Balancer} {pool : Pool} {ambient : Ambient} {counter : UInt64}

theorem select_of_picksBy (sound : balancer.source.Sound)
    (configured : balancer.source.baseline ≠ []) (forward : ambient.clock.Forward)
    {client : Option String} {slot : Nat → Nat} {next : Option Strategy}
    (picks : balancer.PicksBy client slot next) :
    ∃ url, (candidates balancer ambient).answer[slot (candidates balancer ambient).answer.length]? =
        some url ∧
      (select client balancer ambient).answer = .ok url ∧
      (select client balancer ambient).state.strategy = next ∧
      (select client balancer ambient).ambient.clock.Forward := by
  obtain ⟨head, tail, cons, _⟩ := Source.candidates_eq_cons sound configured ambient
  have offers : (candidates balancer ambient).answer ≠ [] := by simp [candidates_answer, cons]
  obtain ⟨url, slot, answer, state⟩ :=
    select_of_honours (Source.honours_of_forward sound forward) offers picks
  exact ⟨url, slot, answer, congrArg strategy state,
    forward.of_leadsTo (chooses_select client balancer ambient).leads⟩

theorem choose_roundRobin (robin : balancer.strategy = some (.roundRobin counter))
    (client : Option String) {urls : List Url} (some_url : urls ≠ []) :
    choose urls client balancer ambient =
      ⟨urls[counter.toNat % urls.length]?,
        { balancer with strategy := some (.roundRobin (counter + 1)) }, ambient, []⟩ := by
  simp [choose, pickSlot, Strategy.pick, Operation.bind_apply, robin, some_url]

theorem picksBy_roundRobin (robin : balancer.strategy = some (.roundRobin counter))
    (client : Option String) :
    balancer.PicksBy client (counter.toNat % ·) (some (.roundRobin (counter + 1))) :=
  fun _ _ some_url => ⟨Nat.mod_lt _ (List.length_pos_of_ne_nil some_url),
    choose_roundRobin robin client some_url⟩

theorem select_roundRobin (tracked : balancer.source = .failover pool) (sound : pool.Sound)
    (configured : pool.baseline ≠ []) (robin : balancer.strategy = some (.roundRobin counter))
    (forward : ambient.clock.Forward) (client : Option String) :
    ∃ url, (pool.offered ambient.reading)[counter.toNat % (pool.offered ambient.reading).length]? =
        some url ∧
      (select client balancer ambient).answer = .ok url ∧
      (select client balancer ambient).state.strategy = some (.roundRobin (counter + 1)) ∧
      (select client balancer ambient).ambient.clock.Forward := by
  have selects := select_of_picksBy (by rwa [tracked]) (by rwa [tracked]) forward
    (picksBy_roundRobin robin client)
  rwa [candidates_failover ambient tracked, Pool.candidates_answer sound] at selects

def IsRoundRobin (balancer : Balancer) : Prop :=
  ∃ counter, balancer.strategy = some (.roundRobin counter)

theorem onSource_strategy {α : Type} (operation : Operation Source α) (balancer : Balancer)
    (ambient : Ambient) :
    (onSource operation balancer ambient).state.strategy = balancer.strategy := by
  rw [onSource_apply]

theorem fail_strategy (called : Url) (timeout : Duration) (ambient : Ambient) :
    (fail called timeout balancer ambient).state.strategy = balancer.strategy := by
  cases tracks : balancer.hasFailover <;>
    simp [fail, Operation.bind_apply, tracks, onSource_strategy]

theorem confirm_strategy (called : Url) (ambient : Ambient) :
    (confirm called balancer ambient).state.strategy = balancer.strategy := by
  cases tracks : balancer.hasFailover <;>
    simp [confirm, Operation.bind_apply, tracks, onSource_strategy]

section Kept

open Operation (Composes Keeps Obeys)

theorem keeps_perform {P : Option Strategy → Prop}
    (picks : ∀ urls client, Keeps (fun balancer => P balancer.strategy) (choose urls client))
    (call : Call) : Keeps (fun balancer => P balancer.strategy) call.perform := by
  have kept {α : Type} (operation : Operation Source α) :
      Keeps (fun balancer => P balancer.strategy) (onSource operation) := by
    intro balancer ambient holds
    rwa [onSource_strategy]
  have selects (client : Option String) :
      Selects (fun found _ left => P found.strategy → P left.strategy) client :=
    ⟨.keeps fun balancer : Balancer => P balancer.strategy, fun urls => picks urls client, fun _ => kept _,
      kept _, fun _ _ => id⟩
  intro balancer ambient holds
  cases call <;> rw [Call.perform, Operation.map_apply]
  case select client => exact (selects client).select (fun _ _ => id) balancer ambient holds
  case fail called timeout => rwa [fail_strategy]
  case confirm called => rwa [confirm_strategy]
  case candidates => exact kept _ balancer ambient holds
  case snapshot => exact kept _ balancer ambient holds

theorem strategy_of_run {P : Option Strategy → Prop}
    (picks : ∀ urls client, Keeps (fun balancer => P balancer.strategy) (choose urls client))
    {start finish : Balancer} {moments : List (Moment Call.perform)}
    (run : Run Call.perform start moments finish) (holds : P start.strategy) : P finish.strategy :=
  run.keeps (P := fun balancer : Balancer => P balancer.strategy)
    (fun moment _ => keeps_perform picks moment.call moment.found moment.ambient) holds

end Kept

theorem isRoundRobin_of_run {start finish : Balancer} {moments : List (Moment Call.perform)}
    (run : Run Call.perform start moments finish) (robin : start.IsRoundRobin) :
    finish.IsRoundRobin := by
  refine strategy_of_run (P := fun strategy => ∃ counter, strategy = some (.roundRobin counter))
    ?_ run robin
  rintro urls client balancer ambient ⟨counter, strategy⟩
  by_cases empty : urls = []
  · exact ⟨counter, by simp [choose, pickSlot, Strategy.pick, Operation.bind_apply, strategy, empty]⟩
  · exact ⟨counter + 1, by rw [choose_roundRobin strategy client empty]⟩

theorem strategy_create_of_tracked {algorithm : Option Algorithm} {urls : List Url}
    {weights : Option (List UInt32)} {failover : Bool}
    (tracked : (create algorithm urls weights failover).hasFailover = true) :
    (create algorithm urls weights failover).strategy =
      some (.ofAlgorithm (algorithm.getD .roundRobin)) := by
  refine strategy_create _ _ _ (Nat.le_of_not_lt fun few => ?_)
  simp [create, few, hasFailover, Source.isFailover, Source.build, Source.pool?] at tracked

end Balancer

end Balance
