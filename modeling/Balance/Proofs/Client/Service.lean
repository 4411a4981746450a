import Balance.Proofs.Client.Availability
import Balance.Proofs.Config.Validation

/-!
An accepted configuration is served as it is written. Validation and
construction check the same things apart from each other: validation looks for
repeated URLs and for weights out of bounds, construction counts distinct URLs
and caps weights. For an accepted configuration the two agree, so that no URL
is left out, no weight is cut, and failures are tracked just when that is
configured. A single URL is served without an algorithm.
-/

namespace Balance

namespace BalancingConfig

/-- The URLs in their order, each as often as its weight says. -/
def repeated (config : BalancingConfig) : List Url :=
  config.urls.zipIdx.flatMap fun (url, place) => List.replicate (config.weight place) url

variable {config : BalancingConfig}

theorem weight_bounds (bounds : ∀ weight ∈ config.weights.getD [],
      0 < weight.toNat ∧ weight.toNat ≤ Weight.maxWeight.toNat) (place : Nat) :
    0 < config.weight place ∧ config.weight place ≤ Weight.maxWeight.toNat := by
  unfold weight Weight.effective
  cases given : (config.weights.getD [])[place]? with
  | none =>
    rw [List.getD_eq_getElem?_getD, given]
    decide
  | some weight =>
    rw [List.getD_eq_getElem?_getD, given]
    exact bounds weight (List.mem_of_getElem? given)

theorem expand_eq_repeated (bounds : ∀ weight ∈ config.weights.getD [],
      0 < weight.toNat ∧ weight.toNat ≤ Weight.maxWeight.toNat) :
    Weight.expand config.urls config.weights = config.repeated := by
  have uncapped (place : Nat) :
      min (Weight.effective (config.weights.getD []) place) Weight.maxWeight.toNat =
        config.weight place := Nat.min_eq_left (weight_bounds bounds place).2
  simp only [Weight.expand, Weight.expandWith_eq_flatMap, uncapped, repeated]

end BalancingConfig

namespace Client

variable {fault : String → Option String} {config : Config}

theorem init_ready {balancing : BalancingConfig} {balancer : Balancer}
    (on : balancerFor balancing = some balancer) (ambient : Ambient) :
    (init { config := balancing } ambient).state.stage = .ready balancer := by
  have behind : ({ config := balancing } : Client).balancer? = some balancer := on
  rw [init_state, behind]
  rfl

theorem balancerFor_of_accepted (accepted : Validation.problems fault config = [])
    (active : config.balancing.active = true) :
    balancerFor config.balancing = some (.create config.balancing.algorithm config.balancing.urls
      config.balancing.weights (config.balancing.failover.any (·.active))) := by
  have configured := Validation.urls_ne_nil_of_accepted accepted active
  simp [balancerFor, active, configured, BalancingConfig.isFailover]

section Served

variable {client : Client} {moments : List (Moment Call.perform)}
variable (accepted : Validation.problems fault config = [])
include accepted

theorem mem_baseline_of_accepted {first : Balancer} {url : Url}
    (on : balancerFor config.balancing = some first) :
    url ∈ first.source.baseline ↔ url ∈ config.balancing.urls := by
  have bounds := Validation.weights_of_accepted accepted
  rw [mem_baseline_iff on, List.mem_iff_getElem?]
  exact exists_congr fun place =>
    and_iff_left fun _ => (BalancingConfig.weight_bounds bounds place).1

theorem configured_of_accepted
    (run : Run Call.perform { config := config.balancing } moments client)
    {pool : Pool} (tracked : client.pool? = some pool) :
    config.balancing.active = true ∧ ∀ url, url ∈ pool.baseline ↔ url ∈ config.balancing.urls := by
  obtain ⟨balancer, behind, source⟩ := balancer_of_pool? tracked
  cases on : balancerFor config.balancing with
  | none => simp [balancer?_of_run_none run on] at behind
  | some first =>
    obtain ⟨other, same, _, kept⟩ := source_of_run run on
    obtain rfl := Option.some.inj (behind.symm.trans same)
    refine ⟨(balancerFor_eq_some on).1, fun url => ?_⟩
    rw [← mem_baseline_of_accepted accepted on, ← kept, source]
    rfl

theorem url_of_accepted (run : Run Call.perform { config := config.balancing } moments client)
    (default : Url) (id : Option String) (ambient : Ambient) :
    let answer := (Client.url default id client ambient).answer
    if config.balancing.active = true then answer ∈ config.balancing.urls
    else answer = default := by
  intro answer
  split
  · next active =>
    obtain ⟨first, on⟩ : ∃ first, balancerFor config.balancing = some first :=
      ⟨_, balancerFor_of_accepted accepted active⟩
    have member (url : Url) : url ∈ first.source.baseline ↔ url ∈ config.balancing.urls :=
      mem_baseline_of_accepted accepted on
    obtain ⟨balancer, behind, sound, same⟩ := source_of_run run on
    rw [← same] at member
    have some_url : balancer.source.baseline ≠ [] := by
      obtain ⟨head, tail, cons⟩ :=
        List.exists_cons_of_ne_nil (Validation.urls_ne_nil_of_accepted accepted active)
      exact List.ne_nil_of_mem ((member head).mpr (by simp [cons]))
    exact (member _).mp (url_mem_baseline ambient default id behind sound some_url)
  · next inactive =>
    have off := balancerFor_eq_none_iff.mpr (.inl (Bool.eq_false_iff.mpr inactive))
    exact (url_none ambient default id (balancer?_of_run_none run off)).1

end Served

theorem serves_of_single {balancing : BalancingConfig} {url : Url} (single : balancing.urls = [url])
    {first : Balancer} (on : balancerFor balancing = some first)
    {moments : List (Moment Call.perform)} {client : Client}
    (run : Run Call.perform { config := balancing } moments client) (id : Option String)
    (ambient : Ambient) : client.Serves id ambient url := by
  intro default
  obtain ⟨balancer, behind, sound, baseline⟩ := source_of_run run on
  obtain ⟨_, _, rfl⟩ := balancerFor_eq_some on
  have unweighed : ¬ 2 ≤ Weight.distinctCount balancing.urls := by
    rw [single]
    exact Nat.not_succ_le_self 1
  rw [Balancer.baseline_create, if_neg (mt And.left unweighed), Weight.expand_none, single] at baseline
  have some_url : balancer.source.baseline ≠ [] := by simp [baseline]
  have member := url_mem_baseline ambient default id behind sound some_url
  simpa [baseline] using member

/-- Of an accepted configuration that is active: with two URLs or more, failures
are tracked just when that is configured, the algorithm is the configured one and
picks by its own strategy, and the first candidates are the configured URLs in
their order, each as often as its weight says where the algorithm is weighted,
which is at least once. A single URL is served by every selection, without an
algorithm, and no failure is tracked. -/
theorem served_of_accepted (accepted : Validation.problems fault config = [])
    (active : config.balancing.active = true) :
    let balancing := config.balancing
    let algorithm := balancing.algorithm.getD .roundRobin
    (2 ≤ balancing.urls.length → ∃ balancer,
      (∀ ambient, (init { config := balancing } ambient).state.stage = .ready balancer) ∧
        balancer.hasFailover = balancing.failover.any (·.active) ∧
        balancer.algorithm = some algorithm ∧
        (algorithm = .roundRobin ∨ algorithm = .weightedRoundRobin →
          balancer.strategy = some (.roundRobin 0)) ∧
        (algorithm = .random ∨ algorithm = .weightedRandom → balancer.strategy = some .random) ∧
        (algorithm = .ipHash → balancer.strategy = some .clientHash) ∧
        (∀ ambient, (Balancer.candidates balancer ambient).answer =
          if balancing.algorithm = some .weightedRandom ∨
              balancing.algorithm = some .weightedRoundRobin then balancing.repeated
          else balancing.urls) ∧
        ∀ place, 0 < balancing.weight place) ∧
      ∀ url, balancing.urls = [url] →
        (∃ balancer, (∀ ambient,
            (init { config := balancing } ambient).state.stage = .ready balancer) ∧
          balancer.hasFailover = false ∧ balancer.algorithm = none ∧ balancer.strategy = none) ∧
        ∀ moments client, Run Call.perform { config := balancing } moments client →
          ∀ id ambient, client.Serves id ambient url := by
  intro balancing algorithm
  have on := balancerFor_of_accepted accepted active
  have ready := init_ready on
  have bounds := Validation.weights_of_accepted accepted
  have count := Validation.distinctCount_of_accepted accepted
  constructor
  · intro several
    rw [← count] at several
    have many : ¬ Weight.distinctCount balancing.urls < 2 := Nat.not_lt.mpr several
    have strategy := Balancer.strategy_create balancing.algorithm balancing.weights
      (balancing.failover.any (·.active)) several
    have installed {named : Algorithm} (same : algorithm = named) :=
      strategy.trans (congrArg (some <| Strategy.ofAlgorithm ·) same)
    refine ⟨_, ready, Balancer.hasFailover_create _ _ _ _ several, ?_, ?_, ?_, ?_,
      fun ambient => ?_, fun place => (BalancingConfig.weight_bounds bounds place).1⟩
    · simp [Balancer.create, balancing, algorithm, many]
    · exact fun walks => walks.elim installed installed
    · exact fun draws => draws.elim installed installed
    · exact installed
    · rw [Balancer.candidates_answer, Source.candidates_of_clean (Balancer.sound_create ..)
        (Balancer.clean_create _ _ _ _), Balancer.baseline_create]
      simp only [Algorithm.isWeighted_iff]
      by_cases weighted : balancing.algorithm = some .weightedRandom ∨
          balancing.algorithm = some .weightedRoundRobin
      · rw [if_pos weighted, if_pos ⟨several, weighted⟩]
        exact BalancingConfig.expand_eq_repeated bounds
      · rw [if_neg weighted, if_neg (mt And.right weighted), Weight.expand_none]
  · intro url single
    have few : Weight.distinctCount balancing.urls < 2 := by
      rw [count, single]
      exact Nat.one_lt_two
    refine ⟨⟨_, ready, ?_, ?_, ?_⟩, fun moments client run => serves_of_single single on run⟩
    · simp [Balancer.create, balancing, few, Balancer.hasFailover, Source.isFailover,
        Source.build, Source.pool?]
    · simp [Balancer.create, balancing, few]
    · simp [Balancer.create, balancing, few]

theorem served_of_accepted_weighted :
    let config : Config := { balancing :=
      { active := true, urls := ["http://a", "http://b"], weights := some [3],
        algorithm := some .weightedRandom, failover := some { active := true } } }
    Validation.problems (fun _ => none) config = [] ∧ config.balancing.active = true ∧
      ∃ balancer, (init { config := config.balancing } (.standing 0)).state.stage =
          .ready balancer ∧
        balancer.hasFailover = true ∧ balancer.algorithm = some .weightedRandom ∧
        balancer.strategy = some .random ∧
        (Balancer.candidates balancer (.standing 0)).answer =
          ["http://a", "http://a", "http://a", "http://b"] := by
  intro config
  have accepted : Validation.problems (fun _ => none) config = [] := by decide
  obtain ⟨several, _⟩ := served_of_accepted accepted rfl
  obtain ⟨balancer, ready, tracks, algorithm, _, random, _, candidates, _⟩ := several (by decide)
  exact ⟨accepted, rfl, balancer, ready _, tracks, algorithm, random (.inr rfl), candidates _⟩

end Client

end Balance
