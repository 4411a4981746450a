import Balance.Proofs.Client.Calls
import Balance.Proofs.Weight

/-!
When a client answers the caller's default URL. It does so where there is
nothing to balance: balancing is switched off, no URL is configured, or every
URL is weighted with zero. In every other case a selection answers a configured
URL, one of positive weight where weights apply, and the default has no part in
it. No history of failures changes this, nor do the clock or the random numbers.
-/

namespace Balance

theorem Algorithm.isWeighted_iff {algorithm : Option Algorithm} :
    (algorithm.getD .roundRobin).isWeighted = true ↔
      algorithm = some .weightedRandom ∨ algorithm = some .weightedRoundRobin := by
  rcases algorithm with _ | (_ | _ | _ | _ | _) <;> simp [isWeighted]

namespace BalancingConfig

variable (config : BalancingConfig)

def weight (place : Nat) : Nat := Weight.effective (config.weights.getD []) place

/-- Weights apply to a weighted algorithm with something to choose between. -/
def Weighs : Prop :=
  (config.algorithm = some .weightedRandom ∨ config.algorithm = some .weightedRoundRobin) ∧
    2 ≤ Weight.distinctCount config.urls

def Idle : Prop :=
  config.active = false ∨ config.urls = [] ∨
    config.Weighs ∧ ∀ place < config.urls.length, config.weight place = 0

end BalancingConfig

namespace Client

variable {config : BalancingConfig} {first : Balancer} {url : Url}

theorem mem_baseline_iff (on : balancerFor config = some first) :
    url ∈ first.source.baseline ↔
      ∃ place, config.urls[place]? = some url ∧ (config.Weighs → 0 < config.weight place) := by
  obtain ⟨_, _, rfl⟩ := balancerFor_eq_some on
  rw [Balancer.baseline_create, Weight.expand]
  simp only [Algorithm.isWeighted_iff]
  by_cases weighs : config.Weighs
  · rw [if_pos weighs.symm, Weight.mem_expandWith]
    simp [weighs, BalancingConfig.weight]
  · rw [if_neg (mt And.symm weighs), Option.getD_none, Weight.expandWith_nil]
    simp [weighs, List.mem_iff_getElem?]

theorem baseline_eq_nil_iff (on : balancerFor config = some first) :
    first.source.baseline = [] ↔ config.Idle := by
  obtain ⟨active, urls, _⟩ := balancerFor_eq_some on
  rw [List.eq_nil_iff_forall_not_mem]
  simp only [mem_baseline_iff on, BalancingConfig.Idle, active, urls, false_or, Bool.true_eq_false]
  constructor
  · intro none
    have weighs : config.Weighs := by
      by_contra unweighed
      obtain ⟨head, tail, cons⟩ := List.exists_cons_of_ne_nil urls
      exact none head ⟨0, by simp [cons], fun weighs => absurd weighs unweighed⟩
    refine ⟨weighs, fun place below => ?_⟩
    by_contra positive
    exact none _ ⟨place, List.getElem?_eq_getElem below, fun _ => Nat.pos_of_ne_zero positive⟩
  · rintro ⟨weighs, zero⟩ url ⟨place, located, positive⟩
    obtain ⟨below, _⟩ := List.getElem?_eq_some_iff.mp located
    exact absurd (positive weighs) (by simp [zero place below])

/-- A selection answers the default, whatever the default is. -/
def FallsBack (client : Client) (id : Option String) (ambient : Ambient) : Prop :=
  ∀ default, (Client.url default id client ambient).answer = default

def Serves (client : Client) (id : Option String) (ambient : Ambient) (url : Url) : Prop :=
  ∀ default, (Client.url default id client ambient).answer = url

variable {client : Client} {id : Option String} {ambient : Ambient}

theorem Serves.not_fallsBack (serves : client.Serves id ambient url) :
    ¬ client.FallsBack id ambient := by
  intro fallsBack
  have empty : url = "" := (serves "").symm.trans (fallsBack "")
  have other : url = "other" := (serves "other").symm.trans (fallsBack "other")
  exact absurd (empty.symm.trans other) (by decide)

section Runs

variable {moments : List (Moment Call.perform)}

/-- After any run of calls, a selection falls back if and only if nothing can be
selected from the configuration; else it serves a configured URL, of positive
weight where weights apply. -/
theorem fallsBack_iff (run : Run Call.perform { config } moments client) (id : Option String)
    (ambient : Ambient) :
    (client.FallsBack id ambient ↔ config.Idle) ∧
      (¬ config.Idle → ∃ place url, config.urls[place]? = some url ∧
        (config.Weighs → 0 < config.weight place) ∧ client.Serves id ambient url) := by
  cases on : balancerFor config with
  | none =>
    have behind := balancer?_of_run_none run on
    have idle : config.Idle := by
      have off := balancerFor_eq_none_iff.mp on
      unfold BalancingConfig.Idle
      tauto
    exact ⟨iff_of_true (fun default => (url_none ambient default id behind).1) idle,
      fun busy => absurd idle busy⟩
  | some first =>
    obtain ⟨balancer, behind, sound, same⟩ := source_of_run run on
    have answer (default : Url) := (url_some ambient default id behind).1
    obtain ⟨nothing, something⟩ := Balancer.select_answer ambient id sound
    rw [same] at nothing something
    by_cases idle : config.Idle
    · have none := nothing ((baseline_eq_nil_iff on).mpr idle)
      refine ⟨iff_of_true (fun default => ?_) idle, fun busy => absurd idle busy⟩
      rw [answer, none]
      rfl
    · obtain ⟨url, member, selected⟩ := something (mt (baseline_eq_nil_iff on).mp idle)
      obtain ⟨place, located, positive⟩ := (mem_baseline_iff on).mp member
      have serves : client.Serves id ambient url := by
        intro default
        rw [answer, selected]
        rfl
      exact ⟨iff_of_false serves.not_fallsBack idle,
        fun _ => ⟨place, url, located, positive, serves⟩⟩

theorem fallsBack_iff_single_weight :
    let config : BalancingConfig :=
      { active := true, urls := ["a", "b"], weights := some [0, 2],
        algorithm := some .weightedRandom, failover := some { active := true } }
    let failure : Moment Call.perform := ⟨{ config }, .fail "b/x" (.status 503), .standing 5⟩
    let ambient : Ambient := ⟨⟨9, [4, 1]⟩, ⟨fun _ => 7, 0⟩⟩
    Run Call.perform { config } [failure] failure.left ∧
      ¬ failure.left.FallsBack none ambient ∧ failure.left.Serves none ambient "b" := by
  intro config failure ambient
  have run : Run Call.perform { config } [failure] failure.left := ⟨rfl, rfl⟩
  have busy : ¬ config.Idle := by
    rintro (off | empty | ⟨_, zero⟩)
    · exact absurd off (by decide)
    · exact absurd empty (by decide)
    · exact absurd (zero 1 (by decide)) (by decide)
  have weighs : config.Weighs := ⟨.inl rfl, by decide⟩
  obtain ⟨fallsBack, serves⟩ := fallsBack_iff run none ambient
  obtain ⟨place, url, located, positive, serves⟩ := serves busy
  refine ⟨run, mt fallsBack.mp busy, ?_⟩
  have heavy := positive weighs
  match place with
  | 0 => exact absurd heavy (by decide)
  | 1 =>
    obtain rfl : "b" = url := Option.some.inj located
    exact serves
  | place + 2 => cases located

end Runs

end Client

end Balance
