import Balance.Client
import Balance.Proofs.Balancer.Availability

/-!
The calls that a client answers. A client is looked at through the balancer
behind it, which is the one of its configuration until it has been built.
Building it is no change of this view, and every call is at most one call on
the balancer. So a run of calls on a client is a run of calls on its balancer.
-/

namespace Balance.Client

/-- The balancer behind a client, whether it has been built or not. -/
def balancer? (client : Client) : Option Balancer :=
  match client.stage with
  | .pending => balancerFor client.config
  | .off => none
  | .ready balancer => some balancer

def pool? (client : Client) : Option Pool := client.balancer?.bind (·.source.pool?)

def tracks (client : Client) : Bool := client.balancer?.any (·.hasFailover)

inductive Call
  | url (default : Url) (client : Option String)
  | fail (called : Url) (error : CallError)
  | confirm (called : Url)
  | init
  | hasFailover
  | algorithm
  | snapshot
deriving Repr, DecidableEq

inductive Answer
  | url (url : Url)
  | failed (result : Except BalancerError (Option Url))
  | confirmed (ended : Bool)
  | built
  | tracks (failover : Bool)
  | picks (algorithm : Option Algorithm)
  | shown (snapshot : Option Snapshot)
deriving Repr, DecidableEq

namespace Call

def perform : Call → Operation Client Answer
  | url default client => .url <$> Client.url default client
  | fail called error => .failed <$> Client.fail called error
  | confirm called => .confirmed <$> Client.confirm called
  | init => (fun _ => .built) <$> Client.init
  | hasFailover => .tracks <$> Client.hasFailover
  | algorithm => .picks <$> Client.algorithm
  | snapshot => .shown <$> Client.snapshot

def inner? (config : BalancingConfig) : Call → Option Balancer.Call
  | url _ client => some (.select client)
  | fail called _ => config.failover.map fun policy => .fail called policy.timeout
  | confirm called => some (.confirm called)
  | snapshot => some .snapshot
  | init | hasFailover | algorithm => none

end Call

variable {config : BalancingConfig} {first : Balancer}

theorem balancerFor_eq_none_iff :
    balancerFor config = none ↔ config.active = false ∨ config.urls = [] := by
  unfold balancerFor
  cases config.active <;> simp

theorem balancerFor_eq_some (on : balancerFor config = some first) :
    config.active = true ∧ config.urls ≠ [] ∧
      first = .create config.algorithm config.urls config.weights config.isFailover := by
  have configured : ¬ (config.active = false ∨ config.urls = []) := by
    rw [← balancerFor_eq_none_iff, on]
    exact Option.some_ne_none first
  simp only [not_or, Bool.not_eq_false] at configured
  refine ⟨configured.1, configured.2, ?_⟩
  simpa [balancerFor, configured.1, configured.2] using on.symm

theorem init_state (client : Client) (ambient : Ambient) :
    (init client ambient).state = ⟨client.config, client.balancer?.elim .off .ready⟩ := by
  obtain ⟨config, stage⟩ := client
  cases stage with
  | pending => cases found : balancerFor config <;>
      simp [init, Operation.bind_apply, balancer?, stageFor, found]
  | off => simp [init, Operation.bind_apply, balancer?]
  | ready balancer => simp [init, Operation.bind_apply, balancer?]

theorem init_ambient (client : Client) (ambient : Ambient) :
    (init client ambient).ambient = ambient := by
  obtain ⟨config, stage⟩ := client
  cases stage <;> simp [init, Operation.bind_apply]

variable {client : Client} {balancer : Balancer} (ambient : Ambient)
variable {α : Type} (absent : α) (operation : Operation Balancer α)

theorem onBalancer_some (behind : client.balancer? = some balancer) :
    onBalancer absent operation client ambient =
      let done := operation balancer ambient
      ⟨done.answer, ⟨client.config, .ready done.state⟩, done.ambient,
        (init client ambient).events ++ done.events⟩ := by
  simp [onBalancer, Operation.bind_apply, init_state, init_ambient, behind]

theorem onBalancer_none (behind : client.balancer? = none) :
    onBalancer absent operation client ambient =
      ⟨absent, ⟨client.config, .off⟩, ambient, (init client ambient).events⟩ := by
  simp [onBalancer, Operation.bind_apply, init_state, init_ambient, behind]

section Operations

variable (default called : Url) (id : Option String) (error : CallError)

theorem url_none (behind : client.balancer? = none) :
    (url default id client ambient).answer = default ∧
      (url default id client ambient).state = ⟨client.config, .off⟩ ∧
      (url default id client ambient).ambient = ambient := by
  simp [url, Operation.bind_apply, onBalancer_none ambient _ _ behind]

theorem url_some (behind : client.balancer? = some balancer) :
    let done := Balancer.select id balancer ambient
    (url default id client ambient).answer = done.answer.toOption.getD default ∧
      (url default id client ambient).state = ⟨client.config, .ready done.state⟩ ∧
      (url default id client ambient).ambient = done.ambient := by
  cases answer : (Balancer.select id balancer ambient).answer <;>
    simp [url, Operation.bind_apply, onBalancer_some ambient _ _ behind, answer, Except.toOption]

theorem url_mem_baseline (behind : client.balancer? = some balancer)
    (sound : balancer.source.Sound) (configured : balancer.source.baseline ≠ []) :
    (url default id client ambient).answer ∈ balancer.source.baseline := by
  obtain ⟨served, listed, selected⟩ := (Balancer.select_answer ambient id sound).2 configured
  rw [(url_some ambient default id behind).1, selected]
  exact listed

theorem hasFailover_none (behind : client.balancer? = none) :
    (hasFailover client ambient).answer = false ∧
      (hasFailover client ambient).state = ⟨client.config, .off⟩ ∧
      (hasFailover client ambient).ambient = ambient := by
  simp [hasFailover, onBalancer_none ambient _ _ behind]

theorem hasFailover_some (behind : client.balancer? = some balancer) :
    (hasFailover client ambient).answer = balancer.hasFailover ∧
      (hasFailover client ambient).state = ⟨client.config, .ready balancer⟩ ∧
      (hasFailover client ambient).ambient = ambient := by
  simp [hasFailover, onBalancer_some ambient _ _ behind]

theorem fail_none (behind : client.balancer? = none) :
    (fail called error client ambient).answer = .error .failoverUnavailable ∧
      (fail called error client ambient).state = ⟨client.config, .off⟩ ∧
      (fail called error client ambient).ambient = ambient := by
  obtain ⟨untracked, state, spent⟩ := hasFailover_none ambient behind
  simp [fail, Operation.bind_apply, untracked, state, spent]

theorem fail_some (behind : client.balancer? = some balancer) :
    (balancer.hasFailover = false ∨ client.config.failover = none →
        (fail called error client ambient).answer = .error .failoverUnavailable ∧
          (fail called error client ambient).state = ⟨client.config, .ready balancer⟩ ∧
          (fail called error client ambient).ambient = ambient) ∧
      ∀ policy, balancer.hasFailover = true → client.config.failover = some policy →
        let done := Balancer.fail called policy.timeout balancer ambient
        (fail called error client ambient).answer = done.answer ∧
          (fail called error client ambient).state = ⟨client.config, .ready done.state⟩ ∧
          (fail called error client ambient).ambient = done.ambient := by
  obtain ⟨tracks, state, spent⟩ := hasFailover_some ambient behind
  have built : (⟨client.config, .ready balancer⟩ : Client).balancer? = some balancer := rfl
  constructor
  · rintro (untracked | unruled)
    · simp [fail, Operation.bind_apply, tracks, state, spent, untracked]
    · by_cases tracked : balancer.hasFailover = true <;>
        simp [fail, Operation.bind_apply, tracks, state, spent, tracked, policy?, unruled]
  · intro policy tracked ruled
    cases answer : (Balancer.fail called policy.timeout balancer ambient).answer <;>
      simp [fail, Operation.bind_apply, tracks, state, spent, tracked, policy?, ruled,
        onBalancer_some ambient _ _ built, answer]

theorem confirm_none (behind : client.balancer? = none) :
    (confirm called client ambient).answer = false ∧
      (confirm called client ambient).state = ⟨client.config, .off⟩ ∧
      (confirm called client ambient).ambient = ambient := by
  obtain ⟨untracked, state, spent⟩ := hasFailover_none ambient behind
  simp [confirm, Operation.bind_apply, untracked, state, spent]

theorem confirm_some (behind : client.balancer? = some balancer) :
    let done := Balancer.confirm called balancer ambient
    (confirm called client ambient).answer = done.answer.toOption.getD false ∧
      (confirm called client ambient).state = ⟨client.config, .ready done.state⟩ ∧
      (confirm called client ambient).ambient = done.ambient := by
  obtain ⟨tracks, state, spent⟩ := hasFailover_some ambient behind
  have built : (⟨client.config, .ready balancer⟩ : Client).balancer? = some balancer := rfl
  cases tracked : balancer.hasFailover with
  | false =>
    simp [confirm, Operation.bind_apply, tracks, state, spent, tracked, Balancer.confirm,
      Except.toOption]
  | true =>
    simp [confirm, Operation.bind_apply, tracks, state, spent, tracked,
      onBalancer_some ambient _ _ built]

end Operations

section Moments

variable {moment : Moment Call.perform}

theorem left_none (behind : moment.found.balancer? = none) :
    moment.left = ⟨moment.found.config, .off⟩ := by
  obtain ⟨client, call, ambient⟩ := moment
  change (call.perform client ambient).state = ⟨client.config, .off⟩
  cases call with
  | url default id => simpa [Call.perform] using (url_none ambient default id behind).2.1
  | fail called error => simpa [Call.perform] using (fail_none ambient called error behind).2.1
  | confirm called => simpa [Call.perform] using (confirm_none ambient called behind).2.1
  | init => simpa [Call.perform, behind] using init_state client ambient
  | hasFailover => simpa [Call.perform] using (hasFailover_none ambient behind).2.1
  | algorithm => simp [Call.perform, algorithm, onBalancer_none ambient _ _ behind]
  | snapshot => simp [Call.perform, snapshot, onBalancer_none ambient _ _ behind]

theorem left_some (behind : moment.found.balancer? = some balancer) :
    moment.left = ⟨moment.found.config, .ready
      ((moment.call.inner? moment.found.config).elim balancer
        fun call => (call.perform balancer moment.ambient).state)⟩ := by
  obtain ⟨client, call, ambient⟩ := moment
  change (call.perform client ambient).state = _
  cases call with
  | url default id =>
    simpa [Call.perform, Call.inner?, Balancer.Call.perform] using
      (url_some ambient default id behind).2.1
  | fail called error =>
    obtain ⟨refused, tracked⟩ := fail_some ambient called error behind
    cases ruled : client.config.failover with
    | none => simpa [Call.perform, Call.inner?, ruled] using (refused (.inr ruled)).2.1
    | some policy =>
      cases tracks : balancer.hasFailover with
      | true =>
        simpa [Call.perform, Call.inner?, Balancer.Call.perform, ruled] using
          (tracked policy tracks ruled).2.1
      | false =>
        simpa [Call.perform, Call.inner?, Balancer.Call.perform, ruled, Balancer.fail,
          Operation.bind_apply, tracks] using (refused (.inl tracks)).2.1
  | confirm called =>
    simpa [Call.perform, Call.inner?, Balancer.Call.perform] using
      (confirm_some ambient called behind).2.1
  | init => simpa [Call.perform, Call.inner?, behind] using init_state client ambient
  | hasFailover =>
    simpa [Call.perform, Call.inner?] using (hasFailover_some ambient behind).2.1
  | algorithm => simp [Call.perform, Call.inner?, algorithm, onBalancer_some ambient _ _ behind]
  | snapshot =>
    simp [Call.perform, Call.inner?, Balancer.Call.perform, snapshot,
      onBalancer_some ambient _ _ behind]

theorem exists_inner (moment : Moment Call.perform) :
    moment.left.config = moment.found.config ∧
      (moment.found.balancer? = none → moment.left.balancer? = none) ∧
      ∀ balancer, moment.found.balancer? = some balancer →
        ∃ next inner, moment.left.balancer? = some next ∧
          Run Balancer.Call.perform balancer inner next := by
  refine ⟨?_, fun behind => by rw [left_none behind]; rfl, fun balancer behind => ?_⟩
  · cases behind : moment.found.balancer? with
    | none => rw [left_none behind]
    | some balancer => rw [left_some behind]
  · refine ⟨_, (moment.call.inner? moment.found.config).toList.map
      fun call => ⟨balancer, call, moment.ambient⟩, by rw [left_some behind]; rfl, ?_⟩
    cases moment.call.inner? moment.found.config with
    | none => exact rfl
    | some call => exact ⟨rfl, rfl⟩

theorem tracks_left (moment : Moment Call.perform) :
    moment.left.tracks = moment.found.tracks := by
  obtain ⟨_, off, on⟩ := exists_inner moment
  unfold tracks
  cases behind : moment.found.balancer? with
  | none => rw [off behind]
  | some balancer =>
    obtain ⟨next, inner, left, run⟩ := on balancer behind
    simpa [left] using Balancer.hasFailover_of_run run

theorem tracks_eq_isSome (client : Client) : client.tracks = client.pool?.isSome := by
  unfold tracks pool?
  cases client.balancer? <;> rfl

end Moments

section Shadows

variable {moment : Moment Call.perform} {pool : Pool}

/-- The call on the pool that stands behind a call on the client. -/
structure Shadow (moment : Moment Call.perform) (shadow : Moment Pool.Call.perform) : Prop where
  found : moment.found.pool? = some shadow.found
  left : moment.left.pool? = some shadow.left
  call : match moment.call with
    | .url _ _ =>
      (∃ url, moment.answer = .url url ∧ shadow.call = .take url ∧
        shadow.answer ≠ .taken .withheld) ∨ shadow.call = .candidates
    | .fail called _ =>
      shadow.ambient = moment.ambient ∧ shadow.call =
        moment.found.policy?.elim .candidates fun policy => .fail called policy.timeout
    | .confirm called => shadow.call = .confirm called
    | .snapshot => shadow.call = .snapshot
    | .init | .hasFailover | .algorithm => shadow.call = .candidates

theorem balancer_of_pool? {client : Client} (tracked : client.pool? = some pool) :
    ∃ balancer, client.balancer? = some balancer ∧ balancer.source = .failover pool := by
  obtain ⟨balancer, behind, source⟩ := Option.bind_eq_some_iff.mp tracked
  refine ⟨balancer, behind, ?_⟩
  cases held : balancer.source with
  | fixed urls => simp [held, Source.pool?] at source
  | failover other => simpa [held, Source.pool?] using source

theorem fail_answer {client : Client} {policy : FailoverConfig}
    (tracked : client.pool? = some pool) (ruled : client.policy? = some policy) (called : Url)
    (error : CallError) (ambient : Ambient) :
    (fail called error client ambient).answer = .ok (pool.resolve called) := by
  obtain ⟨balancer, behind, source⟩ := balancer_of_pool? tracked
  obtain ⟨_, accepted⟩ := fail_some ambient called error behind
  rw [(accepted policy (Balancer.hasFailover_of_source source) ruled).1,
    Balancer.fail_failover ambient source]
  exact congrArg Except.ok (Pool.fail_apply pool ambient called policy.timeout).1

theorem fail_refused {client : Client} (refuses : client.pool? = none ∨ client.policy? = none)
    (called : Url) (error : CallError) (ambient : Ambient) :
    (fail called error client ambient).answer = .error .failoverUnavailable := by
  cases behind : client.balancer? with
  | none => exact (fail_none ambient called error behind).1
  | some balancer =>
    have unmet : balancer.hasFailover = false ∨ client.config.failover = none := by
      refine refuses.imp_left fun untracked => ?_
      simpa [pool?, behind, Balancer.hasFailover, Source.isFailover] using untracked
    exact ((fail_some ambient called error behind).1 unmet).1

theorem fail_isOk (client : Client) (called : Url) (error : CallError) (ambient : Ambient) :
    (fail called error client ambient).answer.isOk =
      (client.tracks && client.policy?.isSome) := by
  rw [tracks_eq_isSome]
  cases tracked : client.pool? with
  | none =>
    rw [fail_refused (.inl tracked)]
    rfl
  | some pool =>
    cases ruled : client.policy? with
    | none =>
      rw [fail_refused (.inr ruled)]
      rfl
    | some policy =>
      rw [fail_answer tracked ruled]
      rfl

theorem exists_shadow_inner (behind : moment.found.balancer? = some balancer)
    (source : balancer.source = .failover pool) :
    ∃ shadow : Moment Pool.Call.perform, shadow.found = pool ∧
      moment.left.pool? = some shadow.left ∧
      match moment.call.inner? moment.found.config with
      | none => shadow.ambient = moment.ambient ∧ shadow.call = .candidates
      | some call => Balancer.Shadow ⟨balancer, call, moment.ambient⟩ shadow := by
  rw [left_some behind]
  cases moment.call.inner? moment.found.config with
  | none =>
    refine ⟨⟨pool, .candidates, moment.ambient⟩, rfl, ?_, rfl, rfl⟩
    have looks : (⟨pool, .candidates, moment.ambient⟩ : Moment Pool.Call.perform).left = pool :=
      (Pool.candidates_apply pool moment.ambient).2
    simp [pool?, balancer?, source, Source.pool?, looks]
  | some call =>
    obtain ⟨shadow, mirrors⟩ := Balancer.exists_shadow ⟨balancer, call, moment.ambient⟩ source
    refine ⟨shadow, Source.failover.inj (mirrors.found.symm.trans source), ?_, mirrors⟩
    have left : (call.perform balancer moment.ambient).state.source = .failover shadow.left :=
      mirrors.left
    simp [pool?, balancer?, left, Source.pool?]

theorem exists_shadow (tracked : moment.found.pool? = some pool) :
    ∃ shadow, Shadow moment shadow ∧ shadow.found = pool := by
  obtain ⟨balancer, behind, source⟩ := balancer_of_pool? tracked
  obtain ⟨shadow, rfl, left, mirrors⟩ := exists_shadow_inner behind source
  refine ⟨shadow, ⟨tracked, left, ?_⟩, rfl⟩
  obtain ⟨client, call, ambient⟩ := moment
  cases call with
  | url default id =>
    have answer := (url_some ambient default id behind).1
    rcases mirrors.call with ⟨url, selected, taken⟩ | ⟨_, looks⟩
    · refine .inl ⟨url, ?_, taken⟩
      have selected : (Balancer.select id balancer ambient).answer = .ok url :=
        Balancer.Answer.selected.inj selected
      rw [selected] at answer
      exact congrArg Answer.url answer
    · exact .inr looks
  | fail called error =>
    cases ruled : client.config.failover with
    | none => simpa [Call.inner?, policy?, ruled] using mirrors
    | some policy =>
      simp only [Call.inner?, ruled, Option.map_some] at mirrors
      obtain ⟨call, same, _⟩ := mirrors.call
      exact ⟨same, by simpa [policy?, ruled] using call⟩
  | confirm called => exact mirrors.call.1
  | init => exact mirrors.2
  | hasFailover => exact mirrors.2
  | algorithm => exact mirrors.2
  | snapshot => exact mirrors.call.1

theorem pool?_found {next : Pool} (left : moment.left.pool? = some next) :
    ∃ pool, moment.found.pool? = some pool := by
  rw [← Option.isSome_iff_exists, ← tracks_eq_isSome, ← tracks_left, tracks_eq_isSome, left]
  rfl

theorem pool?_left (tracked : moment.found.pool? = some pool) :
    ∃ next, moment.left.pool? = some next ∧ next.baseline = pool.baseline := by
  obtain ⟨shadow, behind, rfl⟩ := exists_shadow tracked
  exact ⟨_, behind.left, (Pool.change_left shadow).baseline_eq⟩

theorem pool?_of_run {start finish : Client} {moments : List (Moment Call.perform)}
    (run : Run Call.perform start moments finish) (tracked : start.pool? = some pool) :
    ∃ next, finish.pool? = some next ∧ next.baseline = pool.baseline := by
  refine run.keeps (P := fun client => ∃ next, client.pool? = some next ∧
    next.baseline = pool.baseline) ?_ ⟨pool, tracked, rfl⟩
  rintro moment _ ⟨next, tracked, same⟩
  obtain ⟨last, left, kept⟩ := pool?_left tracked
  exact ⟨last, left, kept.trans same⟩

end Shadows

theorem isClean_new {pool : Pool} (tracked : ({ config } : Client).pool? = some pool) :
    pool.isClean = true := by
  obtain ⟨balancer, behind, source⟩ := balancer_of_pool? tracked
  obtain ⟨_, _, rfl⟩ := balancerFor_eq_some behind
  exact Pool.isClean_iff.mpr (Balancer.clean_create _ _ _ _ pool source)

section Runs

variable {moments : List (Moment Call.perform)}

theorem config_of_run (run : Run Call.perform { config } moments client) :
    client.config = config :=
  run.keeps (P := (·.config = config)) (fun moment _ same => (exists_inner moment).1.trans same) rfl

theorem balancer?_of_run_none (run : Run Call.perform { config } moments client)
    (off : balancerFor config = none) : client.balancer? = none :=
  run.keeps (P := (·.balancer? = none)) (fun moment _ => (exists_inner moment).2.1) off

theorem balancer?_of_run_some (run : Run Call.perform { config } moments client)
    (on : balancerFor config = some first) :
    ∃ balancer inner, client.balancer? = some balancer ∧
      Run Balancer.Call.perform first inner balancer := by
  refine run.keeps (P := fun client => ∃ balancer inner, client.balancer? = some balancer ∧
    Run Balancer.Call.perform first inner balancer) ?_ ⟨first, [], on, rfl⟩
  rintro moment _ ⟨balancer, earlier, behind, sooner⟩
  obtain ⟨next, inner, left, later⟩ := (exists_inner moment).2.2 balancer behind
  exact ⟨next, earlier ++ inner, left, Run.append_iff.mpr ⟨balancer, sooner, later⟩⟩

theorem source_of_run (run : Run Call.perform { config } moments client)
    (on : balancerFor config = some first) :
    ∃ balancer, client.balancer? = some balancer ∧ balancer.source.Sound ∧
      balancer.source.baseline = first.source.baseline := by
  obtain ⟨balancer, inner, behind, run⟩ := balancer?_of_run_some run on
  have sound : first.source.Sound := by
    obtain ⟨_, _, rfl⟩ := balancerFor_eq_some on
    exact Balancer.sound_create ..
  exact ⟨balancer, behind, Balancer.source_of_run run sound⟩

theorem sound_of_run (run : Run Call.perform { config } moments client) {pool : Pool}
    (tracked : client.pool? = some pool) : pool.Sound := by
  obtain ⟨balancer, behind, source⟩ := balancer_of_pool? tracked
  cases on : balancerFor config with
  | none => simp [balancer?_of_run_none run on] at behind
  | some first =>
    obtain ⟨_, same, sound, _⟩ := source_of_run run on
    obtain rfl := Option.some.inj (behind.symm.trans same)
    rwa [source] at sound

theorem policy_of_run (run : Run Call.perform { config } moments client) {pool : Pool}
    (tracked : client.pool? = some pool) : ∃ policy, client.policy? = some policy := by
  obtain ⟨balancer, behind, source⟩ := balancer_of_pool? tracked
  cases on : balancerFor config with
  | none => simp [balancer?_of_run_none run on] at behind
  | some first =>
    obtain ⟨other, inner, same, calls⟩ := balancer?_of_run_some run on
    obtain rfl := Option.some.inj (behind.symm.trans same)
    obtain ⟨_, _, rfl⟩ := balancerFor_eq_some on
    have tracks := Balancer.hasFailover_of_source source
    rw [Balancer.hasFailover_of_run calls] at tracks
    have asked : config.isFailover = true := Balancer.failover_of_create tracks
    rw [policy?, config_of_run run, ← Option.isSome_iff_exists]
    cases ruled : config.failover with
    | none => simp [BalancingConfig.isFailover, ruled] at asked
    | some policy => rfl

end Runs

end Balance.Client
