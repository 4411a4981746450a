import Balance.Proofs.Alike
import Balance.Proofs.Client.Gauge
import Balance.Proofs.Client.Looks

/-!
When a client is built makes no difference, and neither does looking at it. Clients
that have one configuration and one balancer behind them cannot be told apart, built
or not: whatever is asked of them builds them first. A look leaves such a client
behind, and it spends nothing as long as the clock announces no readings. So looks
can be put into a run and taken out of it, and the answers of everything else stay
as they are. A client that replaces another one is built at once, and it cannot be
told from a new one.
-/

namespace Balance

/-- The clock announces no readings: it shows one instant until it is moved. -/
def Clock.Unscripted (clock : Clock) : Prop := clock.scripted = []

theorem Clock.Unscripted.read_eq {clock : Clock} (plain : clock.Unscripted) :
    clock.read.2 = clock := by
  obtain ⟨now, scripted⟩ := clock
  obtain rfl : scripted = [] := plain
  rfl

theorem Clock.Unscripted.of_leadsTo {clock later : Clock} (plain : clock.Unscripted)
    (leads : clock.LeadsTo later) : later.Unscripted :=
  leads.keeps (fun plain => by rwa [plain.read_eq]) plain

def Operation.Unscripted {σ α : Type} (operation : Operation σ α) : Prop :=
  ∀ state ambient, ambient.clock.Unscripted → (operation state ambient).ambient.clock.Unscripted

namespace Operation.Unscripted

variable {σ τ α : Type}

theorem closed : Closed fun α (operation : Operation σ α) => Unscripted operation where
  pure _ := fun _ _ plain => plain
  bind first rest := fun state ambient plain => rest _ _ _ (first state ambient plain)

theorem onFirst {operation : Operation σ α} (keeps : Unscripted operation) :
    Unscripted (Operation.onFirst operation : Operation (σ × τ) α) :=
  fun state ambient => keeps state.1 ambient

theorem of_state {next : σ → Operation σ α} (rest : ∀ seen, Unscripted (next seen)) :
    Unscripted (Operation.state >>= next) :=
  closed.bind (fun _ _ plain => plain) rest

end Operation.Unscripted

namespace Balancer
open Operation (Unscripted)

theorem unscripted_select (id : Option String) : Unscripted (select id) :=
  fun balancer ambient plain => plain.of_leadsTo (chooses_select id balancer ambient).leads

theorem unscripted_onPool {α : Type} (absent : α) {operation : Operation Pool α}
    (keeps : Unscripted operation) : Unscripted (onSource (Source.onPool absent operation)) := by
  intro balancer ambient plain
  rw [onSource_apply, Source.onPool]
  cases source : balancer.source with
  | fixed urls => exact plain
  | failover pool => exact keeps pool ambient plain

theorem unscripted_fail (called : Url) (timeout : Duration) :
    Unscripted (fail called timeout) := by
  refine Unscripted.of_state fun balancer => ?_
  split
  · refine unscripted_onPool _ (Unscripted.closed.map (fun pool ambient plain => ?_) _)
    rw [Pool.fail_ambient]
    split
    · exact plain.of_leadsTo (.read .same)
    · exact plain
  · exact Unscripted.closed.bind (fun _ _ plain => plain) fun _ => Unscripted.closed.pure _

theorem unscripted_confirm (called : Url) : Unscripted (confirm called) := by
  refine Unscripted.of_state fun balancer => ?_
  split
  · refine unscripted_onPool _ (Unscripted.closed.map (fun pool ambient plain => ?_) _)
    rwa [Pool.confirm_ambient]
  · exact Unscripted.closed.bind (fun _ _ plain => plain) fun _ => Unscripted.closed.pure _

theorem unscripted_snapshot : Unscripted snapshot :=
  unscripted_onPool _ (Unscripted.closed.map
    (fun _ _ plain => plain.of_leadsTo (.read .same)) _)

theorem ambient_of_snapshot (balancer : Balancer) {ambient : Ambient}
    (plain : ambient.clock.Unscripted) : (snapshot balancer ambient).ambient = ambient := by
  cases source : balancer.source with
  | fixed urls =>
    simp [snapshot, onSource_apply, Source.snapshot, Source.onPool, Operation.bind_apply, source]
  | failover pool =>
    rw [snapshot_failover ambient source]
    simp [Pool.snapshot, Operation.bind_apply, plain.read_eq]

end Balancer

namespace Client
open Operation (Respects OnFirst Unscripted inTurn)

section Clocks

variable {κ α : Type} {ambient : Ambient}

theorem unscripted_onBalancer (absent : α) {operation : Operation Balancer α}
    (keeps : Unscripted operation) : Unscripted (onBalancer absent operation) := by
  intro client ambient plain
  cases behind : client.balancer? with
  | none => rwa [onBalancer_none ambient absent operation behind]
  | some balancer =>
    rw [onBalancer_some ambient absent operation behind]
    exact keeps balancer ambient plain

theorem parts_unscripted : Parts fun _ operation => Unscripted operation where
  toClosed := Unscripted.closed
  init client ambient plain := by rwa [init_ambient]
  hasFailover := unscripted_onBalancer _ fun _ _ plain => plain
  algorithm := unscripted_onBalancer _ fun _ _ plain => plain
  snapshot := unscripted_onBalancer _ Balancer.unscripted_snapshot
  select id := unscripted_onBalancer _ (Unscripted.closed.map (Balancer.unscripted_select id) _)
  fail called timeout := unscripted_onBalancer _ (Balancer.unscripted_fail called timeout)
  confirm called := unscripted_onBalancer _ (Balancer.unscripted_confirm called)
  report _ _ := fun _ _ plain => plain
  reads rest _ := Unscripted.of_state rest

theorem loopParts_unscripted (remote : Remote κ α) :
    LoopParts remote fun _ operation => Unscripted operation where
  toClosed := Unscripted.closed
  url default id := (parts_unscripted.url default id).onFirst
  call _ := fun _ _ plain => plain
  settle url outcome := (parts_unscripted.settle url outcome).onFirst
  reportAll _ := fun _ _ plain => plain
  reads rest _ := Unscripted.of_state rest

theorem ambient_of_onBalancer (client : Client) (absent : α) {operation : Operation Balancer α}
    (still : ∀ balancer, (operation balancer ambient).ambient = ambient) :
    (onBalancer absent operation client ambient).ambient = ambient := by
  cases behind : client.balancer? with
  | none => rw [onBalancer_none ambient absent operation behind]
  | some balancer => rw [onBalancer_some ambient absent operation behind, still]

theorem ambient_of_look {call : Call} (look : call.isLook = true) (client : Client)
    (plain : ambient.clock.Unscripted) : (call.perform client ambient).ambient = ambient := by
  cases call with
  | init => exact init_ambient client ambient
  | hasFailover | algorithm => exact ambient_of_onBalancer client _ fun _ => rfl
  | snapshot =>
    exact ambient_of_onBalancer client _ fun balancer => Balancer.ambient_of_snapshot balancer plain
  | url | fail | confirm => cases look

end Clocks

/-- Clients of one configuration with one balancer behind them, whether it has been built
or not. -/
structure BuiltAlike (first second : Client) : Prop where
  config : first.config = second.config
  balancer? : first.balancer? = second.balancer?

namespace BuiltAlike

variable {κ α : Type} {first second third : Client}

theorem symm (alike : BuiltAlike first second) : BuiltAlike second first :=
  ⟨alike.config.symm, alike.balancer?.symm⟩

theorem trans (one : BuiltAlike first second) (two : BuiltAlike second third) :
    BuiltAlike first third :=
  ⟨one.config.trans two.config, one.balancer?.trans two.balancer?⟩

theorem of_init (client : Client) (ambient : Ambient) :
    BuiltAlike (Client.init client ambient).state client :=
  ⟨by rw [init_state], balancer?_init client ambient⟩

theorem onBalancer (absent : α) (operation : Operation Balancer α) :
    Respects BuiltAlike (Client.onBalancer absent operation) := by
  intro first second alike ambient
  cases behind : second.balancer? with
  | none =>
    rw [onBalancer_none ambient _ _ (alike.balancer?.trans behind),
      onBalancer_none ambient _ _ behind, alike.config]
    exact ⟨rfl, rfl, rfl, rfl⟩
  | some balancer =>
    rw [onBalancer_some ambient _ _ (alike.balancer?.trans behind),
      onBalancer_some ambient _ _ behind, alike.config]
    exact ⟨rfl, rfl, rfl, rfl⟩

theorem init : Respects BuiltAlike Client.init := by
  intro first second alike ambient
  refine ⟨rfl, (init_ambient ..).trans (init_ambient ..).symm, ?_⟩
  exact ((of_init first ambient).trans alike).trans (of_init second ambient).symm

theorem parts : Parts fun _ operation => Respects BuiltAlike operation where
  toClosed := Respects.closed
  init := init
  hasFailover := onBalancer _ _
  algorithm := onBalancer _ _
  snapshot := onBalancer _ _
  select _ := onBalancer _ _
  fail _ _ := onBalancer _ _
  confirm _ := onBalancer _ _
  report event _ := Respects.report event
  reads rest same := Respects.of_state rest fun one two alike => same one two alike.config

theorem loopParts (remote : Remote κ α) :
    LoopParts remote fun _ operation => Respects (OnFirst BuiltAlike) operation where
  toClosed := Respects.closed
  url default id := (parts.url default id).onFirst
  call url := by
    rintro ⟨one, state⟩ ⟨two, _⟩ ⟨alike, rfl⟩ ambient
    exact ⟨rfl, rfl, alike, rfl⟩
  settle url outcome := (parts.settle url outcome).onFirst
  reportAll := Respects.reportAll
  reads rest same := Respects.of_state rest fun one two alike => same one two alike.1.config

end BuiltAlike

inductive Action (κ α : Type)
  | wait (length : Duration)
  | ask (call : Call)
  | execute (remote : Remote κ α) (default : Url) (state : κ)
  | config
  | policy
  | isFail (error : CallError)
  | isRetry (error : CallError)
  | classify (error : CallError)

inductive Reaction (κ α : Type)
  | waited
  | answered (answer : Answer)
  | executed (result : Except CallError α) (state : κ)
  | configured (config : BalancingConfig)
  | ruled (policy : Option FailoverConfig)
  | counts (holds : Bool)
  | classified (verdict : Verdict)
deriving DecidableEq

namespace Action

variable {κ α : Type}

def perform : Action κ α → Operation Client (Reaction κ α)
  | wait length => fun client ambient =>
    ⟨.waited, client, { ambient with clock := ambient.clock.advance length }, []⟩
  | ask call => .answered <$> call.perform
  | execute remote default state => fun client ambient =>
    let done := Client.execute remote default (client, state) ambient
    ⟨.executed done.answer done.state.2, done.state.1, done.ambient, done.events⟩
  | config => do return .configured (← Operation.state).config
  | policy => do return .ruled (← Operation.state).policy?
  | isFail error => do return .counts ((← Operation.state).isFail error)
  | isRetry error => do return .counts ((← Operation.state).isRetry error)
  | classify error => do return .classified ((← Operation.state).classify error)

/-- Selections, reports and loops do something; so does waiting, which moves the clock. Every
other action is a look. -/
def isDeed : Action κ α → Bool
  | wait _ | execute .. => true
  | ask call => !call.isLook
  | config | policy | isFail _ | isRetry _ | classify _ => false

theorem respects (action : Action κ α) : Respects BuiltAlike action.perform := by
  cases action with
  | wait length => exact fun _ _ alike _ => ⟨rfl, rfl, alike⟩
  | ask call => exact (BuiltAlike.parts.perform call).map _
  | execute remote default state =>
    intro first second alike ambient
    obtain ⟨answer, spent, left⟩ := (BuiltAlike.loopParts remote).execute default
      (first, state) (second, state) ⟨alike, rfl⟩ ambient
    refine ⟨?_, spent, left.1⟩
    simp only [perform, answer, left.2]
  | config | policy | isFail | isRetry | classify =>
    refine BuiltAlike.parts.reads (fun _ => Respects.closed.pure _) fun one two same => ?_
    simp only [Client.classify, Client.isFail, Client.isRetry, policy?, same]

theorem unscripted (action : Action κ α) : Unscripted action.perform := by
  cases action with
  | wait length => exact fun _ _ plain => plain
  | ask call => exact Unscripted.closed.map (parts_unscripted.perform call) _
  | execute remote default state =>
    exact fun client => (loopParts_unscripted remote).execute default (client, state)
  | config | policy | isFail | isRetry | classify =>
    exact Unscripted.of_state fun _ => Unscripted.closed.pure _

theorem idle {action : Action κ α} (look : action.isDeed = false) (client : Client)
    {ambient : Ambient} (plain : ambient.clock.Unscripted) :
    BuiltAlike (action.perform client ambient).state client ∧
      (action.perform client ambient).ambient = ambient := by
  cases action with
  | wait | execute => simp [isDeed] at look
  | config | policy | isFail | isRetry | classify => exact ⟨⟨rfl, rfl⟩, rfl⟩
  | ask call =>
    have look : call.isLook = true := by simpa [isDeed] using look
    let moment : Moment Call.perform := ⟨client, call, ambient⟩
    have same : moment.left.balancer? = moment.found.balancer? := balancer?_left_of_look look
    rw [perform, Operation.map_apply]
    exact ⟨⟨(exists_inner moment).1, same⟩, ambient_of_look look client plain⟩

end Action

end Client

namespace SharedClient
open Operation (inTurn)

variable {α κ : Type}

theorem inTurn_onCurrent (perform : κ → Operation Client α) (calls : List κ)
    (shared : SharedClient) (ambient : Ambient) :
    (inTurn (fun call => onCurrent (perform call)) calls shared ambient).answer =
      (inTurn perform calls shared.current ambient).answer.map
        fun entry => (entry.1, some entry.2) := by
  induction calls generalizing shared ambient with
  | nil => rfl
  | cons call rest ih => simp [inTurn, Operation.bind_apply, onCurrent_apply, ih]

end SharedClient

namespace Client
open Operation (Respects inTurn)

variable {κ α : Type}

/-- The answers to what is done do not depend on the looks in between, if the clock moves
only where it is waited or called: runs of a new client with the same deeds get the same
answers to them, however many looks stand where. And whatever a client was that is
replaced, the current one answers everything as a new client does at the same clock and
random numbers. -/
theorem deeds_determined (config : BalancingConfig) :
    (∀ (first second : List (Action κ α)) (ambient : Ambient), ambient.clock.Unscripted →
      first.filter Action.isDeed = second.filter Action.isDeed →
      (inTurn Action.perform first { config } ambient).answer.filter (·.1.isDeed) =
        (inTurn Action.perform second { config } ambient).answer.filter (·.1.isDeed)) ∧
    ∀ (actions : List (Action κ α)) (shared : SharedClient) (ambient : Ambient),
      let replaced := SharedClient.replace config shared ambient
      replaced.ambient = ambient ∧
      (inTurn (fun action => SharedClient.onCurrent action.perform) actions replaced.state
          replaced.ambient).answer =
        (inTurn Action.perform actions { config } ambient).answer.map
          fun entry => (entry.1, some entry.2) := by
  constructor
  · intro first second ambient plain same
    have deeds (actions : List (Action κ α)) :
        (inTurn Action.perform actions { config } ambient).answer.filter (·.1.isDeed) =
          (inTurn Action.perform (actions.filter Action.isDeed) { config } ambient).answer :=
      Operation.inTurn_filter (R := BuiltAlike) Action.isDeed (·.clock.Unscripted)
        BuiltAlike.trans Action.respects Action.unscripted
        (fun _ look client _ plain => Action.idle look client plain) ⟨rfl, rfl⟩ plain actions
    rw [deeds, deeds, same]
  · intro actions shared ambient replaced
    have installed := SharedClient.replace_apply config shared ambient
    have spent : replaced.ambient = ambient := by simp only [replaced, installed, init_ambient]
    have built : BuiltAlike replaced.state.current { config } := by
      simp only [replaced, installed]
      exact BuiltAlike.of_init ..
    refine ⟨spent, ?_⟩
    rw [SharedClient.inTurn_onCurrent, spent,
      (Respects.inTurn Action.respects actions _ _ built ambient).answer]

theorem deeds_determined_watched :
    let config : BalancingConfig :=
      { active := true, urls := ["a", "b"], failover := some { active := true, timeoutMillis := 1 } }
    let failure : Action Unit Unit := .ask (.fail "a/x" (.status 503))
    let selection : Action Unit Unit := .ask (.url "" none)
    let unwatched := [failure, .wait 2000000, selection, selection]
    let watched := [.ask .init, failure, .ask .snapshot, .policy, .wait 2000000, .ask .hasFailover,
      selection, .ask .snapshot, .classify (.status 429), selection]
    unwatched.filter Action.isDeed = watched.filter Action.isDeed ∧
      ((inTurn Action.perform watched { config } (.standing 0)).answer.filter (·.1.isDeed)).map
          Prod.snd =
        [.answered (.failed (.ok (some "a"))), .waited, .answered (.url "b"),
          .answered (.url "a")] := by
  intro config failure selection unwatched watched
  have same : unwatched.filter Action.isDeed = watched.filter Action.isDeed := rfl
  refine ⟨same, ?_⟩
  rw [← (deeds_determined config).1 unwatched watched (.standing 0) rfl same]
  decide +kernel

end Client

end Balance
