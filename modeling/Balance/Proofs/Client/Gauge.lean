import Balance.Client.Shared
import Balance.Proofs.Client.Events

/-!
The gauge of URLs that are out of rotation. Every call on a pool that changes
how many there are sets the gauge, so that it is true for one client. A new
configuration brings a new pool and sets nothing: until the first change of
that pool the gauge shows what the clients before left behind.
-/

namespace Balance
open Metrics

/-- How many URLs are excluded or on probation; none without a pool. -/
def Pool.countOut (pool? : Option Pool) : Nat :=
  pool?.elim 0 fun pool => pool.excluded.length + pool.probation.length

/-- The gauge is set to what is left, or nothing has changed. -/
def Pool.Gauges (found : Option Pool) (events : List Event) (left : Option Pool) : Prop :=
  Pool.countOut left = (gauge events).getD (Pool.countOut found)

namespace Pool

theorem law_gauges : Law Gauges where
  nil _ := rfl
  append {_ _ _ _ later} first second := by
    rw [Gauges, second, gauge_append]
    cases gauge later with
    | none => exact first
    | some count => rfl
  silent event kind pool? := by
    rw [Gauges, gauge_cons, (counted?_of_silent kind).2]
    rfl

theorem gauges_of_records {pool next : Pool} {call : Call} {events : List Event}
    (records : Records pool call events next) : Gauges (some pool) events (some next) := by
  cases records with
  | same => exact law_gauges.nil _
  | excluded expiry => rfl
  | reset expiry => rfl
  | readmitted held => rfl
  | promoted found => rfl

end Pool

def Client.outOfRotation (client : Client) : Nat := Pool.countOut client.pool?

namespace Client

theorem outOfRotation_new (config : BalancingConfig) : ({ config } : Client).outOfRotation = 0 := by
  cases tracked : ({ config } : Client).pool? with
  | none => rw [outOfRotation, tracked]; rfl
  | some pool =>
    obtain ⟨excluded, probation⟩ := Pool.isClean_iff.mp (isClean_new tracked)
    simp [outOfRotation, tracked, Pool.countOut, excluded, probation]

theorem pool?_init (client : Client) (ambient : Ambient) :
    (init client ambient).state.pool? = client.pool? := by
  rw [pool?, balancer?_init, pool?]

end Client

namespace SharedClient

def onCurrent {α : Type} (operation : Operation Client α) : Operation SharedClient (Option α) := do
  let shared ← Operation.state
  onGeneration shared.generation operation

theorem onCurrent_apply {α : Type} (operation : Operation Client α) (shared : SharedClient)
    (ambient : Ambient) :
    onCurrent operation shared ambient =
      let done := operation shared.current ambient
      ⟨some done.answer, { shared with current := done.state }, done.ambient, done.events⟩ := by
  simp [onCurrent, onGeneration, generation, Operation.bind_apply]

theorem replace_apply (config : BalancingConfig) (shared : SharedClient) (ambient : Ambient) :
    replace config shared ambient =
      let done := Client.init { config } ambient
      ⟨(), ⟨shared.earlier ++ [shared.current], done.state⟩, done.ambient,
        done.events ++ [.reloaded]⟩ := by
  simp [replace, Operation.bind_apply]

inductive Call
  | current (call : Client.Call)
  | replace (config : BalancingConfig)
deriving Repr, DecidableEq

def Call.perform : Call → Operation SharedClient (Option Client.Answer)
  | current call => do
    let shared ← Operation.state
    onGeneration shared.generation call.perform
  | replace config => (fun _ => none) <$> SharedClient.replace config

theorem perform_current (call : Client.Call) (shared : SharedClient) (ambient : Ambient) :
    (Call.current call).perform shared ambient =
      let done := call.perform shared.current ambient
      ⟨some done.answer, { shared with current := done.state }, done.ambient, done.events⟩ :=
  onCurrent_apply call.perform shared ambient

theorem perform_replace (config : BalancingConfig) (shared : SharedClient) (ambient : Ambient) :
    (Call.replace config).perform shared ambient =
      let done := Client.init { config } ambient
      ⟨none, ⟨shared.earlier ++ [shared.current], done.state⟩, done.ambient,
        done.events ++ [.reloaded]⟩ := by
  rw [Call.perform, Operation.map_apply, replace_apply]

variable {config : BalancingConfig} {start middle finish : SharedClient}
variable {moment : Moment Call.perform} {earlier later : List (Moment Call.perform)}

theorem gauges_of_current {call : Client.Call} (current : moment.call = .current call) :
    Pool.Gauges moment.found.current.pool? moment.step.events moment.left.current.pool? := by
  rw [Moment.left, Moment.step, current, perform_current]
  exact Client.obeys_perform Pool.law_gauges Pool.gauges_of_records call _ _

theorem outOfRotation_of_replace (replaces : moment.call = .replace config) :
    moment.left.current.outOfRotation = 0 := by
  rw [Moment.left, Moment.step, replaces, perform_replace, Client.outOfRotation,
    Client.pool?_init]
  exact Client.outOfRotation_new config

theorem outOfRotation_of_run (run : Run Call.perform (ofConfig config) earlier middle)
    (replaced : ∀ last ∈ earlier.getLast?, ∃ next, last.call = .replace next) :
    middle.current.outOfRotation = 0 := by
  rcases List.eq_nil_or_concat earlier with rfl | ⟨_, last, rfl⟩
  · obtain rfl : ofConfig config = middle := run
    exact Client.outOfRotation_new config
  · obtain ⟨next, replaces⟩ := replaced last (by simp)
    rw [List.concat_eq_append] at run
    obtain rfl : last.left = middle := (Run.split_iff.mp run).2
    exact outOfRotation_of_replace replaces

theorem gauges_of_run (run : Run Call.perform middle later finish)
    (current : ∀ moment ∈ later, ∃ call, moment.call = .current call) :
    Pool.Gauges middle.current.pool? (recorded later) finish.current.pool? := by
  refine run.obeys (Pool.law_gauges.comap fun shared : SharedClient => shared.current.pool?) ?_
  intro moment member
  obtain ⟨call, same⟩ := current moment member
  exact gauges_of_current same

/-- The moments `later` are those of the current client. Once one of them has set
the gauge it is true. Until then nothing is out of rotation, and the gauge shows
what the clients before have left in it. -/
theorem gauge_of_run (run : Run Call.perform (ofConfig config) (earlier ++ later) finish)
    (replaced : ∀ last ∈ earlier.getLast?, ∃ next, last.call = .replace next)
    (current : ∀ moment ∈ later, ∃ call, moment.call = .current call) :
    (gauge (recorded later) ≠ none →
      gauge (recorded (earlier ++ later)) = some finish.current.outOfRotation) ∧
    (gauge (recorded later) = none →
      finish.current.outOfRotation = 0 ∧
        gauge (recorded (earlier ++ later)) = gauge (recorded earlier)) := by
  obtain ⟨middle, before, onward⟩ := Run.append_iff.mp run
  have none := outOfRotation_of_run before replaced
  have moved : finish.current.outOfRotation = (gauge (recorded later)).getD _ :=
    gauges_of_run onward current
  have all : gauge (recorded (earlier ++ later)) =
      (gauge (recorded later)).or (gauge (recorded earlier)) := by
    rw [recorded, List.flatMap_append, gauge_append]
    rfl
  rw [all, moved]
  cases gauge (recorded later) with
  | none => exact ⟨fun set => absurd rfl set, fun _ => ⟨none, rfl⟩⟩
  | some count => exact ⟨fun _ => rfl, nofun⟩

theorem gauge_of_run_failed :
    let config : BalancingConfig :=
      { active := true, urls := ["http://a", "http://b", "http://c"], failover := some { active := true } }
    let first : Moment Call.perform :=
      ⟨ofConfig config, .current (.fail "http://a" (.status 503)), .standing 0⟩
    let second : Moment Call.perform :=
      ⟨first.left, .current (.fail "http://b" (.status 503)), .standing 0⟩
    let reload : Moment Call.perform := ⟨second.left, .replace config, .standing 0⟩
    let failure : Moment Call.perform :=
      ⟨reload.left, .current (.fail "http://a" (.status 503)), .standing 0⟩
    Run Call.perform (ofConfig config) ([first, second, reload] ++ [failure]) failure.left ∧
      gauge (recorded [first, second, reload]) = some 2 ∧
      gauge (recorded ([first, second, reload] ++ [failure])) =
        some failure.left.current.outOfRotation ∧
      failure.left.current.outOfRotation = 1 := by
  intro config first second reload failure
  have run : Run Call.perform (ofConfig config) ([first, second, reload] ++ [failure])
      failure.left := by
    refine ⟨?_, ?_, ?_, ?_, rfl⟩ <;> with_reducible rfl
  obtain ⟨set, _⟩ := gauge_of_run run (by simp [reload]) (by simp [failure])
  exact ⟨run, by decide +kernel, set (by decide +kernel), by decide +kernel⟩

theorem gauge_stale :
    let config : BalancingConfig :=
      { active := true, urls := ["http://a", "http://b"], failover := some { active := true } }
    let failure : Moment Call.perform :=
      ⟨ofConfig config, .current (.fail "http://a" (.status 503)), .standing 0⟩
    let reload : Moment Call.perform := ⟨failure.left, .replace config, .standing 0⟩
    Run Call.perform (ofConfig config) [failure, reload] reload.left ∧
      gauge (recorded [failure, reload]) = some 1 ∧
      reload.left.current.outOfRotation = 0 := by
  intro config failure reload
  have run : Run Call.perform (ofConfig config) [failure, reload] reload.left := by
    refine ⟨?_, ?_, rfl⟩ <;> with_reducible rfl
  exact ⟨run, by decide +kernel, by decide +kernel⟩

end SharedClient

end Balance
