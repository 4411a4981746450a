import Balance.Proofs.Balancer.Canaries
import Balance.Proofs.Client.Calls

/-!
Calls that only look. Building the balancer, and asking for its algorithm, for a
snapshot or whether failures are tracked, leaves behind a client what was there.
What a snapshot shows is the pool at the instant of the call.
-/

namespace Balance.Client

/-- The call neither selects nor reports. -/
def Call.isLook : Call → Bool
  | init | hasFailover | algorithm | snapshot => true
  | url .. | fail .. | confirm _ => false

section Looks

variable {moment : Moment Call.perform}

theorem balancer?_left_of_look (look : moment.call.isLook = true) :
    moment.left.balancer? = moment.found.balancer? := by
  cases behind : moment.found.balancer? with
  | none => exact (exists_inner moment).2.1 behind
  | some balancer =>
    rw [left_some behind]
    cases called : moment.call with
    | init | hasFailover | algorithm => rfl
    | snapshot =>
      simp [Call.inner?, Balancer.Call.perform, Balancer.snapshot, Balancer.onSource_apply,
        Source.snapshot_state, balancer?]
    | url | fail | confirm => simp [called, Call.isLook] at look

theorem balancer?_of_looks {start finish : Client} {moments : List (Moment Call.perform)}
    (run : Run Call.perform start moments finish)
    (looks : ∀ moment ∈ moments, moment.call.isLook = true) :
    finish.balancer? = start.balancer? :=
  run.keeps (P := (·.balancer? = start.balancer?))
    (fun moment member same => (balancer?_left_of_look (looks moment member)).trans same) rfl

end Looks

theorem snapshot_answer (client : Client) (ambient : Ambient) :
    (snapshot client ambient).answer = client.pool?.map (·.snapshotAt ambient.reading) := by
  unfold pool?
  cases behind : client.balancer? with
  | none => simp [snapshot, onBalancer_none ambient none _ behind]
  | some balancer =>
    rw [snapshot, onBalancer_some ambient none _ behind]
    cases source : balancer.source with
    | fixed urls =>
      simp [Balancer.snapshot, Balancer.onSource_apply, Source.snapshot, Source.onPool,
        Operation.bind_apply, source, Source.pool?]
    | failover pool =>
      simp [Balancer.snapshot_failover ambient source, (Pool.snapshot_apply pool ambient).1, source,
        Source.pool?]

end Balance.Client
