import Balance.Proofs.Balancer.Events
import Balance.Proofs.Client.Parts

/-!
What a call on a client reports. The pool behind a client is that of its
balancer, and building the balancer is no change of it. What relates the events
of a pool to its change therefore holds of a client as well, whose own reports
tell of no pool.
-/

namespace Balance.Client
open Operation (Obeys)

def Sees (L : Option Pool → List Event → Option Pool → Prop) (found : Client)
    (events : List Event) (left : Client) : Prop :=
  L found.pool? events left.pool?

theorem silent_constructionEvents (config : BalancingConfig) :
    ∀ event ∈ constructionEvents config, event.ofPool = false := by
  unfold constructionEvents
  split
  · exact List.forall_mem_singleton.mpr rfl
  · simp only [Balancer.creation, List.mem_append, List.mem_map, List.mem_singleton]
    rintro event ((ignored | ⟨strategy, _, rfl⟩) | rfl)
    · split at ignored
      · rw [List.mem_singleton.mp ignored]
        rfl
      · exact absurd ignored List.not_mem_nil
    · rfl
    · rfl

theorem silent_init (client : Client) (ambient : Ambient) :
    ∀ event ∈ (init client ambient).events, event.ofPool = false := by
  obtain ⟨config, stage⟩ := client
  cases stage with
  | pending =>
    have told : (init ⟨config, .pending⟩ ambient).events = constructionEvents config := by
      simp [init, Operation.bind_apply]
    rw [told]
    exact silent_constructionEvents config
  | off => simp [init, Operation.bind_apply]
  | ready balancer => simp [init, Operation.bind_apply]

theorem balancer?_init (client : Client) (ambient : Ambient) :
    (init client ambient).state.balancer? = client.balancer? := by
  rw [init_state]
  cases behind : client.balancer? <;> rfl

section Seen

variable {L : Option Pool → List Event → Option Pool → Prop} (law : Pool.Law L)
variable {α : Type} {operation : Operation Balancer α}
include law

theorem composes_sees : Operation.Composes (Sees L) := law.toComposes.comap pool?

theorem obeys_init : Obeys (Sees L) init := by
  intro client ambient
  rw [Sees, pool?, pool?, balancer?_init]
  exact law.silent_all (silent_init client ambient) _

theorem obeys_onBalancer (absent : α) (obeys : Obeys (Balancer.Sees L) operation) :
    Obeys (Sees L) (onBalancer absent operation) := by
  intro client ambient
  have built := fun pool? => law.silent_all (silent_init client ambient) pool?
  cases behind : client.balancer? with
  | none =>
    rw [onBalancer_none ambient absent operation behind, Sees, pool?, behind]
    exact built none
  | some balancer =>
    rw [onBalancer_some ambient absent operation behind, Sees, pool?, behind]
    exact law.append (built balancer.source.pool?) (obeys balancer ambient)

theorem obeys_ask (view : Balancer → α) : Obeys (Balancer.Sees L) (view <$> Operation.state) :=
  (Obeys.state (Balancer.composes_sees law.toComposes)).map view

theorem parts_sees
    (records : ∀ {pool next : Pool} {call : Pool.Call} {events : List Event},
      Pool.Records pool call events next → L (some pool) events (some next)) :
    Parts fun _ operation => Obeys (Sees L) operation where
  toClosed := (composes_sees law).closed
  init := obeys_init law
  hasFailover := obeys_onBalancer law _ (obeys_ask law _)
  algorithm := obeys_onBalancer law _ (obeys_ask law _)
  snapshot := obeys_onBalancer law _ (Balancer.obeys_perform law records .snapshot).of_map
  select id := obeys_onBalancer law _
    ((Balancer.obeys_perform law records (.select id)).of_map.map some)
  fail called timeout := obeys_onBalancer law _
    (Balancer.obeys_perform law records (.fail called timeout)).of_map
  confirm called := obeys_onBalancer law _
    (Balancer.obeys_perform law records (.confirm called)).of_map
  report event kind := Obeys.report fun client => law.silent event kind client.pool?
  reads rest _ := (Obeys.state (composes_sees law)).bind (composes_sees law) rest

theorem obeys_perform
    (records : ∀ {pool next : Pool} {call : Pool.Call} {events : List Event},
      Pool.Records pool call events next → L (some pool) events (some next)) (call : Call) :
    Obeys (Sees L) call.perform :=
  (parts_sees law records).perform call

end Seen

end Balance.Client
