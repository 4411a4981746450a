import Balance.Proofs.Client.Rounds
import Balance.Proofs.Metrics

/-!
A call on a client is put together from operations on its balancer, a look at its
configuration and reports of its own. The loop around a call is put together from
calls on a client and calls of URLs. So a property that is closed under putting
together holds of every call, and of the loop, once it holds of these.
-/

namespace Balance.Client
open Operation (Closed)

/-- A closed property that holds of each part of a call on a client. -/
structure Parts (P : ∀ α : Type, Operation Client α → Prop) : Prop extends Closed P where
  init : P _ Client.init
  hasFailover : P _ Client.hasFailover
  algorithm : P _ Client.algorithm
  snapshot : P _ Client.snapshot
  select : ∀ id, P _ (onBalancer none (some <$> Balancer.select id))
  fail : ∀ called timeout,
    P _ (onBalancer (.error .failoverUnavailable) (Balancer.fail called timeout))
  confirm : ∀ called, P _ (onBalancer (.ok false) (Balancer.confirm called))
  report : ∀ event, event.ofPool = false → P _ (Operation.report event)
  reads : ∀ {α : Type} {next : Client → Operation Client α}, (∀ seen, P _ (next seen)) →
    (∀ one two : Client, one.config = two.config → next one = next two) →
    P _ (Operation.state >>= next)

namespace Parts

variable {P : ∀ α : Type, Operation Client α → Prop} (parts : Parts P)
include parts

theorem url (default : Url) (id : Option String) : P _ (Client.url default id) := by
  refine parts.bind (parts.select id) fun selected => ?_
  rcases selected with _ | (error | url)
  · exact parts.pure _
  · exact parts.bind (parts.report _ rfl) fun _ => parts.pure _
  · exact parts.pure _

theorem failed (called : Url) (error : CallError) : P _ (Client.fail called error) := by
  refine parts.bind parts.hasFailover fun tracks => ?_
  cases tracks with
  | false => exact parts.pure _
  | true =>
    refine parts.reads (fun client => ?_) fun one two same => by simp only [policy?, same]
    cases client.policy? with
    | none => exact parts.pure _
    | some policy =>
      refine parts.bind (parts.fail called policy.timeout) fun result => ?_
      cases result with
      | error refusal => exact parts.pure _
      | ok resolved => exact parts.bind (parts.report _ rfl) fun _ => parts.pure _

theorem confirmed (called : Url) : P _ (Client.confirm called) := by
  refine parts.bind parts.hasFailover fun tracks => ?_
  cases tracks with
  | false => exact parts.pure _
  | true => exact parts.bind (parts.confirm called) fun _ => parts.pure _

theorem perform (call : Call) : P _ call.perform := by
  cases call with
  | url default id => exact parts.map (parts.url default id) _
  | fail called error => exact parts.map (parts.failed called error) _
  | confirm called => exact parts.map (parts.confirmed called) _
  | init => exact parts.map parts.init _
  | hasFailover => exact parts.map parts.hasFailover _
  | algorithm => exact parts.map parts.algorithm _
  | snapshot => exact parts.map parts.snapshot _

theorem settle {α : Type} (url : Url) (outcome : Except CallError α) :
    P _ (Client.settle url outcome) := by
  cases outcome with
  | ok value => exact parts.bind (parts.confirmed url) fun _ => parts.pure _
  | error error =>
    refine parts.reads (fun client => ?_) fun one two same => by simp only [classify, policy?, same]
    cases client.classify error with
    | fail => exact parts.bind (parts.failed url error) fun _ => parts.pure _
    | retry | propagate => exact parts.bind (parts.confirmed url) fun _ => parts.pure _

end Parts

structure LoopParts {κ α : Type} (remote : Remote κ α)
    (P : ∀ β : Type, Operation (Client × κ) β → Prop) : Prop extends Closed P where
  url : ∀ default id, P _ (Operation.onFirst (Client.url default id))
  call : ∀ url, P _ (Client.call remote url)
  settle : ∀ url (outcome : Except CallError α), P _ (Operation.onFirst (Client.settle url outcome))
  reportAll : ∀ events, P _ (Operation.reportAll events)
  reads : ∀ {β : Type} {next : Client × κ → Operation (Client × κ) β}, (∀ seen, P _ (next seen)) →
    (∀ one two : Client × κ, one.1.config = two.1.config → next one = next two) →
    P _ (Operation.state >>= next)

namespace LoopParts

variable {κ α : Type} {remote : Remote κ α} {P : ∀ β : Type, Operation (Client × κ) β → Prop}
variable (parts : LoopParts remote P) (default : Url)
include parts

theorem round : P _ (Client.round remote default) := by
  refine parts.bind (parts.url default none) fun url => ?_
  refine parts.bind (parts.call url) fun outcome => ?_
  refine parts.reads (fun seen => ?_) fun one two same => by simp only [verdict?_congr same]
  exact parts.bind (parts.settle url outcome) fun _ => parts.pure _

theorem attempt (limit tries : Tries) :
    P _ (Client.attempt remote default limit.fails limit.retries tries.fails tries.retries) := by
  rw [attempt_eq]
  refine parts.bind (parts.round default) fun round => parts.bind (parts.reportAll _) fun _ => ?_
  cases next : round.next? limit tries with
  | none => exact parts.pure _
  | some more => exact attempt limit more
termination_by limit.fails - tries.fails + (limit.retries - tries.retries)
decreasing_by exact Round.next?_decreasing next

theorem execute : P _ (Client.execute remote default) :=
  parts.reads (fun _ => parts.attempt default ⟨_, _⟩ {}) fun one two same => by
    simp only [policy?, same]

end LoopParts

end Balance.Client
