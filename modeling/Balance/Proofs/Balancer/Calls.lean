import Balance.Proofs.Balancer.Selection
import Mathlib.Control.Monad.Basic

/-!
The calls that a balancer answers. Behind each call on a balancer that tracks
failures stands one call on its pool, its shadow: the report itself, the take
of the selected URL, or a mere look at the candidates. So what runs of calls do
to a pool carries over to the balancer around it.
-/

namespace Balance.Balancer

inductive Call
  | select (client : Option String)
  | fail (called : Url) (timeout : Duration)
  | confirm (called : Url)
  | candidates
  | snapshot
deriving Repr, DecidableEq

inductive Answer
  | selected (result : Except BalancerError Url)
  | failed (result : Except BalancerError (Option Url))
  | confirmed (result : Except BalancerError Bool)
  | candidates (urls : List Url)
  | shown (snapshot : Option Snapshot)
deriving Repr, DecidableEq

def Call.perform : Call → Operation Balancer Answer
  | select client => .selected <$> Balancer.select client
  | fail called timeout => .failed <$> Balancer.fail called timeout
  | confirm called => .confirmed <$> Balancer.confirm called
  | candidates => .candidates <$> Balancer.candidates
  | snapshot => .shown <$> Balancer.snapshot

variable {balancer : Balancer} {pool : Pool} (ambient : Ambient)

theorem onSource_onPool (tracked : balancer.source = .failover pool) {α : Type} (absent : α)
    (operation : Operation Pool α) :
    onSource (Source.onPool absent operation) balancer ambient =
      let done := operation pool ambient
      ⟨done.answer, { balancer with source := .failover done.state }, done.ambient,
        done.events⟩ := by
  simp [onSource_apply, Source.onPool, Operation.bind_apply, tracked]

theorem hasFailover_of_source (tracked : balancer.source = .failover pool) :
    balancer.hasFailover = true := by
  rw [hasFailover, tracked]
  rfl

theorem fail_failover (tracked : balancer.source = .failover pool) (called : Url)
    (timeout : Duration) :
    fail called timeout balancer ambient =
      let done := Pool.fail called timeout pool ambient
      ⟨.ok done.answer, { balancer with source := .failover done.state }, done.ambient,
        done.events⟩ := by
  simp [fail, Operation.bind_apply, hasFailover_of_source tracked, onSource_onPool ambient tracked]

theorem confirm_failover (tracked : balancer.source = .failover pool) (called : Url) :
    confirm called balancer ambient =
      let done := Pool.confirm called pool ambient
      ⟨.ok done.answer, { balancer with source := .failover done.state }, done.ambient,
        done.events⟩ := by
  simp [confirm, Operation.bind_apply, hasFailover_of_source tracked, onSource_onPool ambient tracked]

theorem candidates_failover (tracked : balancer.source = .failover pool) :
    candidates balancer ambient =
      let done := Pool.candidates pool ambient
      ⟨done.answer, { balancer with source := .failover done.state }, done.ambient,
        done.events⟩ := by
  simp [candidates, Source.candidates, Operation.bind_apply, tracked, onSource_apply]

theorem snapshot_failover (tracked : balancer.source = .failover pool) :
    snapshot balancer ambient =
      let done := Pool.snapshot pool ambient
      ⟨some done.answer, { balancer with source := .failover done.state }, done.ambient,
        done.events⟩ := by
  simp [snapshot, Source.snapshot, onSource_onPool ambient tracked]

/-- The call on the pool that stands behind a call on the balancer. -/
structure Shadow (moment : Moment Call.perform) (shadow : Moment Pool.Call.perform) : Prop where
  found : moment.found.source = .failover shadow.found
  left : moment.left.source = .failover shadow.left
  shows : shadow.ambient.clock.shows ⊆ moment.ambient.clock.shows
  call : match moment.call with
    | .select _ =>
      (∃ url, moment.answer = .selected (.ok url) ∧ shadow.call = .take url ∧
        shadow.answer ≠ .taken .withheld) ∨
        (∃ error, moment.answer = .selected (.error error)) ∧ shadow.call = .candidates
    | .fail called timeout =>
      shadow.call = .fail called timeout ∧ shadow.ambient = moment.ambient ∧
        ∃ resolved, moment.answer = .failed (.ok resolved) ∧ shadow.answer = .failed resolved
    | .confirm called =>
      shadow.call = .confirm called ∧
        ∃ ended, moment.answer = .confirmed (.ok ended) ∧ shadow.answer = .confirmed ended
    | .candidates =>
      shadow.call = .candidates ∧
        ∃ urls, moment.answer = .candidates urls ∧ shadow.answer = .candidates urls
    | .snapshot =>
      shadow.call = .snapshot ∧
        ∃ view, moment.answer = .shown (some view) ∧ shadow.answer = .shown view

theorem exists_shadow (moment : Moment Call.perform)
    (tracked : moment.found.source = .failover pool) : ∃ shadow, Shadow moment shadow := by
  obtain ⟨balancer, call, ambient⟩ := moment
  change balancer.source = .failover pool at tracked
  cases call with
  | select client =>
    have chooses := chooses_select client balancer ambient
    cases answer : (select client balancer ambient).answer with
    | error error =>
      rw [answer] at chooses
      refine ⟨⟨pool, .candidates, ambient⟩, tracked, ?_, List.Subset.refl _,
        .inr ⟨⟨error, congrArg Answer.selected answer⟩, rfl⟩⟩
      have kept : (Pool.candidates pool ambient).state = pool :=
        (Pool.candidates_apply pool ambient).2
      exact ((chooses.source_of_none rfl).trans tracked).trans (congrArg Source.failover kept.symm)
    | ok url =>
      rw [answer] at chooses
      obtain ⟨reading, leads, taken, source, _⟩ := chooses.source_of_some url rfl
      rw [tracked, Source.take_failover] at taken source
      refine ⟨⟨pool, .take url, reading⟩, tracked, source, leads.shows_subset,
        .inl ⟨url, congrArg Answer.selected answer, rfl, ?_⟩⟩
      exact fun withheld => taken (Pool.Answer.taken.inj withheld)
  | fail called timeout =>
    have done := fail_failover ambient tracked called timeout
    refine ⟨⟨pool, .fail called timeout, ambient⟩, tracked, ?_, List.Subset.refl _,
      rfl, rfl, _, ?_, rfl⟩
    · exact congrArg (fun step => step.state.source) done
    · exact congrArg (fun step => Answer.failed step.answer) done
  | confirm called =>
    have done := confirm_failover ambient tracked called
    refine ⟨⟨pool, .confirm called, ambient⟩, tracked, ?_, List.Subset.refl _, rfl, _, ?_, rfl⟩
    · exact congrArg (fun step => step.state.source) done
    · exact congrArg (fun step => Answer.confirmed step.answer) done
  | candidates =>
    have done := candidates_failover ambient tracked
    refine ⟨⟨pool, .candidates, ambient⟩, tracked, ?_, List.Subset.refl _, rfl, _, ?_, rfl⟩
    · exact congrArg (fun step => step.state.source) done
    · exact congrArg (fun step => Answer.candidates step.answer) done
  | snapshot =>
    have done := snapshot_failover ambient tracked
    refine ⟨⟨pool, .snapshot, ambient⟩, tracked, ?_, List.Subset.refl _, rfl, _, ?_, rfl⟩
    · exact congrArg (fun step => step.state.source) done
    · exact congrArg (fun step => Answer.shown step.answer) done

end Balance.Balancer
