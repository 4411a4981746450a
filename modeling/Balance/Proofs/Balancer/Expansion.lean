import Balance.Proofs.Alike
import Balance.Proofs.Balancer.Calls
import Balance.Proofs.Balancer.Parts
import Balance.Proofs.Weight

/-!
Weights are nothing but copies. A balancer of a weighted algorithm differs from
one of the plain algorithm over the expanded list in the name of the algorithm,
and no call asks for that name. It takes a positive weight for every URL: a URL
of weight zero is missing from the expanded list, which may then be too short to
balance or to track failures.
-/

namespace Balance

theorem Source.build_expand {urls : List Url} {weights : Option (List UInt32)}
    (positive : Weight.Positive urls weights) (failover : Bool) :
    build (Weight.expand urls weights) none failover = build urls weights failover := by
  simp only [build, Weight.expand_none, Weight.distinctCount_expand positive]

namespace Balancer
open Operation (Respects)

/-- Balancers that differ in nothing but their algorithm's name. -/
structure Interchangeable (first second : Balancer) : Prop where
  source : first.source = second.source
  strategy : first.strategy = second.strategy

namespace Interchangeable

theorem hasFailover {first second : Balancer} (same : Interchangeable first second) :
    first.hasFailover = second.hasFailover := by
  rw [Balancer.hasFailover, Balancer.hasFailover, same.source]

theorem onSource {α : Type} (operation : Operation Source α) :
    Respects Interchangeable (Balancer.onSource operation) := by
  intro first second same ambient
  rw [onSource_apply, onSource_apply, same.source]
  exact ⟨rfl, rfl, rfl, same.strategy⟩

theorem choose (urls : List Url) (client : Option String) :
    Respects Interchangeable (Balancer.choose urls client) := by
  intro first second same ambient
  have strategy := same.strategy
  cases found : second.strategy with
  | none =>
    simp only [Balancer.choose, pickSlot, Operation.bind_apply, Operation.state_apply, found,
      strategy.trans found]
    exact ⟨rfl, rfl, same⟩
  | some chosen =>
    simp only [Balancer.choose, pickSlot, Operation.bind_apply, Operation.state_apply, found,
      strategy.trans found]
    exact ⟨rfl, rfl, same.source, rfl⟩

theorem parts (client : Option String) :
    Parts (fun _ operation => Respects Interchangeable operation) client where
  toClosed := Respects.closed
  choose urls := choose urls client
  take _ := onSource _
  candidates := onSource _
  withheld _ := Respects.report _

theorem select (client : Option String) : Respects Interchangeable (Balancer.select client) :=
  (parts client).select fun _ => Respects.report _

theorem tracked {α : Type} {operation refusal : Operation Balancer α}
    (respects : Respects Interchangeable operation) (refuses : Respects Interchangeable refusal) :
    Respects Interchangeable (Operation.state >>= fun balancer =>
      if balancer.hasFailover then operation else refusal) := by
  intro first second same ambient
  have flag := same.hasFailover
  cases tracks : second.hasFailover with
  | true =>
    obtain ⟨answer, spent, left⟩ := respects first second same ambient
    simp only [Operation.bind_apply, Operation.state_apply, flag, tracks, if_true]
    exact ⟨answer, spent, left⟩
  | false =>
    obtain ⟨answer, spent, left⟩ := refuses first second same ambient
    simp only [Operation.bind_apply, Operation.state_apply, flag, tracks, Bool.false_eq_true,
      if_false]
    exact ⟨answer, spent, left⟩

theorem perform (call : Call) : Respects Interchangeable call.perform := by
  cases call with
  | select client => exact (select client).map _
  | fail called timeout =>
    refine (tracked (onSource _) ?_).map _
    exact (Respects.report _).bind fun _ => Respects.closed.pure _
  | confirm called =>
    refine (tracked (onSource _) ?_).map _
    exact (Respects.report _).bind fun _ => Respects.closed.pure _
  | candidates => exact (onSource _).map _
  | snapshot => exact (onSource _).map _

theorem create (weighted plain : Algorithm) (weighs : weighted.isWeighted = true)
    (unweighed : plain.isWeighted = false)
    (alike : Strategy.ofAlgorithm weighted = Strategy.ofAlgorithm plain) {urls : List Url}
    {weights : Option (List UInt32)} (several : 2 ≤ Weight.distinctCount urls)
    (positive : Weight.Positive urls weights) (failover : Bool) :
    Interchangeable (Balancer.create (some weighted) urls weights failover)
      (Balancer.create (some plain) (Weight.expand urls weights) none failover) := by
  have many : ¬ Weight.distinctCount urls < 2 := Nat.not_lt.mpr several
  have still : ¬ Weight.distinctCount (Weight.expand urls weights) < 2 := by
    rwa [Weight.distinctCount_expand positive]
  refine ⟨?_, ?_⟩
  · simp [Balancer.create, many, still, weighs, unweighed, Source.build_expand positive]
  · simp [Balancer.create, many, still, alike]

end Interchangeable

/-- Calls at the same readings and random numbers get the same answers from a
weighted balancer and from a plain one over the expanded list, and leave the same
readings and numbers to the next call. -/
theorem weighted_eq_expanded {urls : List Url} {weights : Option (List UInt32)}
    (several : 2 ≤ Weight.distinctCount urls)
    (positive : Weight.Positive urls weights) (failover : Bool) (calls : List (Call × Ambient)) :
    (history Call.perform (create (some .weightedRoundRobin) urls weights failover) calls).map
        Moment.outcome =
      (history Call.perform
        (create (some .roundRobin) (Weight.expand urls weights) none failover) calls).map
        Moment.outcome ∧
    (history Call.perform (create (some .weightedRandom) urls weights failover) calls).map
        Moment.outcome =
      (history Call.perform
        (create (some .random) (Weight.expand urls weights) none failover) calls).map
        Moment.outcome := by
  constructor
  · exact outcomes_eq Interchangeable.perform
      (.create .weightedRoundRobin .roundRobin rfl rfl rfl several positive failover) calls
  · exact outcomes_eq Interchangeable.perform
      (.create .weightedRandom .random rfl rfl rfl several positive failover) calls

theorem weighted_eq_expanded_readmitted :
    let calls : List (Call × Ambient) :=
      [(.fail "a/x" 5, .standing 0), (.select none, .standing 6), (.select none, .standing 6),
        (.confirm "a/x", .standing 6), (.candidates, .standing 7), (.snapshot, .standing 7)]
    2 ≤ Weight.distinctCount ["a", "b"] ∧ Weight.Positive ["a", "b"] (some [2]) ∧
      (history Call.perform (create (some .weightedRoundRobin) ["a", "b"] (some [2]) true)
          calls).map Moment.outcome =
        (history Call.perform (create (some .roundRobin) ["a", "a", "b"] none true) calls).map
          Moment.outcome := by
  intro calls
  have several : 2 ≤ Weight.distinctCount ["a", "b"] := by decide
  have positive : Weight.Positive ["a", "b"] (some [2]) := by
    intro url member
    simp only [List.mem_cons, List.not_mem_nil, or_false] at member
    rcases member with rfl | rfl
    · exact ⟨0, rfl, by decide⟩
    · exact ⟨1, rfl, by decide⟩
  exact ⟨several, positive, (weighted_eq_expanded several positive true calls).1⟩

end Balancer

end Balance
