import Balance.Proofs.Balancer.Rotation

/-!
Offers and takes agree. The candidates are read off the lists of a pool and a
take looks its URL up in them; still a URL is among the candidates exactly if a
take at that instant hands it out, and as a canary exactly if it is not active.
So while the clock goes forward no pick is withheld: a selection makes one pick,
and the counter of round robin tells how many selections there were.
-/

namespace Balance

namespace Pool

variable {pool : Pool} {ambient : Ambient} {url : Url}

theorem mem_candidates (sound : pool.Sound) :
    url ∈ (candidates pool ambient).answer ↔
      url ∈ pool.baseline ∧ (take url pool ambient).answer ≠ .withheld := by
  rw [candidates_answer sound, mem_offered sound.toPartitioned, take_answer sound]

theorem take_eq_canary_iff (sound : pool.Sound) (configured : url ∈ pool.baseline) :
    (take url pool ambient).answer = .canary ↔
      url ∈ (candidates pool ambient).answer ∧ url ∉ pool.active := by
  rw [mem_candidates sound, take_answer sound, Statuses.take_ne_withheld_iff,
    Statuses.take_eq_canary_iff, ← statuses_eq_active_iff_mem sound.toPartitioned configured]
  cases pool.statuses url <;> simp [configured, Status.hasExpired]

theorem take_later (sound : pool.Sound) {first second : Ambient}
    (order : first.reading ≤ second.reading) (offered : url ∈ (candidates pool first).answer) :
    (take url (candidates pool first).state second).answer ≠ .withheld := by
  rw [candidates_answer sound, mem_offered sound.toPartitioned] at offered
  rw [(candidates_apply pool first).2, take_answer sound]
  exact Statuses.take_mono order offered.2

end Pool

namespace Balancer

def Call.isSelect : Call → Bool
  | .select _ => true
  | _ => false

variable {start finish : Balancer} {moments : List (Moment Call.perform)} {counter : UInt64}

theorem configured_of_offers {balancer : Balancer} {ambient : Ambient}
    (sound : balancer.source.Sound) (offers : (candidates balancer ambient).answer ≠ []) :
    balancer.source.baseline ≠ [] := by
  obtain ⟨url, member⟩ := List.exists_mem_of_ne_nil _ offers
  rw [candidates_answer] at member
  exact List.ne_nil_of_mem (Source.mem_baseline_of_candidates sound ambient url member)

theorem select_steps {balancer : Balancer} {ambient : Ambient} (sound : balancer.source.Sound)
    (configured : balancer.source.baseline ≠ []) (forward : ambient.clock.Forward)
    (robin : balancer.strategy = some (.roundRobin counter)) (client : Option String) :
    (select client balancer ambient).state.strategy = some (.roundRobin (counter + 1)) := by
  obtain ⟨_, _, _, stepped, _⟩ := select_of_picksBy sound configured forward
    (picksBy_roundRobin robin client)
  exact stepped

theorem strategy_left {moment : Moment Call.perform} (sound : moment.found.source.Sound)
    (configured : moment.found.source.baseline ≠ []) (forward : moment.ambient.clock.Forward)
    (robin : moment.found.strategy = some (.roundRobin counter)) :
    moment.left.strategy =
      some (.roundRobin (if moment.call.isSelect then counter + 1 else counter)) := by
  obtain ⟨balancer, call, ambient⟩ := moment
  change (call.perform balancer ambient).state.strategy = _
  cases call <;> rw [Call.perform, Operation.map_apply]
  case select client => exact select_steps sound configured forward robin client
  case fail called timeout => exact (fail_strategy called timeout ambient).trans robin
  case confirm called => exact (confirm_strategy called ambient).trans robin
  case candidates => exact (onSource_strategy _ balancer ambient).trans robin
  case snapshot => exact (onSource_strategy _ balancer ambient).trans robin

theorem counter_of_run (run : Run Call.perform start moments finish)
    (sound : start.source.Sound) (configured : start.source.baseline ≠ [])
    (forward : ∀ moment ∈ moments, moment.ambient.clock.Forward)
    (robin : start.strategy = some (.roundRobin counter)) :
    finish.strategy =
      some (.roundRobin (counter + UInt64.ofNat (moments.countP (·.call.isSelect)))) := by
  induction moments generalizing start counter with
  | nil =>
    obtain rfl : start = finish := run
    simpa using robin
  | cons moment rest ih =>
    obtain ⟨rfl, run⟩ := run
    obtain ⟨kept, same⟩ := source_left sound
    have left := strategy_left sound configured (forward moment (by simp)) robin
    rw [ih run kept (same ▸ configured) (fun other member => forward other (by simp [member])) left,
      List.countP_cons, UInt64.ofNat_add]
    cases moment.call.isSelect with
    | false => simp
    | true => simp [UInt64.add_assoc, UInt64.add_comm 1]

theorem select_once {balancer : Balancer} {ambient : Ambient} (sound : balancer.source.Sound)
    (forward : ambient.clock.Forward) (offers : (candidates balancer ambient).answer ≠ [])
    (client : Option String) :
    select client balancer ambient = selectOnce client balancer ambient ∧
      ∃ url, (select client balancer ambient).answer = .ok url := by
  refine ⟨select_eq_selectOnce (Source.honours_of_forward sound forward) offers client, ?_⟩
  obtain ⟨url, _, answer⟩ := (select_answer ambient client sound).2 (configured_of_offers sound offers)
  exact ⟨url, answer⟩

/-- In every pool that a run reaches, a URL is offered at an instant exactly if a
take does not withhold it there, as a canary exactly if it is not active, and
what was offered can be taken at any later instant. So on every balancer that a
run reaches, a selection with a forward clock makes one pick, and round robin
counts the selections. -/
theorem offered_iff_taken :
    (∀ baseline moments pool, Run Pool.Call.perform (Pool.ofBaseline baseline) moments pool →
      ∀ url ∈ baseline, ∀ first second : Ambient, first.reading ≤ second.reading →
        let offers := Pool.candidates pool first
        (url ∈ offers.answer → (Pool.take url offers.state second).answer ≠ .withheld) ∧
          ((Pool.take url pool first).answer = .withheld ↔ url ∉ offers.answer) ∧
          ((Pool.take url pool first).answer = .canary ↔
            url ∈ offers.answer ∧ url ∉ pool.active)) ∧
      ∀ algorithm urls weights failover moments balancer,
        Run Call.perform (create algorithm urls weights failover) moments balancer →
        ∀ client ambient, ambient.clock.Forward → (candidates balancer ambient).answer ≠ [] →
          select client balancer ambient = selectOnce client balancer ambient ∧
          (∃ url, (select client balancer ambient).answer = .ok url) ∧
          (∀ counter, balancer.strategy = some (.roundRobin counter) →
            (select client balancer ambient).state.strategy = some (.roundRobin (counter + 1))) ∧
          ((create algorithm urls weights failover).strategy = some (.roundRobin 0) →
            (∀ moment ∈ moments, moment.ambient.clock.Forward) →
            balancer.strategy =
              some (.roundRobin (UInt64.ofNat (moments.countP (·.call.isSelect))))) := by
  constructor
  · intro baseline moments pool run url member first second order
    have sound := Pool.sound_of_run run
    obtain rfl := Pool.baseline_of_run run
    refine ⟨Pool.take_later sound order, ?_, Pool.take_eq_canary_iff sound member⟩
    simp [Pool.mem_candidates sound, member]
  · intro algorithm urls weights failover moments balancer run client ambient forward offers
    obtain ⟨sound, same⟩ := source_of_run run (sound_create ..)
    have configured := configured_of_offers sound offers
    obtain ⟨once, answered⟩ := select_once sound forward offers client
    refine ⟨once, answered, fun counter robin => ?_, fun robin onward => ?_⟩
    · exact select_steps sound configured forward robin client
    · simpa using counter_of_run run (sound_create ..) (same ▸ configured) onward robin

theorem offered_iff_taken_expired :
    let pool : Pool := ⟨["a", "b"], ["b"], [⟨"a", some 5⟩], [], true⟩
    let balancer := create (some .roundRobin) ["a", "b"] none true
    let failure : Moment Call.perform := ⟨balancer, .fail "a" 5, .standing 0⟩
    let first : Moment Call.perform := ⟨failure.left, .select none, .standing 1⟩
    Run Pool.Call.perform (Pool.ofBaseline ["a", "b"])
        (history Pool.Call.perform (Pool.ofBaseline ["a", "b"]) [(.fail "a" 5, .standing 0)])
        pool ∧
      (Pool.take "a" pool (.standing 6)).answer = .canary ∧
      (Pool.take "a" (Pool.candidates pool (.standing 6)).state (.standing 9)).answer ≠
        .withheld ∧
      Run Call.perform balancer [failure, first] first.left ∧
      select none first.left (.standing 6) = selectOnce none first.left (.standing 6) ∧
      first.left.strategy = some (.roundRobin 1) := by
  intro pool balancer failure first
  obtain ⟨agree, once⟩ := offered_iff_taken
  have run : Run Pool.Call.perform (Pool.ofBaseline ["a", "b"])
      (history Pool.Call.perform (Pool.ofBaseline ["a", "b"]) [(.fail "a" 5, .standing 0)])
      pool := ⟨rfl, rfl⟩
  have offered : "a" ∈ (Pool.candidates pool (.standing 6)).answer := by decide
  obtain ⟨later, _, canary⟩ := agree _ _ _ run "a" (by simp) (.standing 6) (.standing 9) (by decide)
  have calls : Run Call.perform balancer [failure, first] first.left := by
    refine ⟨?_, ?_, rfl⟩ <;> with_reducible rfl
  have standing (now : Instant) : (Ambient.standing now).clock.Forward :=
    List.pairwise_singleton ..
  have forward : ∀ moment ∈ [failure, first], moment.ambient.clock.Forward := by
    simp only [List.mem_cons, List.not_mem_nil, or_false, forall_eq_or_imp, forall_eq]
    exact ⟨standing 0, standing 1⟩
  obtain ⟨single, _, _, counted⟩ := once _ _ _ _ _ _ calls none (.standing 6) (standing 6)
    (by decide +kernel)
  exact ⟨run, canary.mpr ⟨offered, by decide⟩, later offered, calls, single, counted rfl forward⟩

end Balancer

end Balance
