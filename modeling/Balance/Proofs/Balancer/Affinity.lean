import Balance.Proofs.Balancer.Rotation

/-!
Where a client hash sends a client. The slot is the hash of the client id modulo
the number of candidates, and while the readings of a clock never go back the
first pick can be taken. So what happened before a selection shows only in the
candidates, and a clean pool offers those in the configured order. A client that
was sent elsewhere by failures is back at its URL once they are over.
-/

namespace Balance

theorem Strategy.pick_clientHash (length : Nat) (client : Option String) (ambient : Ambient) :
    (pick length client .clientHash ambient).state = .clientHash := by
  by_cases empty : length = 0
  · simp [pick, empty]
  · cases client <;> simp [pick, pickRandom, Operation.bind_apply, Operation.roll, empty]

namespace Balancer

variable {balancer start finish : Balancer} {moments : List (Moment Call.perform)}

theorem picksBy_clientHash (hashed : balancer.strategy = some .clientHash) (client : String) :
    balancer.PicksBy (some client) (fun length => (ClientHash.ofText client).toNat % length)
      (some .clientHash) := by
  intro urls ambient some_url
  refine ⟨Nat.mod_lt _ (List.length_pos_of_ne_nil some_url), ?_⟩
  simp [choose, pickSlot, Strategy.pick, Strategy.slotOf, Operation.bind_apply, hashed, some_url]

theorem clientHash_of_run (run : Run Call.perform start moments finish)
    (hashed : start.strategy = some .clientHash) : finish.strategy = some .clientHash := by
  refine strategy_of_run (P := (· = some .clientHash)) ?_ run hashed
  intro urls client balancer ambient hashed
  simp [choose, pickSlot, Operation.bind_apply, hashed, Strategy.pick_clientHash]

section Hashed

variable {urls : List Url} (weights : Option (List UInt32)) (failover : Bool)

theorem baseline_create_ipHash (urls : List Url) :
    (create (some .ipHash) urls weights failover).source.baseline = urls := by
  rw [baseline_create, if_neg (by simp [Algorithm.isWeighted]), Weight.expand_none]

theorem found_of_run {weights : Option (List UInt32)} {failover : Bool}
    (several : 2 ≤ Weight.distinctCount urls)
    (run : Run Call.perform (create (some .ipHash) urls weights failover) moments finish) :
    ∀ moment ∈ moments, moment.found.strategy = some .clientHash ∧ moment.found.source.Sound ∧
      moment.found.source.baseline = urls := by
  intro moment member
  obtain ⟨earlier, later, rfl⟩ := List.append_of_mem member
  obtain ⟨run, _⟩ := Run.split_iff.mp run
  obtain ⟨sound, kept⟩ := source_of_run run (sound_create ..)
  exact ⟨clientHash_of_run run (strategy_create (some .ipHash) weights failover several), sound,
    kept.trans (baseline_create_ipHash weights failover urls)⟩

theorem answer_of_clientHash {moment : Moment Call.perform} {client : String}
    (call : moment.call = .select (some client))
    (hashed : moment.found.strategy = some .clientHash) (sound : moment.found.source.Sound)
    (configured : moment.found.source.baseline ≠ []) (forward : moment.ambient.clock.Forward) :
    let offered := (candidates moment.found moment.ambient).answer
    ∃ url, offered[(ClientHash.ofText client).toNat % offered.length]? = some url ∧
      moment.answer = .selected (.ok url) := by
  obtain ⟨url, slot, answer, _⟩ := select_of_picksBy sound configured forward
    (picksBy_clientHash hashed client)
  refine ⟨url, slot, ?_⟩
  rw [Moment.answer, Moment.step, call, Call.perform, Operation.map_apply]
  exact congrArg Answer.selected answer

/-- A client is sent to the slot of its hash among the candidates of the moment.
Where nothing is excluded or on probation these are the configured URLs in their
order, so that all such moments send a client to one URL. -/
theorem affine_of_run {weights : Option (List UInt32)} {failover : Bool}
    (several : 2 ≤ Weight.distinctCount urls)
    (run : Run Call.perform (create (some .ipHash) urls weights failover) moments finish)
    (forward : ∀ moment ∈ moments, moment.ambient.clock.Forward) :
    (∀ moment ∈ moments, ∀ client, moment.call = .select (some client) →
      let offered := (candidates moment.found moment.ambient).answer
      ∃ url, offered[(ClientHash.ofText client).toNat % offered.length]? = some url ∧
        moment.answer = .selected (.ok url)) ∧
    (∀ moment ∈ moments, moment.found.source.Clean →
      ∀ reading, (candidates moment.found reading).answer = urls) ∧
    ∀ client, ∃ home, urls[(ClientHash.ofText client).toNat % urls.length]? = some home ∧
      ∀ moment ∈ moments, moment.call = .select (some client) → moment.found.source.Clean →
        moment.answer = .selected (.ok home) := by
  have some_url : urls ≠ [] := by
    rintro rfl
    exact absurd several (by decide)
  have reached := found_of_run several run
  have ordered : ∀ moment ∈ moments, moment.found.source.Clean →
      ∀ reading, (candidates moment.found reading).answer = urls := by
    intro moment member clean reading
    obtain ⟨_, sound, baseline⟩ := reached moment member
    rw [candidates_answer, Source.candidates_of_clean sound clean, baseline]
  have sent (moment : Moment Call.perform) (member : moment ∈ moments) (client : String)
      (call : moment.call = .select (some client)) := by
    obtain ⟨hashed, sound, baseline⟩ := reached moment member
    exact answer_of_clientHash call hashed sound (baseline ▸ some_url) (forward moment member)
  refine ⟨sent, ordered, fun client => ?_⟩
  have below : (ClientHash.ofText client).toNat % urls.length < urls.length :=
    Nat.mod_lt _ (List.length_pos_of_ne_nil some_url)
  refine ⟨_, List.getElem?_eq_getElem below, fun moment member call clean => ?_⟩
  obtain ⟨url, slot, answer⟩ := sent moment member client call
  rw [ordered moment member clean, List.getElem?_eq_getElem below] at slot
  rwa [Option.some.inj slot]

theorem affine_of_run_readmitted :
    let balancer := create (some .ipHash) ["a", "b"] none true
    let first : Moment Call.perform := ⟨balancer, .select (some "y"), .standing 0⟩
    let failure : Moment Call.perform := ⟨first.left, .fail "b" 5, .standing 0⟩
    let away : Moment Call.perform := ⟨failure.left, .select (some "y"), .standing 1⟩
    let canary : Moment Call.perform := ⟨away.left, .select (some "y"), .standing 6⟩
    let success : Moment Call.perform := ⟨canary.left, .confirm "b", .standing 6⟩
    let last : Moment Call.perform := ⟨success.left, .select (some "y"), .standing 7⟩
    Run Call.perform balancer [first, failure, away, canary, success, last] last.left ∧
      away.answer = .selected (.ok "a") ∧ first.found.source.Clean ∧ last.found.source.Clean ∧
      first.answer = .selected (.ok "b") ∧ last.answer = .selected (.ok "b") := by
  intro balancer first failure away canary success last
  have run : Run Call.perform balancer [first, failure, away, canary, success, last] last.left := by
    refine ⟨?_, ?_, ?_, ?_, ?_, ?_, rfl⟩ <;> with_reducible rfl
  have forward : ∀ moment ∈ [first, failure, away, canary, success, last],
      moment.ambient.clock.Forward := by
    intro moment member
    simp only [List.mem_cons, List.not_mem_nil, or_false] at member
    rcases member with rfl | rfl | rfl | rfl | rfl | rfl <;> exact List.pairwise_singleton ..
  have clean : first.found.source.Clean := Source.clean_build ["a", "b"] none true
  have readmitted : last.found.source = .build ["a", "b"] none true := by decide +kernel
  have again : last.found.source.Clean := readmitted ▸ Source.clean_build ["a", "b"] none true
  obtain ⟨_, _, homes⟩ := affine_of_run (by decide) run forward
  obtain ⟨home, slot, answers⟩ := homes "y"
  have second : ["a", "b"][(ClientHash.ofText "y").toNat % 2]? = some "b" := by decide +kernel
  obtain rfl : "b" = home := Option.some.inj (second.symm.trans slot)
  exact ⟨run, by decide +kernel, clean, again, answers first (by simp) rfl clean,
    answers last (by simp) rfl again⟩

end Hashed

end Balancer

end Balance
