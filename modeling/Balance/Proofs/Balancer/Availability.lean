import Balance.Proofs.Balancer.Calls
import Balance.Proofs.Pool.Refinement

/-!
A selection never runs dry. Over a sound source whose baseline is not empty, a
pick always has a slot, and when every pick is withheld the scan finds the
first candidate active. So a selection answers a URL of the baseline, whatever
the clock shows and the random numbers are; over an empty baseline it finds
none. Calls keep the baseline, and they keep the source sound.
-/

namespace Balance

theorem Strategy.pick_answer (strategy : Strategy) (ambient : Ambient) (client : Option String)
    {length : Nat} (positive : 0 < length) :
    ∃ slot < length, (pick length client strategy ambient).answer = some slot := by
  have some_slot : length ≠ 0 := Nat.ne_of_gt positive
  cases strategy with
  | roundRobin counter =>
    refine ⟨counter.toNat % length, Nat.mod_lt _ positive, ?_⟩
    simp [pick, Operation.bind_apply, some_slot]
  | random =>
    refine ⟨_, ambient.draws.roll_lt positive, ?_⟩
    simp [pick, pickRandom, Operation.bind_apply, Operation.roll, some_slot]
  | clientHash =>
    cases client with
    | none =>
      refine ⟨_, ambient.draws.roll_lt positive, ?_⟩
      simp [pick, pickRandom, Operation.bind_apply, Operation.roll, some_slot]
    | some client =>
      refine ⟨slotOf client length, Nat.mod_lt _ positive, ?_⟩
      simp [pick, Operation.bind_apply, some_slot]

namespace Pool

variable {pool : Pool} {url : Url}

theorem take_eq_active_iff (sound : pool.Sound) (configured : url ∈ pool.baseline)
    {ambient : Ambient} : (take url pool ambient).answer = .active ↔ url ∈ pool.active := by
  rw [take_answer sound, Statuses.take_eq_active_iff,
    statuses_eq_active_iff_mem sound.toPartitioned configured]

theorem take_active (sound : pool.Sound) (active : url ∈ pool.active) (ambient : Ambient) :
    (take url pool ambient).answer = .active :=
  (take_eq_active_iff sound (sound.mem_baseline_of_active active)).mpr active

end Pool

namespace Source

def baseline : Source → List Url
  | fixed urls => urls
  | failover pool => pool.baseline

/-- A fixed sequence, or a pool that is sound. -/
def Sound : Source → Prop
  | fixed _ => True
  | failover pool => pool.Sound

variable {source : Source}

theorem candidates_failover (pool : Pool) (ambient : Ambient) :
    (candidates (.failover pool) ambient).answer = (Pool.candidates pool ambient).answer := by
  simp [candidates, Operation.bind_apply]

theorem candidates_fixed (urls : List Url) (ambient : Ambient) :
    (candidates (.fixed urls) ambient).answer = urls := by
  simp [candidates, Operation.bind_apply]

theorem take_fixed (urls : List Url) (url : Url) (ambient : Ambient) :
    (take url (.fixed urls) ambient).answer = .active ∧
      (take url (.fixed urls) ambient).state = .fixed urls := by
  simp [take, onPool, Operation.bind_apply]

theorem mem_baseline_of_candidates (sound : source.Sound) (ambient : Ambient) :
    ∀ url ∈ (candidates source ambient).answer, url ∈ source.baseline := by
  cases source with
  | fixed urls => simp [candidates_fixed, baseline]
  | failover pool =>
    rw [candidates_failover, Pool.candidates_answer sound]
    exact fun url member => ((Pool.mem_offered sound.toPartitioned).mp member).1

theorem baseline_build (urls : List Url) (weights : Option (List UInt32)) (failover : Bool) :
    (build urls weights failover).baseline = Weight.expand urls weights := by
  unfold build
  split <;> rfl

theorem sound_build (urls : List Url) (weights : Option (List UInt32)) (failover : Bool) :
    (build urls weights failover).Sound := by
  unfold build
  split
  · exact Pool.Sound.ofBaseline _
  · trivial

/-- No URL is excluded or on probation. -/
def Clean (source : Source) : Prop :=
  ∀ pool, source = .failover pool → pool.excluded = [] ∧ pool.probation = []

theorem clean_build (urls : List Url) (weights : Option (List UInt32)) (failover : Bool) :
    (build urls weights failover).Clean := by
  intro pool built
  unfold build at built
  split at built
  · obtain rfl := Source.failover.inj built
    exact ⟨rfl, rfl⟩
  · cases built

theorem candidates_of_clean (sound : source.Sound) (clean : source.Clean) (ambient : Ambient) :
    (candidates source ambient).answer = source.baseline := by
  cases source with
  | fixed urls => exact candidates_fixed urls ambient
  | failover pool =>
    have isClean : pool.isClean = true := Pool.isClean_iff.mpr (clean pool rfl)
    rw [candidates_failover, Pool.candidates_answer sound, Pool.offered_of_isClean isClean]
    exact sound.active_of_isClean isClean

theorem candidates_eq_cons (sound : source.Sound) (configured : source.baseline ≠ [])
    (ambient : Ambient) :
    ∃ url urls, (candidates source ambient).answer = url :: urls ∧
      ∀ later, (take url source later).answer = .active := by
  cases source with
  | fixed urls =>
    obtain ⟨url, rest, rfl⟩ := List.exists_cons_of_ne_nil configured
    exact ⟨url, rest, candidates_fixed _ _, fun later => (take_fixed _ _ _).1⟩
  | failover pool =>
    obtain ⟨url, rest, active⟩ := List.exists_cons_of_ne_nil (sound.active_ne_nil configured)
    refine ⟨url, rest ++ (pool.excluded.filter (·.hasExpired ambient.reading)).map Exclusion.url,
      ?_, fun later => ?_⟩
    · rw [candidates_failover, Pool.candidates_answer sound, Pool.offered, active]
      rfl
    · rw [take_failover]
      exact Pool.take_active sound (by simp [active]) later

end Source

namespace Balancer

variable (balancer : Balancer) (ambient : Ambient)

theorem choose_answer (urls : List Url) (client : Option String) (some_url : urls ≠ []) :
    ∃ url ∈ urls, (choose urls client balancer ambient).answer = some url := by
  have positive : 0 < urls.length := List.length_pos_of_ne_nil some_url
  cases found : balancer.strategy with
  | none =>
    refine ⟨urls[0], List.getElem_mem positive, ?_⟩
    simp [choose, pickSlot, Operation.bind_apply, found, Nat.ne_of_gt positive]
  | some strategy =>
    obtain ⟨slot, below, picked⟩ := strategy.pick_answer ambient client positive
    refine ⟨urls[slot], List.getElem_mem below, ?_⟩
    simp [choose, pickSlot, Operation.bind_apply, found, picked]

theorem choose_nil (client : Option String) : (choose [] client balancer ambient).answer = none := by
  simp [choose, Operation.bind_apply]

theorem candidates_answer :
    (candidates balancer ambient).answer = (Source.candidates balancer.source ambient).answer := by
  rw [candidates, onSource_apply]

theorem take_answer (url : Url) :
    (take url balancer ambient).answer = (Source.take url balancer.source ambient).answer := by
  rw [take, onSource_apply]

variable {balancer}

theorem tryPicks_answer (client : Option String) (attempts : Nat) (urls : List Url)
    (sound : balancer.source.Sound) (some_url : urls ≠ [])
    (configured : ∀ url ∈ urls, url ∈ balancer.source.baseline) :
    ∃ chosen, (tryPicks client attempts urls balancer ambient).answer = some chosen ∧
      ∀ url ∈ chosen, url ∈ balancer.source.baseline := by
  induction attempts generalizing urls balancer ambient with
  | zero => exact ⟨none, rfl, by simp⟩
  | succ attempts ih =>
    obtain ⟨url, member, picked⟩ := choose_answer balancer ambient urls client some_url
    obtain ⟨same, _⟩ := choose_kept balancer ambient urls client
    simp only [tryPicks, Operation.bind_apply, picked]
    generalize choose urls client balancer ambient = choice at *
    cases answer : (take url choice.state choice.ambient).answer with
    | withheld =>
      obtain ⟨kept, _⟩ := take_withheld answer
      simp only [Operation.bind_apply, Operation.report_apply]
      generalize take url choice.state choice.ambient = taken at *
      obtain ⟨listed, _⟩ := candidates_kept taken.state taken.ambient
      have answered := candidates_answer taken.state taken.ambient
      generalize candidates taken.state taken.ambient = again at *
      rw [kept, same] at answered
      have unchanged : again.state.source = balancer.source := (listed.trans kept).trans same
      obtain ⟨head, tail, cons, _⟩ := Source.candidates_eq_cons sound
        (List.ne_nil_of_mem (configured url member)) taken.ambient
      rw [← unchanged] at sound ⊢
      refine ih again.ambient again.answer sound (by simp [answered, cons]) ?_
      rw [answered, ← unchanged]
      exact Source.mem_baseline_of_candidates sound taken.ambient
    | active => exact ⟨some url, rfl, by simpa using configured url member⟩
    | canary => exact ⟨some url, rfl, by simpa using configured url member⟩

theorem takeFirst_cons (url : Url) (urls : List Url)
    (taken : (take url balancer ambient).answer = .active) :
    (takeFirst (url :: urls) balancer ambient).answer = some url := by
  simp [takeFirst, Operation.bind_apply, taken]

theorem chooseTaken_answer (client : Option String) (sound : balancer.source.Sound)
    (configured : balancer.source.baseline ≠ []) :
    ∃ url ∈ balancer.source.baseline, (chooseTaken client balancer ambient).answer = some url := by
  obtain ⟨first, rest, cons, _⟩ := Source.candidates_eq_cons sound configured ambient
  have members := Source.mem_baseline_of_candidates sound ambient
  obtain ⟨same, _⟩ := candidates_kept balancer ambient
  have answered := candidates_answer balancer ambient
  simp only [chooseTaken, Operation.bind_apply]
  generalize candidates balancer ambient = listed at *
  rw [← answered, ← same] at members
  rw [← same] at sound
  obtain ⟨chosen, tries, within⟩ := tryPicks_answer listed.ambient client
    (max listed.answer.length 1) listed.answer sound (by simp [answered, cons]) members
  have source := (chooses_tryPicks client (max listed.answer.length 1) listed.answer
    listed.state listed.ambient).source_of_none
  generalize tryPicks client (max listed.answer.length 1) listed.answer listed.state
    listed.ambient = tried at *
  rw [tries]
  cases chosen with
  | some url => exact ⟨url, same ▸ within url rfl, rfl⟩
  | none =>
    have kept : tried.state.source = balancer.source := (source (by simp [tries])).trans same
    rw [same, ← kept] at sound
    rw [← kept] at configured ⊢
    obtain ⟨url, urls, again, active⟩ := Source.candidates_eq_cons sound configured tried.ambient
    obtain ⟨relisted, _⟩ := candidates_kept tried.state tried.ambient
    have reanswered := candidates_answer tried.state tried.ambient
    have member := Source.mem_baseline_of_candidates sound tried.ambient url (by simp [again])
    simp only [Operation.bind_apply]
    generalize candidates tried.state tried.ambient = listed at *
    refine ⟨url, member, ?_⟩
    rw [reanswered, again]
    exact takeFirst_cons _ url urls (by rw [take_answer, relisted, active])

theorem chooseTaken_nil (client : Option String)
    (empty : (candidates balancer ambient).answer = []) :
    (chooseTaken client balancer ambient).answer = none := by
  simp [chooseTaken, Operation.bind_apply, empty, tryPicks, choose_nil]

theorem select_answer (client : Option String) (sound : balancer.source.Sound) :
    (balancer.source.baseline = [] →
        (select client balancer ambient).answer = .error .noUrlAvailable) ∧
      (balancer.source.baseline ≠ [] → ∃ url ∈ balancer.source.baseline,
        (select client balancer ambient).answer = .ok url) := by
  constructor
  · intro empty
    have none := Source.mem_baseline_of_candidates sound ambient
    rw [← candidates_answer, empty] at none
    have nothing := chooseTaken_nil ambient client (List.eq_nil_iff_forall_not_mem.mpr
      fun url member => List.not_mem_nil (none url member))
    simp [select, Operation.bind_apply, nothing]
  · intro configured
    obtain ⟨url, member, chosen⟩ := chooseTaken_answer ambient client sound configured
    refine ⟨url, member, ?_⟩
    simp [select, Operation.bind_apply, chosen]

section Calls

variable {moment : Moment Call.perform}

theorem source_of_fixed {urls : List Url} (fixed : moment.found.source = .fixed urls) :
    moment.left.source = .fixed urls := by
  obtain ⟨balancer, call, ambient⟩ := moment
  change balancer.source = .fixed urls at fixed
  have untracked : balancer.hasFailover = false := by
    rw [hasFailover, fixed]
    rfl
  change (call.perform balancer ambient).state.source = .fixed urls
  cases call with
  | select client =>
    rw [Call.perform, Operation.map_apply]
    have chooses := chooses_select client balancer ambient
    cases chosen : (select client balancer ambient).answer.toOption with
    | none => exact (chooses.source_of_none chosen).trans fixed
    | some url =>
      obtain ⟨reading, _, _, source, _⟩ := chooses.source_of_some url chosen
      rw [source, fixed, (Source.take_fixed urls url reading).2]
  | fail called timeout => simp [Call.perform, fail, Operation.bind_apply, untracked, fixed]
  | confirm called => simp [Call.perform, confirm, Operation.bind_apply, untracked, fixed]
  | candidates =>
    rw [Call.perform, Operation.map_apply]
    exact (candidates_kept balancer ambient).1.trans fixed
  | snapshot =>
    simp [Call.perform, snapshot, onSource_apply, Source.snapshot, Source.onPool,
      Operation.bind_apply, fixed]

theorem hasFailover_left (moment : Moment Call.perform) :
    moment.left.hasFailover = moment.found.hasFailover := by
  cases source : moment.found.source with
  | fixed urls => rw [hasFailover, hasFailover, source_of_fixed source, source]
  | failover pool =>
    obtain ⟨shadow, behind⟩ := exists_shadow moment source
    rw [hasFailover_of_source behind.left, hasFailover_of_source source]

theorem source_left (sound : moment.found.source.Sound) :
    moment.left.source.Sound ∧ moment.left.source.baseline = moment.found.source.baseline := by
  cases source : moment.found.source with
  | fixed urls =>
    rw [source_of_fixed source]
    exact ⟨trivial, rfl⟩
  | failover pool =>
    obtain ⟨shadow, behind⟩ := exists_shadow moment source
    obtain rfl : pool = shadow.found := Source.failover.inj (source.symm.trans behind.found)
    have change := Pool.change_left shadow
    rw [source] at sound
    rw [behind.left]
    exact ⟨Pool.Sound.change sound change, change.baseline_eq⟩

theorem hasFailover_of_run {start finish : Balancer} {moments : List (Moment Call.perform)}
    (run : Run Call.perform start moments finish) : finish.hasFailover = start.hasFailover :=
  run.keeps (P := (·.hasFailover = start.hasFailover))
    (fun moment _ same => (hasFailover_left moment).trans same) rfl

theorem source_of_run {start finish : Balancer} {moments : List (Moment Call.perform)}
    (run : Run Call.perform start moments finish) (sound : start.source.Sound) :
    finish.source.Sound ∧ finish.source.baseline = start.source.baseline := by
  refine run.keeps (P := fun balancer => balancer.source.Sound ∧
    balancer.source.baseline = start.source.baseline) ?_ ⟨sound, rfl⟩
  rintro moment _ ⟨sound, same⟩
  obtain ⟨sound, kept⟩ := source_left sound
  exact ⟨sound, kept.trans same⟩

end Calls

section Creation

variable (algorithm : Option Algorithm) (urls : List Url) (weights : Option (List UInt32))
variable (failover : Bool)

theorem sound_create : (create algorithm urls weights failover).source.Sound := by
  unfold create
  split
  · exact Source.sound_build urls none false
  · exact Source.sound_build urls _ failover

theorem clean_create : (create algorithm urls weights failover).source.Clean := by
  unfold create
  split
  · exact Source.clean_build urls none false
  · exact Source.clean_build urls _ failover

theorem hasFailover_create (several : 2 ≤ Weight.distinctCount urls) :
    (create algorithm urls weights failover).hasFailover = failover := by
  have many : ¬ Weight.distinctCount urls < 2 := by omega
  cases failover <;> simp [create, many, several, hasFailover, Source.isFailover, Source.build, Source.pool?]

theorem baseline_create :
    (create algorithm urls weights failover).source.baseline =
      Weight.expand urls
        (if 2 ≤ Weight.distinctCount urls ∧ (algorithm.getD .roundRobin).isWeighted = true
          then weights else none) := by
  unfold create
  split
  · next few => rw [Source.baseline_build, if_neg (by omega)]
  · next many =>
    rw [Source.baseline_build]
    congr 1
    by_cases weighted : (algorithm.getD .roundRobin).isWeighted = true
    · rw [if_pos weighted, if_pos ⟨by omega, weighted⟩]
    · rw [if_neg weighted, if_neg (by simp [weighted])]

variable {algorithm urls weights failover}

theorem failover_of_create
    (tracked : (create algorithm urls weights failover).hasFailover = true) : failover = true := by
  cases failover with
  | true => rfl
  | false =>
    have fixed (weights) : (Source.build urls weights false).isFailover = false := rfl
    unfold create at tracked
    split at tracked <;> simp [hasFailover, fixed] at tracked

theorem sound_of_run {moments : List (Moment Call.perform)} {balancer : Balancer} {pool : Pool}
    (run : Run Call.perform (create algorithm urls weights failover) moments balancer)
    (tracked : balancer.source = .failover pool) : pool.Sound := by
  obtain ⟨sound, _⟩ := source_of_run run (sound_create ..)
  rwa [tracked] at sound

end Creation

end Balancer

end Balance
