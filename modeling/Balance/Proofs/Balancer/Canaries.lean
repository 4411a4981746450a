import Balance.Proofs.Balancer.Exclusion
import Balance.Proofs.Balancer.Fairness
import Balance.Proofs.Balancer.Handout
import Balance.Proofs.Balancer.Offers

/-!
Expired exclusions are tried again within a rotation. While the clock stands
still and nothing is reported, only a canary changes the pool, and until then the
counter walks over the candidates. The expired exclusions stand behind the active
URLs, so the walk comes to one of them before its rotation is over. The canary
takes a slot away, and the counter may then point anywhere; so the rotation for
the next exclusion is counted anew.
-/

namespace Balance

def Clock.Stands (clock : Clock) (now : Instant) : Prop := ∀ reading ∈ clock.shows, reading = now

instance (clock : Clock) (now : Instant) : Decidable (clock.Stands now) :=
  inferInstanceAs (Decidable (∀ reading ∈ clock.shows, reading = now))

theorem Clock.Stands.forward {clock : Clock} {now : Instant} (stands : clock.Stands now) :
    clock.Forward := by
  refine List.pairwise_of_forall_mem_list fun first shown second later => ?_
  rw [stands first shown, stands second later]

namespace Pool

variable {pool next : Pool} {url : Url} {now : Instant}

theorem offered_eq_append (pool : Pool) (now : Instant) :
    pool.offered now = pool.active ++ pool.expired now := rfl

theorem not_active_of_expired (partitioned : pool.Partitioned) (due : url ∈ pool.expired now) :
    url ∉ pool.active :=
  partitioned.not_active_of_excluded ((pool.expired_sublist now).subset due)

theorem lt_of_active (partitioned : pool.Partitioned) {slot : Nat}
    (found : (pool.offered now)[slot]? = some url) (active : url ∈ pool.active) :
    slot < pool.active.length := by
  by_contra beyond
  rw [offered_eq_append, List.getElem?_append_right (Nat.not_lt.mp beyond)] at found
  exact not_active_of_expired partitioned (List.mem_of_getElem? found) active

theorem EndsExclusion.perm_expired (ends : pool.EndsExclusion url now next) :
    (pool.expired now).Perm (url :: next.expired now) := by
  obtain ⟨before, exclusion, after, excluded, rfl, ended, rfl⟩ := ends
  simp [expired, excluded, ended]

theorem EndsExclusion.active_eq (ends : pool.EndsExclusion url now next) :
    next.active = pool.active := by
  obtain ⟨_, _, _, _, _, _, rfl⟩ := ends
  rfl

end Pool

theorem Source.snapshot_state (source : Source) (ambient : Ambient) :
    (snapshot source ambient).state = source := by
  cases source with
  | fixed urls => rfl
  | failover pool =>
    simp [snapshot, onPool, Operation.bind_apply, Operation.map_apply, Pool.snapshot_apply]

namespace Balancer

variable {balancer finish : Balancer} {pool next : Pool} {counter : UInt64} {now : Instant}
variable {url : Url} {moment canary : Moment Call.perform}
variable {moments selections before after rest : List (Moment Call.perform)}

/-- Selections in a row at one instant, from a pool and a counter that does not
wrap around. -/
structure Turning (balancer : Balancer) (pool : Pool) (counter : UInt64) (now : Instant)
    (selections : List (Moment Call.perform)) (finish : Balancer) : Prop where
  tracked : balancer.source = .failover pool
  sound : pool.Sound
  robin : balancer.strategy = some (.roundRobin counter)
  run : Run Call.perform balancer selections finish
  selects : ∀ moment ∈ selections, moment.call.isSelect = true
  stands : ∀ moment ∈ selections, moment.ambient.clock.Stands now
  small : counter.toNat + selections.length ≤ UInt64.size

theorem Call.exists_select {call : Call} (selects : call.isSelect = true) :
    ∃ client, call = .select client := by
  cases call with
  | select client => exact ⟨client, rfl⟩
  | _ => contradiction

theorem Turning.step (turning : Turning balancer pool counter now (moment :: rest) finish)
    (configured : pool.baseline ≠ []) :
    ∃ url next,
      (pool.offered now)[counter.toNat % (pool.offered now).length]? = some url ∧
      Returns moment url ∧
      (url ∈ pool.active ∧ next = pool ∨ pool.EndsExclusion url now next) ∧
      Turning moment.left next (counter + 1) now rest finish := by
  obtain ⟨tracked, sound, robin, ⟨found, run⟩, selects, stands, small⟩ := turning
  obtain ⟨start, call, ambient⟩ := moment
  obtain rfl : start = balancer := found
  obtain ⟨client, rfl⟩ := Call.exists_select (selects _ List.mem_cons_self)
  have still : ambient.clock.Stands now := stands _ List.mem_cons_self
  obtain ⟨url, slot, answer, strategy, _⟩ :=
    select_roundRobin tracked sound configured robin still.forward client
  obtain ⟨next, left, moves⟩ := moves_select sound tracked client ambient
  have reading : ambient.reading = now := still _ ambient.clock.read_mem_shows
  rw [reading] at slot
  rw [answer] at moves
  have kept : next.Sound := by
    let moment : Moment Call.perform := ⟨start, .select client, ambient⟩
    have before : moment.found.source.Sound := by rwa [tracked]
    have carried : Source.Sound (select client start ambient).state.source := (source_left before).1
    rwa [left] at carried
  refine ⟨url, next, slot, congrArg Answer.selected answer, ?_,
    left, kept, strategy, run, ?_, ?_, ?_⟩
  · rcases moves with active | ⟨last, leads, _, ends⟩
    · exact .inl active
    · rw [still _ (leads.shows_subset last.read_mem_shows)] at ends
      exact .inr ends
  · exact fun other member => selects other (List.mem_cons_of_mem _ member)
  · exact fun other member => stands other (List.mem_cons_of_mem _ member)
  · simp only [List.length_cons, UInt64.toNat_add, UInt64.reduceToNat] at small ⊢
    omega

theorem toNat_succ_mod (counter : UInt64) {length : Nat} (small : counter.toNat + 1 < UInt64.size)
    (inside : counter.toNat % length + 1 < length) :
    (counter + 1).toNat % length = counter.toNat % length + 1 := by
  have whole : (counter + 1).toNat = counter.toNat + 1 := by
    simp only [UInt64.toNat_add, UInt64.reduceToNat, UInt64.size] at small ⊢
    omega
  rw [whole, Nat.add_mod, Nat.mod_eq_of_lt (b := length) (a := 1) (by omega),
    Nat.mod_eq_of_lt inside]

/-- The selections before the first canary answer active URLs, and leave the pool to it. -/
structure FirstCanary (pool : Pool) (now : Instant) (before : List (Moment Call.perform))
    (canary : Moment Call.perform) (url : Url) (next : Pool) : Prop where
  active : ∀ moment ∈ before, ∃ other ∈ pool.active, Returns moment other
  found : canary.found.source = .failover pool
  returns : Returns canary url
  ends : pool.EndsExclusion url now next

theorem Turning.exists_canary (turning : Turning balancer pool counter now selections finish)
    (due : pool.expired now ≠ [])
    (long : pool.active.length - counter.toNat % (pool.offered now).length < selections.length) :
    ∃ before canary after url next later, selections = before ++ canary :: after ∧
      before.length ≤ pool.active.length - counter.toNat % (pool.offered now).length ∧
      FirstCanary pool now before canary url next ∧
      Turning canary.left next later now after finish := by
  have partitioned := turning.sound.toPartitioned
  obtain ⟨waiting, member⟩ := List.exists_mem_of_ne_nil _ due
  have configured : pool.baseline ≠ [] := List.ne_nil_of_mem
    (partitioned.mem_baseline_of_excluded ((pool.expired_sublist now).subset member))
  induction selections generalizing balancer counter with
  | nil => simp at long
  | cons moment rest ih =>
    obtain ⟨url, next, slot, returns, active | ends, onward⟩ := turning.step configured
    · obtain ⟨active, rfl⟩ := active
      have below := Pool.lt_of_active partitioned slot active
      have length : (next.offered now).length = next.active.length + (next.expired now).length :=
        List.length_append
      have some_expired := List.length_pos_of_ne_nil due
      have small := turning.small
      simp only [List.length_cons] at long small
      have stepped : (counter + 1).toNat % (next.offered now).length =
          counter.toNat % (next.offered now).length + 1 :=
        toNat_succ_mod counter (by omega) (by omega)
      obtain ⟨before, canary, after, taken, behind, later, rfl, near, first, turning⟩ :=
        ih onward (by omega)
      refine ⟨moment :: before, canary, after, taken, behind, later, rfl, ?_,
        { first with active := ?_ }, turning⟩
      · simp only [List.length_cons]
        omega
      · exact List.forall_mem_cons.mpr ⟨⟨url, active, returns⟩, first.active⟩
    · obtain ⟨rfl, _⟩ := turning.run
      exact ⟨[], moment, rest, url, next, counter + 1, rfl, Nat.zero_le _,
        ⟨List.forall_mem_nil _, turning.tracked, returns, ends⟩, onward⟩

namespace FirstCanary

variable (first : FirstCanary pool now before canary url next)
include first

theorem countP_before {other : Url} (away : other ∉ pool.active) :
    before.countP (Returns · other) = 0 := by
  refine List.countP_eq_zero.mpr fun moment member => ?_
  obtain ⟨answered, active, returns⟩ := first.active moment member
  rw [decide_eq_true_iff]
  intro same
  exact away (returns.unique same ▸ active)

theorem promotes (sound : pool.Sound) :
    Promotes canary url ∧ Puts canary.left url .probation := by
  obtain ⟨_, exclusion, _, excluded, rfl, _, _⟩ := first.ends
  have member : exclusion ∈ pool.excluded := by simp [excluded]
  have status := (Pool.statuses_eq_excluded_iff sound.toPartitioned).mpr member
  exact promotes_of_returns ⟨pool, first.found, sound, status⟩ first.returns

end FirstCanary

theorem Turning.probation (turning : Turning balancer pool counter now selections finish)
    (puts : Puts balancer url .probation) :
    selections.countP (Returns · url) = 0 ∧ Puts finish url .probation := by
  have left (moment : Moment Call.perform) (member : moment ∈ selections)
      (held : Puts moment.found url .probation) : Puts moment.left url .probation := by
    obtain ⟨client, select⟩ := Call.exists_select (turning.selects moment member)
    obtain ⟨fails, resets⟩ : Quiet moment url := quiet_of_call (by simp [select])
    exact probation_left held fails (by simp [Confirms, select]) resets
  refine ⟨List.countP_eq_zero.mpr fun moment member => ?_,
    turning.run.keeps (P := (Puts · url .probation)) left puts⟩
  rw [decide_eq_true_iff]
  exact not_returns_of_probation
    (turning.run.found (P := (Puts · url .probation)) left puts moment member)

/-- The selections of `count` rotations over `length` slots, each a slot shorter
than the one before. -/
def rotations (length count : Nat) : Nat := ((List.range count).map (length - ·)).sum

theorem rotations_succ (length count : Nat) :
    rotations length (count + 1) = length + rotations (length - 1) count := by
  simp [rotations, List.range_succ_eq_map, Function.comp_def, Nat.sub_sub, Nat.add_comm 1]

theorem Turning.returned_once (turning : Turning balancer pool counter now selections finish)
    {count : Nat} (waiting : (pool.expired now).length = count)
    (enough : rotations (pool.offered now).length count ≤ selections.length) :
    ∀ url ∈ pool.expired now,
      selections.countP (Returns · url) = 1 ∧ Puts finish url .probation := by
  induction count generalizing balancer pool counter selections with
  | zero => simp [List.length_eq_zero_iff.mp waiting]
  | succ count ih =>
    have partitioned := turning.sound.toPartitioned
    have length : (pool.offered now).length = pool.active.length + (count + 1) := by
      rw [Pool.offered_eq_append, List.length_append, waiting]
    rw [rotations_succ] at enough
    obtain ⟨before, canary, after, url, next, later, rfl, near, first, onward⟩ :=
      turning.exists_canary (List.ne_nil_of_length_eq_add_one waiting) (by omega)
    obtain ⟨_, probation⟩ := first.promotes turning.sound
    have perm := first.ends.perm_expired
    have fewer : (next.expired now).length = count := by
      simpa [waiting] using perm.length_eq.symm
    have shorter : (next.offered now).length = (pool.offered now).length - 1 := by
      rw [Pool.offered_eq_append, List.length_append, first.ends.active_eq, fewer]
      omega
    have remaining : rotations (next.offered now).length count ≤ after.length := by
      rw [shorter]
      simp only [List.length_append, List.length_cons] at enough
      omega
    intro other member
    rw [List.countP_append, List.countP_cons,
      first.countP_before (Pool.not_active_of_expired partitioned member)]
    rcases List.mem_cons.mp (perm.mem_iff.mp member) with rfl | member
    · obtain ⟨none, held⟩ := onward.probation probation
      simp [none, held, first.returns]
    · obtain ⟨once, held⟩ := ih onward fewer remaining other member
      have elsewhere : ¬ Returns canary other := by
        intro same
        obtain rfl := first.returns.unique same
        have nodup := perm.nodup (partitioned.nodup_expired now)
        exact (List.nodup_cons.mp nodup).1 member
      simp [once, held, elsewhere]

def Call.isReport : Call → Bool
  | .fail .. | .confirm _ => true
  | _ => false

/-- Calls in a row at one instant, none of them a report. -/
structure Unreported (balancer : Balancer) (now : Instant) (moments : List (Moment Call.perform))
    (finish : Balancer) : Prop where
  run : Run Call.perform balancer moments finish
  unreported : ∀ moment ∈ moments, moment.call.isReport = false
  stands : ∀ moment ∈ moments, moment.ambient.clock.Stands now

theorem left_of_look (look : moment.call.isReport = false) (idle : moment.call.isSelect = false) :
    moment.left = moment.found := by
  obtain ⟨balancer, call, ambient⟩ := moment
  change (call.perform balancer ambient).state = balancer
  cases call <;> first | contradiction | rw [Call.perform, Operation.map_apply]
  case candidates => rw [candidates_apply]
  case snapshot => simp only [snapshot, onSource_apply, Source.snapshot_state]

section Creation

variable {algorithm : Option Algorithm} {urls : List Url} {weights : Option (List UInt32)}
variable {failover : Bool}

/-- From any state that a run reaches, with its counter anywhere, while the clock
stands still, nothing is reported and the counter does not wrap around: among as
many selections as there are candidates there is a canary, and when the
selections make up a rotation for each expired exclusion, the first over all the
candidates and each further one over one less, every expired exclusion has become
a probation and was answered exactly once. -/
theorem retried_in_rotation
    (rotates : (create algorithm urls weights failover).algorithm = some .roundRobin ∨
      (create algorithm urls weights failover).algorithm = some .weightedRoundRobin)
    (run : Run Call.perform (create algorithm urls weights failover) moments balancer)
    (tracked : balancer.source = .failover pool) (ambient : Ambient) :
    let length := (candidates balancer ambient).answer.length
    let expired := pool.expired ambient.reading
    ∃ counter, balancer.strategy = some (.roundRobin counter) ∧
      ∀ calls finish, Unreported balancer ambient.reading calls finish →
        let selections := calls.filter (·.call.isSelect)
        counter.toNat + selections.length ≤ UInt64.size →
          (expired ≠ [] → length ≤ selections.length →
            ∃ canary ∈ selections.take length, ∃ url ∈ expired,
              Returns canary url ∧ Promotes canary url) ∧
          (rotations length expired.length ≤ selections.length →
            ∀ url ∈ expired, selections.countP (Returns · url) = 1 ∧
              ∃ next, finish.source = .failover next ∧ url ∈ next.probation) := by
  intro length expired
  have sound := sound_of_run run tracked
  obtain ⟨counter, robin⟩ := isRoundRobin_of_run run (isRoundRobin_create rotates)
  have listed : length = (pool.offered ambient.reading).length := by
    simp [length, candidates_failover ambient tracked, Pool.candidates_answer sound]
  refine ⟨counter, robin, ?_⟩
  intro calls finish unreported selections small
  have turning : Turning balancer pool counter ambient.reading selections finish :=
    { tracked, sound, robin, small
      run := unreported.run.filter _ fun moment member =>
        left_of_look (unreported.unreported moment member)
      selects := fun moment member => (List.mem_filter.mp member).2
      stands := fun moment member => unreported.stands moment (List.mem_of_mem_filter member) }
  rw [listed]
  constructor
  · intro due full
    have some_expired := List.length_pos_of_ne_nil due
    have split : (pool.offered ambient.reading).length = pool.active.length + expired.length :=
      List.length_append
    obtain ⟨before, canary, after, url, next, _, cut, near, first, _⟩ :=
      turning.exists_canary due (by omega)
    have inside : canary ∈ selections.take (pool.offered ambient.reading).length := by
      rw [cut, List.take_append]
      refine List.mem_append_right _ ?_
      rw [List.take_cons (by omega)]
      exact List.mem_cons_self
    exact ⟨canary, inside, url, first.ends.perm_expired.mem_iff.mpr List.mem_cons_self,
      first.returns, (first.promotes sound).1⟩
  · intro enough url member
    obtain ⟨once, next, source, _, held⟩ := turning.returned_once rfl enough url member
    exact ⟨once, next, source, Pool.statuses_eq_probation_iff.mp held⟩

theorem retried_in_rotation_weighted :
    let balancer := create (some .weightedRoundRobin) ["a", "b", "c"] (some [2, 1, 1]) true
    let earlier := history Call.perform balancer
      [(.fail "b" 5, .standing 0), (.fail "c/x" 5, .standing 0), (.select none, .standing 1)]
    let pool : Pool := ⟨["a", "a", "b", "c"], ["a", "a"], [⟨"b", some 5⟩, ⟨"c", some 5⟩], [], true⟩
    let middle : Balancer := ⟨.failover pool, some (.roundRobin 1), some .weightedRoundRobin⟩
    let calls := history Call.perform middle
      ((.candidates, .standing 6) :: List.replicate 7 (.select none, .standing 6))
    let finish : Balancer :=
      { middle with
        source := .failover { pool with excluded := [], probation := ["b", "c"] }
        strategy := some (.roundRobin 8) }
    let selections := calls.filter (·.call.isSelect)
    Run Call.perform balancer earlier middle ∧ Unreported middle 6 calls finish ∧
      (candidates middle (.standing 6)).answer = ["a", "a", "b", "c"] ∧
      (∃ canary ∈ selections.take 4, ∃ url ∈ ["b", "c"],
        Returns canary url ∧ Promotes canary url) ∧
      rotations 4 2 = 7 ∧ ∀ url ∈ ["b", "c"], selections.countP (Returns · url) = 1 := by
  intro balancer earlier pool middle calls finish selections
  have run : Run Call.perform balancer earlier middle := .of_history (by decide +kernel)
  have unreported : Unreported middle 6 calls finish :=
    ⟨.of_history (by decide +kernel), by decide +kernel, by decide +kernel⟩
  have listed : (candidates middle (.standing 6)).answer = ["a", "a", "b", "c"] := by
    decide +kernel
  have due : pool.expired 6 = ["b", "c"] := by decide
  obtain ⟨counter, robin, retried⟩ := retried_in_rotation (.inr rfl) run rfl (.standing 6)
  obtain rfl : 1 = counter := by simpa [middle] using robin
  have reading : (Ambient.standing 6).reading = 6 := rfl
  rw [listed, reading, due] at retried
  obtain ⟨soon, once⟩ := retried calls finish unreported (by decide)
  refine ⟨run, unreported, listed, soon (by simp) (by decide), rfl, fun url member => ?_⟩
  exact (once (by decide) url member).1

end Creation

end Balancer

end Balance
