import Balance.Proofs.Balancer.Rotation
import Balance.Proofs.Balancer.Transition
import Mathlib.Data.Int.CardIntervalMod
import Mathlib.Data.List.Rotate

/-!
Round robin is fair while nothing changes. As long as no report is made and no
exclusion runs out, every selection finds the same sequence and answers the slot
of the counter, wherever the counter stood before. So a window as long as the
sequence is a rotation of it, in which each URL has its full weight, and the
slots share any number of selections as evenly as whole numbers can.
-/

namespace Balance

namespace Source

def rotation : Source → List Url
  | fixed urls => urls
  | failover pool => pool.active

/-- No exclusion has run out at the instant. -/
def Still (source : Source) (now : Instant) : Prop :=
  ∀ pool, source = .failover pool → ∀ exclusion ∈ pool.excluded, exclusion.hasExpired now = false

variable {source : Source} {ambient : Ambient} {url : Url}

theorem candidates_of_still (sound : source.Sound) (still : source.Still ambient.reading) :
    (candidates source ambient).answer = source.rotation := by
  cases source with
  | fixed urls => exact candidates_fixed urls ambient
  | failover pool =>
    have expired : pool.excluded.filter (·.hasExpired ambient.reading) = [] :=
      List.filter_eq_nil_iff.mpr (by simpa using still pool rfl)
    rw [candidates_failover, Pool.candidates_answer sound, Pool.offered, expired]
    exact List.append_nil _

theorem take_rotation (sound : source.Sound) (member : url ∈ source.rotation) (ambient : Ambient) :
    (take url source ambient).answer = .active ∧ (take url source ambient).state = source := by
  cases source with
  | fixed urls => exact take_fixed urls url ambient
  | failover pool =>
    have active := Pool.take_active sound member ambient
    rw [take_failover]
    refine ⟨active, ?_⟩
    rcases Pool.take_cases pool ambient url with ⟨_, same⟩ | ⟨_, _, _, canary, _⟩
    · exact congrArg failover same
    · cases active.symm.trans canary

theorem honours_of_still (sound : source.Sound) (still : source.Still ambient.reading) :
    source.Honours ambient := by
  intro url offered later _
  rw [candidates_of_still sound still] at offered
  simp [(take_rotation sound offered later).1]

theorem count_rotation (sound : source.Sound) (member : url ∈ source.rotation) :
    source.rotation.count url = source.baseline.count url := by
  cases source with
  | fixed urls => rfl
  | failover pool => exact Pool.Partitioned.count_active sound.toPartitioned member

end Source

theorem countP_residue (first count : Nat) {length slot : Nat} (below : slot < length) :
    let hits := (List.range count).countP fun i => (first + i) % length = slot
    hits = count / length ∨ hits = (count + length - 1) / length := by
  have positive : 0 < length := Nat.zero_lt_of_lt below
  let shifted := slot + (length - first % length)
  have opposite : first + shifted ≡ slot [MOD length] := by
    have split := Nat.div_add_mod first length
    have small := Nat.mod_lt first positive
    have whole : first + shifted = slot + length * (first / length + 1) := by
      rw [Nat.mul_add, Nat.mul_one]
      omega
    rw [whole]
    exact Nat.add_mul_mod_self_left ..
  have class_iff (i : Nat) : (first + i) % length = slot ↔ i ≡ shifted [MOD length] := by
    constructor
    · intro hit
      refine Nat.ModEq.add_left_cancel' first (Nat.ModEq.trans ?_ opposite.symm)
      rw [Nat.ModEq, hit, Nat.mod_eq_of_lt below]
    · intro same
      exact Eq.trans ((same.add_left first).trans opposite) (Nat.mod_eq_of_lt below)
  have counted := Nat.count_modEq_card count positive shifted
  simp only [Nat.count, ← class_iff] at counted
  simp only [counted]
  split
  · next more =>
    refine .inr ?_
    have split := Nat.div_add_mod count length
    have bound : count % length < length := Nat.mod_lt count positive
    rw [eq_comm, Nat.div_eq_of_lt_le] <;> rw [Nat.mul_comm] <;> simp only [Nat.mul_add] <;> omega
  · exact .inl rfl

namespace Balancer

variable {balancer finish : Balancer} {counter : UInt64}
variable {selections : List (Moment Call.perform)}

def slot? (moment : Moment Call.perform) : Option Nat :=
  match moment.found.strategy with
  | some (.roundRobin counter) =>
    some (counter.toNat % (candidates moment.found moment.ambient).answer.length)
  | _ => none

structure Answers (moment : Moment Call.perform) (urls : List Url) (slot : Nat) : Prop where
  picked : slot? moment = some slot
  answered : ∃ url, urls[slot]? = some url ∧ moment.answer = .selected (.ok url)

/-- Selections in a row from one state, during which no exclusion runs out. -/
structure Undisturbed (balancer : Balancer) (selections : List (Moment Call.perform))
    (finish : Balancer) : Prop where
  run : Run Call.perform balancer selections finish
  selects : ∀ moment ∈ selections, ∃ client, moment.call = .select client
  still : ∀ moment ∈ selections, balancer.source.Still moment.ambient.reading

theorem select_still {moment : Moment Call.perform} (sound : moment.found.source.Sound)
    (still : moment.found.source.Still moment.ambient.reading)
    (offers : moment.found.source.rotation ≠ [])
    (robin : moment.found.strategy = some (.roundRobin counter))
    (selects : ∃ client, moment.call = .select client) :
    Answers moment moment.found.source.rotation
        (counter.toNat % moment.found.source.rotation.length) ∧
      moment.left = { moment.found with strategy := some (.roundRobin (counter + 1)) } := by
  obtain ⟨balancer, call, ambient⟩ := moment
  obtain ⟨client, rfl⟩ := selects
  have listed : (candidates balancer ambient).answer = balancer.source.rotation :=
    (candidates_answer balancer ambient).trans (Source.candidates_of_still sound still)
  obtain ⟨url, slot, answer, state⟩ := select_of_honours (Source.honours_of_still sound still)
    (by rwa [listed]) (picksBy_roundRobin robin client)
  rw [listed] at slot
  have taken := Source.take_rotation sound (List.mem_of_getElem? slot)
    (Source.candidates balancer.source ambient).ambient
  refine ⟨⟨?_, url, slot, congrArg Answer.selected answer⟩, ?_⟩
  · change balancer.strategy = some (.roundRobin counter) at robin
    simp only [slot?, robin, listed]
  · exact state.trans (by rw [taken.2])

theorem answers_of_undisturbed (undisturbed : Undisturbed balancer selections finish)
    (sound : balancer.source.Sound) (offers : balancer.source.rotation ≠ [])
    (robin : balancer.strategy = some (.roundRobin counter)) (i : Nat) (h : i < selections.length) :
    Answers selections[i] balancer.source.rotation
      ((counter + UInt64.ofNat i).toNat % balancer.source.rotation.length) := by
  induction selections generalizing balancer counter i with
  | nil => simp at h
  | cons moment rest ih =>
    obtain ⟨⟨rfl, run⟩, selects, still⟩ := undisturbed
    obtain ⟨answers, left⟩ := select_still sound (still moment (by simp)) offers robin
      (selects moment (by simp))
    cases i with
    | zero => simpa using answers
    | succ i =>
      have same : moment.left.source = moment.found.source := by rw [left]
      have onward : Undisturbed moment.left rest finish :=
        ⟨run, fun other member => selects other (by simp [member]),
          fun other member => by rw [same]; exact still other (by simp [member])⟩
      have later := ih onward (by rwa [same]) (by rwa [same]) (by rw [left]) i
        (by simpa using h)
      rw [same] at later
      rw [UInt64.ofNat_add, UInt64.add_comm (UInt64.ofNat i), ← UInt64.add_assoc]
      exact later

/-- The selections answer the slots of a sequence in turn, beginning with that of `first`. -/
def InTurn (selections : List (Moment Call.perform)) (urls : List Url) (first : Nat) : Prop :=
  ∀ i (h : i < selections.length), Answers selections[i] urls ((first + i) % urls.length)

namespace InTurn

variable {urls : List Url} {first : Nat} {before window after : List (Moment Call.perform)}

theorem middle (turns : InTurn (before ++ window ++ after) urls first) :
    InTurn window urls (first + before.length) := by
  intro i h
  have inside : before.length + i < (before ++ window ++ after).length := by
    simp only [List.length_append]
    omega
  have answers := turns (before.length + i) inside
  simpa [h, List.getElem_append, Nat.add_assoc] using answers

theorem answers_eq_rotate (turns : InTurn window urls first) (full : window.length = urls.length) :
    window.map Moment.answer = (urls.rotate first).map fun url => .selected (.ok url) := by
  refine List.ext_getElem (by simpa using full) fun i h _ => ?_
  obtain ⟨url, found, answer⟩ := (turns i (by simpa using h)).answered
  obtain ⟨_, rfl⟩ := List.getElem?_eq_some_iff.mp found
  simp [answer, List.getElem_rotate, Nat.add_comm]

theorem countP_returns (turns : InTurn window urls first) (full : window.length = urls.length)
    (url : Url) : window.countP (Returns · url) = urls.count url := by
  have injective : Function.Injective fun url : Url => Answer.selected (.ok url) := by
    intro url other same
    simpa using same
  calc window.countP (Returns · url)
      = (window.map Moment.answer).count (.selected (.ok url)) := by
        rw [List.count, List.countP_map]
        refine List.countP_congr fun moment _ => ?_
        rw [decide_eq_true_iff, Function.comp_apply, beq_iff_eq, Returns]
    _ = (urls.rotate first).count url := by
        rw [turns.answers_eq_rotate full, List.count_map_of_injective _ _ injective]
    _ = urls.count url := (List.rotate_perm urls first).count_eq url

theorem countP_slot (turns : InTurn selections urls first) {slot : Nat}
    (below : slot < urls.length) :
    let hits := selections.countP (slot? · = some slot)
    hits = selections.length / urls.length ∨
      hits = (selections.length + urls.length - 1) / urls.length := by
  have slots : selections.map slot? =
      (List.range selections.length).map fun i => some ((first + i) % urls.length) := by
    refine List.ext_getElem (by simp) fun i h _ => ?_
    simpa using (turns i (by simpa using h)).picked
  have counted : selections.countP (slot? · = some slot) =
      (List.range selections.length).countP fun i => (first + i) % urls.length = slot := by
    calc selections.countP (slot? · = some slot)
        = (selections.map slot?).countP (· = some slot) := by
          rw [List.countP_map]
          rfl
      _ = _ := by
          rw [slots, List.countP_map]
          exact List.countP_congr fun i _ => by simp
  simp only [counted]
  exact countP_residue first selections.length below

end InTurn

theorem inTurn_of_undisturbed (undisturbed : Undisturbed balancer selections finish)
    (sound : balancer.source.Sound) (offers : balancer.source.rotation ≠ [])
    (robin : balancer.strategy = some (.roundRobin counter))
    (small : counter.toNat + selections.length ≤ UInt64.size) :
    InTurn selections balancer.source.rotation counter.toNat := by
  intro i h
  have count : (counter + UInt64.ofNat i).toNat = counter.toNat + i := by
    simp only [UInt64.size, UInt64.toNat_add, UInt64.toNat_ofNat'] at small ⊢
    omega
  rw [← count]
  exact answers_of_undisturbed undisturbed sound offers robin i h

section Creation

variable {algorithm : Option Algorithm} {urls : List Url} {weights : Option (List UInt32)}
variable {failover : Bool} {moments : List (Moment Call.perform)}

theorem isRoundRobin_create
    (rotates : (create algorithm urls weights failover).algorithm = some .roundRobin ∨
      (create algorithm urls weights failover).algorithm = some .weightedRoundRobin) :
    (create algorithm urls weights failover).IsRoundRobin := by
  unfold create at rotates ⊢
  split at rotates
  · simp at rotates
  · next several =>
    rw [if_neg several]
    simp only [Option.some.injEq] at rotates
    refine ⟨0, ?_⟩
    rcases rotates with plain | weighted
    · simp [plain, Strategy.ofAlgorithm]
    · simp [weighted, Strategy.ofAlgorithm]

/-- From any state that a run reaches, with its counter anywhere, selections in
a row go through the slots of the candidates in turn, as long as no exclusion
runs out and the counter does not wrap around. Every window as long as the
candidates returns each URL in its full weight, and the slots share the
selections equally, up to one. -/
theorem fair_of_run
    (rotates : (create algorithm urls weights failover).algorithm = some .roundRobin ∨
      (create algorithm urls weights failover).algorithm = some .weightedRoundRobin)
    (run : Run Call.perform (create algorithm urls weights failover) moments balancer)
    (ambient : Ambient) (still : balancer.source.Still ambient.reading)
    (offers : (candidates balancer ambient).answer ≠ []) :
    let offered := (candidates balancer ambient).answer
    ∃ counter, balancer.strategy = some (.roundRobin counter) ∧
      ∀ selections finish, Undisturbed balancer selections finish →
        counter.toNat + selections.length ≤ UInt64.size →
        (∀ i (h : i < selections.length),
          Answers selections[i] offered ((counter.toNat + i) % offered.length)) ∧
        (∀ before window after, selections = before ++ window ++ after →
          window.length = offered.length → ∀ url ∈ offered,
            window.countP (Returns · url) = offered.count url ∧
            offered.count url =
              (create algorithm urls weights failover).source.baseline.count url) ∧
        ∀ slot < offered.length,
          let hits := selections.countP (slot? · = some slot)
          hits = selections.length / offered.length ∨
            hits = (selections.length + offered.length - 1) / offered.length := by
  intro offered
  obtain ⟨sound, same⟩ := source_of_run run (sound_create ..)
  obtain ⟨counter, robin⟩ := isRoundRobin_of_run run (isRoundRobin_create rotates)
  have listed : offered = balancer.source.rotation :=
    (candidates_answer balancer ambient).trans (Source.candidates_of_still sound still)
  change offered ≠ [] at offers
  rw [listed] at offers ⊢
  refine ⟨counter, robin, fun selections finish undisturbed small => ?_⟩
  have turns := inTurn_of_undisturbed undisturbed sound offers robin small
  refine ⟨turns, ?_, fun slot below => turns.countP_slot below⟩
  rintro before window after rfl full url member
  exact ⟨turns.middle.countP_returns full url, same ▸ Source.count_rotation sound member⟩

theorem fair_of_run_excluded :
    let balancer := create (some .weightedRoundRobin) ["a", "b", "c"] (some [2, 1, 1]) true
    let failure : Moment Call.perform := ⟨balancer, .fail "c" 100, .standing 0⟩
    let earlier : Moment Call.perform := ⟨failure.left, .select none, .standing 1⟩
    let first : Moment Call.perform := ⟨earlier.left, .select none, .standing 2⟩
    let second : Moment Call.perform := ⟨first.left, .select (some "x"), .standing 1⟩
    let third : Moment Call.perform := ⟨second.left, .select none, .standing 100⟩
    Run Call.perform balancer [failure, earlier] earlier.left ∧
      Undisturbed earlier.left [first, second, third] third.left ∧
      (candidates earlier.left (.standing 2)).answer = ["a", "a", "b"] ∧
      Answers third ["a", "a", "b"] 0 ∧ [first, second, third].countP (Returns · "a") = 2 := by
  intro balancer failure earlier first second third
  have run : Run Call.perform balancer [failure, earlier] earlier.left := by
    refine ⟨?_, ?_, rfl⟩ <;> with_reducible rfl
  have held : earlier.left.source =
      .failover ⟨["a", "a", "b", "c"], ["a", "a", "b"], [⟨"c", some 100⟩], [], true⟩ := by
    decide +kernel
  have still (now : Instant) (early : now ≤ 100) : earlier.left.source.Still now := by
    intro pool source
    obtain rfl := Source.failover.inj (held.symm.trans source)
    simpa [Exclusion.hasExpired] using early
  have undisturbed : Undisturbed earlier.left [first, second, third] third.left := by
    refine ⟨?_, ?_, ?_⟩
    · refine ⟨?_, ?_, ?_, rfl⟩ <;> with_reducible rfl
    all_goals simp only [List.mem_cons, List.not_mem_nil, or_false, forall_eq_or_imp, forall_eq]
    · exact ⟨⟨none, rfl⟩, ⟨some "x", rfl⟩, none, rfl⟩
    · exact ⟨still 2 (by decide), still 1 (by decide), still 100 (by decide)⟩
  have listed : (candidates earlier.left (.standing 2)).answer = ["a", "a", "b"] := by
    decide +kernel
  obtain ⟨counter, robin, fair⟩ := fair_of_run (.inr rfl) run (.standing 2)
    (still 2 (by decide)) (by simp [listed])
  rw [listed] at fair
  have begun : earlier.left.strategy = some (.roundRobin 1) := by decide +kernel
  obtain rfl : 1 = counter := by simpa [begun] using robin
  obtain ⟨turns, windows, _⟩ := fair _ _ undisturbed (by decide)
  exact ⟨run, undisturbed, listed, turns 2 (by decide),
    (windows [] [first, second, third] [] rfl rfl "a" (by decide)).1⟩

end Creation

end Balancer

end Balance
