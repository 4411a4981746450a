import Balance.Proofs.Pool.Invariant

/-!
The calls that look at the flag first. A sound pool with a clear flag is clean
and stands at its baseline, so what the flag alone tells there is what the
guarded form of the call would find. A caller that saw the flag set may
therefore go on behind it at any later time: it answers as a whole call does at
that time, and every interleaving of such callers is a run of whole calls.
-/

namespace Balance

structure Step.Agrees {σ α : Type} (step other : Step σ α) : Prop where
  answer : step.answer = other.answer
  state : step.state = other.state
  events : step.events = other.events

theorem Step.Agrees.refl {σ α : Type} (step : Step σ α) : step.Agrees step := ⟨rfl, rfl, rfl⟩

theorem Step.Agrees.map {σ α β : Type} {first second : Operation σ α} {state : σ}
    {ambient : Ambient} (agrees : (first state ambient).Agrees (second state ambient)) (f : α → β) :
    ((f <$> first) state ambient).Agrees ((f <$> second) state ambient) := by
  simp only [Operation.map_apply]
  exact ⟨congrArg f agrees.answer, agrees.state, agrees.events⟩

namespace Pool

variable {pool : Pool} (ambient : Ambient)

theorem Sound.at_rest (sound : pool.Sound) (clear : pool.degraded = false) :
    pool.excluded = [] ∧ pool.probation = [] ∧ pool.isClean = true := by
  have clean : pool.isClean = true := by simpa [clear] using sound.degraded_eq
  obtain ⟨excluded, probation⟩ := isClean_iff.mp clean
  exact ⟨excluded, probation, clean⟩

theorem candidatesGuarded_agrees (sound : pool.Sound) :
    (candidatesGuarded pool ambient).Agrees (candidates pool ambient) := by
  cases flag : pool.degraded with
  | true => simpa [candidates, Operation.bind_apply, flag] using .refl _
  | false =>
    obtain ⟨_, _, clean⟩ := sound.at_rest flag
    simpa [candidates, candidatesGuarded, Operation.bind_apply, flag, clean] using .refl _

theorem confirmGuarded_agrees (sound : pool.Sound) (called : Url) :
    (confirmGuarded called pool ambient).Agrees (confirm called pool ambient) := by
  cases flag : pool.degraded with
  | true => simpa [confirm, Operation.bind_apply, flag] using .refl _
  | false =>
    obtain ⟨_, probation, _⟩ := sound.at_rest flag
    cases resolved : pool.resolve called <;>
      simpa [confirm, confirmGuarded, Operation.bind_apply, flag, resolved, probation] using .refl _

theorem takeGuarded_agrees (sound : pool.Sound) (url : Url) :
    (takeGuarded url pool ambient).Agrees (take url pool ambient) := by
  cases flag : pool.degraded with
  | true => simpa [take, Operation.bind_apply, flag] using .refl _
  | false =>
    obtain ⟨excluded, probation, _⟩ := sound.at_rest flag
    have free : pool.exclusion? url = none := by simp [exclusion?, excluded]
    refine ⟨?_, ?_, ?_⟩ <;>
      simp [take, takeGuarded, Operation.bind_apply, flag, probation, free]

/-- The part of a call behind its look at the flag; a failure and a snapshot do
not look. -/
def Call.guarded : Call → Operation Pool Answer
  | .candidates => .candidates <$> candidatesGuarded
  | .confirm called => .confirmed <$> confirmGuarded called
  | .take url => .taken <$> takeGuarded url
  | .fail called timeout => .failed <$> Pool.fail called timeout
  | .snapshot => .shown <$> Pool.snapshot

theorem guarded_agrees (sound : pool.Sound) (call : Call) :
    (call.guarded pool ambient).Agrees (call.perform pool ambient) := by
  cases call with
  | candidates => exact (candidatesGuarded_agrees ambient sound).map _
  | confirm called => exact (confirmGuarded_agrees ambient sound called).map _
  | take url => exact (takeGuarded_agrees ambient sound url).map _
  | fail called timeout => exact .refl _
  | snapshot => exact .refl _

/-- A call of one of several callers. -/
structure Visit where
  call : Call
  late : Bool
deriving Repr, DecidableEq

def Visit.perform (visit : Visit) : Operation Pool Answer :=
  if visit.late then visit.call.guarded else visit.call.perform

def whole (visit : Moment Visit.perform) : Moment Call.perform :=
  ⟨visit.found, visit.call.call, visit.ambient⟩

theorem visit_agrees {visit : Moment Visit.perform} (sound : visit.found.Sound) :
    visit.step.Agrees (whole visit).step := by
  obtain ⟨pool, ⟨call, late⟩, ambient⟩ := visit
  cases late with
  | false => exact .refl _
  | true => exact guarded_agrees ambient sound call

theorem sound_of_visit {visit : Moment Visit.perform} (sound : visit.found.Sound) :
    visit.left.Sound := by
  rw [Moment.left, (visit_agrees sound).state]
  exact sound.change (change_left (whole visit))

section Runs

variable {baseline : List Url} {moments : List (Moment Call.perform)}

/-- In every state that a run reaches, the guarded forms do what the calls do.
And from there on callers may enter late in any order, behind changes and resets
by others: the visits are a run of whole calls, each with the same answer. -/
theorem guarded_of_run (run : Run Call.perform (ofBaseline baseline) moments pool) :
    ((candidatesGuarded pool ambient).Agrees (candidates pool ambient) ∧
        (∀ called, (confirmGuarded called pool ambient).Agrees (confirm called pool ambient)) ∧
        ∀ url, (takeGuarded url pool ambient).Agrees (take url pool ambient)) ∧
      ∀ visits finish, Run Visit.perform pool visits finish →
        Run Call.perform pool (visits.map whole) finish ∧
          ∀ visit ∈ visits, visit.step.Agrees (whole visit).step := by
  have sound := sound_of_run run
  refine ⟨⟨candidatesGuarded_agrees ambient sound, confirmGuarded_agrees ambient sound,
    takeGuarded_agrees ambient sound⟩, fun visits finish visited => ?_⟩
  have found := visited.found (P := Sound) (fun _ _ => sound_of_visit) sound
  refine ⟨visited.map whole fun visit member => ⟨rfl, ?_⟩, fun visit member => ?_⟩
  · exact (visit_agrees (found visit member)).state.symm
  · exact visit_agrees (found visit member)

theorem guarded_of_run_reset :
    let pool : Pool := ⟨["a", "b"], ["b"], [], ["a"], true⟩
    let failure : Moment Visit.perform := ⟨pool, ⟨.fail "b" 5, false⟩, .standing 7⟩
    let success : Moment Visit.perform := ⟨failure.left, ⟨.confirm "a", true⟩, .standing 7⟩
    Run Call.perform (ofBaseline ["a", "b"])
        (history Call.perform (ofBaseline ["a", "b"])
          [(.fail "a" 5, .standing 0), (.take "a", .standing 6)]) pool ∧
      pool.degraded = true ∧
      Run Visit.perform pool [failure, success] (ofBaseline ["a", "b"]) ∧
      Run Call.perform pool [whole failure, whole success] (ofBaseline ["a", "b"]) ∧
      success.step.Agrees (whole success).step ∧ success.answer = .confirmed false := by
  intro pool failure success
  have run : Run Call.perform (ofBaseline ["a", "b"])
      (history Call.perform (ofBaseline ["a", "b"])
        [(.fail "a" 5, .standing 0), (.take "a", .standing 6)]) pool := ⟨rfl, rfl, rfl⟩
  have visited : Run Visit.perform pool [failure, success] (ofBaseline ["a", "b"]) :=
    ⟨rfl, rfl, rfl⟩
  obtain ⟨_, late⟩ := guarded_of_run (.standing 7) run
  obtain ⟨calls, agrees⟩ := late _ _ visited
  exact ⟨run, rfl, visited, calls, agrees success (by simp), rfl⟩

end Runs

end Pool

end Balance
