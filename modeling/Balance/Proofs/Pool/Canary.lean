import Balance.Proofs.Pool.Transition

/-!
A URL is tried by one caller at a time. From the call that takes it as a canary
until a report on it, or a reset, the URL is on probation: it is taken by no
other call and is no candidate. And whoever takes it again as a canary does so
behind a failure reported in between. Runs are taken with every order of the
calls, so this holds however several callers interleave.
-/

namespace Balance.Pool

variable {moment : Moment Call.perform} {url : Url}

theorem probation_of_handsOut (sound : moment.found.Sound) (canary : HandsOut moment url) :
    moment.left.statuses url = .probation := by
  have answer := answer_take sound canary.1
  rw [canary.2, Answer.taken.injEq] at answer
  rw [statuses_left sound, canary.1, Statuses.next, if_pos answer.symm, Function.update_self]

theorem taken_withheld (sound : moment.found.Sound) (called : moment.call = .take url)
    (held : moment.found.statuses url = .probation) : moment.answer = .taken .withheld := by
  rw [answer_take sound called, Statuses.take, held]

theorem not_candidate (sound : moment.found.Sound) (held : moment.found.statuses url = .probation)
    {urls : List Url} (answer : moment.answer = .candidates urls) : url ∉ urls := by
  rw [(answer_candidates sound answer).mem_iff, Statuses.mem_offered, Statuses.take, held]
  simp

section Runs

variable {baseline : List Url} {earlier between later : List (Moment Call.perform)}
variable {canary next : Moment Call.perform} {pool : Pool}

/-- Behind a canary every other take of the URL is withheld and no candidates
hold it, as long as it is not released; and two canaries of one URL have a
failure of it between them. -/
theorem single_canary
    (run : Run Call.perform (ofBaseline baseline)
      (earlier ++ canary :: (between ++ next :: later)) pool)
    (handed : HandsOut canary url) :
    ((∀ moment ∈ between, ¬ Releases moment url) →
        (next.call = .take url → next.answer = .taken .withheld) ∧
        (∀ urls, next.answer = .candidates urls → url ∉ urls)) ∧
      (HandsOut next url → ∃ moment ∈ between, Fails moment url) := by
  have sound (moment : Moment Call.perform)
      (member : moment ∈ earlier ++ canary :: (between ++ next :: later)) : moment.found.Sound :=
    sound_of_mem run member
  obtain ⟨_, rest⟩ := Run.split_iff.mp run
  obtain ⟨held, _⟩ := Run.split_iff.mp rest
  have probation := probation_of_handsOut (sound canary (by simp)) handed
  constructor
  · intro quiet
    have still : next.found.statuses url = .probation :=
      held.keeps (P := (·.statuses url = .probation))
        (fun moment member => probation_left (sound moment (by simp [member])) (quiet moment member))
        probation
    exact ⟨fun called => taken_withheld (sound next (by simp)) called still,
      fun urls => not_candidate (sound next (by simp)) still⟩
  · intro again
    by_contra quiet
    have free : ∀ expiry, next.found.statuses url ≠ .excluded expiry :=
      held.keeps (P := fun pool => ∀ expiry, pool.statuses url ≠ .excluded expiry)
        (fun moment member => not_excluded_left (sound moment (by simp [member]))
          fun fails => quiet ⟨moment, member, fails⟩)
        (by simp [probation])
    obtain ⟨_, expiry, excluded, _⟩ := (handsOut_iff (sound next (by simp))).mp again
    exact free expiry excluded

theorem single_canary_second_caller :
    let failure : Moment Call.perform := ⟨ofBaseline ["a", "b", "c"], .fail "a" 5, .standing 0⟩
    let canary : Moment Call.perform := ⟨failure.left, .take "a", .standing 6⟩
    let other : Moment Call.perform := ⟨canary.left, .fail "b/x" 5, .standing 6⟩
    let next : Moment Call.perform := ⟨other.left, .take "a", .standing 20⟩
    Run Call.perform (ofBaseline ["a", "b", "c"]) ([failure] ++ canary :: ([other] ++ next :: []))
        next.left ∧
      HandsOut canary "a" ∧ ¬ Releases other "a" ∧ next.answer = .taken .withheld := by
  intro failure canary other next
  have run : Run Call.perform (ofBaseline ["a", "b", "c"])
      ([failure] ++ canary :: ([other] ++ next :: [])) next.left := ⟨rfl, rfl, rfl, rfl, rfl⟩
  have handed : HandsOut canary "a" := ⟨rfl, rfl⟩
  have quiet : ¬ Releases other "a" := by
    rintro (⟨called, timeout, failed, resolved⟩ | ⟨called, confirmed, _⟩ |
      ⟨url, ⟨called, timeout, failed, resolved⟩, last⟩)
    · obtain ⟨rfl, rfl⟩ := Call.fail.inj failed
      exact absurd resolved (by decide)
    · exact Call.noConfusion confirmed
    · have alone : ∀ active ∈ ["b", "c"], active = url := last
      exact absurd ((alone "b" (by simp)).trans (alone "c" (by simp)).symm) (by decide)
  refine ⟨run, handed, quiet, ?_⟩
  exact ((single_canary run handed).1 (by simpa using quiet)).1 rfl

end Runs

end Balance.Pool
