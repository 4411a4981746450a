import Balance.Proofs.Client.Rounds
import Mathlib.Data.Nat.Count
import Mathlib.Order.Bounds.Basic

/-!
Where the loop stops. The called side is a stream of replies here, one for each
call whatever its URL is, and `Ends` says which call of the stream is the last
one: a final outcome, a failure where none is tracked, or the call that uses up
one of the budgets. A budget of zero still allows one call. The loop makes the
calls up to the first of these and no other, and the 32-bit words in which it
could count do not overflow.
-/

namespace Balance

/-- The called side that gives these replies in their order. Its state is the
number of calls. -/
def Remote.ofReplies {α : Type} (replies : Nat → Reply α) : Remote Nat α :=
  fun _ made => (replies made, made + 1)

namespace Client

variable {κ α : Type}

section Stream

variable (client : Client) (replies : Nat → Reply α)

def ending (verdict : Verdict) (calls : Nat) : Nat :=
  Nat.count (fun call => client.verdict? (replies call).outcome = some verdict) calls

/-- How many calls may end in a failure and in a retry, the last one included. -/
def budget : Tries where
  fails := max 1 client.limit.fails
  retries := max 1 client.limit.retries

def Ends (call : Nat) : Prop :=
  match client.verdict? (replies call).outcome with
  | some .fail =>
    client.tracks = false ∨ client.ending replies .fail (call + 1) = client.budget.fails
  | some .retry => client.ending replies .retry (call + 1) = client.budget.retries
  | _ => True

/-- No call has ended the loop yet, and it goes on from `start` with these counts. -/
structure Reaches (tries : Tries) (start : Client × Nat) : Prop where
  config : start.1.config = client.config
  tracks : start.1.tracks = client.tracks
  calls : start.2 = tries.fails + tries.retries
  fails : client.ending replies .fail start.2 = tries.fails
  retries : client.ending replies .retry start.2 = tries.retries
  fails_lt : tries.fails < client.budget.fails
  retries_lt : tries.retries < client.budget.retries
  going : ∀ call < start.2, ¬ client.Ends replies call

variable {client replies}

theorem ending_succ (verdict : Verdict) (calls : Nat) :
    client.ending replies verdict (calls + 1) = client.ending replies verdict calls +
      if client.verdict? (replies calls).outcome = some verdict then 1 else 0 :=
  Nat.count_succ ..

theorem Reaches.start : client.Reaches replies {} (client, 0) where
  config := rfl
  tracks := rfl
  calls := rfl
  fails := Nat.count_zero _
  retries := Nat.count_zero _
  fails_lt := by simp [budget]
  retries_lt := by simp [budget]
  going := by simp

section Pass

variable {default : Url} {tries more : Tries} {pass : Pass (.ofReplies replies) default}

theorem Reaches.verdict_eq (reaches : client.Reaches replies tries pass.found) :
    pass.answer.verdict = client.verdict? (replies pass.found.2).outcome := by
  rw [Pass.verdict_eq, Pass.outcome_eq, verdict?_congr reaches.config]
  rfl

theorem Reaches.next?_eq_none_iff (reaches : client.Reaches replies tries pass.found) :
    pass.answer.next? client.limit tries = none ↔ client.Ends replies pass.found.2 := by
  have verdict := reaches.verdict_eq
  have fails_lt := reaches.fails_lt
  have retries_lt := reaches.retries_lt
  simp only [budget] at fails_lt retries_lt
  unfold Ends Round.next?
  rw [← verdict]
  cases sorted : pass.answer.verdict with
  | none => simp
  | some result =>
    cases result with
    | fail =>
      have refused := Pass.refused_eq pass sorted
      rw [reaches.tracks] at refused
      simp only [refused, ending_succ, ← verdict, sorted, reaches.fails, budget, if_true,
        Bool.not_eq_true', ite_eq_left_iff, reduceCtorEq, imp_false, not_not]
      refine or_congr_right ?_
      omega
    | retry =>
      simp only [ending_succ, ← verdict, sorted, reaches.retries, budget, if_true,
        ite_eq_left_iff, reduceCtorEq, imp_false, not_not]
      omega
    | propagate => simp

theorem Reaches.left (reaches : client.Reaches replies tries pass.found)
    (next : pass.answer.next? client.limit tries = some more) :
    client.Reaches replies more pass.left := by
  have verdict := reaches.verdict_eq
  have stays : ¬ client.Ends replies pass.found.2 := by
    rw [← reaches.next?_eq_none_iff, next]
    exact Option.some_ne_none more
  have made : pass.left.2 = pass.found.2 + 1 := Pass.state_eq pass
  have calls := reaches.calls
  have fails_lt := reaches.fails_lt
  have retries_lt := reaches.retries_lt
  simp only [budget] at fails_lt retries_lt
  have counts : more.fails = client.ending replies .fail (pass.found.2 + 1) ∧
      more.retries = client.ending replies .retry (pass.found.2 + 1) ∧
      more.fails + more.retries = tries.fails + tries.retries + 1 ∧
      more.fails < client.budget.fails ∧ more.retries < client.budget.retries := by
    simp only [ending_succ, ← verdict, reaches.fails, reaches.retries, budget]
    unfold Round.next? at next
    split at next
    · next failed =>
      split at next
      · contradiction
      · obtain rfl := Option.some.inj next
        simp [failed]
        omega
    · next retried =>
      split at next
      · contradiction
      · obtain rfl := Option.some.inj next
        simp [retried]
        omega
    · contradiction
  obtain ⟨fails, retries, total, fails_lt, retries_lt⟩ := counts
  refine ⟨(Pass.config_eq pass).trans reaches.config, (Pass.tracks_eq pass).trans reaches.tracks,
    by omega, by rw [made, fails], by rw [made, retries], fails_lt, retries_lt, fun call below => ?_⟩
  rcases Nat.lt_succ_iff_lt_or_eq.mp (made ▸ below) with earlier | rfl
  · exact reaches.going call earlier
  · exact stays

end Pass

theorem attempt_stops (default : Url) {tries : Tries} {start : Client × Nat} (ambient : Ambient)
    (reaches : client.Reaches replies tries start) :
    let done := attempt (.ofReplies replies) default client.limit.fails client.limit.retries
      tries.fails tries.retries start ambient
    ∃ last, IsLeast {call | client.Ends replies call} last ∧
      last + 1 ≤ client.budget.fails + client.budget.retries - 1 ∧
      done.answer = (replies last).outcome ∧ done.state.2 = last + 1 := by
  induction tries, start, ambient using
      rounds.induct (.ofReplies replies) default client.limit with
  | case1 tries start ambient pass next =>
    change client.Reaches replies tries pass.found at reaches
    rw [show start = pass.found from rfl, show ambient = pass.ambient from rfl, attempt_last next]
    refine ⟨pass.found.2, ⟨reaches.next?_eq_none_iff.mp next, fun call ends => ?_⟩, ?_, rfl,
      Pass.state_eq pass⟩
    · by_contra earlier
      exact reaches.going call (Nat.not_le.mp earlier) ends
    · have calls := reaches.calls
      have fails_lt := reaches.fails_lt
      have retries_lt := reaches.retries_lt
      omega
  | case2 tries start ambient pass more next ih =>
    change client.Reaches replies tries pass.found at reaches
    rw [show start = pass.found from rfl, show ambient = pass.ambient from rfl, attempt_more next]
    exact ih (reaches.left next)

end Stream

section Words

/-- Count a call against a budget. There is no answer where the word overflows,
and no further count where the budget is spent. -/
def spend? (budget count : UInt32) : Option (Option UInt32) :=
  if count.toNat + 1 < UInt32.size then
    some (if budget ≤ count + 1 then none else some (count + 1))
  else none

theorem toNat_add_one {count : UInt32} (fits : count.toNat + 1 < UInt32.size) :
    (count + 1).toNat = count.toNat + 1 := by
  rw [UInt32.toNat_add]
  exact Nat.mod_eq_of_lt fits

theorem spend?_eq_some {budget count more : UInt32}
    (counted : spend? budget count = some (some more)) :
    more.toNat = count.toNat + 1 ∧ more.toNat < budget.toNat := by
  unfold spend? at counted
  split at counted
  · next fits =>
    split at counted
    · simp at counted
    · next left =>
      obtain rfl := Option.some.inj (Option.some.inj counted)
      exact ⟨toNat_add_one fits, Nat.not_le.mp left⟩
  · contradiction

theorem spend?_cases {budget count : UInt32} (below : count.toNat < max 1 budget.toNat) :
    (budget.toNat ≤ count.toNat + 1 ∧ spend? budget count = some none) ∨
      ∃ more, spend? budget count = some (some more) := by
  have most := budget.toNat_lt
  have fits : count.toNat + 1 < UInt32.size := by
    simp only [UInt32.size] at most ⊢
    omega
  by_cases spent : budget ≤ count + 1
  · refine .inl ⟨?_, by simp [spend?, fits, spent]⟩
    rwa [UInt32.le_iff_toNat_le, toNat_add_one fits] at spent
  · exact .inr ⟨count + 1, by simp [spend?, fits, spent]⟩

structure Counters where
  fails : UInt32 := 0
  retries : UInt32 := 0

namespace Counters

def tries (counters : Counters) : Tries := ⟨counters.fails.toNat, counters.retries.toNat⟩

variable {counters limit more : Counters} {round : Round α}

def next? (counters limit : Counters) (round : Round α) : Option (Option Counters) :=
  match round.verdict with
  | some .fail =>
    if round.refused then some none
    else (spend? limit.fails counters.fails).map (·.map fun fails => { counters with fails })
  | some .retry =>
    (spend? limit.retries counters.retries).map (·.map fun retries => { counters with retries })
  | _ => some none

theorem next?_decreasing (next : counters.next? limit round = some (some more)) :
    limit.fails.toNat - more.fails.toNat + (limit.retries.toNat - more.retries.toNat) <
      limit.fails.toNat - counters.fails.toNat +
        (limit.retries.toNat - counters.retries.toNat) := by
  unfold next? at next
  split at next
  · split at next
    · simp at next
    · obtain ⟨fails, counted, rfl⟩ : ∃ fails, spend? limit.fails counters.fails = some (some fails) ∧
          { counters with fails } = more := by simpa using next
      obtain ⟨up, left⟩ := spend?_eq_some counted
      simp only
      omega
  · obtain ⟨retries, counted, rfl⟩ : ∃ retries,
        spend? limit.retries counters.retries = some (some retries) ∧
          { counters with retries } = more := by simpa using next
    obtain ⟨up, left⟩ := spend?_eq_some counted
    simp only
    omega
  · simp at next

/-- Neither budget is used up, except that a budget of zero allows one call. -/
def Below (counters limit : Counters) : Prop :=
  counters.fails.toNat < max 1 limit.fails.toNat ∧
    counters.retries.toNat < max 1 limit.retries.toNat

theorem next?_eq (below : counters.Below limit) (round : Round α) :
    ∃ more?, counters.next? limit round = some more? ∧
      round.next? limit.tries counters.tries = more?.map tries ∧
      ∀ more ∈ more?, more.Below limit := by
  unfold next? Round.next?
  cases round.verdict with
  | none => exact ⟨none, rfl, rfl, by simp⟩
  | some verdict =>
    cases verdict with
    | fail =>
      by_cases refused : round.refused = true
      · exact ⟨none, by simp [refused], by simp [refused], by simp⟩
      · rcases spend?_cases below.1 with ⟨spent, counted⟩ | ⟨fails, counted⟩
        · exact ⟨none, by simp [refused, counted], by simp [tries, spent], by simp⟩
        · obtain ⟨up, left⟩ := spend?_eq_some counted
          refine ⟨some { counters with fails }, by simp [refused, counted], ?_, ?_⟩
          · simp [tries, refused, ← up, left]
          · simpa using ⟨lt_max_of_lt_right left, below.2⟩
    | retry =>
      rcases spend?_cases below.2 with ⟨spent, counted⟩ | ⟨retries, counted⟩
      · exact ⟨none, by simp [counted], by simp [tries, spent], by simp⟩
      · obtain ⟨up, left⟩ := spend?_eq_some counted
        refine ⟨some { counters with retries }, by simp [counted], ?_, ?_⟩
        · simp [tries, ← up, left]
        · simpa using ⟨below.1, lt_max_of_lt_right left⟩
    | propagate => exact ⟨none, rfl, rfl, by simp⟩

end Counters

variable (remote : Remote κ α) (default : Url)

def attemptWords (limit counters : Counters) :
    Operation (Client × κ) (Option (Except CallError α)) := do
  let round ← Client.round remote default
  Operation.reportAll (round.notices limit.tries counters.tries)
  match _next : counters.next? limit round with
  | none => return none
  | some none => return some round.outcome
  | some (some more) => attemptWords limit more
termination_by limit.fails.toNat - counters.fails.toNat +
  (limit.retries.toNat - counters.retries.toNat)
decreasing_by exact Counters.next?_decreasing _next

def executeWords : Operation (Client × κ) (Option (Except CallError α)) := do
  let policy := (← Operation.state).1.policy?
  attemptWords remote default
    ⟨policy.elim 0 (·.failMaxAttempt), policy.elim 0 (·.retryMaxAttempt)⟩ {}

theorem attemptWords_eq {limit counters : Counters} (below : counters.Below limit) :
    attemptWords remote default limit counters = some <$> attempt remote default
      limit.tries.fails limit.tries.retries counters.tries.fails counters.tries.retries := by
  rw [attemptWords, attempt_eq, map_bind]
  refine bind_congr fun round => ?_
  rw [map_bind]
  refine bind_congr fun _ => ?_
  obtain ⟨more?, words, numbers, within⟩ := Counters.next?_eq below round
  rw [numbers]
  split
  · next overflow => simp [words] at overflow
  · next last =>
    obtain rfl := Option.some.inj (words.symm.trans last)
    simp
  · next more next =>
    obtain rfl := Option.some.inj (words.symm.trans next)
    exact attemptWords_eq (within more rfl)
termination_by limit.fails.toNat - counters.fails.toNat +
  (limit.retries.toNat - counters.retries.toNat)
decreasing_by exact Counters.next?_decreasing (by assumption)

theorem executeWords_eq :
    executeWords remote default = some <$> execute remote default := by
  rw [executeWords, execute, map_bind]
  refine bind_congr fun start => ?_
  have below (limit : Counters) : ({} : Counters).Below limit := by simp [Counters.Below]
  rw [attemptWords_eq remote default (below _)]
  cases start.1.policy? <;> rfl

end Words

/-- For any client and any replies, the loop makes the calls up to the first one
that ends it, and no other, and answers the outcome of that one. There is such a
call within the budgets, and no counter overflows on the way. -/
theorem execute_stops (client : Client) (replies : Nat → Reply α) (default : Url)
    (ambient : Ambient) :
    let done := execute (.ofReplies replies) default (client, 0) ambient
    (∃ last, IsLeast {call | client.Ends replies call} last ∧
      last + 1 ≤ client.budget.fails + client.budget.retries - 1 ∧
      done.answer = (replies last).outcome ∧ done.state.2 = last + 1) ∧
      executeWords (.ofReplies replies) default (client, 0) ambient =
        { done with answer := some done.answer } := by
  refine ⟨attempt_stops default ambient .start, ?_⟩
  rw [executeWords_eq, Operation.map_apply]

end Client

end Balance
