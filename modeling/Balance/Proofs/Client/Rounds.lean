import Balance.Client.Execute
import Balance.Proofs.Client.Calls
import Mathlib.Data.List.Chain

/-!
The loop around a call as a list of rounds. A round selects a URL, calls it and
reports the outcome; it is two calls on the client with the call of the URL
between them. Behind a round the loop goes on with other counts, or it stops
and answers the outcome of that round. `rounds` lists what the loop passes
through, and what every round keeps is kept by the loop.
-/

namespace Balance

structure Round (α : Type) where
  url : Url
  outcome : Except CallError α
  verdict : Option Verdict
  refused : Bool

/-- Numbers of calls that ended in a failure and in a retry. -/
structure Tries where
  fails : Nat := 0
  retries : Nat := 0
deriving DecidableEq

namespace Round

variable {α : Type} (limit tries : Tries) (round : Round α)

def next? : Option Tries :=
  match round.verdict with
  | some .fail =>
    if round.refused = true ∨ limit.fails ≤ tries.fails + 1 then none
    else some { tries with fails := tries.fails + 1 }
  | some .retry =>
    if limit.retries ≤ tries.retries + 1 then none
    else some { tries with retries := tries.retries + 1 }
  | _ => none

def notices : List Event :=
  match round.verdict, round.outcome with
  | some .fail, _ =>
    if round.refused = true ∨ ¬ limit.fails ≤ tries.fails + 1 then []
    else [.failBudgetSpent round.url (tries.fails + 1)]
  | some .retry, .error error =>
    if limit.retries ≤ tries.retries + 1 then [.retryBudgetSpent round.url (tries.retries + 1)]
    else [.retrying round.url (tries.retries + 1) error]
  | _, _ => []

def report : Client.Call :=
  match round.verdict, round.outcome with
  | some .fail, .error error => .fail round.url error
  | _, _ => .confirm round.url

variable {limit tries round}

theorem next?_decreasing {more : Tries} (next : round.next? limit tries = some more) :
    limit.fails - more.fails + (limit.retries - more.retries) <
      limit.fails - tries.fails + (limit.retries - tries.retries) := by
  unfold next? at next
  split at next
  · split at next
    · contradiction
    · obtain rfl := Option.some.inj next
      simp only
      omega
  · split at next
    · contradiction
    · obtain rfl := Option.some.inj next
      simp only
      omega
  · contradiction

end Round

namespace Client

variable {κ α : Type}

def verdict? (client : Client) : Except CallError α → Option Verdict
  | .ok _ => none
  | .error error => some (client.classify error)

/-- Report the outcome of a call; answers whether the report was refused. -/
def settle (url : Url) : Except CallError α → Operation Client Bool
  | .ok _ => do
    let _ ← confirm url
    return false
  | .error error => do
    match (← Operation.state).classify error with
    | .fail => return !(← fail url error).isOk
    | _ =>
      let _ ← confirm url
      return false

def round (remote : Remote κ α) (default : Url) : Operation (Client × κ) (Round α) := do
  let url ← Operation.onFirst (Client.url default none)
  let outcome ← call remote url
  let verdict := (← Operation.state).1.verdict? outcome
  let refused ← Operation.onFirst (settle url outcome)
  return ⟨url, outcome, verdict, refused⟩

/-- The most calls that the policy of a client lets end in either way. -/
def limit (client : Client) : Tries where
  fails := client.policy?.elim 0 (·.failMaxAttempt.toNat)
  retries := client.policy?.elim 0 (·.retryMaxAttempt.toNat)

variable (remote : Remote κ α) (default : Url)

theorem attempt_eq (limit tries : Tries) :
    attempt remote default limit.fails limit.retries tries.fails tries.retries = (do
      let round ← Client.round remote default
      Operation.reportAll (round.notices limit tries)
      match round.next? limit tries with
      | none => return round.outcome
      | some more =>
        attempt remote default limit.fails limit.retries more.fails more.retries) := by
  rw [attempt]
  funext ⟨client, state⟩ ambient
  simp only [round, call, Operation.bind_apply, Operation.onFirst_apply, Operation.state_apply]
  generalize Client.url default none client ambient = selected
  generalize remote selected.answer state = replied
  obtain ⟨⟨outcome, elapsed⟩, next⟩ := replied
  cases outcome with
  | ok value => simp [settle, verdict?, Round.notices, Round.next?, Operation.bind_apply]
  | error error =>
    simp only [settle, verdict?, Operation.bind_apply, Operation.state_apply]
    cases verdict : selected.state.classify error with
    | fail =>
      simp only [Operation.bind_apply, Operation.onFirst_apply]
      cases refusal : (fail selected.answer error selected.state
        { selected.ambient with clock := selected.ambient.clock.advance elapsed }).answer with
      | error refusal =>
        simp [Round.notices, Round.next?, Except.isOk, Except.toBool]
      | ok resolved =>
        by_cases spent : limit.fails ≤ tries.fails + 1 <;>
          simp [Round.notices, Round.next?, Operation.bind_apply, spent, Except.isOk, Except.toBool]
    | retry =>
      by_cases spent : limit.retries ≤ tries.retries + 1 <;>
        simp [Round.notices, Round.next?, Operation.bind_apply, spent]
    | propagate => simp [Round.notices, Round.next?, Operation.bind_apply]

abbrev Pass (remote : Remote κ α) (default : Url) : Type :=
  Moment fun _ : Unit => round remote default

/-- The passes of the loop in their order, each where the one before left off. -/
def rounds (limit tries : Tries) (start : Client × κ) (ambient : Ambient) :
    List (Pass remote default) :=
  let pass : Pass remote default := ⟨start, (), ambient⟩
  match _next : pass.answer.next? limit tries with
  | none => [pass]
  | some more => pass :: rounds limit more pass.left pass.step.ambient
termination_by limit.fails - tries.fails + (limit.retries - tries.retries)
decreasing_by exact Round.next?_decreasing _next

def passes (start : Client × κ) (ambient : Ambient) : List (Pass remote default) :=
  rounds remote default start.1.limit {} start ambient

variable {remote default}

def Pass.next (pass : Pass remote default) : Pass remote default :=
  ⟨pass.left, (), pass.step.ambient⟩

section Loop

variable {limit tries more : Tries} {pass : Pass remote default}

theorem attempt_last (next : pass.answer.next? limit tries = none) :
    attempt remote default limit.fails limit.retries tries.fails tries.retries
        pass.found pass.ambient =
      ⟨pass.answer.outcome, pass.left, pass.step.ambient,
        pass.step.events ++ pass.answer.notices limit tries⟩ := by
  rw [attempt_eq]
  change (round remote default pass.found pass.ambient).answer.next? limit tries = none at next
  simp only [Operation.bind_apply, next]
  simp [Moment.answer, Moment.left, Moment.step]

theorem attempt_more (next : pass.answer.next? limit tries = some more) :
    attempt remote default limit.fails limit.retries tries.fails tries.retries
        pass.found pass.ambient =
      let rest := attempt remote default limit.fails limit.retries more.fails more.retries
        pass.left pass.step.ambient
      ⟨rest.answer, rest.state, rest.ambient,
        pass.step.events ++ (pass.answer.notices limit tries ++ rest.events)⟩ := by
  rw [attempt_eq]
  change (round remote default pass.found pass.ambient).answer.next? limit tries = some more at next
  simp only [Operation.bind_apply, next]
  rfl

theorem rounds_last (next : pass.answer.next? limit tries = none) :
    rounds remote default limit tries pass.found pass.ambient = [pass] := by
  rw [rounds]
  split
  · rfl
  · next more => exact absurd (next.symm.trans more) (Option.some_ne_none _).symm

theorem rounds_more (next : pass.answer.next? limit tries = some more) :
    rounds remote default limit tries pass.found pass.ambient =
      pass :: rounds remote default limit more pass.left pass.step.ambient := by
  rw [rounds]
  split
  · next none => exact absurd (next.symm.trans none) (Option.some_ne_none _)
  · next other found =>
    obtain rfl := Option.some.inj (next.symm.trans found)
    rfl

end Loop

section Rounds

variable (limit tries : Tries) (start : Client × κ) (ambient : Ambient)

theorem head?_rounds :
    (rounds remote default limit tries start ambient).head? = some ⟨start, (), ambient⟩ := by
  rw [rounds]
  split <;> rfl

theorem attempt_rounds :
    let done := attempt remote default limit.fails limit.retries tries.fails tries.retries
      start ambient
    Run _ start (rounds remote default limit tries start ambient) done.state ∧
      ∃ last ∈ (rounds remote default limit tries start ambient).getLast?,
        done.answer = last.answer.outcome ∧ done.state = last.left ∧
          done.ambient = last.step.ambient := by
  fun_induction rounds remote default limit tries start ambient with
  | case1 tries start ambient pass next =>
    rw [show start = pass.found from rfl, show ambient = pass.ambient from rfl,
      attempt_last next]
    exact ⟨⟨rfl, rfl⟩, pass, rfl, rfl, rfl, rfl⟩
  | case2 tries start ambient pass more next ih =>
    rw [show start = pass.found from rfl, show ambient = pass.ambient from rfl,
      attempt_more next]
    obtain ⟨run, last, final, ends⟩ := ih
    refine ⟨⟨rfl, run⟩, last, ?_, ends⟩
    rw [List.getLast?_cons, Option.mem_def.mp final]
    rfl

theorem isChain_rounds : (rounds remote default limit tries start ambient).IsChain
    fun first second => second = Pass.next first := by
  fun_induction rounds remote default limit tries start ambient with
  | case1 tries start ambient pass next => exact .singleton pass
  | case2 tries start ambient pass more next ih =>
    refine List.isChain_cons.mpr ⟨fun second first => ?_, ih⟩
    rw [head?_rounds, Option.mem_some_iff] at first
    exact first.symm

end Rounds

theorem head?_passes (start : Client × κ) (ambient : Ambient) :
    (passes remote default start ambient).head? = some ⟨start, (), ambient⟩ :=
  head?_rounds ..

theorem passes_eq_pair {start : Client × κ} {ambient : Ambient} {tries : Tries}
    {first : Pass remote default} (begins : first = ⟨start, (), ambient⟩)
    (goes : first.answer.next? first.found.1.limit {} = some tries)
    (stops : (Pass.next first).answer.next? first.found.1.limit tries = none) :
    passes remote default start ambient = [first, Pass.next first] := by
  subst begins
  rw [passes, rounds_more goes, ← rounds_last stops]
  rfl

theorem execute_passes (remote : Remote κ α) (default : Url) (start : Client × κ)
    (ambient : Ambient) :
    let done := execute remote default start ambient
    Run _ start (passes remote default start ambient) done.state ∧
      ((passes remote default start ambient).IsChain fun first second =>
        second = Pass.next first) ∧
      ∃ last ∈ (passes remote default start ambient).getLast?,
        done.answer = last.answer.outcome ∧ done.state = last.left ∧
          done.ambient = last.step.ambient := by
  obtain ⟨run, ends⟩ := attempt_rounds (start.1.limit) {} start ambient
  exact ⟨run, isChain_rounds .., ends⟩

theorem verdict?_congr {first second : Client} (same : first.config = second.config) :
    (first.verdict? : Except CallError α → Option Verdict) = second.verdict? := by
  funext outcome
  cases outcome with
  | ok value => rfl
  | error error => simp [verdict?, classify, policy?, same]

theorem policy_of_fail {client : Client} {outcome : Except CallError α}
    (failed : client.verdict? outcome = some .fail) : client.policy?.isSome = true := by
  cases outcome with
  | ok value => cases failed
  | error error =>
    cases policy : client.policy? with
    | none => simp [verdict?, classify, policy] at failed
    | some policy => rfl

theorem settle_report (round : Round α) {client : Client} (ambient : Ambient)
    (verdict : round.verdict = client.verdict? round.outcome) :
    (settle round.url round.outcome client ambient).state =
        (round.report.perform client ambient).state ∧
      (settle round.url round.outcome client ambient).ambient =
        (round.report.perform client ambient).ambient := by
  obtain ⟨url, outcome, _, refused⟩ := round
  obtain rfl : _ = client.verdict? outcome := verdict
  cases outcome with
  | ok value => simp [settle, Round.report, verdict?, Call.perform, Operation.bind_apply]
  | error error =>
    cases sorted : client.classify error <;>
      simp [settle, Round.report, verdict?, Call.perform, Operation.bind_apply, sorted]

theorem settle_fail {client : Client} {error : CallError} (url : Url) (ambient : Ambient)
    (failed : client.verdict? (.error error : Except CallError α) = some .fail) :
    (settle url (.error error : Except CallError α) client ambient).answer = !client.tracks := by
  have sorted : client.classify error = .fail := Option.some.inj failed
  have ruled := policy_of_fail failed
  simp [settle, Operation.bind_apply, sorted, fail_isOk, ruled]

namespace Pass

variable (pass : Pass remote default)

def selection : Moment Call.perform := ⟨pass.found.1, .url default none, pass.ambient⟩

def report : Moment Call.perform :=
  let selected := (selection pass).step
  let elapsed := (remote pass.answer.url pass.found.2).1.elapsed
  ⟨selected.state, pass.answer.report,
    { selected.ambient with clock := selected.ambient.clock.advance elapsed }⟩

theorem report_found : (report pass).found = (selection pass).left := rfl

theorem report_call :
    (∃ error, (report pass).call = .fail pass.answer.url error) ∨
      (report pass).call = .confirm pass.answer.url := by
  simp only [report, Round.report]
  split
  · exact .inl ⟨_, rfl⟩
  · exact .inr rfl

theorem config_selected : (selection pass).left.config = pass.found.1.config :=
  (exists_inner (selection pass)).1

theorem outcome_eq : pass.answer.outcome = (remote pass.answer.url pass.found.2).1.outcome := rfl

theorem state_eq : pass.left.2 = (remote pass.answer.url pass.found.2).2 := rfl

theorem verdict_eq : pass.answer.verdict = pass.found.1.verdict? pass.answer.outcome :=
  congrFun (verdict?_congr (config_selected pass)) _

theorem left_eq :
    pass.left.1 = (report pass).left ∧ pass.step.ambient = (report pass).step.ambient :=
  settle_report pass.answer _ rfl

theorem refused_eq (failed : pass.answer.verdict = some .fail) :
    pass.answer.refused = !pass.found.1.tracks := by
  rw [← show (selection pass).left.tracks = pass.found.1.tracks from tracks_left (selection pass)]
  cases outcome : pass.answer.outcome with
  | ok value =>
    rw [verdict_eq, outcome] at failed
    cases failed
  | error error =>
    rw [verdict_eq, outcome, ← verdict?_congr (config_selected pass)] at failed
    rw [← settle_fail pass.answer.url (report pass).ambient failed, ← outcome]
    rfl

theorem tracks_eq : pass.left.1.tracks = pass.found.1.tracks := by
  rw [(left_eq pass).1]
  exact (tracks_left (report pass)).trans (tracks_left (selection pass))

theorem config_eq : pass.left.1.config = pass.found.1.config := by
  rw [(left_eq pass).1]
  exact (exists_inner (report pass)).1.trans (config_selected pass)

theorem calls_of_passes {passes : List (Pass remote default)} {start finish : Client × κ}
    (run : Run _ start passes finish) :
    Run Call.perform start.1 (passes.flatMap fun pass => [selection pass, report pass])
      finish.1 := by
  induction passes generalizing start with
  | nil => exact congrArg Prod.fst run
  | cons pass passes ih =>
    obtain ⟨rfl, run⟩ := run
    refine ⟨rfl, rfl, ?_⟩
    rw [← (left_eq pass).1]
    exact ih run

theorem calls_of_mem {passes : List (Pass remote default)} {start finish : Client × κ}
    (run : Run _ start passes finish) {pass : Pass remote default} (member : pass ∈ passes) :
    ∃ calls, Run Call.perform start.1 calls pass.found.1 := by
  obtain ⟨earlier, later, rfl⟩ := List.append_of_mem member
  exact ⟨_, calls_of_passes (Run.split_iff.mp run).1⟩

end Pass

end Client

end Balance
