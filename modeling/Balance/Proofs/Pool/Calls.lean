import Balance.Pool.Operations
import Balance.Proofs.Run

/-!
The calls that a pool answers, and what each of them does. An answer and the
pool behind it are given by the transitions of `Balance.Pool.Basic` at one
reading of the clock, and `Records` lists the events that go with a transition;
statements about runs start from the lemmas here and never open an operation
again.
-/

namespace Balance.Pool

inductive Call
  | candidates
  | fail (called : Url) (timeout : Duration)
  | confirm (called : Url)
  | take (url : Url)
  | snapshot
deriving Repr, DecidableEq

inductive Answer
  | candidates (urls : List Url)
  | failed (resolved : Option Url)
  | confirmed (ended : Bool)
  | taken (take : Take)
  | shown (snapshot : Snapshot)
deriving Repr, DecidableEq

namespace Call

def perform : Call → Operation Pool Answer
  | candidates => .candidates <$> Pool.candidates
  | fail called timeout => .failed <$> Pool.fail called timeout
  | confirm called => .confirmed <$> Pool.confirm called
  | take url => .taken <$> Pool.take url
  | snapshot => .shown <$> Pool.snapshot

end Call

def settled (pool : Pool) : Pool :=
  (if pool.active.isEmpty then pool.reset else pool).flagged

variable (pool : Pool) (ambient : Ambient)

theorem candidates_apply :
    (candidates pool ambient).answer =
        (if pool.degraded && !pool.isClean then pool.offered ambient.reading else pool.baseline) ∧
      (candidates pool ambient).state = pool := by
  by_cases flag : pool.degraded = true <;> by_cases clean : pool.isClean = true <;>
    simp [candidates, candidatesGuarded, Operation.bind_apply, flag, clean]

theorem settle_state (next : Pool) : (settle next pool ambient).state = next.settled := by
  by_cases empty : next.active.isEmpty = true <;>
    simp [settle, settled, publish, Operation.bind_apply, empty]

theorem fail_apply (called : Url) (timeout : Duration) :
    (fail called timeout pool ambient).answer = pool.resolve called ∧
      (fail called timeout pool ambient).state =
        (pool.resolve called).elim pool fun url =>
          (pool.exclude url (Instant.deadline ambient.reading timeout)).settled := by
  cases resolved : pool.resolve called with
  | none => simp [fail, Operation.bind_apply, resolved]
  | some url => simp [fail, Operation.bind_apply, resolved, settle_state]

theorem confirm_apply (called : Url) :
    (confirm called pool ambient).answer =
        (pool.degraded && (pool.resolve called).any (· ∈ pool.probation)) ∧
      (confirm called pool ambient).state =
        if (confirm called pool ambient).answer then
          (pool.resolve called).elim pool fun url => (pool.readmit url).flagged
        else pool := by
  cases flag : pool.degraded with
  | false => simp [confirm, Operation.bind_apply, flag]
  | true =>
    have opened : confirm called pool ambient = confirmGuarded called pool ambient := by
      simp [confirm, Operation.bind_apply, flag]
    rw [opened]
    cases resolved : pool.resolve called with
    | none => simp [confirmGuarded, Operation.bind_apply, resolved]
    | some url =>
      by_cases held : url ∈ pool.probation <;>
        simp [confirmGuarded, Operation.bind_apply, resolved, held, publish]

theorem confirm_cases (called : Url) :
    ((confirm called pool ambient).answer = false ∧ (confirm called pool ambient).state = pool) ∨
      ∃ url, pool.resolve called = some url ∧ url ∈ pool.probation ∧
        (confirm called pool ambient).answer = true ∧
        (confirm called pool ambient).state = (pool.readmit url).flagged := by
  obtain ⟨answer, state⟩ := confirm_apply pool ambient called
  cases ended : (confirm called pool ambient).answer with
  | false => exact .inl ⟨rfl, by simpa [ended] using state⟩
  | true =>
    rw [ended, eq_comm, Bool.and_eq_true, Option.any_eq_true] at answer
    obtain ⟨_, url, resolved, held⟩ := answer
    exact .inr ⟨url, resolved, by simpa using held, rfl, by simpa [ended, resolved] using state⟩

theorem take_apply (url : Url) :
    take url pool ambient =
      if pool.degraded = false then ⟨.active, pool, ambient, []⟩
      else if url ∈ pool.probation then ⟨.withheld, pool, ambient, []⟩
      else
        let spent := { ambient with clock := ambient.clock.read.2 }
        match pool.exclusion? url with
        | none => ⟨.active, pool, spent, []⟩
        | some exclusion =>
          if exclusion.hasExpired ambient.reading then
            ⟨.canary, (pool.promote url).flagged, spent,
              [.canary url, .outOfRotation (pool.promote url).outOfRotation]⟩
          else ⟨.withheld, pool, spent, []⟩ := by
  cases flag : pool.degraded with
  | false => simp [take, Operation.bind_apply, flag]
  | true =>
    have opened : take url pool ambient = takeGuarded url pool ambient := by
      simp [take, Operation.bind_apply, flag]
    rw [opened]
    by_cases held : url ∈ pool.probation
    · simp [takeGuarded, Operation.bind_apply, held]
    · cases found : pool.exclusion? url with
      | none => simp [takeGuarded, Operation.bind_apply, held, found]
      | some exclusion =>
        by_cases expired : exclusion.hasExpired ambient.reading = true <;>
          simp [takeGuarded, Operation.bind_apply, held, found, expired, publish]

theorem snapshot_apply :
    (snapshot pool ambient).answer = pool.snapshotAt ambient.reading ∧
      (snapshot pool ambient).state = pool := by
  simp [snapshot, Operation.bind_apply]

theorem take_cases (url : Url) :
    ((take url pool ambient).answer ≠ .canary ∧ (take url pool ambient).state = pool) ∨
      ∃ exclusion, pool.exclusion? url = some exclusion ∧
        exclusion.hasExpired ambient.reading = true ∧
        (take url pool ambient).answer = .canary ∧
        (take url pool ambient).ambient.clock = ambient.clock.read.2 ∧
        (take url pool ambient).state = (pool.promote url).flagged := by
  rw [take_apply]
  split
  · simp
  · split
    · simp
    · cases found : pool.exclusion? url with
      | none => simp
      | some exclusion => by_cases expired : exclusion.hasExpired ambient.reading <;> simp [expired]

/-- What a call reports, and the pool that it leaves. -/
inductive Records (pool : Pool) : Call → List Event → Pool → Prop
  | same (call : Call) : Records pool call [] pool
  | excluded {called url : Url} {timeout : Duration} (expiry : Option Instant)
    (resolved : pool.resolve called = some url) (active : (pool.exclude url expiry).active ≠ []) :
    Records pool (.fail called timeout)
      [.excluded url timeout, .outOfRotation (pool.exclude url expiry).outOfRotation]
      (pool.exclude url expiry).flagged
  | reset {called url : Url} {timeout : Duration} (expiry : Option Instant)
    (resolved : pool.resolve called = some url) (last : (pool.exclude url expiry).active = []) :
    Records pool (.fail called timeout)
      [.excluded url timeout, .poolReset, .outOfRotation 0] (pool.exclude url expiry).reset.flagged
  | readmitted {called url : Url} (held : url ∈ pool.probation) :
    Records pool (.confirm called)
      [.readmitted url, .outOfRotation (pool.readmit url).outOfRotation] (pool.readmit url).flagged
  | promoted {url : Url} {exclusion : Exclusion} (found : pool.exclusion? url = some exclusion) :
    Records pool (.take url) [.canary url, .outOfRotation (pool.promote url).outOfRotation]
      (pool.promote url).flagged

theorem settle_events (next : Pool) :
    (settle next pool ambient).events =
      if next.active = [] then [.poolReset, .outOfRotation 0]
      else [.outOfRotation next.outOfRotation] := by
  by_cases empty : next.active = [] <;>
    simp [settle, publish, Operation.bind_apply, empty, reset, outOfRotation]

theorem records_fail (called : Url) (timeout : Duration) :
    Records pool (.fail called timeout) (fail called timeout pool ambient).events
      (fail called timeout pool ambient).state := by
  rw [(fail_apply pool ambient called timeout).2]
  cases resolved : pool.resolve called with
  | none =>
    have silent : (fail called timeout pool ambient).events = [] := by
      simp [fail, Operation.bind_apply, resolved]
    rw [silent]
    exact .same _
  | some url =>
    let next := pool.exclude url (Instant.deadline ambient.reading timeout)
    have told : (fail called timeout pool ambient).events =
        .excluded url timeout :: if next.active = [] then [.poolReset, .outOfRotation 0]
          else [.outOfRotation next.outOfRotation] := by
      simp [fail, Operation.bind_apply, resolved, settle_events, next]
    rw [told, Option.elim_some]
    by_cases last : next.active = []
    · rw [if_pos last, settled, if_pos (List.isEmpty_iff.mpr last)]
      exact .reset _ resolved last
    · rw [if_neg last, settled, if_neg (mt List.isEmpty_iff.mp last)]
      exact .excluded _ resolved last

theorem records_confirm (called : Url) :
    Records pool (.confirm called) (confirm called pool ambient).events
      (confirm called pool ambient).state := by
  by_cases flag : pool.degraded = true
  · cases resolved : pool.resolve called with
    | none => simpa [confirm, confirmGuarded, Operation.bind_apply, flag, resolved] using .same _
    | some url =>
      by_cases held : url ∈ pool.probation
      · simpa [confirm, confirmGuarded, Operation.bind_apply, flag, resolved, held, publish] using
          .readmitted held
      · simpa [confirm, confirmGuarded, Operation.bind_apply, flag, resolved, held] using .same _
  · simpa [confirm, Operation.bind_apply, flag] using .same _

theorem records_take (url : Url) :
    Records pool (.take url) (take url pool ambient).events (take url pool ambient).state := by
  rw [take_apply]
  split
  · exact .same _
  · split
    · exact .same _
    · cases found : pool.exclusion? url with
      | none => exact .same _
      | some exclusion =>
        by_cases expired : exclusion.hasExpired ambient.reading = true
        · simpa [expired] using .promoted found
        · simpa [expired] using .same _

theorem candidates_events : (candidates pool ambient).events = [] := by
  by_cases flag : pool.degraded = true <;> by_cases clean : pool.isClean = true <;>
    simp [candidates, candidatesGuarded, Operation.bind_apply, flag, clean]

theorem records_perform (call : Call) :
    Records pool call (call.perform pool ambient).events (call.perform pool ambient).state := by
  cases call <;> rw [Call.perform, Operation.map_apply]
  case candidates =>
    rw [candidates_events, (candidates_apply pool ambient).2]
    exact .same _
  case fail called timeout => exact records_fail pool ambient called timeout
  case confirm called => exact records_confirm pool ambient called
  case take url => exact records_take pool ambient url
  case snapshot => exact .same _

/-- How one call changes a pool, if it does. -/
inductive Change (pool : Pool) : Pool → Prop
  | same : Change pool pool
  | excluded {called url : Url} (expiry : Option Instant) (resolved : pool.resolve called = some url) :
    Change pool (pool.exclude url expiry).settled
  | readmitted {url : Url} (held : url ∈ pool.probation) : Change pool (pool.readmit url).flagged
  | promoted {url : Url} {exclusion : Exclusion} (found : pool.exclusion? url = some exclusion) :
    Change pool (pool.promote url).flagged

theorem change_left (moment : Moment Call.perform) : Change moment.found moment.left := by
  obtain ⟨pool, call, ambient⟩ := moment
  have records := records_perform pool ambient call
  change Change pool (call.perform pool ambient).state
  generalize (call.perform pool ambient).state = next,
    (call.perform pool ambient).events = events at records ⊢
  cases records with
  | same => exact .same
  | excluded expiry resolved active =>
    have settles := Change.excluded expiry resolved
    rwa [settled, if_neg (mt List.isEmpty_iff.mp active)] at settles
  | reset expiry resolved last =>
    have settles := Change.excluded expiry resolved
    rwa [settled, if_pos (List.isEmpty_iff.mpr last)] at settles
  | readmitted held => exact .readmitted held
  | promoted found => exact .promoted found

end Balance.Pool
