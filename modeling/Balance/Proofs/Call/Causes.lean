import Balance.Call.Policy

/-!
Which broken exchanges count as a host that was not reached. The search walks
along the sources, which pass over what an input or output error carries, and at
each stop it looks into what is carried. `causes` lists the errors behind an
error with the carried ones among them, and the two movements of the search
together meet exactly these.
-/

namespace Balance

namespace Cause

def causes : Cause → List Cause
  | carrying kind payload => carrying kind payload :: payload.causes
  | wrapped message source => wrapped message source :: source.causes
  | unconnected source => unconnected source :: source.causes
  | interrupted source => interrupted source :: source.causes
  | text message => [text message]
  | unknownHost host => [unknownHost host]
  | io kind => [io kind]
  | system code => [system code]
  | answered status => [answered status]

/-- An error that tells by itself that the host was not reached. -/
inductive Unreached : Cause → Prop
  | unknownHost (host : String) : Unreached (unknownHost host)
  | refused : Unreached (io .connectionRefused)
  | refusedCarrying (payload : Cause) : Unreached (carrying .connectionRefused payload)
  | refusedNumber : Unreached (system SystemError.connectionRefused)

/-- The next error of the walk; what is carried has its own source passed on. -/
def source? : Cause → Option Cause
  | carrying _ payload => payload.source?
  | wrapped _ source | unconnected source | interrupted source => some source
  | _ => none

theorem sources_eq (cause : Cause) :
    cause.sources = cause.source?.elim [] fun next => next :: next.sources := by
  induction cause with
  | carrying kind payload ih => exact ih
  | _ => rfl

theorem isUnreachable_eq (cause : Cause) :
    cause.isUnreachable = (cause.isRefusal || cause.source?.any isUnreachable) := by
  rw [isUnreachable, List.any_cons, sources_eq]
  cases cause.source? <;> rfl

theorem isUnreachable_of_source {cause source : Cause} (next : cause.source? = some source)
    (silent : cause.isRefusal = false) : cause.isUnreachable = source.isUnreachable := by
  rw [isUnreachable_eq, next, silent]
  rfl

theorem isUnreachable_carrying (kind : IoKind) (payload : Cause) :
    (carrying kind payload).isUnreachable =
      (kind == .connectionRefused || payload.isUnreachable) := by
  rw [isUnreachable_eq, isUnreachable_eq payload, isRefusal, source?, Bool.or_assoc]

theorem unreached_carrying_iff {kind : IoKind} {payload : Cause} :
    (carrying kind payload).Unreached ↔ kind = .connectionRefused := by
  constructor
  · rintro ⟨⟩
    rfl
  · rintro rfl
    exact .refusedCarrying payload

theorem isRefusal_iff {cause : Cause} (alone : cause.causes = [cause]) :
    cause.isRefusal = true ↔ cause.Unreached := by
  constructor
  · intro found
    cases cause with
    | unknownHost host => exact .unknownHost host
    | io kind =>
      obtain rfl : kind = .connectionRefused := by simpa [isRefusal] using found
      exact .refused
    | system code =>
      obtain rfl : code = SystemError.connectionRefused := by simpa [isRefusal] using found
      exact .refusedNumber
    | carrying kind payload => cases payload <;> simp [causes] at alone
    | text | wrapped | answered | unconnected | interrupted => cases found
  · rintro (_ | _ | _ | _) <;> simp [isRefusal]

theorem exists_causes_iff {cause next : Cause} (behind : cause.causes = cause :: next.causes) :
    (∃ other ∈ cause.causes, other.Unreached) ↔
      cause.Unreached ∨ ∃ other ∈ next.causes, other.Unreached := by
  simp [behind]

theorem isUnreachable_of_alone {cause : Cause} (last : cause.source? = none)
    (alone : cause.causes = [cause]) :
    cause.isUnreachable = true ↔ ∃ other ∈ cause.causes, other.Unreached := by
  rw [isUnreachable_eq, last, Option.any_none, Bool.or_false, isRefusal_iff alone, alone]
  simp

theorem isUnreachable_iff (cause : Cause) :
    cause.isUnreachable = true ↔ ∃ other ∈ cause.causes, other.Unreached := by
  induction cause with
  | carrying kind payload ih =>
    rw [exists_causes_iff rfl, unreached_carrying_iff, ← ih, isUnreachable_carrying,
      Bool.or_eq_true, beq_iff_eq]
  | wrapped message source ih =>
    rw [exists_causes_iff rfl, or_iff_right nofun, ← ih, isUnreachable_of_source rfl rfl]
  | unconnected source ih =>
    rw [exists_causes_iff rfl, or_iff_right nofun, ← ih, isUnreachable_of_source rfl rfl]
  | interrupted source ih =>
    rw [exists_causes_iff rfl, or_iff_right nofun, ← ih, isUnreachable_of_source rfl rfl]
  | text | unknownHost | io | system | answered => exact isUnreachable_of_alone rfl rfl

end Cause

namespace CallError

/-- A broken exchange is unreachable if and only if one of its causes is an unknown
host or a refused connection. Then it fails under every policy, and else every
policy passes it on, whatever its status lists are. A connection that was not
established fails under every policy. -/
theorem unreachable_iff (source : Cause) :
    ((transport source).isUnreachable = true ↔ ∃ cause ∈ source.causes, cause.Unreached) ∧
      ∀ policy : FailoverConfig,
        policy.classify (.transport source) =
            (if (transport source).isUnreachable then .fail else .propagate) ∧
          policy.classify (.connect source) = .fail := by
  refine ⟨source.isUnreachable_iff, fun policy => ⟨?_, ?_⟩⟩
  · have fails : policy.isFail (.transport source) = (transport source).isUnreachable := rfl
    have spared : policy.isRetry (.transport source) = false := rfl
    simp [FailoverConfig.classify, fails, spared]
  · exact (policy.classify_eq_fail_iff _).mpr rfl

example : (transport (.wrapped "request" (.carrying .other (.carrying .timedOut
    (.io .connectionRefused))))).isUnreachable = true := by decide

end CallError

end Balance
