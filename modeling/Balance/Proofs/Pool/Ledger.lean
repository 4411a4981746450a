import Balance.Proofs.Metrics
import Balance.Proofs.Pool.Status

/-!
The books of a pool. What a call reports is weighed against what it changes: a
canary is paid for by an exclusion, a readmission by a canary, and a reset by an
exclusion of every configured URL. A URL that is excluded, on probation or not
active is what is paid for and not yet spent. All of this adds up over calls in
a row, and no history has to be kept.
-/

namespace Balance.Pool
open Metrics

variable {pool next : Pool} {call : Call} {events : List Event} {url called : Url}

def missing (pool : Pool) (url : Url) : Nat := if url ∈ pool.active then 0 else 1

structure Accounts (url : Url) (pool : Pool) (events : List Event) (next : Pool) : Prop where
  baseline_eq : next.baseline = pool.baseline
  readmissions : moves events (.readmissions url) + next.probation.count url ≤
    moves events (.canaries url) + pool.probation.count url
  canaries : moves events (.canaries url) + next.excludedUrls.count url ≤
    moves events (.exclusions url) + pool.excludedUrls.count url
  resets : url ∈ pool.baseline → moves events .poolResets + next.missing url ≤
    moves events (.exclusions url) + pool.missing url

theorem composes_accounts (url : Url) : Operation.Composes (Accounts url) where
  nil _ := ⟨rfl, by simp, by simp, by simp⟩
  append first second := by
    have readmissions := first.readmissions
    have canaries := first.canaries
    have readmitted := second.readmissions
    have tried := second.canaries
    refine ⟨second.baseline_eq.trans first.baseline_eq, ?_, ?_, fun configured => ?_⟩
    · simp only [moves_append]
      omega
    · simp only [moves_append]
      omega
    · have resets := first.resets configured
      have again := second.resets (first.baseline_eq ▸ configured)
      simp only [moves_append]
      omega

theorem count_append_singleton (url called : Url) (urls : List Url) :
    (urls ++ [called]).count url = urls.count url + if url = called then 1 else 0 := by
  rw [List.count_append, List.count_singleton]
  simp only [beq_iff_eq, @eq_comm _ called url]

theorem ite_eq_le_count {urls : List Url} (member : called ∈ urls) :
    (if url = called then 1 else 0) ≤ urls.count url := by
  split
  · next same => exact List.count_pos_iff.mpr (same ▸ member)
  · exact Nat.zero_le _

namespace Accounts

theorem excluded (timeout : Duration) (expiry : Option Instant) (count : Nat) :
    Accounts url pool [.excluded called timeout, .outOfRotation count]
      (pool.exclude called expiry).flagged := by
  have told (metric : Metric) : moves [.excluded called timeout, .outOfRotation count] metric =
      if metric = .exclusions called then 1 else 0 := moves_of_counted rfl count metric
  have probation : (pool.exclude called expiry).flagged.probation.count url ≤
      pool.probation.count url := by
    have erased := count_swapErase called url pool.probation
    exact erased.trans_le (Nat.sub_le ..)
  have excluded : (pool.exclude called expiry).flagged.excludedUrls.count url ≤
      pool.excludedUrls.count url + if url = called then 1 else 0 := by
    have joined : (pool.exclude called expiry).flagged.excludedUrls =
        (pool.withoutExclusion called).map Exclusion.url ++ [called] := List.map_append
    rw [joined, count_append_singleton, count_withoutExclusion]
    exact Nat.add_le_add_right (Nat.sub_le ..) _
  have missing : (pool.exclude called expiry).flagged.missing url ≤
      pool.missing url + if url = called then 1 else 0 := by
    by_cases same : url = called
    · rw [if_pos same]
      unfold Pool.missing
      split <;> omega
    · have kept : url ∈ (pool.exclude called expiry).flagged.active ↔ url ∈ pool.active := by
        simp [flagged, Pool.exclude, same]
      simp only [Pool.missing, kept]
      omega
  refine ⟨rfl, ?_, ?_, fun _ => ?_⟩ <;>
    simp only [told, Metric.exclusions.injEq, reduceCtorEq, if_false] <;> omega

theorem reset {expiry : Option Instant} (timeout : Duration) (count : Nat)
    (last : (pool.exclude called expiry).active = []) :
    Accounts url pool [.excluded called timeout, .poolReset, .outOfRotation count]
      (pool.exclude called expiry).reset.flagged := by
  have alone : ∀ active ∈ pool.active, active = called := by
    simpa [Pool.exclude, List.filter_eq_nil_iff] using last
  have told (metric : Metric) :
      moves [.excluded called timeout, .poolReset, .outOfRotation count] metric =
        (if metric = .poolResets then 1 else 0) + if metric = .exclusions called then 1 else 0 := by
    rw [moves_cons, moves_of_counted rfl]
    simp [Event.counted?, eq_comm]
  refine ⟨rfl, ?_, ?_, fun configured => ?_⟩
  · simp only [told, reduceCtorEq, if_false]
    exact Nat.zero_le _
  · simp only [told, reduceCtorEq, if_false]
    exact Nat.zero_le _
  · have back : (pool.exclude called expiry).reset.flagged.missing url = 0 := if_pos configured
    have paid : 1 ≤ pool.missing url + if url = called then 1 else 0 := by
      by_cases active : url ∈ pool.active
      · rw [if_pos (alone url active)]
        omega
      · rw [missing, if_neg active]
        omega
    simp only [told, back, Metric.exclusions.injEq, reduceCtorEq, if_false, if_true]
    omega

theorem readmitted (held : called ∈ pool.probation) (count : Nat) :
    Accounts url pool [.readmitted called, .outOfRotation count] (pool.readmit called).flagged := by
  have told (metric : Metric) : moves [.readmitted called, .outOfRotation count] metric =
      if metric = .readmissions called then 1 else 0 := moves_of_counted rfl count metric
  have spent : (if url = called then 1 else 0) ≤ pool.probation.count url := ite_eq_le_count held
  have probation : (pool.readmit called).flagged.probation.count url ≤
      pool.probation.count url - if url = called then 1 else 0 := by
    rw [readmit_eq]
    split
    · exact Nat.zero_le _
    · exact (count_swapErase called url pool.probation).le
  have excluded : (pool.readmit called).flagged.excludedUrls.count url ≤
      pool.excludedUrls.count url := by
    rw [readmit_eq]
    split
    · exact Nat.zero_le _
    · exact (count_withoutExclusion pool called url).trans_le (Nat.sub_le ..)
  have missing : url ∈ pool.baseline → (pool.readmit called).flagged.missing url ≤
      pool.missing url := by
    intro configured
    rw [readmit_eq]
    split
    · exact (if_pos configured).trans_le (Nat.zero_le _)
    · unfold Pool.missing
      by_cases active : url ∈ pool.active
      · have still : url ∈ (pool.rejoin called).flagged.active := List.mem_append_left _ active
        rw [if_pos still, if_pos active]
      · rw [if_neg active]
        split <;> omega
  have baseline_eq : (pool.readmit called).flagged.baseline = pool.baseline := by
    rw [readmit_eq]
    split <;> rfl
  refine ⟨baseline_eq, ?_, ?_, fun configured => ?_⟩
  · simp only [told, Metric.readmissions.injEq, reduceCtorEq, if_false]
    omega
  · simp only [told, reduceCtorEq, if_false]
    omega
  · simp only [told, reduceCtorEq, if_false]
    have regained := missing configured
    omega

theorem promoted (found : called ∈ pool.excludedUrls) (count : Nat) :
    Accounts url pool [.canary called, .outOfRotation count] (pool.promote called).flagged := by
  have told (metric : Metric) : moves [.canary called, .outOfRotation count] metric =
      if metric = .canaries called then 1 else 0 := moves_of_counted rfl count metric
  have spent : (if url = called then 1 else 0) ≤ pool.excludedUrls.count url :=
    ite_eq_le_count found
  have probation : (pool.promote called).flagged.probation.count url =
      pool.probation.count url + if url = called then 1 else 0 :=
    count_append_singleton url called pool.probation
  have excluded : (pool.promote called).flagged.excludedUrls.count url =
      pool.excludedUrls.count url - if url = called then 1 else 0 :=
    count_withoutExclusion pool called url
  have missing : (pool.promote called).flagged.missing url = pool.missing url := rfl
  refine ⟨rfl, ?_, ?_, fun _ => ?_⟩ <;>
    simp only [told, Metric.canaries.injEq, reduceCtorEq, if_false] <;> omega

end Accounts

theorem mem_excludedUrls_of_exclusion? {exclusion : Exclusion}
    (found : pool.exclusion? url = some exclusion) : url ∈ pool.excludedUrls := by
  by_contra absent
  rw [exclusion?_eq_none_iff.mpr absent] at found
  contradiction

theorem accounts_of_records (records : Records pool call events next) :
    Accounts url pool events next := by
  cases records with
  | same => exact (composes_accounts url).nil pool
  | excluded expiry => exact .excluded _ expiry _
  | reset expiry resolved last => exact .reset _ _ last
  | readmitted held => exact .readmitted held _
  | promoted found => exact .promoted (mem_excludedUrls_of_exclusion? found) _

theorem accounts_silent (url : Url) {event : Event} (silent : event.ofPool = false) (pool : Pool) :
    Accounts url pool [event] pool := by
  refine ⟨rfl, ?_, ?_, fun _ => ?_⟩ <;> simp [moves_silent silent]

/-- Looking for a URL to hand out puts the canaries on probation. -/
def Probes (url : Url) (pool : Pool) (events : List Event) (next : Pool) : Prop :=
  next.probation.count url = pool.probation.count url + moves events (.canaries url)

theorem composes_probes (url : Url) : Operation.Composes (Probes url) where
  nil pool := by simp [Probes]
  append first second := by
    rw [Probes, second, first, moves_append, Nat.add_assoc]

theorem probes_silent (url : Url) {event : Event} (silent : event.ofPool = false) (pool : Pool) :
    Probes url pool [event] pool := by
  simp [Probes, moves_silent silent]

theorem probes_of_records (records : Records pool (.take called) events next) :
    Probes url pool events next := by
  cases records with
  | same => exact (composes_probes url).nil pool
  | promoted found =>
    rw [Probes, moves_of_counted rfl]
    simp only [Metric.canaries.injEq]
    exact count_append_singleton url called pool.probation

theorem count_probation_of_take (records : Records pool (.take called) events next) :
    next.probation.count url ≤ pool.probation.count url + [called].count url := by
  cases records with
  | same => exact Nat.le_add_right ..
  | promoted found => exact List.count_append.le

theorem active_of_poolReset (records : Records pool call events next)
    (told : .poolReset ∈ events) : next.active = next.baseline := by
  cases records with
  | reset => rfl
  | same => simp at told
  | excluded => simp at told
  | readmitted => simp at told
  | promoted => simp at told

theorem moves_canaries_of_records (records : Records pool call events next)
    (reports : ∀ url, call ≠ .take url) : moves events (.canaries url) = 0 := by
  cases records with
  | promoted => exact absurd rfl (reports _)
  | same => rfl
  | excluded => simp [moves_cons, Event.counted?]
  | reset => simp [moves_cons, Event.counted?]
  | readmitted => simp [moves_cons, Event.counted?]

theorem handedOut_of_records (records : Records pool call events next) : handedOut events = [] := by
  cases records <;> rfl

end Balance.Pool
