import Balance.Proofs.Pool.Attribution
import Mathlib.Data.List.Induction

/-!
Failures reported in a row. While they are about different URLs and leave some
other URL active, each of them moves its own URL and nothing else, so that the
pool behind them does not show their order: only the lists of exclusions and of
probations may be arranged in another way. When they are about all URLs of a
clean pool the last one resets it, whichever URL that is.
-/

namespace Balance.Pool

structure Failure where
  called : Url
  timeout : Duration
  ambient : Ambient

def Failure.expiry (failure : Failure) : Option Instant :=
  Instant.deadline failure.ambient.reading failure.timeout

def failOne (pool : Pool) (failure : Failure) : Pool :=
  (fail failure.called failure.timeout pool failure.ambient).state

/-- The pool behind failures that are reported one after the other. -/
def failAll (pool : Pool) (failures : List Failure) : Pool := failures.foldl failOne pool

def failed (pool : Pool) (failures : List Failure) : List Url :=
  failures.filterMap (pool.resolve ·.called)

variable {pool next : Pool} {failure : Failure} {failures others : List Failure}
variable {url other : Url}

theorem failOne_eq (pool : Pool) (failure : Failure) :
    pool.failOne failure =
      (pool.resolve failure.called).elim pool fun url => (pool.exclude url failure.expiry).settled :=
  (fail_apply pool failure.ambient failure.called failure.timeout).2

theorem failOne_none (foreign : pool.resolve failure.called = none) :
    pool.failOne failure = pool := by
  rw [failOne_eq, foreign, Option.elim_none]

theorem failOne_some (resolved : pool.resolve failure.called = some url) :
    pool.failOne failure = (pool.exclude url failure.expiry).settled := by
  rw [failOne_eq, resolved, Option.elim_some]

theorem change_failOne (pool : Pool) (failure : Failure) : Change pool (pool.failOne failure) := by
  cases resolved : pool.resolve failure.called with
  | none =>
    rw [failOne_none resolved]
    exact .same
  | some url =>
    rw [failOne_some resolved]
    exact .excluded _ resolved

theorem failed_cons_none (foreign : pool.resolve failure.called = none) (failures : List Failure) :
    pool.failed (failure :: failures) = pool.failed failures := List.filterMap_cons_none foreign

theorem failed_cons_some (resolved : pool.resolve failure.called = some url)
    (failures : List Failure) :
    pool.failed (failure :: failures) = url :: pool.failed failures :=
  List.filterMap_cons_some resolved

theorem failed_append (pool : Pool) (failures others : List Failure) :
    pool.failed (failures ++ others) = pool.failed failures ++ pool.failed others :=
  List.filterMap_append

theorem failed_congr (same : next.baseline = pool.baseline) (failures : List Failure) :
    next.failed failures = pool.failed failures := by
  unfold failed
  congr 1
  funext failure
  exact resolve_congr (by simp [same]) failure.called

theorem sound_failAll (sound : pool.Sound) (failures : List Failure) :
    (pool.failAll failures).Sound ∧ (pool.failAll failures).baseline = pool.baseline := by
  induction failures generalizing pool with
  | nil => exact ⟨sound, rfl⟩
  | cons failure rest ih =>
    have change := change_failOne pool failure
    obtain ⟨kept, same⟩ := ih (sound.change change)
    exact ⟨kept, same.trans change.baseline_eq⟩

/-- What failures make of a pool while some URL stays active. -/
structure Excludes (pool : Pool) (failures : List Failure) (next : Pool) : Prop where
  active : next.active = pool.active.filter (· ∉ pool.failed failures)
  excluded : ∀ failure ∈ failures, ∀ url, pool.resolve failure.called = some url →
    next.statuses url = .excluded failure.expiry
  kept : ∀ url ∉ pool.failed failures, next.statuses url = pool.statuses url

theorem Excludes.nothing (pool : Pool) : Excludes pool [] pool where
  active := by simp [failed]
  excluded _ absent := absurd absent List.not_mem_nil
  kept _ _ := rfl

theorem Excludes.foreign (foreign : pool.resolve failure.called = none)
    (excludes : Excludes pool failures next) : Excludes pool (failure :: failures) next := by
  have same := failed_cons_none foreign failures
  refine ⟨same ▸ excludes.active, fun other member url resolved => ?_, same ▸ excludes.kept⟩
  rcases List.mem_cons.mp member with rfl | member
  · cases foreign.symm.trans resolved
  · exact excludes.excluded other member url resolved

theorem Excludes.cons (sound : pool.Sound) (resolved : pool.resolve failure.called = some url)
    (fresh : url ∉ pool.failed failures)
    (excludes : Excludes (pool.exclude url failure.expiry).flagged failures next) :
    Excludes pool (failure :: failures) next := by
  have configured := mem_configured.mp (mem_configured_of_resolve resolved)
  have same : (pool.exclude url failure.expiry).flagged.failed failures = pool.failed failures :=
    failed_congr rfl failures
  have first := failed_cons_some resolved failures
  have moved : (pool.exclude url failure.expiry).flagged.statuses =
      Function.update pool.statuses url (.excluded failure.expiry) :=
    (statuses_flagged _).trans (statuses_exclude sound.toPartitioned configured)
  refine ⟨?_, fun other member target about => ?_, fun other away => ?_⟩
  · rw [excludes.active, same, first]
    simp only [flagged, exclude, List.filter_filter, List.mem_cons, not_or, Bool.decide_and,
      Bool.and_comm]
  · rcases List.mem_cons.mp member with rfl | member
    · obtain rfl := Option.some.inj (resolved.symm.trans about)
      rw [excludes.kept url (same ▸ fresh), moved, Function.update_self]
    · exact excludes.excluded other member target about
  · rw [first, List.mem_cons, not_or] at away
    rw [excludes.kept other (same ▸ away.2), moved, Function.update_of_ne away.1]

theorem excludes_failAll (sound : pool.Sound) (distinct : (pool.failed failures).Nodup)
    (active : other ∈ pool.active) (spared : other ∉ pool.failed failures) :
    Excludes pool failures (pool.failAll failures) := by
  induction failures generalizing pool with
  | nil => exact .nothing pool
  | cons failure rest ih =>
    change Excludes pool (failure :: rest) ((pool.failOne failure).failAll rest)
    cases resolved : pool.resolve failure.called with
    | none =>
      have same := failed_cons_none resolved rest
      rw [failOne_none resolved]
      exact (ih sound (same ▸ distinct) active (same ▸ spared)).foreign resolved
    | some url =>
      rw [failed_cons_some resolved, List.nodup_cons] at distinct
      rw [failed_cons_some resolved, List.mem_cons, not_or] at spared
      obtain ⟨fresh, distinct⟩ := distinct
      obtain ⟨different, spared⟩ := spared
      have still : other ∈ (pool.exclude url failure.expiry).active := by
        simp [exclude, active, different]
      have left : pool.failOne failure = (pool.exclude url failure.expiry).flagged := by
        rw [failOne_some resolved, settled, if_neg (by simpa using List.ne_nil_of_mem still)]
      have same : (pool.failOne failure).failed rest = pool.failed rest :=
        failed_congr (change_failOne pool failure).baseline_eq rest
      have onward := ih (sound.change (change_failOne pool failure)) (same ▸ distinct)
        (left ▸ still) (same ▸ spared)
      rw [left] at onward ⊢
      exact .cons sound resolved fresh onward

theorem mem_failed : url ∈ pool.failed failures ↔
    ∃ failure ∈ failures, pool.resolve failure.called = some url := List.mem_filterMap

theorem Excludes.statuses_eq {left right : Pool} (perm : failures.Perm others)
    (first : Excludes pool failures left) (second : Excludes pool others right) :
    left.statuses = right.statuses := by
  funext url
  by_cases about : url ∈ pool.failed failures
  · obtain ⟨failure, member, resolved⟩ := mem_failed.mp about
    rw [first.excluded failure member url resolved,
      second.excluded failure (perm.mem_iff.mp member) url resolved]
  · have away : url ∉ pool.failed others := by
      rwa [failed, ← (perm.filterMap _).mem_iff]
    rw [first.kept url about, second.kept url away]

theorem perm_of_statuses_eq {left right : Pool} (one : left.Partitioned) (two : right.Partitioned)
    (same : left.statuses = right.statuses) :
    left.excluded.Perm right.excluded ∧ left.probation.Perm right.probation := by
  constructor
  · refine (List.perm_ext_iff_of_nodup one.nodup_excludedUrls.of_map
      two.nodup_excludedUrls.of_map).mpr fun exclusion => ?_
    rw [← statuses_eq_excluded_iff one, ← statuses_eq_excluded_iff two, same]
  · refine (List.perm_ext_iff_of_nodup one.nodup_probation two.nodup_probation).mpr fun url => ?_
    rw [← statuses_eq_probation_iff, ← statuses_eq_probation_iff, same]

theorem eq_ofBaseline_of_isClean (sound : pool.Sound) (clean : pool.isClean = true) :
    pool = ofBaseline pool.baseline := by
  obtain ⟨excluded, probation⟩ := isClean_iff.mp clean
  have active := sound.active_of_isClean clean
  have flag : pool.degraded = false := by rw [sound.degraded_eq, clean, Bool.not_true]
  obtain ⟨baseline, _, _, _, _⟩ := pool
  simp only at excluded probation active flag
  rw [excluded, probation, active, flag, ofBaseline]

theorem failAll_configured (sound : pool.Sound) (clean : pool.isClean = true)
    (all : (pool.failed failures).Perm pool.configured) :
    pool.failAll failures = ofBaseline pool.baseline := by
  induction failures using List.reverseRecOn with
  | nil => exact eq_ofBaseline_of_isClean sound clean
  | append_singleton front last ih =>
    obtain ⟨_, same⟩ := sound_failAll sound front
    have behind : pool.failAll (front ++ [last]) = (pool.failAll front).failOne last :=
      List.foldl_append
    have resolution : (pool.failAll front).resolve last.called = pool.resolve last.called :=
      resolve_congr (by simp [same]) last.called
    rw [behind]
    rw [failed_append] at all
    cases resolved : pool.resolve last.called with
    | none =>
      rw [failed_cons_none resolved] at all
      rw [failOne_none (resolution.trans resolved)]
      exact ih (by simpa [failed] using all)
    | some url =>
      rw [failed_cons_some resolved, show pool.failed [] = [] from rfl] at all
      have once : (pool.failed front ++ [url]).Nodup := all.nodup_iff.mpr (Url.nodup_distinct _)
      obtain ⟨distinct, _, fresh⟩ := List.nodup_append'.mp once
      have active : url ∈ pool.active := by
        rw [sound.active_of_isClean clean]
        exact mem_configured.mp (mem_configured_of_resolve resolved)
      have excludes := excludes_failAll sound distinct active (by simpa using fresh)
      have empty : ((pool.failAll front).exclude url last.expiry).active = [] := by
        refine List.filter_eq_nil_iff.mpr fun other member => ?_
        rw [excludes.active, List.mem_filter, sound.active_of_isClean clean] at member
        have placed := all.mem_iff.mpr (mem_configured.mpr member.1)
        simp_all
      rw [failOne_some (resolution.trans resolved), settled, if_pos (List.isEmpty_iff.mpr empty),
        ← same]
      rfl

section Runs

variable {baseline : List Url} {moments : List (Moment Call.perform)}

/-- In every state that a run reaches, failures of different URLs that leave some
URL active may come in any order: the active URLs are the same one by one, and so
are the exclusions with their expiries and the probations up to their order. From
a clean pool, failures of all configured URLs in any order end in a clean pool. -/
theorem failures_commute (run : Run Call.perform (ofBaseline baseline) moments pool) :
    (∀ failures others : List Failure, failures.Perm others → (pool.failed failures).Nodup →
      (∃ url ∈ pool.active, url ∉ pool.failed failures) →
      (pool.failAll failures).active = (pool.failAll others).active ∧
        (pool.failAll failures).excluded.Perm (pool.failAll others).excluded ∧
        (pool.failAll failures).probation.Perm (pool.failAll others).probation) ∧
      (pool.isClean = true → ∀ failures : List Failure,
        (pool.failed failures).Perm pool.configured →
        pool.failAll failures = ofBaseline baseline) := by
  have sound := sound_of_run run
  obtain rfl := baseline_of_run run
  constructor
  · rintro failures others perm distinct ⟨url, active, spared⟩
    have same : (pool.failed failures).Perm (pool.failed others) := perm.filterMap _
    have first := excludes_failAll sound distinct active spared
    have second := excludes_failAll sound (same.nodup_iff.mp distinct) active
      (mt same.mem_iff.mpr spared)
    refine ⟨?_, perm_of_statuses_eq (sound_failAll sound failures).1.toPartitioned
      (sound_failAll sound others).1.toPartitioned (first.statuses_eq perm second)⟩
    rw [first.active, second.active]
    simp only [same.mem_iff]
  · exact fun clean failures all => failAll_configured sound clean all

theorem failures_commute_probation :
    let pool : Pool := ⟨["a", "b", "c", "b"], ["c"], [⟨"b", some 16⟩], ["a"], true⟩
    let canary : Failure := ⟨"a/x", 100, .standing 20⟩
    let excluded : Failure := ⟨"b", Instant.horizon, .standing 10⟩
    Run Call.perform (ofBaseline ["a", "b", "c", "b"])
        (history Call.perform (ofBaseline ["a", "b", "c", "b"])
          [(.fail "a" 5, .standing 0), (.take "a", .standing 6), (.fail "b" 9, .standing 7)])
        pool ∧
      (pool.failed [canary, excluded]).Nodup ∧
      (pool.failAll [canary, excluded]).active = (pool.failAll [excluded, canary]).active ∧
      (pool.failAll [canary, excluded]).excluded.Perm (pool.failAll [excluded, canary]).excluded ∧
      (ofBaseline ["a", "b"]).failAll [excluded, canary] = ofBaseline ["a", "b"] := by
  intro pool canary excluded
  have run : Run Call.perform (ofBaseline ["a", "b", "c", "b"])
      (history Call.perform (ofBaseline ["a", "b", "c", "b"])
        [(.fail "a" 5, .standing 0), (.take "a", .standing 6), (.fail "b" 9, .standing 7)])
      pool := ⟨rfl, rfl, rfl, rfl⟩
  have distinct : (pool.failed [canary, excluded]).Nodup := by decide
  obtain ⟨commute, _⟩ := failures_commute run
  obtain ⟨active, exclusions, _⟩ := commute [canary, excluded] [excluded, canary]
    (List.Perm.swap ..) distinct ⟨"c", by decide, by decide⟩
  have still : Run Call.perform (ofBaseline ["a", "b"]) [] (ofBaseline ["a", "b"]) := rfl
  have resets := (failures_commute still).2 rfl [excluded, canary] (by decide)
  exact ⟨run, distinct, active, exclusions, resets⟩

end Runs

end Balance.Pool
