import Balance.Balancer
import Balance.Config.Loading
import Mathlib.Data.List.Basic
import Mathlib.Data.List.Count

/-!
No problem of a configuration hides another. Problems are of seven kinds, and how
many there are of a kind is told by what the kind is about, whatever else is wrong:
URLs by the check of each of them, repeated URLs by how many distinct ones there
are, weights by those that have a URL, statuses by both lists. Validation lists just
these problems and as many of them, although it looks for a repeated URL among the
URLs before it and writes the problems of different kinds into one list.
-/

namespace Balance

namespace ConfigProblem

inductive Kind
  | noUrls
  | invalidUrl
  | duplicateUrl
  | tooManyWeights
  | weightOutOfBounds
  | zeroTimeout
  | invalidStatus
deriving DecidableEq

def kind : ConfigProblem → Kind
  | noUrls => .noUrls
  | invalidUrl .. => .invalidUrl
  | duplicateUrl _ => .duplicateUrl
  | tooManyWeights .. => .tooManyWeights
  | zeroWeight _ | weightTooLarge .. => .weightOutOfBounds
  | zeroTimeout => .zeroTimeout
  | invalidStatus _ => .invalidStatus

theorem filter_kind {found : List ConfigProblem} {own : Kind}
    (all : ∀ problem ∈ found, problem.kind = own) (kind : Kind) :
    found.filter (·.kind = kind) = if own = kind then found else [] := by
  split
  · next same =>
    refine List.filter_eq_self.mpr fun problem member => ?_
    simp [all problem member, same]
  · next other =>
    refine List.filter_eq_nil_iff.mpr fun problem member => ?_
    simp [all problem member, other]

theorem eq_nil_iff_countP_kind (found : List ConfigProblem) :
    found = [] ↔ ∀ kind, found.countP (·.kind = kind) = 0 := by
  constructor
  · rintro rfl kind
    rfl
  · intro none
    refine List.eq_nil_iff_forall_not_mem.mpr fun problem member => ?_
    exact List.countP_eq_zero.mp (none problem.kind) problem member (by simp)

theorem count_filterMap_of_iff {α : Type} [BEq α] [LawfulBEq α]
    {reading : α → Option ConfigProblem} {problem : ConfigProblem} {origin : α} {guard : Prop}
    [Decidable guard] (told : ∀ part, reading part = some problem ↔ part = origin ∧ guard)
    (parts : List α) :
    (parts.filterMap reading).count problem = if guard then parts.count origin else 0 := by
  rw [List.count_filterMap]
  split
  · next holds =>
    refine List.countP_congr fun part _ => ?_
    simp [told, holds]
  · next fails =>
    refine List.countP_eq_zero.mpr fun part _ => ?_
    simp [told, fails]

end ConfigProblem

namespace BalancingConfig

def weighed (config : BalancingConfig) : List (Url × UInt32) :=
  config.urls.zip (config.weights.getD [])

def statuses (config : BalancingConfig) : List UInt16 :=
  config.failover.elim [] fun policy => policy.failStatus ++ policy.retryStatus

end BalancingConfig

namespace Validation
open ConfigProblem

section Counts

variable (fault : String → Option String) (config : BalancingConfig)

/-- How many problems of a kind a configuration has. -/
def defects : Kind → Nat
  | .noUrls => if config.active = true ∧ config.urls = [] then 1 else 0
  | .invalidUrl => config.urls.countP fun url => (fault url).isSome
  | .duplicateUrl => config.urls.length - Weight.distinctCount config.urls
  | .tooManyWeights => if config.urls.length < (config.weights.getD []).length then 1 else 0
  | .weightOutOfBounds => config.weighed.countP fun (_, weight) => ¬ (1 ≤ weight ∧ weight ≤ 1000)
  | .zeroTimeout =>
    if ∃ policy ∈ config.failover, policy.active = true ∧ policy.timeoutMillis = 0 then 1 else 0
  | .invalidStatus => config.statuses.countP fun code => ¬ (100 ≤ code ∧ code ≤ 599)

/-- How often a configuration has one and the same problem. -/
def occurrences : ConfigProblem → Nat
  | noUrls => defects fault config .noUrls
  | invalidUrl url reason => if fault url = some reason then config.urls.count url else 0
  | duplicateUrl url => config.urls.count url - 1
  | tooManyWeights weights urls =>
    if weights = (config.weights.getD []).length ∧ urls = config.urls.length then
      defects fault config .tooManyWeights
    else 0
  | zeroWeight url => config.weighed.count (url, 0)
  | weightTooLarge url weight limit =>
    if 1000 < weight ∧ limit = 1000 then config.weighed.count (url, weight) else 0
  | zeroTimeout => defects fault config .zeroTimeout
  | invalidStatus code => if 100 ≤ code ∧ code ≤ 599 then 0 else config.statuses.count code

end Counts

section Repeats

/-- The URLs that stand in `seen` or earlier in the list. -/
def repeats (seen : List String) : List String → List String
  | [] => []
  | url :: urls => (if url ∈ seen then [url] else []) ++ repeats (seen ++ [url]) urls

theorem length_repeats (seen urls : List String) :
    (repeats seen urls).length + ((Url.distinct urls).filter (· ∉ seen)).length = urls.length := by
  induction urls generalizing seen with
  | nil => rfl
  | cons url urls ih =>
    have later := ih (seen ++ [url])
    have behind : (Url.distinct urls).filter (· ∉ seen ++ [url]) =
        ((Url.distinct urls).filter (· ≠ url)).filter (· ∉ seen) := by
      rw [List.filter_filter]
      simp [Bool.and_comm]
    rw [behind] at later
    by_cases earlier : url ∈ seen <;> simp [repeats, Url.distinct, earlier] at later ⊢ <;> omega

theorem length_repeats_nil (urls : List String) :
    (repeats [] urls).length + Weight.distinctCount urls = urls.length := by
  rw [← length_repeats [] urls, Weight.distinctCount]
  simp

theorem count_repeats (seen urls : List String) (url : String) :
    (repeats seen urls).count url =
      if url ∈ seen then urls.count url else urls.count url - 1 := by
  induction urls generalizing seen with
  | nil => simp [repeats]
  | cons first urls ih =>
    rw [repeats, List.count_append, ih]
    by_cases same : first = url
    · subst same
      by_cases earlier : first ∈ seen <;> simp [earlier, Nat.add_comm]
    · by_cases earlier : first ∈ seen <;> simp [earlier, same, Ne.symm same]

end Repeats

section Bounds

variable {url other : String} {weight bound limit : UInt32}

def weightProblem? (url : String) (weight : UInt32) : Option ConfigProblem :=
  (weightProblem url weight).head?

theorem toList_weightProblem? (url : String) (weight : UInt32) :
    (weightProblem? url weight).toList = weightProblem url weight := by
  unfold weightProblem? weightProblem
  split
  · rfl
  · split <;> rfl

theorem within_iff : 1 ≤ weight ∧ weight ≤ 1000 ↔ weight ≠ 0 ∧ ¬ Weight.maxWeight < weight := by
  simp only [Weight.maxWeight, UInt32.le_iff_toNat_le, UInt32.lt_iff_toNat_lt, ne_eq,
    ← UInt32.toNat_inj, UInt32.reduceToNat]
  omega

theorem weightProblem?_eq_none_iff :
    weightProblem? url weight = none ↔ 1 ≤ weight ∧ weight ≤ 1000 := by
  rw [within_iff, weightProblem?, weightProblem]
  by_cases zero : weight = 0
  · simp [zero]
  · by_cases large : Weight.maxWeight < weight <;> simp [zero, large]

theorem weightProblem?_eq_zeroWeight_iff :
    weightProblem? url weight = some (zeroWeight other) ↔ url = other ∧ weight = 0 := by
  rw [weightProblem?, weightProblem]
  by_cases zero : weight = 0
  · simp [zero]
  · by_cases large : Weight.maxWeight < weight <;> simp [zero, large]

theorem weightProblem?_eq_weightTooLarge_iff :
    weightProblem? url weight = some (weightTooLarge other bound limit) ↔
      (url = other ∧ weight = bound) ∧ 1000 < bound ∧ limit = 1000 := by
  rw [weightProblem?, weightProblem]
  constructor
  · intro found
    split at found
    · cases found
    · split at found
      · next large =>
        cases found
        exact ⟨⟨rfl, rfl⟩, large, rfl⟩
      · cases found
  · rintro ⟨⟨rfl, rfl⟩, large, rfl⟩
    have positive : weight ≠ 0 := by
      rintro rfl
      exact absurd large (by decide)
    rw [if_neg positive, if_pos (show Weight.maxWeight < weight from large)]
    rfl

theorem kind_of_weightProblem? {problem : ConfigProblem}
    (found : weightProblem? url weight = some problem) : problem.kind = .weightOutOfBounds := by
  unfold weightProblem? weightProblem at found
  split at found
  · obtain rfl := Option.some.inj found
    rfl
  · split at found
    · obtain rfl := Option.some.inj found
      rfl
    · contradiction

theorem isStatus_iff {code : UInt16} : isStatus code = true ↔ 100 ≤ code ∧ code ≤ 599 := by
  simp [isStatus]

end Bounds

variable (fault : String → Option String)

def listed (config : BalancingConfig) : Kind → List ConfigProblem
  | .noUrls => if config.active = true ∧ config.urls = [] then [noUrls] else []
  | .invalidUrl => config.urls.filterMap fun url => (fault url).map (invalidUrl url)
  | .duplicateUrl => (repeats [] config.urls).map duplicateUrl
  | .tooManyWeights =>
    if config.urls.length < (config.weights.getD []).length then
      [tooManyWeights (config.weights.getD []).length config.urls.length]
    else []
  | .weightOutOfBounds => config.weighed.filterMap fun (url, weight) => weightProblem? url weight
  | .zeroTimeout =>
    if ∃ policy ∈ config.failover, policy.active = true ∧ policy.timeoutMillis = 0 then
      [zeroTimeout]
    else []
  | .invalidStatus => (config.statuses.filter (!isStatus ·)).map invalidStatus

theorem kind_of_listed {config : BalancingConfig} {kind : Kind} {problem : ConfigProblem}
    (member : problem ∈ listed fault config kind) : problem.kind = kind := by
  cases kind with
  | weightOutOfBounds =>
    obtain ⟨⟨url, weight⟩, _, found⟩ := List.mem_filterMap.mp member
    exact kind_of_weightProblem? found
  | invalidUrl =>
    obtain ⟨url, _, found⟩ := List.mem_filterMap.mp member
    obtain ⟨reason, _, rfl⟩ := Option.map_eq_some_iff.mp found
    rfl
  | duplicateUrl | invalidStatus =>
    obtain ⟨_, _, rfl⟩ := List.mem_map.mp member
    rfl
  | noUrls | tooManyWeights | zeroTimeout =>
    obtain ⟨_, single⟩ := List.mem_ite_nil_right.mp member
    obtain rfl := List.mem_singleton.mp single
    rfl

theorem filter_urlProblems (seen urls : List String) (kind : Kind) :
    (urlProblems fault seen urls).filter (·.kind = kind) =
      if kind = .invalidUrl then urls.filterMap fun url => (fault url).map (invalidUrl url)
      else if kind = .duplicateUrl then (repeats seen urls).map duplicateUrl
      else [] := by
  induction urls generalizing seen with
  | nil => simp [urlProblems, repeats]
  | cons url urls ih =>
    have invalid : ∀ problem ∈ (fault url).toList.map (invalidUrl url),
        problem.kind = .invalidUrl := by simp [ConfigProblem.kind]
    have duplicate : ∀ problem ∈ (if url ∈ seen then [duplicateUrl url] else []),
        problem.kind = .duplicateUrl := by
      split <;> simp [ConfigProblem.kind]
    rw [urlProblems, List.filter_append, List.filter_append, filter_kind invalid,
      filter_kind duplicate, ih]
    cases kind with
    | invalidUrl => cases reason : fault url <;> simp [reason]
    | duplicateUrl => by_cases earlier : url ∈ seen <;> simp [repeats, earlier]
    | _ => simp

theorem problems_eq (config : Config) :
    let balancing := config.balancing
    problems fault config =
      listed fault balancing .noUrls ++ urlProblems fault [] balancing.urls ++
        (listed fault balancing .tooManyWeights ++ listed fault balancing .weightOutOfBounds) ++
        (listed fault balancing .zeroTimeout ++ listed fault balancing .invalidStatus) := by
  intro balancing
  have urls : (if balancing.active && balancing.urls.isEmpty then [noUrls] else []) =
      listed fault balancing .noUrls := by
    simp [listed]
  have weights : balancing.weights.elim [] (weightProblems balancing.urls) =
      listed fault balancing .tooManyWeights ++ listed fault balancing .weightOutOfBounds := by
    cases given : balancing.weights <;>
      simp [listed, weightProblems, BalancingConfig.weighed, given,
        List.filterMap_eq_flatMap_toList, toList_weightProblem?]
  have failover : balancing.failover.elim [] failoverProblems =
      listed fault balancing .zeroTimeout ++ listed fault balancing .invalidStatus := by
    cases given : balancing.failover <;>
      simp [listed, failoverProblems, BalancingConfig.statuses, given]
  rw [← urls, ← weights, ← failover]
  rfl

theorem filter_problems (config : Config) (kind : Kind) :
    (problems fault config).filter (·.kind = kind) = listed fault config.balancing kind := by
  have part (own : Kind) : (listed fault config.balancing own).filter (·.kind = kind) =
      if own = kind then listed fault config.balancing own else [] :=
    filter_kind (fun _ => kind_of_listed fault) kind
  simp only [problems_eq, List.filter_append, filter_urlProblems, part]
  cases kind <;> simp [listed]

theorem length_listed (config : BalancingConfig) (kind : Kind) :
    (listed fault config kind).length = defects fault config kind := by
  cases kind with
  | noUrls | tooManyWeights | zeroTimeout =>
    simp only [listed, defects]
    split <;> rfl
  | invalidUrl => simp [listed, defects, List.length_filterMap_eq_countP]
  | duplicateUrl =>
    have total := length_repeats_nil config.urls
    simp only [listed, defects, List.length_map]
    omega
  | weightOutOfBounds =>
    rw [listed, defects, List.length_filterMap_eq_countP]
    refine List.countP_congr fun ⟨url, weight⟩ _ => ?_
    rw [Option.isSome_iff_ne_none, decide_eq_true_eq]
    exact not_congr weightProblem?_eq_none_iff
  | invalidStatus =>
    rw [listed, defects, List.length_map, ← List.countP_eq_length_filter]
    refine List.countP_congr fun code _ => ?_
    simp [isStatus]

theorem count_listed (config : BalancingConfig) (problem : ConfigProblem) :
    (listed fault config problem.kind).count problem = occurrences fault config problem := by
  cases problem with
  | noUrls | zeroTimeout =>
    simp only [ConfigProblem.kind, listed, occurrences, defects]
    split <;> simp
  | invalidUrl url reason =>
    refine count_filterMap_of_iff (fun other => ?_) config.urls
    rw [Option.map_eq_some_iff]
    constructor
    · rintro ⟨_, found, same⟩
      obtain ⟨rfl, rfl⟩ := invalidUrl.inj same
      exact ⟨rfl, found⟩
    · rintro ⟨rfl, found⟩
      exact ⟨reason, found, rfl⟩
  | duplicateUrl url =>
    rw [ConfigProblem.kind, listed, occurrences,
      List.count_map_of_injective _ _ fun _ _ => duplicateUrl.inj, count_repeats]
    rfl
  | tooManyWeights weights urls =>
    simp only [ConfigProblem.kind, listed, occurrences, defects]
    by_cases same : weights = (config.weights.getD []).length ∧ urls = config.urls.length
    · obtain ⟨rfl, rfl⟩ := same
      split <;> simp
    · rw [if_neg same]
      refine List.count_eq_zero.mpr fun member => same ?_
      obtain ⟨_, single⟩ := List.mem_ite_nil_right.mp member
      exact tooManyWeights.inj (List.mem_singleton.mp single)
  | zeroWeight url =>
    have told (pair : Url × UInt32) :
        weightProblem? pair.1 pair.2 = some (zeroWeight url) ↔ pair = (url, 0) ∧ True := by
      rw [weightProblem?_eq_zeroWeight_iff, and_true, Prod.ext_iff]
    exact (count_filterMap_of_iff told config.weighed).trans (if_pos trivial)
  | weightTooLarge url weight limit =>
    refine count_filterMap_of_iff (fun pair => ?_) config.weighed
    rw [Prod.ext_iff]
    exact weightProblem?_eq_weightTooLarge_iff
  | invalidStatus code =>
    rw [ConfigProblem.kind, listed, occurrences,
      List.count_map_of_injective _ _ fun _ _ => invalidStatus.inj]
    split
    · next inside =>
      refine List.count_eq_zero.mpr fun member => ?_
      have outside := (List.mem_filter.mp member).2
      simp [isStatus_iff.mpr inside] at outside
    · next outside => exact List.count_filter (by simpa using mt isStatus_iff.mp outside)

theorem countP_problems (config : Config) (kind : Kind) :
    (problems fault config).countP (·.kind = kind) = defects fault config.balancing kind := by
  rw [List.countP_eq_length_filter, filter_problems, length_listed]

theorem count_problems (config : Config) (problem : ConfigProblem) :
    (problems fault config).count problem = occurrences fault config.balancing problem := by
  rw [← count_listed, ← filter_problems, List.count_filter (by simp)]

theorem problems_eq_nil_iff (config : Config) :
    problems fault config = [] ↔ ∀ kind, defects fault config.balancing kind = 0 := by
  rw [eq_nil_iff_countP_kind]
  exact forall_congr' fun kind => by rw [countP_problems]

variable {fault} in
theorem distinctCount_of_accepted {config : Config} (accepted : problems fault config = []) :
    Weight.distinctCount config.balancing.urls = config.balancing.urls.length := by
  have none : config.balancing.urls.length - Weight.distinctCount config.balancing.urls = 0 :=
    (problems_eq_nil_iff fault config).mp accepted .duplicateUrl
  have total := length_repeats_nil config.balancing.urls
  omega

/-- The problems of a configuration, counted by kind and one by one, are those of its
parts, so that none depends on the others. A configuration is accepted if there are
none of any kind, and is otherwise refused with all of them. The URLs of an accepted
one are distinct, so that two or more of them are balanced, whatever the algorithm. -/
theorem problems_counted (config : Config) :
    let found := problems fault config
    (∀ kind, found.countP (·.kind = kind) = defects fault config.balancing kind) ∧
      (∀ problem, found.count problem = occurrences fault config.balancing problem) ∧
      (config.accept fault = .ok config ↔ ∀ kind, defects fault config.balancing kind = 0) ∧
      (config.accept fault = .error (.validation found) ↔
        ∃ kind, defects fault config.balancing kind ≠ 0) ∧
      (config.accept fault = .ok config →
        let urls := config.balancing.urls
        Weight.distinctCount urls = urls.length ∧
          (2 ≤ urls.length → ∀ algorithm weights failover,
            (Balancer.create algorithm urls weights failover).strategy =
              some (.ofAlgorithm (algorithm.getD .roundRobin)))) := by
  intro found
  have accepted : config.accept fault = .ok config ↔ problems fault config = [] := by
    rw [Config.accept_eq_ok_iff, and_iff_left rfl]
  refine ⟨countP_problems fault config, count_problems fault config,
    accepted.trans (problems_eq_nil_iff fault config), ?_, fun ok => ?_⟩
  · rw [Config.accept_eq_error_iff, and_iff_left rfl, ne_eq, problems_eq_nil_iff, not_forall]
  · have distinct := distinctCount_of_accepted (accepted.mp ok)
    refine ⟨distinct, fun several algorithm weights failover => ?_⟩
    exact Balancer.strategy_create algorithm weights failover (distinct ▸ several)

theorem problems_counted_mixed :
    let fault (url : String) := if url = "a" then some "relative URL without a base" else none
    let refused : Config := { balancing :=
      { active := true, urls := ["http://a", "a", "http://a", "a"],
        weights := some [1, 0, 1001, 1, 1],
        failover := some
          { active := true, timeoutMillis := 0, failStatus := [42], retryStatus := [429, 700] } } }
    let accepted : Config := { balancing :=
      { active := true, urls := ["http://a", "http://b"], weights := some [1000] } }
    (problems fault refused).countP (·.kind = .invalidUrl) = 2 ∧
      (problems fault refused).countP (·.kind = .duplicateUrl) = 2 ∧
      (problems fault refused).countP (·.kind = .weightOutOfBounds) = 2 ∧
      (problems fault refused).countP (·.kind = .invalidStatus) = 2 ∧
      (problems fault refused).count (duplicateUrl "a") = 1 ∧
      refused.accept fault = .error (.validation (problems fault refused)) ∧
      accepted.accept fault = .ok accepted ∧ 2 ≤ accepted.balancing.urls.length ∧
      Weight.distinctCount accepted.balancing.urls = 2 ∧
      (Balancer.create none accepted.balancing.urls none false).strategy =
        some (.roundRobin 0) := by
  intro fault refused accepted
  obtain ⟨counted, each, _, complete, _⟩ := problems_counted fault refused
  have ok : accepted.accept fault = .ok accepted :=
    (Config.accept_eq_ok_iff ..).mpr ⟨by decide, rfl⟩
  obtain ⟨_, _, _, _, balanced⟩ := problems_counted fault accepted
  obtain ⟨distinct, strategy⟩ := balanced ok
  exact ⟨(counted _).trans (by decide), (counted _).trans (by decide),
    (counted _).trans (by decide), (counted _).trans (by decide), (each _).trans (by decide),
    complete.mpr ⟨.zeroTimeout, by decide⟩, ok, by decide, distinct,
    strategy (by decide) none none false⟩

end Validation

end Balance
