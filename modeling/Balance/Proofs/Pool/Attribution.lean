import Balance.Proofs.Pool.Reports

/-!
Which configured URL a called one belongs to. URLs that begin one text begin
each other, so of several that the called text begins with one is strictly the
longest, by characters and by bytes. A pool answers that one. Neither the order
of the baseline nor the number of copies has a part in it, and a longer text
belongs to another URL only if that URL is longer as well.
-/

namespace Balance

namespace Url

/-- The URL is in the list, the called text begins with it, and it is longer than
every other URL of which this holds. -/
structure LongestPrefix (urls : List Url) (called url : Url) : Prop where
  listed : url ∈ urls
  covers : Url.covers url called = true
  longer : ∀ other ∈ urls, Url.covers other called = true → other ≠ url →
    other.length < url.length ∧ other.utf8ByteSize < url.utf8ByteSize

variable {called url other first second : Url} {urls others : List Url}

theorem covers_append (url suffix : Url) : covers url (url ++ suffix) = true := by
  rw [covers_iff, String.toList_append]
  exact List.prefix_append ..

theorem exists_append_of_covers (covering : covers url called = true) :
    ∃ suffix, called = url ++ suffix := by
  obtain ⟨rest, append⟩ := covers_iff.mp covering
  refine ⟨String.ofList rest, String.toList_inj.mp ?_⟩
  rw [String.toList_append, String.toList_ofList, append]

theorem shorter_of_covers (covering : covers first second = true) (different : first ≠ second) :
    first.length < second.length ∧ first.utf8ByteSize < second.utf8ByteSize := by
  obtain ⟨suffix, rfl⟩ := exists_append_of_covers covering
  have some_suffix : suffix ≠ "" := by
    rintro rfl
    exact different (String.append_empty).symm
  have characters : suffix.length ≠ 0 := mt String.length_eq_zero_iff.mp some_suffix
  have bytes : suffix.utf8ByteSize ≠ 0 := mt String.utf8ByteSize_eq_zero_iff.mp some_suffix
  rw [String.length_append, String.utf8ByteSize_append]
  omega

theorem covers_total (one : covers first called = true) (two : covers second called = true) :
    covers first second = true ∨ covers second first = true := by
  simp only [covers_iff] at one two ⊢
  exact List.prefix_or_prefix_of_prefix one two

namespace LongestPrefix

theorem unique (one : LongestPrefix urls called url) (two : LongestPrefix urls called other) :
    url = other := by
  by_contra different
  have shorter := (one.longer other two.listed two.covers (Ne.symm different)).1
  have longer := (two.longer url one.listed one.covers different).1
  omega

theorem congr (same : ∀ url, url ∈ urls ↔ url ∈ others) :
    LongestPrefix urls called url ↔ LongestPrefix others called url := by
  constructor
  · rintro ⟨listed, covers, longer⟩
    exact ⟨(same url).mp listed, covers, fun other => longer other ∘ (same other).mpr⟩
  · rintro ⟨listed, covers, longer⟩
    exact ⟨(same url).mpr listed, covers, fun other => longer other ∘ (same other).mp⟩

theorem iff_not_covers (listed : url ∈ urls) (covering : Url.covers url called = true) :
    LongestPrefix urls called url ↔
      ∀ other ∈ urls, url.length < other.length → Url.covers other called = false := by
  constructor
  · intro longest other member long
    by_contra covers
    have different : other ≠ url := by
      rintro rfl
      exact Nat.lt_irrefl _ long
    have shorter := (longest.longer other member (by simpa using covers) different).1
    omega
  · intro none
    refine ⟨listed, covering, fun other member covers different => ?_⟩
    rcases covers_total covers covering with begins | onward
    · exact shorter_of_covers begins different
    · have long := (shorter_of_covers onward (Ne.symm different)).1
      exact absurd covers (by simp [none other member long])

end LongestPrefix

end Url

namespace Pool

open Url (LongestPrefix)

variable {pool : Pool} {called url : Url}

theorem mem_filter_covers :
    url ∈ pool.configured.filter (Url.covers · called) ↔
      url ∈ pool.baseline ∧ Url.covers url called = true := by
  rw [List.mem_filter, mem_configured]

theorem resolve_eq_none_iff :
    pool.resolve called = none ↔ ∀ url ∈ pool.baseline, Url.covers url called = false := by
  rw [resolve, Url.longest_eq_none_iff, List.filter_eq_nil_iff]
  simp [mem_configured]

theorem longestPrefix_of_resolve (resolved : pool.resolve called = some url) :
    LongestPrefix pool.baseline called url := by
  obtain ⟨listed, covering⟩ := mem_filter_covers.mp (Url.longest_mem resolved)
  refine (LongestPrefix.iff_not_covers listed covering).mpr fun other member long => ?_
  by_contra covers
  have candidate := mem_filter_covers.mpr ⟨member, by simpa using covers⟩
  exact absurd (Url.length_le_of_longest resolved candidate) (Nat.not_le.mpr long)

theorem resolve_eq_some_iff :
    pool.resolve called = some url ↔ LongestPrefix pool.baseline called url := by
  constructor
  · exact longestPrefix_of_resolve
  · intro longest
    cases found : pool.resolve called with
    | none =>
      have uncovered := resolve_eq_none_iff.mp found url longest.listed
      exact absurd longest.covers (by simp [uncovered])
    | some other => rw [(longestPrefix_of_resolve found).unique longest]

theorem resolve_congr {other : Pool} (same : ∀ url, url ∈ pool.baseline ↔ url ∈ other.baseline)
    (called : Url) : pool.resolve called = other.resolve called := by
  refine Option.ext fun url => ?_
  rw [resolve_eq_some_iff, resolve_eq_some_iff]
  exact LongestPrefix.congr same

/-- A called URL is attributed if and only if it begins with a configured one, and
then to the longest of those, which is unique. Two pools with the same set of
configured URLs attribute alike. A configured URL is attributed to itself, and
what begins with it is too unless a longer configured URL comes in between. -/
theorem resolve_longest (pool : Pool) (called : Url) :
    ((∃ url, pool.resolve called = some url) ↔
        ∃ url ∈ pool.baseline, Url.covers url called = true) ∧
      (∀ url, pool.resolve called = some url ↔ LongestPrefix pool.baseline called url) ∧
      (∀ other : Pool, (∀ url, url ∈ pool.baseline ↔ url ∈ other.baseline) →
        pool.resolve called = other.resolve called) ∧
      (∀ url ∈ pool.baseline, pool.resolve url = some url) ∧
      ∀ url ∈ pool.baseline, ∀ suffix, pool.resolve (url ++ suffix) = some url ↔
        ¬ ∃ other ∈ pool.baseline, url.length < other.length ∧
          Url.covers other (url ++ suffix) = true := by
  refine ⟨?_, fun url => resolve_eq_some_iff, fun other same => resolve_congr same called,
    fun url member => resolve_self (mem_configured.mpr member), fun url member suffix => ?_⟩
  · rw [← Option.isSome_iff_exists, ← Option.ne_none_iff_isSome, ne_eq, resolve_eq_none_iff]
    simp
  · rw [resolve_eq_some_iff, LongestPrefix.iff_not_covers member (Url.covers_append url suffix)]
    simp

theorem resolve_longest_nested :
    let pool := ofBaseline ["http://h", "", "http://h/é", "http://h"]
    let other := ofBaseline ["http://h/é", "http://h/é", "http://h", ""]
    pool.resolve "http://h/é/x" = some "http://h/é" ∧
      pool.resolve "http://h/é/x" = other.resolve "http://h/é/x" ∧
      pool.resolve "http://h" = some "http://h" ∧
      pool.resolve ("http://h" ++ "/é/x") ≠ some "http://h" := by
  intro pool other
  obtain ⟨_, longest, same, itself, extended⟩ := resolve_longest pool "http://h/é/x"
  have nested : LongestPrefix pool.baseline "http://h/é/x" "http://h/é" :=
    ⟨by decide, by decide, by decide⟩
  have alike : ∀ url, url ∈ pool.baseline ↔ url ∈ other.baseline := by
    intro url
    simp only [pool, other, ofBaseline, List.mem_cons, List.not_mem_nil, or_false]
    tauto
  refine ⟨(longest _).mpr nested, same other alike, itself _ (by decide), ?_⟩
  rw [ne_eq, extended _ (by decide), not_not]
  exact ⟨"http://h/é", by decide, by decide, by decide⟩

end Pool

end Balance
