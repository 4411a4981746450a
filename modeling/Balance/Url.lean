/-!
Candidate URLs are opaque texts here: selection compares them and looks for
one at the beginning of another, nothing else. A list of them may repeat a
URL, and `distinct` is the list of first occurrences. `covers` is the prefix
order, and `longest` picks the last of the longest URLs of a list.
-/

namespace Balance

abbrev Url := String

namespace Url

/-- A called URL belongs to `base` when its text begins with it. -/
def covers (base called : Url) : Bool :=
  base.toList.isPrefixOf called.toList

theorem covers_iff {base called : Url} :
    covers base called = true ↔ base.toList <+: called.toList := by
  simp [covers]

theorem covers_refl (url : Url) : covers url url = true :=
  covers_iff.mpr List.prefix_rfl

/-- Each URL once, in the order of first occurrences. -/
def distinct : List Url → List Url
  | [] => []
  | url :: urls => url :: (distinct urls).filter (· ≠ url)

@[simp] theorem mem_distinct {url : Url} {urls : List Url} :
    url ∈ distinct urls ↔ url ∈ urls := by
  induction urls with
  | nil => simp [distinct]
  | cons first urls ih => by_cases h : url = first <;> simp [distinct, ih, h]

theorem nodup_distinct (urls : List Url) : (distinct urls).Nodup := by
  induction urls with
  | nil => simp [distinct]
  | cons first urls ih =>
    refine List.nodup_cons.mpr ⟨by simp, ih.sublist List.filter_sublist⟩

/-- The last of the longest URLs. -/
def longest : List Url → Option Url
  | [] => none
  | url :: urls =>
    match longest urls with
    | none => some url
    | some other => if url.length ≤ other.length then some other else some url

theorem longest_mem {urls : List Url} {url : Url} (h : longest urls = some url) :
    url ∈ urls := by
  induction urls generalizing url with
  | nil => simp [longest] at h
  | cons first urls ih =>
    rw [longest] at h
    split at h
    · simp_all
    · rename_i other found
      split at h <;> simp_all

end Url

end Balance
