import Balance.Url

/-!
How often each URL was counted. A tally lists its URLs in increasing order,
each once; `count_increment` says what counting one more URL does.
-/

namespace Balance

abbrev Tally := List (Url × Nat)

namespace Tally

def increment (url : Url) : Tally → Tally
  | [] => [(url, 1)]
  | entry :: entries =>
    if entry.1 = url then (url, entry.2 + 1) :: entries
    else if url < entry.1 then (url, 1) :: entry :: entries
    else entry :: increment url entries

/-- The number next to a URL, summed over the list. -/
def count (url : Url) : Tally → Nat
  | [] => 0
  | entry :: entries => (if entry.1 = url then entry.2 else 0) + count url entries

def total : Tally → Nat
  | [] => 0
  | entry :: entries => entry.2 + total entries

theorem count_increment (url counted : Url) (tally : Tally) :
    count url (increment counted tally) = count url tally + if url = counted then 1 else 0 := by
  induction tally with
  | nil =>
    by_cases h : counted = url
    · simp [increment, count, h]
    · simp [increment, count, h, Ne.symm h]
  | cons entry entries ih =>
    rw [increment]
    split
    · next h =>
      subst h
      by_cases h : entry.1 = url
      · simp [count, h]
        omega
      · simp [count, h, Ne.symm h]
    · split
      · by_cases h : counted = url
        · subst h
          simp [count]
          omega
        · simp [count, h, Ne.symm h]
      · simp only [count, ih]
        omega

theorem total_increment (url : Url) (tally : Tally) :
    (increment url tally).total = tally.total + 1 := by
  induction tally with
  | nil => rfl
  | cons entry entries ih =>
    rw [increment]
    split
    · simp [total]
      omega
    · split
      · simp [total]
        omega
      · simp only [total, ih]
        omega

theorem mem_increment {url other : Url} {tally : Tally} :
    other ∈ (increment url tally).map Prod.fst ↔ other = url ∨ other ∈ tally.map Prod.fst := by
  induction tally with
  | nil => simp [increment]
  | cons entry entries ih =>
    rw [increment]
    split
    · next same => simp [same]
    · split
      · simp
      · rw [List.map_cons, List.mem_cons, ih, List.map_cons, List.mem_cons]
        exact or_left_comm

end Tally

end Balance
