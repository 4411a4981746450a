import Balance.Proofs.Config.Problems

/-!
What an accepted configuration promises. Validation lists every problem, so a
configuration without problems passes each of the checks. Here: balancing has
URLs, none of them is configured twice, and every weight has a URL and is within
its limits.
-/

namespace Balance.Validation

variable {fault : String → Option String} {config : Config}

theorem nodup_of_accepted (accepted : problems fault config = []) :
    config.balancing.urls.Nodup := by
  refine List.nodup_iff_count.mpr fun url => ?_
  have none := count_problems fault config (.duplicateUrl url)
  rw [accepted, List.count_nil, occurrences] at none
  omega

theorem urls_ne_nil_of_accepted (accepted : problems fault config = [])
    (active : config.balancing.active = true) : config.balancing.urls ≠ [] := by
  have none := (problems_eq_nil_iff fault config).mp accepted .noUrls
  intro empty
  simp [defects, active, empty] at none

theorem mem_weighed_of_accepted (accepted : problems fault config = []) {weight : UInt32}
    (member : weight ∈ config.balancing.weights.getD []) :
    ∃ url, (url, weight) ∈ config.balancing.weighed := by
  have none := (problems_eq_nil_iff fault config).mp accepted .tooManyWeights
  have enough : (config.balancing.weights.getD []).length ≤ config.balancing.urls.length := by
    refine Nat.le_of_not_lt fun many => ?_
    simp [defects, many] at none
  rw [← List.map_snd_zip enough] at member
  obtain ⟨⟨url, _⟩, beside, rfl⟩ := List.mem_map.mp member
  exact ⟨url, beside⟩

theorem weights_of_accepted (accepted : problems fault config = []) :
    ∀ weight ∈ config.balancing.weights.getD [],
      0 < weight.toNat ∧ weight.toNat ≤ Weight.maxWeight.toNat := by
  intro weight member
  have none := (problems_eq_nil_iff fault config).mp accepted .weightOutOfBounds
  obtain ⟨url, beside⟩ := mem_weighed_of_accepted accepted member
  have within := List.countP_eq_zero.mp none _ beside
  rw [decide_eq_true_eq, not_not, UInt32.le_iff_toNat_le, UInt32.le_iff_toNat_le] at within
  exact within

end Balance.Validation
