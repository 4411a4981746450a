import Balance.Proofs.Run

/-!
Two states that cannot be told apart. An operation respects a relation of states
if from related states it answers the same, leaves the same readings and random
numbers, and leaves related states. What is put together from such operations is
one, and runs of the same calls from related states get the same answers. Where
some calls leave a related state and nothing else, a run without them gets the
answers that it gets with them.
-/

namespace Balance

variable {σ τ κ α β : Type} {R : σ → σ → Prop}

/-- Two steps with one answer that leave related states. -/
structure Step.Alike (R : σ → σ → Prop) (first second : Step σ α) : Prop where
  answer : first.answer = second.answer
  ambient : first.ambient = second.ambient
  state : R first.state second.state

namespace Operation

def Respects (R : σ → σ → Prop) (operation : Operation σ α) : Prop :=
  ∀ first second, R first second → ∀ ambient,
    (operation first ambient).Alike R (operation second ambient)

def OnFirst (R : σ → σ → Prop) (one two : σ × τ) : Prop := R one.1 two.1 ∧ one.2 = two.2

/-- Calls made in turn, each at the clock and the random numbers that the one before left. -/
def inTurn (perform : κ → Operation σ α) : List κ → Operation σ (List (κ × α))
  | [] => return []
  | call :: rest => do
    let answer ← perform call
    return (call, answer) :: (← inTurn perform rest)

namespace Respects

theorem report (event : Event) : Respects R (Operation.report event) :=
  fun _ _ related _ => ⟨rfl, rfl, related⟩

theorem bind {first : Operation σ α} {next : α → Operation σ β} (respects : Respects R first)
    (rest : ∀ answer, Respects R (next answer)) : Respects R (first >>= next) := by
  intro one two related ambient
  have begun := respects one two related ambient
  have onward := rest (first one ambient).answer _ _ begun.state (first one ambient).ambient
  simp only [Operation.bind_apply, ← begun.answer, ← begun.ambient]
  exact ⟨onward.answer, onward.ambient, onward.state⟩

theorem closed : Closed fun α (operation : Operation σ α) => Respects R operation where
  pure _ := fun _ _ related _ => ⟨rfl, rfl, related⟩
  bind := bind

theorem map {operation : Operation σ α} (respects : Respects R operation) (f : α → β) :
    Respects R (f <$> operation) :=
  closed.map respects f

theorem reportAll (events : List Event) : Respects R (Operation.reportAll events) :=
  fun _ _ related _ => ⟨rfl, rfl, related⟩

theorem of_state {next : σ → Operation σ β} (rest : ∀ seen, Respects R (next seen))
    (same : ∀ one two, R one two → next one = next two) :
    Respects R (Operation.state >>= next) := by
  intro one two related ambient
  obtain ⟨answer, spent, left⟩ := rest one one two related ambient
  simp only [Operation.bind_apply, Operation.state_apply, ← same one two related]
  exact ⟨answer, spent, left⟩

theorem onFirst {operation : Operation σ α} (respects : Respects R operation) :
    Respects (OnFirst R) (Operation.onFirst operation : Operation (σ × τ) α) := by
  rintro ⟨one, second⟩ ⟨two, _⟩ ⟨related, rfl⟩ ambient
  obtain ⟨answer, spent, left⟩ := respects one two related ambient
  exact ⟨answer, spent, left, rfl⟩

theorem inTurn {perform : κ → Operation σ α} (respects : ∀ call, Respects R (perform call))
    (calls : List κ) : Respects R (Operation.inTurn perform calls) := by
  induction calls with
  | nil => exact closed.pure _
  | cons call rest ih =>
    exact bind (respects call) fun answer => bind ih fun answers => closed.pure _

end Respects

theorem inTurn_filter {perform : κ → Operation σ α} (deed : κ → Bool) (kind : Ambient → Prop)
    (trans : ∀ {one two three}, R one two → R two three → R one three)
    (respects : ∀ call, Respects R (perform call))
    (keeps : ∀ call state ambient, kind ambient → kind (perform call state ambient).ambient)
    (idle : ∀ call, deed call = false → ∀ state ambient, kind ambient →
      R (perform call state ambient).state state ∧ (perform call state ambient).ambient = ambient)
    {first second : σ} (related : R first second) {ambient : Ambient} (begins : kind ambient)
    (calls : List κ) :
    (inTurn perform calls first ambient).answer.filter (fun entry => deed entry.1) =
      (inTurn perform (calls.filter deed) second ambient).answer := by
  induction calls generalizing first second ambient with
  | nil => rfl
  | cons call rest ih =>
    cases does : deed call with
    | true =>
      obtain ⟨answer, spent, left⟩ := respects call first second related ambient
      have onward := ih left (keeps call first ambient begins)
      rw [List.filter_cons_of_pos does]
      simp only [inTurn, bind_apply, pure_apply]
      rw [List.filter_cons_of_pos (by exact does), onward, answer, spent]
    | false =>
      obtain ⟨left, same⟩ := idle call does first ambient begins
      rw [List.filter_cons_of_neg (by simp [does])]
      simp only [inTurn, bind_apply, pure_apply]
      rw [List.filter_cons_of_neg (by simp [does]), same]
      exact ih (trans left related) begins

end Operation

def Moment.outcome {perform : κ → Operation σ α} (moment : Moment perform) : α × Ambient :=
  (moment.answer, moment.step.ambient)

theorem outcomes_eq {perform : κ → Operation σ α}
    (respects : ∀ call, Operation.Respects R (perform call)) {first second : σ}
    (related : R first second) (calls : List (κ × Ambient)) :
    (history perform first calls).map Moment.outcome =
      (history perform second calls).map Moment.outcome := by
  induction calls generalizing first second with
  | nil => rfl
  | cons entry rest ih =>
    obtain ⟨call, ambient⟩ := entry
    obtain ⟨answer, spent, left⟩ := respects call first second related ambient
    exact List.cons_eq_cons.mpr ⟨Prod.ext answer spent, ih left⟩

end Balance
