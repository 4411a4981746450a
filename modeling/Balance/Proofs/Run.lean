import Balance.Operation

/-!
Runs of calls. A moment is one call with the state it found and with a clock
and random numbers of its own, so that a run can read any instants and draw
any numbers. In a run each moment finds what the one before left. What every
moment keeps is kept by the run, and a run can be cut at any moment. A relation
of the state found, the events and the state left that composes is put together
for an operation from its parts, and for a run from its moments.
-/

namespace Balance

def Clock.shows (clock : Clock) : List Instant := clock.scripted ++ [clock.now]

theorem Clock.read_mem_shows (clock : Clock) : clock.read.1 ∈ clock.shows := by
  obtain ⟨now, _ | ⟨reading, rest⟩⟩ := clock <;> simp [shows]

theorem Clock.shows_read_subset (clock : Clock) : clock.read.2.shows ⊆ clock.shows := by
  obtain ⟨now, _ | ⟨reading, rest⟩⟩ := clock <;> simp [shows]

inductive Clock.LeadsTo (clock : Clock) : Clock → Prop
  | same : clock.LeadsTo clock
  | read {later : Clock} (leads : clock.LeadsTo later) : clock.LeadsTo later.read.2

theorem Clock.LeadsTo.trans {first second third : Clock} (leads : first.LeadsTo second)
    (onward : second.LeadsTo third) : first.LeadsTo third := by
  induction onward with
  | same => exact leads
  | read _ ih => exact ih.read

theorem Clock.LeadsTo.keeps {P : Clock → Prop} {clock later : Clock} (leads : clock.LeadsTo later)
    (step : ∀ {clock}, P clock → P clock.read.2) (first : P clock) : P later := by
  induction leads with
  | same => exact first
  | read _ ih => exact step ih

theorem Clock.LeadsTo.shows_subset {clock later : Clock} (leads : clock.LeadsTo later) :
    later.shows ⊆ clock.shows := by
  induction leads with
  | same => exact List.Subset.refl _
  | read _ ih => exact List.Subset.trans (Clock.shows_read_subset _) ih

def Ambient.standing (now : Instant) : Ambient := ⟨⟨now, []⟩, ⟨fun _ => 0, 0⟩⟩

/-- One call: what it found, and what it could read. For any readings of a call
there is a clock that shows these and no others. -/
structure Moment {σ κ α : Type} (perform : κ → Operation σ α) where
  found : σ
  call : κ
  ambient : Ambient

namespace Moment

variable {σ κ α : Type} {perform : κ → Operation σ α}

def step (moment : Moment perform) : Step σ α :=
  perform moment.call moment.found moment.ambient

def answer (moment : Moment perform) : α := moment.step.answer

def left (moment : Moment perform) : σ := moment.step.state

end Moment

/-- Every instant that the clocks of the moments can show, in their order. -/
def shown {σ κ α : Type} {perform : κ → Operation σ α} (moments : List (Moment perform)) :
    List Instant :=
  moments.flatMap (·.ambient.clock.shows)

def Run {σ κ α : Type} (perform : κ → Operation σ α) : σ → List (Moment perform) → σ → Prop
  | start, [], finish => start = finish
  | start, moment :: rest, finish => moment.found = start ∧ Run perform moment.left rest finish

def history {σ κ α : Type} (perform : κ → Operation σ α) :
    σ → List (κ × Ambient) → List (Moment perform)
  | _, [] => []
  | start, (call, ambient) :: rest =>
    ⟨start, call, ambient⟩ :: history perform (perform call start ambient).state rest

def recorded {σ κ α : Type} {perform : κ → Operation σ α} (moments : List (Moment perform)) :
    List Event :=
  moments.flatMap (·.step.events)

namespace Operation

variable {σ τ α β : Type} {R : σ → List Event → σ → Prop}

/-- A relation of the state found, the events and the state left that holds of
two steps in a row if it holds of each. -/
structure Composes (R : σ → List Event → σ → Prop) : Prop where
  nil : ∀ state, R state [] state
  append : ∀ {first middle last earlier later}, R first earlier middle → R middle later last →
    R first (earlier ++ later) last

def Obeys (R : σ → List Event → σ → Prop) (operation : Operation σ α) : Prop :=
  ∀ state ambient, R state (operation state ambient).events (operation state ambient).state

/-- A property of the state that holds behind the operation if it held before,
whatever is read. -/
def Keeps (P : σ → Prop) (operation : Operation σ α) : Prop :=
  ∀ state ambient, P state → P (operation state ambient).state

/-- A property of operations that whatever is put together from them inherits. -/
structure Closed (P : ∀ α : Type, Operation σ α → Prop) : Prop where
  pure : ∀ {α : Type} (answer : α), P α (Pure.pure answer)
  bind : ∀ {α β : Type} {first : Operation σ α} {next : α → Operation σ β},
    P α first → (∀ answer, P β (next answer)) → P β (first >>= next)

theorem Closed.map {P : ∀ α : Type, Operation σ α → Prop} (closed : Closed P)
    {operation : Operation σ α} (holds : P α operation) (f : α → β) : P β (f <$> operation) := by
  rw [map_eq_pure_bind]
  exact closed.bind holds fun answer => closed.pure (f answer)

namespace Composes

theorem keeps (P : σ → Prop) : Composes fun (found : σ) (_ : List Event) left => P found → P left where
  nil _ := id
  append first second := second ∘ first

theorem comap {L : τ → List Event → τ → Prop} (composes : Composes L) (view : σ → τ) :
    Composes fun found events left => L (view found) events (view left) where
  nil _ := composes.nil _
  append := composes.append

end Composes

namespace Obeys

theorem pure (composes : Composes R) (answer : α) :
    Obeys R (Pure.pure answer : Operation σ α) := fun state _ => composes.nil state

theorem state (composes : Composes R) : Obeys R Operation.state :=
  fun state _ => composes.nil state

theorem report {event : Event} (silent : ∀ state, R state [event] state) :
    Obeys R (Operation.report event) := fun state _ => silent state

theorem bind (composes : Composes R) {first : Operation σ α} {next : α → Operation σ β}
    (obeys : Obeys R first) (rest : ∀ answer, Obeys R (next answer)) :
    Obeys R (first >>= next) := by
  intro state ambient
  rw [Operation.bind_apply]
  exact composes.append (obeys state ambient) (rest _ _ _)

theorem map {operation : Operation σ α} (obeys : Obeys R operation) (f : α → β) :
    Obeys R (f <$> operation) := by
  intro state ambient
  rw [Operation.map_apply]
  exact obeys state ambient

theorem of_map {operation : Operation σ α} {f : α → β} (obeys : Obeys R (f <$> operation)) :
    Obeys R operation := by
  intro state ambient
  have mapped := obeys state ambient
  rwa [Operation.map_apply] at mapped

end Obeys

theorem Composes.closed (composes : Composes R) :
    Closed fun α (operation : Operation σ α) => Obeys R operation where
  pure := .pure composes
  bind := .bind composes

end Operation

section Runs

variable {σ κ α : Type} {perform : κ → Operation σ α}
variable {start finish : σ} {moments earlier later : List (Moment perform)}

theorem le_now_of_shown {moment other : Moment perform}
    (ordered : (shown (earlier ++ moment :: later)).Pairwise (· ≤ ·)) (member : other ∈ earlier) :
    ∀ reading ∈ other.ambient.clock.shows, reading ≤ moment.ambient.clock.now := by
  intro reading shows
  rw [shown, List.flatMap_append] at ordered
  refine (List.pairwise_append.mp ordered).2.2 reading ?_ _ ?_
  · exact List.mem_flatMap.mpr ⟨other, member, shows⟩
  · simp [Clock.shows]

namespace Run

theorem append_iff :
    Run perform start (earlier ++ later) finish ↔
      ∃ middle, Run perform start earlier middle ∧ Run perform middle later finish := by
  induction earlier generalizing start with
  | nil => simp [Run]
  | cons moment rest ih => simp [Run, ih, and_assoc]

theorem split_iff {moment : Moment perform} :
    Run perform start (earlier ++ moment :: later) finish ↔
      Run perform start earlier moment.found ∧ Run perform moment.left later finish := by
  rw [append_iff]
  constructor
  · rintro ⟨middle, first, rfl, rest⟩
    exact ⟨first, rest⟩
  · rintro ⟨first, rest⟩
    exact ⟨moment.found, first, rfl, rest⟩

theorem keeps {P : σ → Prop} (run : Run perform start moments finish)
    (step : ∀ moment ∈ moments, P moment.found → P moment.left) (first : P start) :
    P finish := by
  induction moments generalizing start with
  | nil => exact run ▸ first
  | cons moment rest ih =>
    obtain ⟨found, run⟩ := run
    have left : P moment.left := step moment (by simp) (found ▸ first)
    exact ih run (fun other member => step other (by simp [member])) left

theorem found {P : σ → Prop} (run : Run perform start moments finish)
    (step : ∀ moment ∈ moments, P moment.found → P moment.left) (first : P start) :
    ∀ moment ∈ moments, P moment.found := by
  intro moment member
  obtain ⟨earlier, later, rfl⟩ := List.append_of_mem member
  obtain ⟨run, _⟩ := split_iff.mp run
  exact run.keeps (fun other member => step other (by simp [member])) first

theorem map {κ' α' : Type} {other : κ' → Operation σ α'} (view : Moment perform → Moment other)
    (run : Run perform start moments finish)
    (same : ∀ moment ∈ moments,
      (view moment).found = moment.found ∧ (view moment).left = moment.left) :
    Run other start (moments.map view) finish := by
  induction moments generalizing start with
  | nil => exact run
  | cons moment rest ih =>
    obtain ⟨rfl, run⟩ := run
    obtain ⟨found, left⟩ := same moment (by simp)
    exact ⟨found, left ▸ ih run fun other member => same other (by simp [member])⟩

theorem of_history {calls : List (κ × Ambient)}
    (left : calls.foldl (fun state call => (perform call.1 state call.2).state) start = finish) :
    Run perform start (history perform start calls) finish := by
  induction calls generalizing start with
  | nil => exact left
  | cons call rest ih => exact ⟨rfl, ih left⟩

theorem filter (keep : Moment perform → Bool) (run : Run perform start moments finish)
    (idle : ∀ moment ∈ moments, keep moment = false → moment.left = moment.found) :
    Run perform start (moments.filter keep) finish := by
  induction moments generalizing start with
  | nil => exact run
  | cons moment rest ih =>
    obtain ⟨rfl, run⟩ := run
    have onward := ih run fun other member => idle other (by simp [member])
    cases kept : keep moment with
    | true =>
      rw [List.filter_cons_of_pos kept]
      exact ⟨rfl, onward⟩
    | false =>
      rw [List.filter_cons_of_neg (by simp [kept]), ← idle moment (by simp) kept]
      exact onward

theorem obeys {R : σ → List Event → σ → Prop} (composes : Operation.Composes R)
    (run : Run perform start moments finish)
    (step : ∀ moment ∈ moments, R moment.found moment.step.events moment.left) :
    R start (recorded moments) finish := by
  induction moments generalizing start with
  | nil => exact run ▸ composes.nil start
  | cons moment rest ih =>
    obtain ⟨rfl, run⟩ := run
    have first : R moment.found moment.step.events moment.left := step moment (by simp)
    exact composes.append first (ih run fun other member => step other (by simp [member]))

theorem view_eq_foldl {τ : Type} (view : σ → τ) {next : τ → Moment perform → τ}
    (run : Run perform start moments finish)
    (step : ∀ moment ∈ moments, view moment.left = next (view moment.found) moment) :
    view finish = moments.foldl next (view start) := by
  induction moments generalizing start with
  | nil => exact congrArg view (Eq.symm run)
  | cons moment rest ih =>
    obtain ⟨rfl, run⟩ := run
    rw [List.foldl_cons, ← step moment (by simp)]
    exact ih run fun other member => step other (by simp [member])

end Run

end Runs

end Balance
