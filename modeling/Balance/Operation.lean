import Balance.Draws
import Balance.Event

/-!
An operation on a state reads the clock and the random numbers, and reports
events. It is written as a `do` block; a run of it is a `Step` that holds the
answer, what became of the state and of the two sources, and the events in
their order. The monad laws hold, and `bind_apply` opens a block.
-/

namespace Balance

structure Ambient where
  clock : Clock
  draws : Draws

def Ambient.reading (ambient : Ambient) : Instant := ambient.clock.read.1

structure Step (σ α : Type) where
  answer : α
  state : σ
  ambient : Ambient
  events : List Event

def Operation (σ α : Type) : Type := σ → Ambient → Step σ α

namespace Operation

variable {σ τ α β : Type}

def pure (answer : α) : Operation σ α := fun state ambient => ⟨answer, state, ambient, []⟩

def bind (first : Operation σ α) (next : α → Operation σ β) : Operation σ β :=
  fun state ambient =>
    let done := first state ambient
    let rest := next done.answer done.state done.ambient
    ⟨rest.answer, rest.state, rest.ambient, done.events ++ rest.events⟩

instance : Monad (Operation σ) where
  pure := Operation.pure
  bind := Operation.bind

@[simp] theorem pure_apply (answer : α) (state : σ) (ambient : Ambient) :
    (Pure.pure answer : Operation σ α) state ambient = ⟨answer, state, ambient, []⟩ := rfl

theorem bind_apply (first : Operation σ α) (next : α → Operation σ β)
    (state : σ) (ambient : Ambient) :
    (first >>= next) state ambient =
      let done := first state ambient
      let rest := next done.answer done.state done.ambient
      ⟨rest.answer, rest.state, rest.ambient, done.events ++ rest.events⟩ := rfl

theorem pure_bind (answer : α) (next : α → Operation σ β) :
    (Pure.pure answer >>= next) = next answer := rfl

theorem bind_pure (operation : Operation σ α) : (operation >>= Pure.pure) = operation := by
  funext state ambient
  simp [bind_apply]

theorem bind_assoc {γ : Type} (first : Operation σ α) (second : α → Operation σ β)
    (third : β → Operation σ γ) :
    (first >>= second) >>= third = first >>= fun answer => second answer >>= third := by
  funext state ambient
  simp [bind_apply, List.append_assoc]

instance : LawfulMonad (Operation σ) :=
  LawfulMonad.mk' (Operation σ) bind_pure pure_bind bind_assoc

def state : Operation σ σ := fun state ambient => ⟨state, state, ambient, []⟩

def put (state : σ) : Operation σ Unit := fun _ ambient => ⟨(), state, ambient, []⟩

def report (event : Event) : Operation σ Unit :=
  fun state ambient => ⟨(), state, ambient, [event]⟩

def reportAll (events : List Event) : Operation σ Unit :=
  fun state ambient => ⟨(), state, ambient, events⟩

def now : Operation σ Instant := fun state ambient =>
  let (reading, clock) := ambient.clock.read
  ⟨reading, state, { ambient with clock }, []⟩

def roll (sides : Nat) : Operation σ Nat := fun state ambient =>
  let (number, draws) := ambient.draws.roll sides
  ⟨number, state, { ambient with draws }, []⟩

/-- Run an operation on a part of the state, written back by `embed`. -/
def on (part : τ) (embed : τ → σ) (operation : Operation τ α) : Operation σ α :=
  fun _ ambient =>
    let done := operation part ambient
    ⟨done.answer, embed done.state, done.ambient, done.events⟩

def onFirst (operation : Operation σ α) : Operation (σ × τ) α :=
  fun (first, second) ambient =>
    let done := operation first ambient
    ⟨done.answer, (done.state, second), done.ambient, done.events⟩

@[simp] theorem state_apply (s : σ) (ambient : Ambient) :
    Operation.state s ambient = ⟨s, s, ambient, []⟩ := rfl

@[simp] theorem put_apply (new old : σ) (ambient : Ambient) :
    Operation.put new old ambient = ⟨(), new, ambient, []⟩ := rfl

@[simp] theorem report_apply (event : Event) (s : σ) (ambient : Ambient) :
    Operation.report event s ambient = ⟨(), s, ambient, [event]⟩ := rfl

@[simp] theorem reportAll_apply (events : List Event) (s : σ) (ambient : Ambient) :
    Operation.reportAll events s ambient = ⟨(), s, ambient, events⟩ := rfl

@[simp] theorem now_apply (s : σ) (ambient : Ambient) :
    Operation.now s ambient =
      ⟨ambient.reading, s, { ambient with clock := ambient.clock.read.2 }, []⟩ := rfl

@[simp] theorem ite_apply (p : Prop) [Decidable p] (first second : Operation σ α) (s : σ)
    (ambient : Ambient) :
    (if p then first else second) s ambient = if p then first s ambient else second s ambient := by
  split <;> rfl

@[simp] theorem on_apply (part : τ) (embed : τ → σ) (operation : Operation τ α) (s : σ)
    (ambient : Ambient) :
    Operation.on part embed operation s ambient =
      let done := operation part ambient
      ⟨done.answer, embed done.state, done.ambient, done.events⟩ := rfl

@[simp] theorem onFirst_apply (operation : Operation σ α) (s : σ × τ) (ambient : Ambient) :
    Operation.onFirst operation s ambient =
      let done := operation s.1 ambient
      ⟨done.answer, (done.state, s.2), done.ambient, done.events⟩ := rfl

@[simp] theorem map_apply (f : α → β) (operation : Operation σ α) (s : σ) (ambient : Ambient) :
    (f <$> operation) s ambient =
      let done := operation s ambient
      ⟨f done.answer, done.state, done.ambient, done.events⟩ := by
  simp [map_eq_pure_bind, bind_apply]

end Operation

end Balance
