import Balance.Balancer
import Balance.Proofs.Pool.Calls

/-!
What a selection does to the source of its candidates. It may pick and take
several times, but what it leaves behind is the work of a single take, that of
the URL it answers: every take before that one is withheld and changes nothing,
and reading the candidates never does. Nothing is read but what the clock shows.
-/

namespace Balance

namespace Pool

theorem candidates_leads (pool : Pool) (ambient : Ambient) :
    ambient.clock.LeadsTo (candidates pool ambient).ambient.clock := by
  have unread : ambient.clock.LeadsTo ambient.clock := .same
  by_cases flag : pool.degraded = true <;> by_cases clean : pool.isClean = true <;>
    simp [candidates, candidatesGuarded, Operation.bind_apply, flag, clean, unread, unread.read]

theorem take_leads (pool : Pool) (ambient : Ambient) (url : Url) :
    ambient.clock.LeadsTo (take url pool ambient).ambient.clock := by
  have spent : ambient.clock.LeadsTo ambient.clock.read.2 := .read .same
  rw [take_apply]
  split
  · exact .same
  · split
    · exact .same
    · cases pool.exclusion? url with
      | none => exact spent
      | some exclusion => by_cases expired : exclusion.hasExpired ambient.reading <;> simp [expired, spent]

end Pool

namespace Source

variable (source : Source) (ambient : Ambient)

theorem candidates_kept :
    (candidates source ambient).state = source ∧
      ambient.clock.LeadsTo (candidates source ambient).ambient.clock := by
  cases source with
  | fixed urls => exact ⟨rfl, .same⟩
  | failover pool =>
    simp [candidates, Operation.bind_apply, (Pool.candidates_apply pool ambient).2,
      Pool.candidates_leads]

theorem take_failover (pool : Pool) (url : Url) :
    take url (.failover pool) ambient =
      let done := Pool.take url pool ambient
      ⟨done.answer, .failover done.state, done.ambient, done.events⟩ := by
  simp [take, onPool, Operation.bind_apply]

theorem take_leads (url : Url) :
    ambient.clock.LeadsTo (take url source ambient).ambient.clock := by
  cases source with
  | fixed urls => exact .same
  | failover pool => simpa [take_failover] using Pool.take_leads pool ambient url

theorem state_of_withheld {url : Url} (withheld : (take url source ambient).answer = .withheld) :
    (take url source ambient).state = source := by
  cases source with
  | fixed urls => simp [take, onPool, Operation.bind_apply]
  | failover pool =>
    simp only [take_failover] at withheld ⊢
    rcases Pool.take_cases pool ambient url with ⟨_, same⟩ | ⟨_, _, _, canary, _⟩
    · rw [same]
    · rw [canary] at withheld
      contradiction

end Source

theorem Strategy.pick_kept (strategy : Strategy) (ambient : Ambient) (length : Nat)
    (client : Option String) :
    (pick length client strategy ambient).ambient.clock = ambient.clock ∧
      (pick length client strategy ambient).events = [] := by
  by_cases empty : length = 0
  · simp [pick, empty]
  · cases strategy with
    | roundRobin counter => simp [pick, Operation.bind_apply, empty]
    | random => simp [pick, pickRandom, Operation.bind_apply, Operation.roll, empty]
    | clientHash =>
      cases client <;> simp [pick, pickRandom, Operation.bind_apply, Operation.roll, empty]

namespace Balancer

variable (balancer : Balancer) (ambient : Ambient)

theorem onSource_apply {α : Type} (operation : Operation Source α) :
    onSource operation balancer ambient =
      let done := operation balancer.source ambient
      ⟨done.answer, { balancer with source := done.state }, done.ambient, done.events⟩ := by
  simp [onSource, Operation.bind_apply]

theorem choose_kept (urls : List Url) (client : Option String) :
    (choose urls client balancer ambient).state.source = balancer.source ∧
      (choose urls client balancer ambient).ambient.clock = ambient.clock := by
  cases found : balancer.strategy with
  | none => simp [choose, pickSlot, Operation.bind_apply, found]
  | some strategy =>
    simpa [choose, pickSlot, Operation.bind_apply, found] using
      (strategy.pick_kept ambient urls.length client).1

/-- What choosing leaves behind: the same source where nothing is chosen, and
else the work of one take of the chosen URL, which is the last to read the clock. -/
structure Chooses (chosen : Option Url) (left : Balancer) (spent : Ambient) : Prop where
  leads : ambient.clock.LeadsTo spent.clock
  source_of_none : chosen = none → left.source = balancer.source
  source_of_some : ∀ url, chosen = some url → ∃ reading : Ambient,
    ambient.clock.LeadsTo reading.clock ∧
      (Source.take url balancer.source reading).answer ≠ .withheld ∧
      left.source = (Source.take url balancer.source reading).state ∧
      spent.clock = (Source.take url balancer.source reading).ambient.clock

variable {balancer ambient}

theorem Chooses.after {chosen : Option Url} {middle left : Balancer} {read spent : Ambient}
    (chooses : Chooses middle read chosen left spent) (same : middle.source = balancer.source)
    (leads : ambient.clock.LeadsTo read.clock) :
    Chooses balancer ambient chosen left spent where
  leads := leads.trans chooses.leads
  source_of_none absent := (chooses.source_of_none absent).trans same
  source_of_some url present := by
    obtain ⟨reading, onward, taken⟩ := chooses.source_of_some url present
    rw [same] at taken
    exact ⟨reading, leads.trans onward, taken⟩

theorem Chooses.nothing (balancer : Balancer) (ambient : Ambient) :
    Chooses balancer ambient none balancer ambient where
  leads := .same
  source_of_none _ := rfl
  source_of_some _ absent := by contradiction

theorem Chooses.taken {url : Url} (taken : (take url balancer ambient).answer ≠ .withheld) :
    Chooses balancer ambient (some url) (take url balancer ambient).state
      (take url balancer ambient).ambient where
  leads := by
    rw [take, onSource_apply]
    exact Source.take_leads balancer.source ambient url
  source_of_none absent := by contradiction
  source_of_some other same := by
    obtain rfl := Option.some.inj same
    rw [take, onSource_apply] at taken ⊢
    exact ⟨ambient, .same, taken, rfl, rfl⟩

theorem take_withheld {url : Url} (withheld : (take url balancer ambient).answer = .withheld) :
    (take url balancer ambient).state.source = balancer.source ∧
      ambient.clock.LeadsTo (take url balancer ambient).ambient.clock := by
  rw [take, onSource_apply] at withheld ⊢
  exact ⟨Source.state_of_withheld balancer.source ambient withheld,
    Source.take_leads balancer.source ambient url⟩

theorem candidates_kept (balancer : Balancer) (ambient : Ambient) :
    (candidates balancer ambient).state.source = balancer.source ∧
      ambient.clock.LeadsTo (candidates balancer ambient).ambient.clock := by
  rw [candidates, onSource_apply]
  exact Source.candidates_kept balancer.source ambient

theorem chooses_takeFirst (urls : List Url) (balancer : Balancer) (ambient : Ambient) :
    Chooses balancer ambient (takeFirst urls balancer ambient).answer
      (takeFirst urls balancer ambient).state (takeFirst urls balancer ambient).ambient := by
  induction urls generalizing balancer ambient with
  | nil => exact .nothing balancer ambient
  | cons url urls ih =>
    simp only [takeFirst, Operation.bind_apply]
    cases answer : (take url balancer ambient).answer with
    | withheld =>
      obtain ⟨same, leads⟩ := take_withheld answer
      exact (ih _ _).after same leads
    | active => exact .taken (by simp [answer])
    | canary => exact .taken (by simp [answer])

theorem chooses_tryPicks (client : Option String) (attempts : Nat) (urls : List Url)
    (balancer : Balancer) (ambient : Ambient) :
    Chooses balancer ambient (tryPicks client attempts urls balancer ambient).answer.join
      (tryPicks client attempts urls balancer ambient).state
      (tryPicks client attempts urls balancer ambient).ambient := by
  induction attempts generalizing urls balancer ambient with
  | zero => exact .nothing balancer ambient
  | succ attempts ih =>
    obtain ⟨same, clock⟩ := choose_kept balancer ambient urls client
    have leads : ambient.clock.LeadsTo (choose urls client balancer ambient).ambient.clock := by
      rw [clock]
      exact .same
    simp only [tryPicks, Operation.bind_apply]
    generalize choose urls client balancer ambient = picked at *
    cases picked.answer with
    | none => exact (Chooses.nothing picked.state picked.ambient).after same leads
    | some url =>
      refine Chooses.after ?_ same leads
      simp only [Operation.bind_apply]
      cases answer : (take url picked.state picked.ambient).answer with
      | withheld =>
        obtain ⟨kept, read⟩ := take_withheld answer
        generalize take url picked.state picked.ambient = taken at *
        obtain ⟨listed, reread⟩ := candidates_kept taken.state taken.ambient
        exact ((ih _ _ _).after listed reread).after kept read
      | active => exact .taken (by simp [answer])
      | canary => exact .taken (by simp [answer])

theorem chooses_chooseTaken (client : Option String) (balancer : Balancer) (ambient : Ambient) :
    Chooses balancer ambient (chooseTaken client balancer ambient).answer
      (chooseTaken client balancer ambient).state (chooseTaken client balancer ambient).ambient := by
  obtain ⟨same, leads⟩ := candidates_kept balancer ambient
  simp only [chooseTaken, Operation.bind_apply]
  generalize candidates balancer ambient = listed at *
  refine Chooses.after ?_ same leads
  have tries := chooses_tryPicks client (max listed.answer.length 1) listed.answer
    listed.state listed.ambient
  generalize tryPicks client (max listed.answer.length 1) listed.answer listed.state
    listed.ambient = tried at *
  cases answer : tried.answer with
  | none => simpa [answer] using tries
  | some chosen =>
    rw [answer] at tries
    cases chosen with
    | some url => exact tries
    | none =>
      obtain ⟨kept, read⟩ := candidates_kept tried.state tried.ambient
      exact ((chooses_takeFirst _ _ _).after kept read).after (tries.source_of_none rfl) tries.leads

theorem chooses_select (client : Option String) (balancer : Balancer) (ambient : Ambient) :
    Chooses balancer ambient (select client balancer ambient).answer.toOption
      (select client balancer ambient).state (select client balancer ambient).ambient := by
  have chooses := chooses_chooseTaken client balancer ambient
  simp only [select, Operation.bind_apply]
  generalize chooseTaken client balancer ambient = taken at *
  cases answer : taken.answer with
  | none => simpa [answer, Except.toOption] using chooses
  | some url => simpa [answer, Except.toOption, Operation.bind_apply] using chooses

end Balancer

end Balance
