import Balance.Proofs.Balancer.Availability

/-!
Selections that need one pick. A selection picks again only when a take is
withheld, so over a source that keeps to its offers it comes down to one look
at the candidates, one pick of the strategy and one take. Where the pick goes
by a slot, the answer is the candidate in that slot.
-/

namespace Balance

def Source.Honours (source : Source) (ambient : Ambient) : Prop :=
  ∀ url ∈ (candidates source ambient).answer, ∀ later : Ambient,
    later.clock = (candidates source ambient).ambient.clock →
      (take url source later).answer ≠ .withheld

namespace Balancer

variable {balancer : Balancer} {ambient : Ambient} {client : Option String}

/-- A selection that picks once, and hands out its pick whatever the take answers. -/
def selectOnce (client : Option String) : Operation Balancer (Except BalancerError Url) := do
  let urls ← candidates
  match ← choose urls client with
  | none => return .error .noUrlAvailable
  | some url =>
    let _ ← take url
    Operation.report (.selected url)
    return .ok url

theorem candidates_apply (balancer : Balancer) (ambient : Ambient) :
    candidates balancer ambient =
      let listed := Source.candidates balancer.source ambient
      ⟨listed.answer, balancer, listed.ambient, listed.events⟩ := by
  simp only [candidates, onSource_apply, (Source.candidates_kept balancer.source ambient).1]

theorem tryPicks_taken {urls : List Url} {url : Url} (client : Option String) (attempts : Nat)
    {choice : Step Balancer (Option Url)} (chosen : choose urls client balancer ambient = choice)
    (picked : choice.answer = some url)
    (taken : (take url choice.state choice.ambient).answer ≠ .withheld) :
    tryPicks client (attempts + 1) urls balancer ambient =
      let done := take url choice.state choice.ambient
      ⟨some (some url), done.state, done.ambient, choice.events ++ done.events⟩ := by
  simp only [tryPicks, Operation.bind_apply, chosen, picked]
  cases answer : (take url choice.state choice.ambient).answer with
  | withheld => exact absurd answer taken
  | active => simp
  | canary => simp

theorem select_eq_selectOnce (honours : balancer.source.Honours ambient)
    (offers : (candidates balancer ambient).answer ≠ []) (client : Option String) :
    select client balancer ambient = selectOnce client balancer ambient := by
  have listed := candidates_apply balancer ambient
  rw [listed] at offers
  unfold Source.Honours at honours
  generalize Source.candidates balancer.source ambient = offered at *
  obtain ⟨url, member, picked⟩ := choose_answer balancer offered.ambient offered.answer client offers
  obtain ⟨same, clock⟩ := choose_kept balancer offered.ambient offered.answer client
  cases chosen : choose offered.answer client balancer offered.ambient with
  | mk answer state spent events =>
  rw [chosen] at picked same clock
  obtain rfl : answer = some url := picked
  have taken : (take url state spent).answer ≠ .withheld := by
    rw [take_answer, same]
    exact honours url member spent clock
  obtain ⟨attempts, some_attempt⟩ : ∃ attempts, max offered.answer.length 1 = attempts + 1 :=
    ⟨max offered.answer.length 1 - 1, by omega⟩
  have tried := tryPicks_taken client attempts chosen rfl taken
  simp [select, chooseTaken, selectOnce, Operation.bind_apply, listed, some_attempt, chosen, tried]

/-- A pick goes by the slot that the length gives, and reads nothing. -/
def PicksBy (balancer : Balancer) (client : Option String) (slot : Nat → Nat)
    (next : Option Strategy) : Prop :=
  ∀ urls ambient, urls ≠ [] → slot urls.length < urls.length ∧
    choose urls client balancer ambient =
      ⟨urls[slot urls.length]?, { balancer with strategy := next }, ambient, []⟩

theorem select_of_honours (honours : balancer.source.Honours ambient)
    (offers : (candidates balancer ambient).answer ≠ []) {slot : Nat → Nat}
    {next : Option Strategy} (picks : balancer.PicksBy client slot next) :
    ∃ url, (candidates balancer ambient).answer[slot (candidates balancer ambient).answer.length]? =
        some url ∧
      let taken := Source.take url balancer.source (Source.candidates balancer.source ambient).ambient
      (select client balancer ambient).answer = .ok url ∧
      (select client balancer ambient).state =
        { balancer with source := taken.state, strategy := next } := by
  rw [select_eq_selectOnce honours offers]
  have listed := candidates_apply balancer ambient
  rw [listed] at offers ⊢
  generalize Source.candidates balancer.source ambient = offered at *
  obtain ⟨below, chosen⟩ := picks offered.answer offered.ambient offers
  have found := List.getElem?_eq_getElem below
  refine ⟨_, found, ?_⟩
  simp [selectOnce, Operation.bind_apply, listed, chosen, found, take, onSource_apply]

end Balancer

end Balance
