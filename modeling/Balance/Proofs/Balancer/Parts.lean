import Balance.Balancer
import Balance.Proofs.Run

/-!
A selection is put together from picks, takes and looks at the candidates. So a
property that is closed under putting together holds of every selection once it
holds of these, whatever the strategy is and however often the selection picks.
-/

namespace Balance.Balancer
open Operation (Closed)

/-- A closed property that holds of each part of a selection. -/
structure Parts (P : ∀ α : Type, Operation Balancer α → Prop) (client : Option String) : Prop
    extends Closed P where
  choose : ∀ urls, P _ (Balancer.choose urls client)
  take : ∀ url, P _ (Balancer.take url)
  candidates : P _ Balancer.candidates
  withheld : ∀ url, P _ (Operation.report (.withheld url))

namespace Parts

variable {P : ∀ α : Type, Operation Balancer α → Prop} {client : Option String}
variable (parts : Parts P client)
include parts

theorem tryPicks (attempts : Nat) (urls : List Url) :
    P _ (Balancer.tryPicks client attempts urls) := by
  induction attempts generalizing urls with
  | zero => exact parts.pure _
  | succ attempts ih =>
    refine parts.bind (parts.choose urls) fun picked => ?_
    cases picked with
    | none => exact parts.pure _
    | some url =>
      refine parts.bind (parts.take url) fun taken => ?_
      cases taken with
      | withheld => exact parts.bind (parts.withheld url) fun _ => parts.bind parts.candidates ih
      | active => exact parts.pure _
      | canary => exact parts.pure _

theorem takeFirst (urls : List Url) : P _ (Balancer.takeFirst urls) := by
  induction urls with
  | nil => exact parts.pure _
  | cons url urls ih =>
    refine parts.bind (parts.take url) fun taken => ?_
    cases taken with
    | withheld => exact ih
    | active => exact parts.pure _
    | canary => exact parts.pure _

theorem chooseTaken : P _ (Balancer.chooseTaken client) := by
  refine parts.bind parts.candidates fun urls => ?_
  refine parts.bind (parts.tryPicks (max urls.length 1) urls) fun chosen => ?_
  rcases chosen with _ | _ | url
  · exact parts.pure _
  · exact parts.bind parts.candidates parts.takeFirst
  · exact parts.pure _

theorem select (selected : ∀ url, P _ (Operation.report (.selected url))) :
    P _ (Balancer.select client) := by
  refine parts.bind parts.chooseTaken fun chosen => ?_
  cases chosen with
  | none => exact parts.pure _
  | some url => exact parts.bind (selected url) fun _ => parts.pure _

end Parts

end Balance.Balancer
