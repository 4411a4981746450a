import Balance.Proofs.Balancer.Calls
import Balance.Proofs.Balancer.Parts
import Balance.Proofs.Metrics

/-!
What a call on a balancer reports. A relation that composes holds of a selection
if it holds of its parts. In particular, what relates the events of a pool to its
change does so for the pool inside a balancer: a selection and a report add
nothing to it but events of other kinds.
-/

namespace Balance
open Operation (Composes Obeys)

namespace Balancer

variable {R : Balancer → List Event → Balancer → Prop} {client : Option String}

theorem choose_events (urls : List Url) (client : Option String) (balancer : Balancer)
    (ambient : Ambient) : (choose urls client balancer ambient).events = [] := by
  cases found : balancer.strategy with
  | none => simp [choose, pickSlot, Operation.bind_apply, found]
  | some strategy =>
    simpa [choose, pickSlot, Operation.bind_apply, found] using
      (strategy.pick_kept ambient urls.length client).2

/-- A relation that composes and that holds of each part of a selection. -/
structure Selects (R : Balancer → List Event → Balancer → Prop) (client : Option String) : Prop
    extends Composes R where
  choose : ∀ urls, Obeys R (Balancer.choose urls client)
  take : ∀ url, Obeys R (Balancer.take url)
  candidates : Obeys R Balancer.candidates
  withheld : ∀ url balancer, R balancer [.withheld url] balancer

namespace Selects

variable (selects : Selects R client)
include selects

theorem parts : Parts (fun _ operation => Obeys R operation) client where
  toClosed := selects.toComposes.closed
  choose := selects.choose
  take := selects.take
  candidates := selects.candidates
  withheld url := Obeys.report (selects.withheld url)

theorem chooseTaken : Obeys R (Balancer.chooseTaken client) := selects.parts.chooseTaken

theorem select (selected : ∀ url balancer, R balancer [.selected url] balancer) :
    Obeys R (Balancer.select client) :=
  selects.parts.select fun url => Obeys.report (selected url)

end Selects

end Balancer

namespace Pool

/-- A relation of a pool, if there is one, and of events. Events that are none of
a pool leave it alone. -/
structure Law (L : Option Pool → List Event → Option Pool → Prop) : Prop extends Composes L where
  silent : ∀ event, event.ofPool = false → ∀ pool?, L pool? [event] pool?

theorem Law.silent_all {L : Option Pool → List Event → Option Pool → Prop} (law : Law L)
    {events : List Event} (silent : ∀ event ∈ events, event.ofPool = false) (pool? : Option Pool) :
    L pool? events pool? := by
  induction events with
  | nil => exact law.nil pool?
  | cons event events ih =>
    obtain ⟨first, rest⟩ := List.forall_mem_cons.mp silent
    exact law.append (law.silent event first pool?) (ih rest)

def Tracked (R : Pool → List Event → Pool → Prop) : Option Pool → List Event → Option Pool → Prop
  | some pool, events, some next => R pool events next
  | none, _, none => True
  | _, _, _ => False

theorem tracked_law {R : Pool → List Event → Pool → Prop} (composes : Composes R)
    (silent : ∀ event, event.ofPool = false → ∀ pool, R pool [event] pool) : Law (Tracked R) where
  nil
    | none => trivial
    | some pool => composes.nil pool
  append {first middle last _ _} one two := by
    cases first <;> cases middle <;> cases last <;> try contradiction
    · trivial
    · exact composes.append one two
  silent event kind
    | none => trivial
    | some pool => silent event kind pool

end Pool

namespace Balancer

def Sees (L : Option Pool → List Event → Option Pool → Prop) (found : Balancer)
    (events : List Event) (left : Balancer) : Prop :=
  L found.source.pool? events left.source.pool?

section Seen

variable {L : Option Pool → List Event → Option Pool → Prop} {pool next : Pool}
variable {balancer found left : Balancer} {events : List Event}

theorem composes_sees (composes : Composes L) : Composes (Sees L) :=
  composes.comap fun balancer : Balancer => balancer.source.pool?

theorem sees_of_kept (composes : Composes L) (kept : left.source = found.source) :
    Sees L found [] left := by
  rw [Sees, kept]
  exact composes.nil _

theorem sees_of_failover (tracked : found.source = .failover pool)
    (kept : left.source = .failover next) (holds : L (some pool) events (some next)) :
    Sees L found events left := by
  rw [Sees, tracked, kept]
  exact holds

theorem take_fixed {urls : List Url} (fixed : balancer.source = .fixed urls) (url : Url)
    (ambient : Ambient) : take url balancer ambient = ⟨.active, balancer, ambient, []⟩ := by
  obtain ⟨source, strategy, algorithm⟩ := balancer
  obtain rfl : source = .fixed urls := fixed
  rfl

theorem take_failover (ambient : Ambient) (tracked : balancer.source = .failover pool) (url : Url) :
    take url balancer ambient =
      let done := Pool.take url pool ambient
      ⟨done.answer, { balancer with source := .failover done.state }, done.ambient,
        done.events⟩ := by
  simp [take, onSource_apply, tracked, Source.take_failover]

theorem candidates_events (balancer : Balancer) (ambient : Ambient) :
    (candidates balancer ambient).events = [] := by
  cases source : balancer.source with
  | fixed urls => simp [candidates, onSource_apply, Source.candidates, Operation.bind_apply, source]
  | failover pool =>
    rw [candidates_failover ambient source]
    exact Pool.candidates_events pool ambient

theorem selects_of_records (composes : Composes L)
    (withheld : ∀ url pool?, L pool? [.withheld url] pool?)
    (takes : ∀ {pool next : Pool} {url : Url} {events : List Event},
      Pool.Records pool (.take url) events next → L (some pool) events (some next))
    (client : Option String) : Selects (Sees L) client where
  toComposes := composes_sees composes
  choose urls balancer ambient := by
    rw [choose_events]
    exact sees_of_kept composes (choose_kept balancer ambient urls client).1
  take url balancer ambient := by
    cases source : balancer.source with
    | fixed urls =>
      rw [take_fixed source]
      exact sees_of_kept composes rfl
    | failover pool =>
      rw [take_failover ambient source]
      exact sees_of_failover source rfl (takes (Pool.records_take pool ambient url))
  candidates balancer ambient := by
    rw [candidates_events]
    exact sees_of_kept composes (candidates_kept balancer ambient).1
  withheld url balancer := withheld url balancer.source.pool?

theorem Call.select_or_reports (call : Call) :
    (∃ client, call = .select client) ∨ ∀ client, call ≠ .select client := by
  cases call with
  | select client => exact .inl ⟨client, rfl⟩
  | _ => exact .inr fun _ => Call.noConfusion

theorem records_of_report (tracked : balancer.source = .failover pool) {call : Call}
    (reports : ∀ client, call ≠ .select client) (ambient : Ambient) :
    ∃ pooled next, (call.perform balancer ambient).state.source = .failover next ∧
      Pool.Records pool pooled (call.perform balancer ambient).events next ∧
      ∀ url, pooled ≠ .take url := by
  cases call <;> rw [Call.perform, Operation.map_apply]
  case select client => exact absurd rfl (reports client)
  case fail called timeout =>
    rw [fail_failover ambient tracked]
    exact ⟨_, _, rfl, Pool.records_fail pool ambient called timeout, fun _ => Pool.Call.noConfusion⟩
  case confirm called =>
    rw [confirm_failover ambient tracked]
    exact ⟨_, _, rfl, Pool.records_confirm pool ambient called, fun _ => Pool.Call.noConfusion⟩
  case candidates =>
    rw [candidates_failover ambient tracked, Pool.candidates_events]
    refine ⟨.candidates, pool, ?_, .same _, fun _ => Pool.Call.noConfusion⟩
    exact congrArg Source.failover (Pool.candidates_apply pool ambient).2
  case snapshot =>
    rw [snapshot_failover ambient tracked]
    exact ⟨.snapshot, pool, rfl, .same _, fun _ => Pool.Call.noConfusion⟩

theorem report_fixed {urls : List Url} (fixed : balancer.source = .fixed urls) {call : Call}
    (reports : ∀ client, call ≠ .select client) (ambient : Ambient) :
    (call.perform balancer ambient).state = balancer ∧
      ∀ event ∈ (call.perform balancer ambient).events, event.ofPool = false := by
  obtain ⟨source, strategy, algorithm⟩ := balancer
  obtain rfl : source = .fixed urls := fixed
  cases call with
  | select client => exact absurd rfl (reports client)
  | fail called timeout => exact ⟨rfl, List.forall_mem_singleton.mpr rfl⟩
  | confirm called => exact ⟨rfl, List.forall_mem_singleton.mpr rfl⟩
  | candidates => exact ⟨rfl, List.forall_mem_nil _⟩
  | snapshot => exact ⟨rfl, List.forall_mem_nil _⟩

theorem obeys_perform (law : Pool.Law L)
    (records : ∀ {pool next : Pool} {call : Pool.Call} {events : List Event},
      Pool.Records pool call events next → L (some pool) events (some next)) (call : Call) :
    Obeys (Sees L) call.perform := by
  intro balancer ambient
  rcases call.select_or_reports with ⟨client, rfl⟩ | reports
  · rw [Call.perform, Operation.map_apply]
    exact (selects_of_records law.toComposes (fun url => law.silent _ rfl) records client).select
      (fun url balancer => law.silent _ rfl _) balancer ambient
  · cases source : balancer.source with
    | fixed urls =>
      obtain ⟨kept, silent⟩ := report_fixed source reports ambient
      rw [kept]
      exact law.silent_all silent _
    | failover pool =>
      obtain ⟨pooled, next, left, told, _⟩ := records_of_report source reports ambient
      exact sees_of_failover source left (records told)

end Seen

end Balancer

end Balance
