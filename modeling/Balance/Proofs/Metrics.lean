import Balance.Metrics
import Mathlib.Algebra.BigOperators.Group.Finset.Basic

/-!
What metrics tell of the events behind them. A counter holds the number of
events that move it, so that it adds up over events in a row. The gauge holds
what the last event that sets it says, whatever was recorded before.
-/

namespace Balance

def Event.ofPool : Event → Bool
  | excluded .. | poolReset | canary _ | readmitted _ | outOfRotation _ => true
  | _ => false

/-- What the gauge is set to by an event. -/
def Event.gauged? : Event → Option Nat
  | .outOfRotation count => some count
  | _ => none

namespace Metrics

/-- What a counter shows behind the events; zero where it was not recorded. -/
def counter (events : List Event) (metric : Metric) : Nat :=
  ((ofEvents events).value? metric).getD 0

def gauge (events : List Event) : Option Nat := (ofEvents events).value? .excludedUrls

def moves (events : List Event) (metric : Metric) : Nat :=
  events.countP (·.counted? = some metric)

theorem value?_cons (key metric : Metric) (value : Nat) (metrics : Metrics) :
    value? ((key, value) :: metrics) metric =
      if metric = key then some value else metrics.value? metric := by
  by_cases same : metric = key
  · simp [value?, same]
  · have other : (metric == key) = false := beq_false_of_ne same
    simp [value?, List.lookup_cons, other, same]

theorem value?_update (metrics : Metrics) (metric other : Metric) (change : Nat → Nat) :
    (metrics.update metric change).value? other =
      if other = metric then some (change ((metrics.value? metric).getD 0))
      else metrics.value? other := by
  induction metrics with
  | nil => rw [update, value?_cons]; rfl
  | cons entry entries ih =>
    obtain ⟨key, value⟩ := entry
    rw [update]
    by_cases found : key = metric
    · subst found
      by_cases same : other = key <;> simp [value?_cons, same]
    · rw [if_neg found, value?_cons, value?_cons, value?_cons, ih, if_neg (Ne.symm found)]
      by_cases here : other = key
      · simp [here, found]
      · simp [here]

theorem record_eq (metrics : Metrics) (event : Event) :
    metrics.record event =
      match event.gauged?, event.counted? with
      | some count, _ => metrics.update .excludedUrls fun _ => count
      | none, some metric => metrics.update metric (· + 1)
      | none, none => metrics := by
  cases event <;> rfl

theorem counted?_ne_gauge (event : Event) : event.counted? ≠ some .excludedUrls := by
  cases event <;> simp [Event.counted?]

theorem counted?_of_gauged? {event : Event} {count : Nat} (gauged : event.gauged? = some count) :
    event.counted? = none := by
  cases event <;> simp_all [Event.gauged?, Event.counted?]

theorem counted?_of_silent {event : Event} (silent : event.ofPool = false) :
    (event.counted? = none ∨ ∃ url, event.counted? = some (.selections url)) ∧
      event.gauged? = none := by
  cases event <;> simp_all [Event.ofPool, Event.counted?, Event.gauged?]

variable {metric : Metric}

theorem value_record (metrics : Metrics) (event : Event) (counts : metric ≠ .excludedUrls) :
    ((metrics.record event).value? metric).getD 0 =
      (metrics.value? metric).getD 0 + if event.counted? = some metric then 1 else 0 := by
  rw [record_eq]
  cases gauged : event.gauged? with
  | some count => simp [value?_update, counts, counted?_of_gauged? gauged]
  | none =>
    cases counted : event.counted? with
    | none => simp
    | some moved =>
      by_cases same : metric = moved
      · simp [value?_update, same]
      · simp [value?_update, same, Ne.symm same]

theorem gauge_record (metrics : Metrics) (event : Event) :
    (metrics.record event).value? .excludedUrls =
      event.gauged?.or (metrics.value? .excludedUrls) := by
  rw [record_eq]
  cases event.gauged? with
  | some count => simp [value?_update]
  | none =>
    cases counted : event.counted? with
    | none => rfl
    | some moved =>
      have other : Metric.excludedUrls ≠ moved := by
        rintro rfl
        exact counted?_ne_gauge event counted
      simp [value?_update, other]

theorem counter_eq (events : List Event) (counts : metric ≠ .excludedUrls) :
    counter events metric = moves events metric := by
  have onward (metrics : Metrics) : ((events.foldl record metrics).value? metric).getD 0 =
      (metrics.value? metric).getD 0 + moves events metric := by
    induction events generalizing metrics with
    | nil => rfl
    | cons event events ih =>
      rw [List.foldl_cons, ih, value_record metrics event counts, moves, moves, List.countP_cons]
      simp only [decide_eq_true_eq]
      omega
  simpa [counter, ofEvents, value?] using onward []

theorem gauge_append (earlier later : List Event) :
    gauge (earlier ++ later) = (gauge later).or (gauge earlier) := by
  have onward (events : List Event) (metrics : Metrics) :
      (events.foldl record metrics).value? .excludedUrls =
        (gauge events).or (metrics.value? .excludedUrls) := by
    induction events using List.reverseRecOn generalizing metrics with
    | nil => rfl
    | append_singleton events event ih =>
      rw [gauge, ofEvents, List.foldl_append, List.foldl_append, List.foldl_cons, List.foldl_nil,
        gauge_record, ih, List.foldl_cons, List.foldl_nil, gauge_record, Option.or_assoc]
      rfl
  rw [gauge, ofEvents, List.foldl_append, onward]
  rfl

theorem gauge_cons (event : Event) (events : List Event) :
    gauge (event :: events) = (gauge events).or event.gauged? := by
  have first : gauge [event] = event.gauged? := by
    rw [gauge, ofEvents, List.foldl_cons, List.foldl_nil, gauge_record]
    exact Option.or_none
  rw [← first, ← gauge_append]
  rfl

theorem moves_append (earlier later : List Event) (metric : Metric) :
    moves (earlier ++ later) metric = moves earlier metric + moves later metric :=
  List.countP_append

theorem moves_cons (event : Event) (events : List Event) (metric : Metric) :
    moves (event :: events) metric =
      moves events metric + if event.counted? = some metric then 1 else 0 := by
  simp [moves, List.countP_cons]

@[simp] theorem moves_nil (metric : Metric) : moves [] metric = 0 := rfl

theorem moves_of_counted {event : Event} {moved : Metric} (counted : event.counted? = some moved)
    (count : Nat) (metric : Metric) :
    moves [event, .outOfRotation count] metric = if metric = moved then 1 else 0 := by
  have silent : (Event.outOfRotation count).counted? = none := rfl
  rw [moves_cons, moves_cons, counted, silent, moves_nil]
  simp [eq_comm]

theorem moves_silent {event : Event} (silent : event.ofPool = false)
    (counts : ∀ url, metric ≠ .selections url) : moves [event] metric = 0 := by
  obtain ⟨counted | ⟨url, counted⟩, _⟩ := counted?_of_silent silent
  · simp [moves_cons, counted]
  · simp [moves_cons, counted, (counts url).symm]

def handedOut (events : List Event) : List Url :=
  events.filterMap fun
    | .selected url => some url
    | _ => none

theorem handedOut_append (earlier later : List Event) :
    handedOut (earlier ++ later) = handedOut earlier ++ handedOut later :=
  List.filterMap_append

theorem moves_selections (events : List Event) (url : Url) :
    moves events (.selections url) = (handedOut events).count url := by
  rw [handedOut, List.count_filterMap, moves]
  refine List.countP_congr fun event _ => ?_
  cases event <;> simp [Event.counted?]

theorem sum_selections {events : List Event} {urls : Finset Url}
    (within : ∀ url ∈ handedOut events, url ∈ urls) :
    ∑ url ∈ urls, counter events (.selections url) = (handedOut events).length := by
  have counted (url : Url) : counter events (.selections url) =
      (handedOut events : Multiset Url).count url := by
    rw [counter_eq events Metric.noConfusion, moves_selections, Multiset.coe_count]
  simp only [counted]
  exact Multiset.sum_count_eq_card within

end Metrics

end Balance
