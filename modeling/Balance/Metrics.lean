import Balance.Event

/-!
Metrics count what happened to each URL: how often it was handed out,
excluded, tried as a canary and readmitted, and how often the whole pool was
reset. One gauge holds the number of URLs that are out of rotation.
-/

namespace Balance

inductive Metric
  | selections (url : Url)
  | exclusions (url : Url)
  | canaries (url : Url)
  | readmissions (url : Url)
  | poolResets
  | excludedUrls
deriving Repr, DecidableEq

namespace Metric

def labelled (name : String) (url : Url) : String :=
  name ++ "\x7burl=" ++ url ++ "\x7d"

def key : Metric → String
  | selections url => labelled "url_balancer_selections_total" url
  | exclusions url => labelled "url_balancer_exclusions_total" url
  | canaries url => labelled "url_balancer_canaries_total" url
  | readmissions url => labelled "url_balancer_readmissions_total" url
  | poolResets => "url_balancer_pool_resets_total"
  | excludedUrls => "url_balancer_excluded_urls"

end Metric

def Event.counted? : Event → Option Metric
  | .selected url => some (.selections url)
  | .excluded url _ => some (.exclusions url)
  | .canary url => some (.canaries url)
  | .readmitted url => some (.readmissions url)
  | .poolReset => some .poolResets
  | _ => none

/-- Metrics that were recorded at least once, in the order of that. -/
abbrev Metrics := List (Metric × Nat)

namespace Metrics

def update (metric : Metric) (change : Nat → Nat) : Metrics → Metrics
  | [] => [(metric, change 0)]
  | entry :: entries =>
    if entry.1 = metric then (metric, change entry.2) :: entries
    else entry :: update metric change entries

def record (metrics : Metrics) (event : Event) : Metrics :=
  match event with
  | .outOfRotation count => metrics.update .excludedUrls fun _ => count
  | event =>
    match event.counted? with
    | some metric => metrics.update metric (· + 1)
    | none => metrics

def ofEvents (events : List Event) : Metrics := events.foldl record []

def value? (metrics : Metrics) (metric : Metric) : Option Nat := metrics.lookup metric

end Metrics

end Balance
