import Balance.Log.Filter
import Balance.Log.Line

/-!
The log lines of what happened: the records of the events, as far as the
filter lets them pass, one line each and in the order of the events.
-/

namespace Balance.Log

def records (events : List Event) : List Record := events.filterMap ofEvent

def lines (filter : Filter) (json : Bool) (events : List Event) : List String :=
  ((records events).filter filter.admits).map (·.line json)

end Balance.Log
