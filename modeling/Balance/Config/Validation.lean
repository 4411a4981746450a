import Balance.Config
import Balance.Text.Quoted
import Balance.Weight

/-!
Semantic checks of a configuration. Every check runs, whatever the others
find, and the problems are listed in a fixed order: a missing list, each URL
in turn, the weights, and last the failover policy. Whether a URL is well
formed is a parameter: `fault` answers what is wrong with it.
-/

namespace Balance

inductive ConfigProblem
  | noUrls
  | invalidUrl (url reason : String)
  | duplicateUrl (url : String)
  | tooManyWeights (weights urls : Nat)
  | zeroWeight (url : String)
  | weightTooLarge (url : String) (weight limit : UInt32)
  | zeroTimeout
  | invalidStatus (code : UInt16)
deriving Repr, DecidableEq

namespace ConfigProblem

def variant : ConfigProblem → String
  | noUrls => "NoUrls"
  | invalidUrl .. => "InvalidUrl"
  | duplicateUrl _ => "DuplicateUrl"
  | tooManyWeights .. => "TooManyWeights"
  | zeroWeight _ => "ZeroWeight"
  | weightTooLarge .. => "WeightTooLarge"
  | zeroTimeout => "ZeroTimeout"
  | invalidStatus _ => "InvalidStatus"

def message : ConfigProblem → String
  | noUrls => "load balancing is active but no URLs are configured"
  | invalidUrl url reason => "invalid URL '" ++ url ++ "': " ++ reason
  | duplicateUrl url => "URL '" ++ url ++ "' is configured more than once"
  | tooManyWeights weights urls =>
    toString weights ++ " weights given for " ++ toString urls ++ " URLs"
  | zeroWeight url => "weight for URL '" ++ url ++ "' must be greater than zero"
  | weightTooLarge url weight limit =>
    "weight " ++ toString weight.toNat ++ " for URL '" ++ url ++
      "' exceeds the maximum of " ++ toString limit.toNat
  | zeroTimeout => "failover timeout must be greater than zero"
  | invalidStatus code => "invalid HTTP status code " ++ toString code.toNat

def shownRecord (variant : String) (parts : List (String × String)) : String :=
  variant ++ " \x7b " ++ ", ".intercalate (parts.map fun (name, text) => name ++ ": " ++ text) ++
    " \x7d"

def shownTuple (variant text : String) : String := variant ++ "(" ++ text ++ ")"

def shown (problem : ConfigProblem) : String :=
  match problem with
  | noUrls | zeroTimeout => problem.variant
  | invalidUrl url reason =>
    shownRecord problem.variant [("url", Text.quoted url), ("reason", Text.quoted reason)]
  | duplicateUrl url | zeroWeight url => shownTuple problem.variant (Text.quoted url)
  | tooManyWeights weights urls =>
    shownRecord problem.variant [("weights", toString weights), ("urls", toString urls)]
  | weightTooLarge url weight limit =>
    shownRecord problem.variant
      [("url", Text.quoted url), ("weight", toString weight.toNat),
        ("max", toString limit.toNat)]
  | invalidStatus code => shownTuple problem.variant (toString code.toNat)

end ConfigProblem

namespace Validation
open ConfigProblem

variable (fault : String → Option String)

/-- The problems of the URLs that come after `seen`. -/
def urlProblems (seen : List String) : List String → List ConfigProblem
  | [] => []
  | url :: urls =>
    (fault url).toList.map (invalidUrl url) ++
      (if url ∈ seen then [duplicateUrl url] else []) ++
      urlProblems (seen ++ [url]) urls

/-- Every weight that has a URL is positive and not too large. -/
def weightProblem (url : String) (weight : UInt32) : List ConfigProblem :=
  if weight = 0 then [zeroWeight url]
  else if Weight.maxWeight < weight then [weightTooLarge url weight Weight.maxWeight]
  else []

def weightProblems (urls : List String) (weights : List UInt32) : List ConfigProblem :=
  (if urls.length < weights.length then [tooManyWeights weights.length urls.length] else []) ++
    (urls.zip weights).flatMap fun (url, weight) => weightProblem url weight

def isStatus (code : UInt16) : Bool := 100 ≤ code && code ≤ 599

def failoverProblems (config : FailoverConfig) : List ConfigProblem :=
  (if config.active && config.timeoutMillis = 0 then [zeroTimeout] else []) ++
    ((config.failStatus ++ config.retryStatus).filter (!isStatus ·)).map invalidStatus

def problems (config : Config) : List ConfigProblem :=
  let balancing := config.balancing
  (if balancing.active && balancing.urls.isEmpty then [noUrls] else []) ++
    urlProblems fault [] balancing.urls ++
    balancing.weights.elim [] (weightProblems balancing.urls) ++
    balancing.failover.elim [] failoverProblems

end Validation

end Balance
