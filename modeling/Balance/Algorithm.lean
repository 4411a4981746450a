/-!
The balancing algorithms and their names. An algorithm is written under one
name and read under that name or, for four of them, under a second one. The
two weighted algorithms pick like their plain counterparts, over a sequence
expanded by weight.
-/

namespace Balance

inductive Algorithm
  | roundRobin
  | random
  | ipHash
  | weightedRandom
  | weightedRoundRobin
deriving Repr, DecidableEq, Inhabited

namespace Algorithm

def name : Algorithm → String
  | roundRobin => "round-robin"
  | random => "random"
  | ipHash => "ip-hash"
  | weightedRandom => "weighted-random"
  | weightedRoundRobin => "weighted-round-robin"

def variant : Algorithm → String
  | roundRobin => "RoundRobin"
  | random => "Random"
  | ipHash => "IpHash"
  | weightedRandom => "WeightedRandom"
  | weightedRoundRobin => "WeightedRoundRobin"

def ofName? (text : String) : Option Algorithm :=
  match text with
  | "round-robin" | "roundRobin" => some roundRobin
  | "random" => some random
  | "ip-hash" | "ipHash" => some ipHash
  | "weighted-random" | "weightRandom" => some weightedRandom
  | "weighted-round-robin" | "weightRoundRobin" => some weightedRoundRobin
  | _ => none

def isWeighted : Algorithm → Bool
  | weightedRandom | weightedRoundRobin => true
  | _ => false

def unknownMessage (text : String) : String :=
  "unknown load balancing algorithm: " ++ text

end Algorithm

end Balance
