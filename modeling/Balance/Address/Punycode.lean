/-!
Labels of host names written with ASCII letters, digits and hyphens alone. The
characters before the last hyphen stand for themselves; behind it every number
says how far to go, from the last insertion, to the next one. Numbers are
written in digits of a base that adapts, and stay below `ceiling`.
-/

namespace Balance.Address.Punycode

def ceiling : Nat := UInt32.size

def digit? (c : Char) : Option Nat :=
  if 'a' ≤ c ∧ c ≤ 'z' then some (c.toNat - 'a'.toNat)
  else if c.isDigit then some (c.toNat - '0'.toNat + 26)
  else none

/-- Digits below this end a number. -/
def threshold (place bias : Nat) : Nat :=
  if place ≤ bias then 1 else min (place - bias) 26

/-- One number: `place` and `weight` belong to the digit that comes next. -/
def number? (bias : Nat) : (place weight sum : Nat) → List Char → Option (Nat × List Char)
  | _, _, _, [] => none
  | place, weight, sum, c :: cs => do
    let digit ← digit? c
    let sum := sum + digit * weight
    let least := threshold place bias
    if digit < least then
      if sum < ceiling then some (sum, cs) else none
    else if weight * (36 - least) < ceiling then
      number? bias (place + 36) (weight * (36 - least)) sum cs
    else
      none

theorem length_number? {bias place weight sum result : Nat} {cs rest : List Char}
    (h : number? bias place weight sum cs = some (result, rest)) : rest.length < cs.length := by
  induction cs generalizing place weight sum with
  | nil => simp [number?] at h
  | cons c cs ih =>
    simp only [number?, Option.bind_eq_bind, Option.bind_eq_some_iff] at h
    obtain ⟨digit, -, h⟩ := h
    split at h
    · split at h
      · simp_all
      · simp at h
    · split at h
      · have := ih h
        simp only [List.length_cons]
        omega
      · simp at h

/-- Bring a distance down into the range where the bias is a quotient. -/
def settle (distance bias : Nat) : Nat :=
  if distance ≤ 455 then bias + 36 * distance / (distance + 38)
  else settle (distance / 35) (bias + 36)
termination_by distance
decreasing_by omega

def adapt (distance length : Nat) (first : Bool) : Nat :=
  let distance := if first then distance / 700 else distance / 2
  settle (distance + distance / length) 0

def insertions (bias point position : Nat) (label : List Char) (cs : List Char) :
    Option (List Char) :=
  match cs with
  | [] => some label
  | c :: rest =>
    match _h : number? bias 36 1 position (c :: rest) with
    | none => none
    | some (sum, rest') =>
      let length := label.length + 1
      let point := point + sum / length
      if point.isValidChar then
        insertions (adapt (sum - position) length (position = 0)) point (sum % length + 1)
          (label.insertIdx (sum % length) (Char.ofNat point)) rest'
      else
        none
termination_by cs.length
decreasing_by exact length_number? _h

/-- The label that `cs` writes. A hyphen in front is a digit and not a mark, so
such a text writes nothing. -/
def decode? (cs : List Char) : Option (List Char) :=
  let tail := (cs.reverse.takeWhile (· ≠ '-')).reverse
  let base := cs.take (cs.length - tail.length - 1)
  insertions 72 128 0 base (if base.isEmpty then cs else tail)

end Balance.Address.Punycode
