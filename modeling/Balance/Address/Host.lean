import Balance.Address.Domain
import Balance.Address.Fault
import Balance.Address.Ipv4
import Balance.Address.Ipv6
import Balance.Address.Percent

/-!
The host of a URL: an address in brackets, an address of four numbers, or a
name. Names of schemes that are not known to belong to the web are kept as
they are written.
-/

namespace Balance.Address
open Balance.Text

inductive Host
  | ipv4 (address : Nat)
  | ipv6 (pieces : List Nat)
  | name (labels : List (List Char))
  | verbatim (text : List Char)
deriving Repr, DecidableEq

namespace Host

def bracketed? : List Char → Option (Except Fault Host)
  | '[' :: rest =>
    if rest.getLast? = some ']' then
      some ((Ipv6.address? rest.dropLast).elim (.error .invalidIpv6) (.ok ∘ ipv6))
    else
      some (.error .invalidIpv6)
  | _ => none

def ofLabels (labels : List (List Char)) : Except Fault Host :=
  let name := List.intercalate ['.'] labels
  if name.isEmpty then .error .emptyHost
  else if Ipv4.isNumeric name then
    (Ipv4.address? name).elim (.error .invalidIpv4) (.ok ∘ ipv4)
  else .ok (.name labels)

def ofWebText (text : List Char) : Except Fault Host :=
  match bracketed? text with
  | some host => host
  | none =>
    match (Percent.decode? (String.ofList text)).bind Domain.labels? with
    | none => .error .invalidName
    | some labels => ofLabels labels

def isRefused (c : Char) : Bool := "\x00\t\n\r #/:<>?@[\\]^|".toList.contains c

def ofText (text : List Char) : Except Fault Host :=
  match bracketed? text with
  | some host => host
  | none => if text.any isRefused then .error .invalidCharacter else .ok (verbatim text)

end Host

end Balance.Address
