import Balance.Address.Host

/-!
URLs as far as their host. A URL begins with a scheme. Behind it the schemes
of the web have an authority in any case, a file URL has one behind two
slashes, where a drive letter or the own machine counts as no host, and any
other scheme has one behind two slashes. Nothing behind the authority can be
wrong.
-/

namespace Balance

structure Address where
  scheme : String
  host : Option Address.Host
deriving Repr, DecidableEq

namespace Address

inductive SchemeKind
  | file
  | web
  | general
deriving Repr, DecidableEq

def SchemeKind.ofName (scheme : String) : SchemeKind :=
  if scheme = "file" then file
  else if scheme ∈ ["http", "https", "ws", "wss", "ftp"] then web
  else general

def isSlash (c : Char) : Bool := c = '/' || c = '\\'

def isSchemeChar (c : Char) : Bool := c.isAlphanum || c = '+' || c = '-' || c = '.'

def scheme? (cs : List Char) : Option (String × List Char) :=
  match cs.dropWhile isSchemeChar with
  | ':' :: rest =>
    if cs.head?.any Char.isAlpha then
      some (String.ofList ((cs.takeWhile isSchemeChar).map Char.toLower), rest)
    else none
  | _ => none

def endsAuthority (kind : SchemeKind) (c : Char) : Bool :=
  c = '/' || c = '?' || c = '#' || (c = '\\' && kind ≠ .general)

/-- The text of a host, and the text from the colon behind it. A colon between
brackets belongs to the host. -/
def hostText : (bracketed : Bool) → List Char → List Char × List Char
  | _, [] => ([], [])
  | bracketed, c :: cs =>
    if c = ':' && !bracketed then ([], c :: cs)
    else
      let (host, rest) := hostText (c = '[' || (bracketed && c ≠ ']')) cs
      (c :: host, rest)

/-- Whether a number of 16 bits, or nothing, stands behind the colon. Only a
backslash may follow it. -/
def isPortNumber (cs : List Char) : Bool :=
  let digits := cs.takeWhile Char.isDigit
  let number := digits.foldl (fun number c => 10 * number + (c.toNat - '0'.toNat)) 0
  number < UInt16.size && (cs.drop digits.length).head?.all (· = '\\')

def credentials (authority : List Char) : Option (List Char) × List Char :=
  if authority.contains '@' then
    let host := (authority.reverse.takeWhile (· ≠ '@')).reverse
    (some (authority.take (authority.length - host.length - 1)), host)
  else
    (none, authority)

/-- The host of an authority; `last` says that the URL ends behind it. Without
a host there can be neither a number behind it nor a user before it. -/
def authorityHost (kind : SchemeKind) (authority : List Char) (last : Bool) :
    Except Fault (Option Host) := do
  let (user, place) := credentials authority
  if user = some [] && place.isEmpty && !last then
    throw .emptyHost
  let (text, tail) := hostText false place
  let named := user.any fun user => user ≠ [] && user ≠ [':']
  if text.isEmpty then
    if kind = .web || !tail.isEmpty || named then throw .emptyHost
    return none
  else
    let host ← if kind = .web then Host.ofWebText text else Host.ofText text
    if isPortNumber (tail.drop 1) then return some host else throw .invalidPort

def isDriveLetter : List Char → Bool
  | [letter, mark] => letter.isAlpha && (mark = ':' || mark = '|')
  | _ => false

def localhost : Host := .name ["localhost".toList]

def fileHost (cs : List Char) : Except Fault (Option Host) := do
  let text := cs.takeWhile (!endsAuthority .file ·)
  let path := cs.dropWhile (!endsAuthority .file ·)
  if text.isEmpty || isDriveLetter text then
    return none
  else
    let host ← Host.ofWebText text
    let drive := path.head?.any isSlash &&
      isDriveLetter ((path.drop 1).takeWhile (!endsAuthority .file ·))
    return if host = localhost || drive then none else some host

def hostOf (kind : SchemeKind) (cs : List Char) : Except Fault (Option Host) :=
  match kind with
  | .file =>
    if (cs.take 2).length = 2 && (cs.take 2).all isSlash then fileHost (cs.drop 2) else .ok none
  | .web =>
    let cs := cs.dropWhile isSlash
    let authority := cs.takeWhile (!endsAuthority kind ·)
    authorityHost kind authority (authority.length = cs.length)
  | .general =>
    match cs with
    | '/' :: '/' :: cs =>
      let authority := cs.takeWhile (!endsAuthority kind ·)
      authorityHost kind authority (authority.length = cs.length)
    | _ => .ok none

def isOuterBlank (c : Char) : Bool := c ≤ ' '

/-- Blanks around a URL do not belong to it, and tabs and line ends not anywhere. -/
def significant (text : String) : List Char :=
  let cs := (text.toList.dropWhile isOuterBlank).reverse.dropWhile isOuterBlank
  cs.reverse.filter fun c => c ≠ '\t' && c ≠ '\n' && c ≠ '\r'

def parse (text : String) : Except Fault Address :=
  match scheme? (significant text) with
  | none => .error .relative
  | some (scheme, rest) => (⟨scheme, ·⟩) <$> hostOf (.ofName scheme) rest

def fault? (text : String) : Option String :=
  match parse text with
  | .ok _ => none
  | .error fault => some fault.message

end Address

end Balance
