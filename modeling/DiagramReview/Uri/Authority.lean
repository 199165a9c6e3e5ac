import DiagramReview.Uri.Host

namespace DiagramReview.Uri

open Text

def before (stop : Char → Bool) (s : Text) : Text × Text :=
  (s.takeWhile (!stop ·), s.dropWhile (!stop ·))

structure Authority where
  user : Text := []
  host : Host
  port : Option Nat := none
  deriving DecidableEq, Repr

namespace Authority

def toText (a : Authority) : Text :=
  a.user ++ a.host.toText ++ (a.port.map fun n => ':' :: (toString n).toList).getD []

def userText (s : Text) : Text :=
  let (name, rest) := before (· == ':') s
  let password := rest.drop 1
  let shown := Percent.encode Percent.isPlainInUser name ++
    if password.isEmpty then [] else ':' :: Percent.encode Percent.isPlainInUser password
  if shown.isEmpty then [] else shown ++ ['@']

def user? (atEnd : Bool) (s : Text) : Option (Text × Text) :=
  let (authority, path) := before (· == '/') s
  let host := (authority.reverse.takeWhile (· != '@')).reverse
  let user := (authority.take (authority.length - host.length)).dropLast
  if host.length = authority.length then some ([], s)
  else if user.isEmpty ∧ host.isEmpty ∧ !(path.isEmpty ∧ atEnd) then none
  else some (userText user, host ++ path)

def splitHost (inBrackets : Bool) : Text → Text × Text
  | [] => ([], [])
  | c :: s =>
    if c = '/' ∨ (c = ':' ∧ !inBrackets) then ([], c :: s)
    else
      let inBrackets := c = '[' ∨ (c ≠ ']' ∧ inBrackets)
      let (host, rest) := splitHost inBrackets s
      (c :: host, rest)

def port? (own : Option Nat) (s : Text) : Option (Option Nat × Text) :=
  let (digits, rest) := before (!·.isDigit) s
  let port := inBase 10 digits
  if 65535 < port ∨ rest.head?.any fun c => c != '/' && c != '\\' then none
  else some (if digits.isEmpty ∨ own = some port then none else some port, rest)

/-- The authority at the front of a text, and the path after it. A host is needed where there is a
user or a port, and on the web, where a scheme has a port of its own. -/
def parse? (ownPort : Option Nat) (atEnd : Bool) (s : Text) : Option (Authority × Text) := do
  let onWeb := ownPort.isSome
  let (user, s) ← user? atEnd s
  let (written, rest) := splitHost false s
  if written.isEmpty ∧ (onWeb ∨ !user.isEmpty ∨ rest.head? = some ':') then none
  else
    let host ← if onWeb then Host.ofDomain? written else Host.ofName? written
    match rest with
    | ':' :: rest =>
      let (port, path) ← port? ownPort rest
      some ({ user, host, port }, path)
    | path => some ({ user, host }, path)

end Authority

end DiagramReview.Uri
