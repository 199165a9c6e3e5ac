import DiagramReview.Uri.Authority
import DiagramReview.Uri.Path

namespace DiagramReview

structure Uri where
  scheme : Text
  authority : Option Text := none
  path : Text
  query : Option Text := none
  fragment : Option Text := none
  deriving DecidableEq, Repr

namespace Uri

open Text

def toText (u : Uri) : Text :=
  let front := match u.authority with
    | some a => "//".toList ++ a
    | none => if "//".toList.isPrefixOf u.path then "/.".toList else []
  u.scheme ++ ':' :: front ++ u.path ++ (u.query.map ('?' :: ·)).getD [] ++
    (u.fragment.map ('#' :: ·)).getD []

inductive Kind where
  | file
  | web (port : Nat)
  | other
  deriving DecidableEq, Repr

def Kind.ofScheme (scheme : Text) : Kind :=
  match String.ofList scheme with
  | "file" => .file
  | "http" | "ws" => .web 80
  | "https" | "wss" => .web 443
  | "ftp" => .web 21
  | _ => .other

def isSchemeChar (c : Char) : Bool := c.isAlphanum || "+-.".toList.contains c

def scheme? (s : Text) : Option (Text × Text) :=
  match before (!isSchemeChar ·) s with
  | (c :: scheme, ':' :: rest) =>
    if c.isAlpha then some ((c :: scheme).map Char.toLower, rest) else none
  | _ => none

def slashes (s : Text) : Text := s.map fun c => if c = '\\' then '/' else c

def filePlace? (s : Text) : Option (Text × Text) :=
  match slashes s with
  | '/' :: '/' :: s =>
    let (written, rest) := before (· == '/') s
    let host := written.filter (· != '\t')
    if Path.isDrive host then some ([], (Path.normalOfFile s).1)
    else if host.isEmpty then some ([], (Path.normalOfFile rest).1)
    else do
      let host := (← Host.ofDomain? host).toText
      if host = "localhost".toList then some ([], (Path.normalOfFile rest).1)
      else
        let (path, onDrive) := Path.normalOfFile (rest.drop 1)
        some (if onDrive then [] else host, path)
  | '/' :: s => some ([], (Path.normalOfFile s).1)
  | s => some ([], (Path.normalOfFile s).1)

def webPlace? (port : Nat) (atEnd : Bool) (s : Text) : Option (Text × Text) := do
  let (authority, rest) ← Authority.parse? (some port) atEnd ((slashes s).dropWhile (· == '/'))
  return (authority.toText, Path.normal (rest.drop 1))

def otherPlace? (atEnd : Bool) (s : Text) : Option (Option Text × Text) :=
  match s with
  | '/' :: '/' :: s => do
    let (authority, rest) ← Authority.parse? none atEnd s
    return (some authority.toText, match rest with
      | [] => []
      | '/' :: path => Path.normal path
      | path => Path.normal path)
  | '/' :: path => some (none, Path.normal path)
  | path => some (none, Percent.encode Percent.isPrintable path)

def isBreak (c : Char) : Bool := "\t\n\r".toList.contains c

def trimEnds (s : Text) : Text :=
  let idle (c : Char) : Bool := c.toNat ≤ 0x20
  ((s.dropWhile idle).reverse.dropWhile idle).reverse

def whole (s : Text) : Text := s.filter (!isBreak ·)

/-- The text of which only those breaks are left that stand after the letter of a drive and its
colon, each as one tab; given are the characters of the segment so far, the last one first. -/
def keepBreaks : Text → Text → Text
  | _, [] => []
  | segment, c :: s =>
    if isBreak c then
      match segment with
      | [':', _] => '\t' :: keepBreaks ('\t' :: segment) s
      | _ => keepBreaks segment s
    else c :: keepBreaks (if c = '/' ∨ c = '\\' then [] else c :: segment) s

def ofText? (s : Text) : Option Uri := do
  let s := trimEnds s
  let (scheme, rest) ← scheme? (whole s)
  let kind := Kind.ofScheme scheme
  let rest := if kind = .file then keepBreaks [] ((s.dropWhile (· != ':')).drop 1) else rest
  let (place, s) := before (fun c => c == '?' || c == '#') rest
  let (query, fragment) := before (· == '#') (whole s)
  let isPlain := if kind = .other then Percent.isPlainInQuery else Percent.isPlainInWebQuery
  let encode (isPlain : Char → Bool) : Text → Option Text
    | [] => none
    | _ :: text => some (Percent.encode isPlain text)
  let (authority, path) ← match kind with
    | .file => do
      let (authority, path) ← filePlace? place
      some (some authority, path)
    | .web port => do
      let (authority, path) ← webPlace? port s.isEmpty place
      some (some authority, path)
    | .other => otherPlace? s.isEmpty place
  return {
    scheme, authority, path
    query := encode isPlain query
    fragment := encode Percent.isPlainInFragment fragment }

def normal? (s : String) : Option String := (ofText? s.toList).map fun u => String.ofList u.toText

end Uri

end DiagramReview
