import DiagramReview.Expression.Escape

namespace DiagramReview.Expression

open Text

namespace Reader

def among (f : Flags) (s : CharSet) : CharSet :=
  if f.ofAllScripts then s else s.inter (.range '\x00' '\x7f')

def member (c : Char) (isByte : Bool) (first stop : Nat) : Reader CharSet := do
  if !(← flags).ofAllScripts && 128 ≤ c.toNat then
    failLater (if isByte then .notText else .notAscii) first stop
  return .single c

def classSet (k : CharClass) (negated : Bool) (first stop : Nat) : Reader CharSet := do
  let f ← flags
  if negated && !f.ofAllScripts then failLater .notText first stop
  return .flip negated (.ofClass f.ofAllScripts k)

def namedSet (first stop : Nat) : Reader CharSet := do
  failLater (if (← flags).ofAllScripts then .namedClassUnknown else .notAscii) first stop
  return .none

def atomSet (a : Atom) (first stop : Nat) : Reader CharSet :=
  match a with
  | .literal c isByte => member c isByte first stop
  | .ofClass k negated => classSet k negated first stop
  | .named => namedSet first stop
  | .any | .anchor _ => fail .classEscape first stop

def bound (a : Atom) (first stop : Nat) : Reader (Char × Bool) :=
  match a with
  | .literal c isByte => return (c, isByte)
  | _ => fail .classBound first stop

def setAtom : Reader Atom := do
  match ← peek with
  | some '\\' => escape
  | some c =>
    skip 1
    return .literal c false
  | none => failHere .classUnclosed

def firstCounting (spaced : Bool) (s : Text) : Option Char :=
  if !spaced then s.head? else
    let t := match s.dropWhile isBlank with
      | '#' :: t => t.dropWhile isBlank
      | t => t
    if t.isEmpty then s.head? else t.head?

def setRange (opened : Span) : Reader CharSet := do
  let first ← place
  let a ← setAtom
  let stop ← place
  skipIdle
  if (← peek).isNone then fail .classUnclosed opened.first opened.stop
  let after := firstCounting (← flags).spaced ((← get).rest.drop 1)
  if (← peek) ≠ some '-' || after = some ']' || after = some '-' then atomSet a first stop
  else
    pass
    if (← peek).isNone then fail .classUnclosed opened.first opened.stop
    let second ← place
    let b ← setAtom
    let last ← place
    let (c, c') ← bound a first stop
    let (d, d') ← bound b second last
    if d < c then fail .classOrder first last
    let _ ← member c c' first stop
    let _ ← member d d' second last
    return .range c d

def asciiSet? : Reader (Option CharSet) := do
  match (← get).rest with
  | '[' :: ':' :: s =>
    let negated := s.head? = some '^'
    let s := if negated then s.drop 1 else s
    let name := s.takeWhile (· != ':')
    match s.drop name.length, CharSet.named? (String.ofList name) with
    | ':' :: ']' :: _, some found =>
      let first ← place
      let f ← flags
      skip (name.length + if negated then 5 else 4)
      if negated && !f.ofAllScripts then failLater .notText first (← place)
      return some (.flip negated (.fold f.caseless found))
    | _, _ => return none
  | _ => return none

inductive SetOp where
  | inter
  | without
  | onlyOne
  deriving DecidableEq, Repr

def setOp? : Reader (Option SetOp) := do
  if ← takes "&&" then return some .inter
  if ← takes "--" then return some .without
  if ← takes "~~" then return some .onlyOne
  return none

structure Parts where
  before : Option (CharSet × SetOp) := none
  members : List CharSet := []

def Parts.whole (caseless : Bool) (p : Parts) : CharSet :=
  let t := CharSet.ofList p.members
  match p.before with
  | none => t
  | some (s, op) =>
    let s := s.fold caseless
    let t := t.fold caseless
    match op with
    | .inter => s.inter t
    | .without => s.inter t.except
    | .onlyOne => (s.inter t.except).union (t.inter s.except)

def openSet : Reader (Bool × List CharSet) := do
  let first ← place
  pass
  if (← peek).isNone then fail .classUnclosed first (← place)
  let negated := (← peek) = some '^'
  if negated then
    pass
    if (← peek).isNone then fail .classUnclosed first (← place)
  let dashes ← all (· == '-') pass
  if (← peek).isNone then fail .classUnclosed first first
  if dashes.isEmpty && (← peek) = some ']' then
    pass
    if (← peek).isNone then fail .classUnclosed first (← place)
    return (negated, [.single ']'])
  return (negated, dashes.map .single)

mutual

def charSet : Nat → Reader CharSet
  | 0 => failHere .classUnclosed
  | steps + 1 => do
    let first ← place
    let (negated, members) ← openSet
    let s ← setParts steps ⟨first, ← place⟩ { members }
    let f ← flags
    if negated && !f.ofAllScripts then failLater .notText first (← place)
    return .flip negated (among f (s.fold f.caseless))

def setParts : Nat → Span → Parts → Reader CharSet
  | 0, opened, _ => fail .classUnclosed opened.first opened.stop
  | steps + 1, opened, parts => do
    skipIdle
    let more (s : CharSet) : Reader CharSet :=
      setParts steps opened { parts with members := s :: parts.members }
    match ← peek with
    | none => fail .classUnclosed opened.first opened.stop
    | some ']' =>
      skip 1
      return parts.whole (← flags).caseless
    | some '[' =>
      match ← asciiSet? with
      | some s => more s
      | none => more (← charSet steps)
    | some _ =>
      match ← setOp? with
      | some op => setParts steps opened { before := some (parts.whole (← flags).caseless, op) }
      | none => more (← setRange opened)

end

end Reader

end DiagramReview.Expression
