import DiagramReview.Expression.Basic
import DiagramReview.Expression.Cursor
import DiagramReview.Text.Digit

namespace DiagramReview.Expression

open Text

namespace Reader

inductive Atom where
  | literal (c : Char) (isByte : Bool)
  | ofClass (k : CharClass) (negated : Bool)
  | named
  | any
  | anchor (a : Anchor)
  deriving Repr

def isHex (c : Char) : Bool := (hexValue? c).isSome

def charAt (digits : Text) (first stop : Nat) : Reader Char := do
  match scalar? (inBase 16 digits) with
  | some c => return c
  | none => fail .hexNoCharacter first stop

def hexDigits : Nat → Reader Text
  | 0 => return []
  | count + 1 => do
    match ← peek with
    | none => failHere .escapeUnfinished
    | some c =>
      if isHex c then
        pass
        return c :: (← hexDigits count)
      else failNext .hexDigit

def hexChar (count : Nat) : Reader Atom := do
  pass
  let first ← place
  if (← peek) = some '\x7b' then
    pass
    let digits ← all isHex pass
    let stop ← place
    match ← peek with
    | none => fail .escapeUnfinished first stop
    | some '\x7d' =>
      pass
      if digits.isEmpty then fail .hexMissing first (← place)
      return .literal (← charAt digits (first + 1) stop) false
    | some _ => failNext .hexDigit
  else
    let digits ← hexDigits count
    return .literal (← charAt digits first (← place)) (count = 2)

def namedClass : Reader Atom := do
  pass
  match ← peek with
  | none => failHere .escapeUnfinished
  | some '\x7b' =>
    pass
    let _ ← all (· != '\x7d') pass
    if (← peek).isNone then failHere .escapeUnfinished
  | some c => if c = '\\' then failNext .namedClassLetter
  skip 1
  return .named

def edge? (first : Nat) : Reader (Option Anchor) := do
  let before ← get
  let inName (c : Char) : Bool := c.isAlpha || c == '-'
  let all' := before.flags.ofAllScripts
  pass
  let inside ← place
  match ← peek with
  | none => fail .edgeOrCountUnclosed first inside
  | some c =>
    if !inName c then
      set before
      return none
    let name ← all inName pass
    let stop ← place
    if (← peek) ≠ some '\x7d' then fail .edgeUnclosed before.place stop
    skip 1
    match String.ofList name with
    | "start" => return some (.wordStart all')
    | "end" => return some (.wordEnd all')
    | "start-half" => return some (.noWordBefore all')
    | "end-half" => return some (.noWordAfter all')
    | _ => fail .edgeUnknown inside stop

def escape : Reader Atom := do
  let first ← place
  let f ← flags
  skip 1
  match ← peek with
  | none => fail .escapeUnfinished first (← place)
  | some c =>
    if c.isDigit then fail .backReference first ((← place) + 1)
    let letter (a : Atom) : Reader Atom := do
      skip 1
      return a
    match c with
    | 'x' => hexChar 2
    | 'u' => hexChar 4
    | 'U' => hexChar 8
    | 'p' | 'P' => namedClass
    | 'd' => letter (.ofClass .digit false)
    | 'D' => letter (.ofClass .digit true)
    | 's' => letter (.ofClass .blank false)
    | 'S' => letter (.ofClass .blank true)
    | 'w' => letter (.ofClass .word false)
    | 'W' => letter (.ofClass .word true)
    | 'a' => letter (.literal '\x07' false)
    | 'f' => letter (.literal '\x0c' false)
    | 't' => letter (.literal '\t' false)
    | 'n' => letter (.literal '\n' false)
    | 'r' => letter (.literal '\r' false)
    | 'v' => letter (.literal '\x0b' false)
    | 'A' => letter (.anchor .textStart)
    | 'z' => letter (.anchor .textEnd)
    | 'B' => letter (.anchor (.noWordEdge f.ofAllScripts))
    | '<' => letter (.anchor (.wordStart f.ofAllScripts))
    | '>' => letter (.anchor (.wordEnd f.ofAllScripts))
    | 'b' =>
      skip 1
      if (← peek) = some '\x7b' then
        return .anchor ((← edge? first).getD (.wordEdge f.ofAllScripts))
      return .anchor (.wordEdge f.ofAllScripts)
    | c =>
      skip 1
      if c.toNat < 128 && !c.isAlpha then return .literal c false
      fail .escapeUnknown first (← place)

end Reader

end DiagramReview.Expression
