import DiagramReview.Expression.Fault
import DiagramReview.Text.Blank

namespace DiagramReview.Expression

open Text

structure Flags where
  caseless : Bool := false
  manyLines : Bool := false
  dotAll : Bool := false
  ofAllScripts : Bool := true
  returns : Bool := false
  spaced : Bool := false
  deriving DecidableEq, Repr

namespace Flags

def put (f : Flags) (on : Bool) : Char → Flags
  | 'i' => { f with caseless := on }
  | 'm' => { f with manyLines := on }
  | 's' => { f with dotAll := on }
  | 'u' => { f with ofAllScripts := on }
  | 'R' => { f with returns := on }
  | 'x' => { f with spaced := on }
  | _ => f

def withItems (f : Flags) (items : List Char) : Flags :=
  let on := items.takeWhile (· != '-')
  let off := (items.dropWhile (· != '-')).drop 1
  off.foldl (put · false) (on.foldl (put · true) f)

end Flags

structure Cursor where
  rest : Text
  place : Nat := 0
  flags : Flags := {}
  names : List (Text × Span) := []
  late : Option Fault := none
  deriving Repr

abbrev Reader := StateT Cursor (Except Fault)

namespace Reader

def peek : Reader (Option Char) := return (← get).rest.head?

def place : Reader Nat := return (← get).place

def flags : Reader Flags := return (← get).flags

def fail {α : Type} (flaw : Flaw) (first stop : Nat) : Reader α :=
  throw { flaw, span := ⟨first, stop⟩ }

def failHere {α : Type} (flaw : Flaw) : Reader α := do fail flaw (← place) (← place)

def failNext {α : Type} (flaw : Flaw) : Reader α := do fail flaw (← place) ((← place) + 1)

def failLater (flaw : Flaw) (first stop : Nat) : Reader Unit := modify fun c =>
  { c with late := c.late.orElse fun _ => some { flaw, span := ⟨first, stop⟩ } }

def skip (count : Nat) : Reader Unit := modify fun c =>
  { c with rest := c.rest.drop count, place := c.place + min count c.rest.length }

def idle : Bool → Text → Nat
  | _, [] => 0
  | true, c :: s => idle (c != '\n') s + 1
  | false, c :: s =>
    if isBlank c then idle false s + 1 else if c = '#' then idle true s + 1 else 0

def skipIdle : Reader Unit := do
  if (← flags).spaced then skip (idle false (← get).rest)

def pass : Reader Unit := do
  skip 1
  skipIdle

def run (accepts : Char → Bool) (step : Reader Unit) : Nat → Reader Text
  | 0 => return []
  | steps + 1 => do
    match ← peek with
    | some c =>
      if accepts c then
        step
        return c :: (← run accepts step steps)
      else return []
    | none => return []

def all (accepts : Char → Bool) (step : Reader Unit) : Reader Text := do
  run accepts step (← get).rest.length

def takes (word : String) : Reader Bool := do
  if word.toList.isPrefixOf (← get).rest then
    skip word.length
    return true
  else return false

end Reader

end DiagramReview.Expression
