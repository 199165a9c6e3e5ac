import DiagramReview.Expression.Bracket
import DiagramReview.Number.Bits

/-!
Reading regular expressions: groups, repetitions and alternatives. Faults of the form are found from
left to right; what is well formed and yet means nothing is found only after the whole text has been
read.
-/

namespace DiagramReview.Expression

open Text

namespace Reader

def flagItems : Nat → List (Char × Nat) → Reader (List (Char × Nat))
  | 0, _ => failHere .flagUnfinished
  | steps + 1, done => do
    let here ← place
    match ← peek with
    | none => failHere .flagUnfinished
    | some c =>
      if c = ':' ∨ c = ')' then
        match done.getLast? with
        | some ('-', p) => fail .flagDangling p (p + 1)
        | _ => return done
      if c ≠ '-' ∧ !"imsUuRx".toList.contains c then failNext .flagUnknown
      match done.lookup c with
      | some p =>
        throw {
          flaw := if c = '-' then .flagNegatedTwice else .flagDoubled
          span := ⟨here, here + 1⟩
          earlier := some ⟨p, p + 1⟩ }
      | none => skip 1
      flagItems steps (done ++ [(c, here)])

def groupName : Reader Unit := do
  let first ← place
  let accepts (c : Char) : Bool := isWord c || ".[]".toList.contains c
  let startsName (c : Char) : Bool := isWord c && !c.isDigit
  if (← peek).any fun c => c != '>' && !startsName c then failNext .nameCharacter
  let name ← all accepts (skip 1)
  let span : Span := ⟨first, ← place⟩
  match ← peek with
  | none => failHere .nameUnclosed
  | some '>' =>
    skip 1
    if name.isEmpty then fail .nameMissing first first
    match (← get).names.lookup name with
    | some earlier => throw { flaw := .nameDoubled, span, earlier := some earlier }
    | none => modify fun c => { c with names := (name, span) :: c.names }
  | some _ => failNext .nameCharacter

def openGroup : Reader Bool := do
  let first ← place
  pass
  for sign in ["?=", "?!", "?<=", "?<!"] do
    if ← takes sign then fail .lookAround first (← place)
  let inside ← place
  if ← takes "?P<" then groupName
  else if ← takes "?<" then groupName
  else if ← takes "?" then
    if (← peek).isNone then fail .groupUnclosed first (first + 1)
    let items ← flagItems ((← get).rest.length + 1) []
    let alone := (← peek) = some ')'
    if alone && items.isEmpty then fail .nothingToRepeat inside inside
    skip 1
    modify fun c => { c with flags := c.flags.withItems (items.map Prod.fst) }
    return !alone
  return true

def decimal : Reader (Except Fault Nat) := do
  let _ ← all isBlank (skip 1)
  let first ← place
  let digits ← all Char.isDigit pass
  let stop ← place
  let _ ← all isBlank pass
  let n := inBase 10 digits
  if digits.isEmpty then return .error { flaw := .countMissing, span := ⟨first, stop⟩ }
  if Bits.holds 32 n then return .ok n
  return .error { flaw := .numberTooBig, span := ⟨first, stop⟩ }

def counts (brace : Nat) : Reader (Nat × Option Nat) := do
  let unclosed {α : Type} : Reader α := do fail .countUnclosed brace (← place)
  pass
  if (← peek).isNone then unclosed
  let least ← decimal
  let found ← match ← peek with
    | none => unclosed
    | some ',' =>
      pass
      match ← peek with
      | none => unclosed
      | some '\x7d' => pure (← liftExcept least, none)
      | some _ =>
        let least ← liftExcept least
        pure (least, some (← liftExcept (← decimal)))
    | some _ =>
      let n ← liftExcept least
      pure (n, some n)
  if (← peek) ≠ some '\x7d' then unclosed
  pass
  return found
where
  liftExcept {α : Type} (x : Except Fault α) : Reader α := StateT.lift x

def repeated (e : Expression) (c : Char) : Reader Expression := do
  let first ← place
  let (least, most) ← match c with
    | '?' => do skip 1; pure (0, some 1)
    | '*' => do skip 1; pure (0, none)
    | '+' => do skip 1; pure (1, none)
    | _ => counts first
  let _ ← takes "?"
  if most.any (· < least) then fail .countOrder first (← place)
  return .times e least most

def atomExpression (a : Atom) (first stop : Nat) : Reader Expression := do
  let f ← flags
  match a with
  | .literal c isByte =>
    if !f.ofAllScripts && isByte && 128 ≤ c.toNat then failLater .notText first stop
    if 128 ≤ c.toNat && !f.ofAllScripts then return .one (.single c)
    return .one (among f (.fold f.caseless (.single c)))
  | .ofClass k negated => return .one (← classSet k negated first stop)
  | .named => return .one (← namedSet first stop)
  | .anchor a => return .anchor a
  | .any =>
    if !f.ofAllScripts then failLater .notText first stop
    let ends := if f.dotAll then [] else if f.returns then ['\n', '\r'] else ['\n']
    return .one (.except (.ofList (ends.map .single)))

def atom (c : Char) : Reader Atom := do
  let f ← flags
  match c with
  | '\\' => escape
  | '.' => do skip 1; return .any
  | '^' => do skip 1; return .anchor (if f.manyLines then .lineStart f.returns else .textStart)
  | '$' => do skip 1; return .anchor (if f.manyLines then .lineEnd f.returns else .textEnd)
  | c => do skip 1; return .literal c false

mutual

def alternatives : Nat → List (Option Expression) → Reader Expression
  | 0, _ => failHere .groupUnclosed
  | steps + 1, parts => do
    skipIdle
    let whole := Expression.ofList (parts.reverse.filterMap id)
    match ← peek with
    | none | some ')' => return whole
    | some '|' =>
      skip 1
      return .alt whole (← alternatives steps [])
    | some '(' => alternatives steps ((← group steps) :: parts)
    | some '[' => alternatives steps (some (.one (← charSet (2 * (← get).rest.length))) :: parts)
    | some c =>
      if "?*+\x7b".toList.contains c then
        match parts with
        | some e :: parts => alternatives steps (some (← repeated e c) :: parts)
        | _ => failHere .nothingToRepeat
      else
        let first ← place
        let a ← atom c
        let e ← atomExpression a first (← place)
        alternatives steps (some e :: parts)

def group : Nat → Reader (Option Expression)
  | 0 => failHere .groupUnclosed
  | steps + 1 => do
    let first ← place
    let outside ← flags
    if ← openGroup then
      let e ← alternatives steps []
      if (← peek).isNone then fail .groupUnclosed first (first + 1)
      modify fun c => { c with flags := outside }
      skip 1
      return some e
    else return none

end

def whole (steps : Nat) : Reader Expression := do
  let e ← alternatives steps []
  if (← peek).isSome then failNext .groupUnopened
  match (← get).late with
  | some fault => throw fault
  | none => return e

end Reader

/-- The expression that a text writes. Each step of reading it takes a character or begins a
group. -/
def ofText (s : Text) : Except Fault Expression :=
  (Reader.whole (2 * s.length + 2) { rest := s }).map Prod.fst

end DiagramReview.Expression
