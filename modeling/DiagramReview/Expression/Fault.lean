import DiagramReview.Text.Line

namespace DiagramReview.Expression

open Text

inductive Flaw where
  | classUnclosed
  | classEscape
  | classOrder
  | classBound
  | numberMissing
  | numberTooBig
  | escapeUnfinished
  | escapeUnknown
  | hexMissing
  | hexDigit
  | hexNoCharacter
  | flagDangling
  | flagDoubled
  | flagNegatedTwice
  | flagUnfinished
  | flagUnknown
  | groupUnclosed
  | groupUnopened
  | nameDoubled
  | nameMissing
  | nameCharacter
  | nameUnclosed
  | countOrder
  | countMissing
  | countUnclosed
  | nothingToRepeat
  | edgeUnclosed
  | edgeUnknown
  | edgeOrCountUnclosed
  | namedClassLetter
  | backReference
  | lookAround
  | namedClassUnknown
  | notAscii
  | notText
  deriving DecidableEq, Repr

namespace Flaw

def message : Flaw → String
  | classUnclosed => "unclosed character class"
  | classEscape => "invalid escape sequence found in character class"
  | classOrder => "invalid character class range, the start must be <= the end"
  | classBound => "invalid range boundary, must be a literal"
  | numberMissing => "decimal literal empty"
  | numberTooBig => "decimal literal invalid"
  | escapeUnfinished => "incomplete escape sequence, reached end of pattern prematurely"
  | escapeUnknown => "unrecognized escape sequence"
  | hexMissing => "hexadecimal literal empty"
  | hexDigit => "invalid hexadecimal digit"
  | hexNoCharacter => "hexadecimal literal is not a Unicode scalar value"
  | flagDangling => "dangling flag negation operator"
  | flagDoubled => "duplicate flag"
  | flagNegatedTwice => "flag negation operator repeated"
  | flagUnfinished => "expected flag but got end of regex"
  | flagUnknown => "unrecognized flag"
  | groupUnclosed => "unclosed group"
  | groupUnopened => "unopened group"
  | nameDoubled => "duplicate capture group name"
  | nameMissing => "empty capture group name"
  | nameCharacter => "invalid capture group character"
  | nameUnclosed => "unclosed capture group name"
  | countOrder => "invalid repetition count range, the start must be <= the end"
  | countMissing => "repetition quantifier expects a valid decimal"
  | countUnclosed => "unclosed counted repetition"
  | nothingToRepeat => "repetition operator missing expression"
  | edgeUnclosed =>
    "special word boundary assertion is either unclosed or contains an invalid character"
  | edgeUnknown => "unrecognized special word boundary assertion, valid choices are: " ++
    "start, end, start-half or end-half"
  | edgeOrCountUnclosed => "found either the beginning of a special word boundary or a bounded " ++
    "repetition on a \\b with an opening brace, but no closing brace"
  | namedClassLetter => "invalid Unicode character class"
  | backReference => "backreferences are not supported"
  | lookAround => "look-around, including look-ahead and look-behind, is not supported"
  | namedClassUnknown => "Unicode property not found"
  | notAscii => "Unicode not allowed here"
  | notText => "pattern can match invalid UTF-8"

end Flaw

structure Span where
  first : Nat
  stop : Nat
  deriving DecidableEq, Repr

structure Fault where
  flaw : Flaw
  span : Span
  earlier : Option Span := none
  deriving DecidableEq, Repr

namespace Fault

def placeOf (s : Text) (place : Nat) : Nat × Nat :=
  let before := lines (s.take place)
  (before.length - 1, (before.getLastD []).length)

def marks : Nat → List (Nat × Nat) → Text
  | _, [] => []
  | done, (first, stop) :: spans =>
    let width := max 1 (stop - first)
    List.replicate (first - done) ' ' ++ List.replicate width '^' ++
      marks (max done first + width) spans

def onLine (s : Text) (spans : List Span) (number : Nat) : List (Nat × Nat) :=
  spans.filterMap fun span =>
    let (line, first) := placeOf s span.first
    let (lastLine, stop) := placeOf s span.stop
    if line = number ∧ lastLine = number then some (first, stop) else none

def overLines (s : Text) (spans : List Span) : List Text :=
  spans.filterMap fun span =>
    let (line, first) := placeOf s span.first
    let (lastLine, stop) := placeOf s span.stop
    if line = lastLine then none
    else some (s!"on line {line + 1} (column {first + 1}) through line {lastLine + 1} " ++
      s!"(column {stop})").toList

def marked (s : Text) (spans : List Span) (rows : List Text) (front : Nat → Text) : List Text :=
  (rows.mapIdx fun i row =>
    let found := onLine s spans i
    (front i ++ row) :: if found.isEmpty then [] else
      [List.replicate (front i).length ' ' ++ marks 0 found]).flatten

def shown (s : Text) (f : Fault) : List Text :=
  let spans := f.earlier.toList ++ [f.span]
  let reason := ("error: " ++ f.flaw.message).toList
  let title := "regex parse error:".toList
  if s.contains '\n' then
    let rows := rows s
    let count := rows.length + if s.getLast? = some '\n' then 1 else 0
    let width := if count ≤ 1 then 0 else (toString count).length
    let rule := List.replicate 79 '~'
    let front (i : Nat) : Text :=
      if width = 0 then "    ".toList
      else
        let number := (toString (i + 1)).toList
        List.replicate (width - number.length) ' ' ++ number ++ ": ".toList
    [title, rule] ++ marked s spans rows front ++ [rule] ++ overLines s spans ++ [reason]
  else
    [title] ++ marked s spans [s] (fun _ => "    ".toList) ++ [reason]

end Fault

end DiagramReview.Expression
