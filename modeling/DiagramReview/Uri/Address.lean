import DiagramReview.Text.Digit
import DiagramReview.Text.Line

namespace DiagramReview.Address

open Text

/-- The numeral of a part: after `0x` it is hexadecimal, after another leading zero octal. -/
def numeral? (part : Text) : Option Nat :=
  let inDigits (base : Nat) (digits : Text) : Option Nat :=
    if digits.all fun c => (hexValue? c).any (· < base) then some (inBase base digits) else none
  match part with
  | [] => none
  | '0' :: 'x' :: digits | '0' :: 'X' :: digits => inDigits 16 digits
  | ['0'] => some 0
  | '0' :: digits => inDigits 8 digits
  | digits => inDigits 10 digits

def parts (s : Text) : List Text :=
  let parts := s.splitOn '.'
  if 1 < parts.length ∧ parts.getLast? = some [] then parts.dropLast else parts

def isNumeric (s : Text) : Bool :=
  (parts s).getLast?.any fun last =>
    (!last.isEmpty && last.all Char.isDigit) || (numeral? last).isSome

def bytes : Nat → Nat → List Nat
  | 0, _ => []
  | count + 1, n => bytes count (n / 256) ++ [n % 256]

def fourBytes? (s : Text) : Option (List Nat) := do
  let numbers ← (parts s).mapM numeral?
  let last ← numbers.getLast?
  let front := numbers.dropLast
  let left := 4 - front.length
  if front.length < 4 ∧ front.all (· < 256) ∧ last < Nat.pow 256 left then
    some (front ++ bytes left last)
  else none

def fourBytesText (address : List Nat) : Text :=
  ['.'].intercalate (address.map fun n => (toString n).toList)

def byte? (digits : Text) : Option Nat :=
  let isPadded := 1 < digits.length && digits.head? == some '0'
  if digits.isEmpty || !digits.all Char.isDigit || isPadded then none
  else if inBase 10 digits < 256 then some (inBase 10 digits)
  else none

def bytePieces? (group : Text) : Option (List Nat) :=
  match (group.splitOn '.').mapM byte? with
  | some [a, b, c, d] => some [256 * a + b, 256 * c + d]
  | _ => none

def piece? (group : Text) : Option Nat :=
  if group.isEmpty || 4 < group.length then none else hexNumber? group

def pieces? (mayEndInBytes : Bool) : List Text → Option (List Nat)
  | [] => some []
  | [last] =>
    match piece? last with
    | some n => some [n]
    | none => if mayEndInBytes then bytePieces? last else none
  | group :: rest => do return (← piece? group) :: (← pieces? mayEndInBytes rest)

def atGap? : Text → Option (Text × Text)
  | [] => none
  | ':' :: ':' :: rest => some ([], rest)
  | c :: rest => (atGap? rest).map fun (front, back) => (c :: front, back)

def groups (s : Text) : List Text := if s.isEmpty then [] else s.splitOn ':'

def eightPieces? (s : Text) : Option (List Nat) :=
  match atGap? s with
  | none => do
    let pieces ← pieces? true (s.splitOn ':')
    if pieces.length = 8 then some pieces else none
  | some (front, back) => do
    let front ← pieces? false (groups front)
    let back ← pieces? true (groups back)
    if front.length + back.length < 8 then
      some (front ++ List.replicate (8 - front.length - back.length) 0 ++ back)
    else none

def zeros (pieces : List Nat) : Nat := (pieces.takeWhile (· == 0)).length

def longestZeros : List Nat → Nat × Nat
  | [] => (0, 0)
  | piece :: pieces =>
    let (place, length) := longestZeros pieces
    let here := zeros (piece :: pieces)
    if length ≤ here then (0, here) else (place + 1, length)

def hexGroups (pieces : List Nat) : Text := [':'].intercalate (pieces.map (Nat.toDigits 16))

def eightPiecesText (pieces : List Nat) : Text :=
  let (place, length) := longestZeros pieces
  if length < 2 then hexGroups pieces
  else hexGroups (pieces.take place) ++ "::".toList ++ hexGroups (pieces.drop (place + length))

end DiagramReview.Address
