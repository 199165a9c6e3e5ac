import DiagramReview.Text.Digit

/-!
Labels of domain names in letters, digits and hyphens. The characters of ASCII come first; after a
hyphen follow the other ones, smallest first, each as the distance from the one before it, counted
over all places where it could stand. Distances are numbers in a base of thirty-six digits whose
last digit is recognised by its size.
-/

namespace DiagramReview.Punycode

open Text

def isAscii (c : Char) : Bool := c.toNat < 128

def digit (n : Nat) : Char := "abcdefghijklmnopqrstuvwxyz0123456789".toList.getD n 'a'

def digitValue? (c : Char) : Option Nat :=
  if c.isLower then some (c.toNat - 'a'.toNat)
  else if c.isUpper then some (c.toNat - 'A'.toNat)
  else if c.isDigit then some (c.toNat - '0'.toNat + 26)
  else none

def limit (bias place : Nat) : Nat := min 26 (max 1 (place - bias))

theorem one_le_limit (bias place : Nat) : 1 ≤ limit bias place := by
  unfold limit; omega

def biasOf (distance place : Nat) : Nat :=
  if distance ≤ 455 then place + 36 * distance / (distance + 38)
  else biasOf (distance / 35) (place + 36)
termination_by distance
decreasing_by omega

def adapt (first : Bool) (distance count : Nat) : Nat :=
  let d := if first then distance / 700 else distance / 2
  biasOf (d + d / count) 0

def distanceDigits (bias place distance : Nat) : Text :=
  if distance < limit bias place then [digit distance]
  else
    digit (limit bias place + (distance - limit bias place) % (36 - limit bias place)) ::
      distanceDigits bias (place + 36)
        ((distance - limit bias place) / (36 - limit bias place))
termination_by distance
decreasing_by
  have h := one_le_limit bias place
  exact Nat.lt_of_le_of_lt (Nat.div_le_self ..) (by omega)

structure Progress where
  distance : Nat := 0
  bias : Nat := 72
  written : Nat
  output : Text := []

def pass (basic n : Nat) (p : Progress) (c : Char) : Progress :=
  if c.toNat < n then { p with distance := p.distance + 1 }
  else if c.toNat = n then
    { distance := 0
      bias := adapt (p.written == basic) p.distance (p.written + 1)
      written := p.written + 1
      output := p.output ++ distanceDigits p.bias 36 p.distance }
  else p

/-- The characters at code points in increasing order are written, the last one was `n - 1`. -/
def writeAll (label : Text) (basic : Nat) : List Nat → Nat → Progress → Progress
  | [], _, p => p
  | m :: ms, n, p =>
    let p := { p with distance := p.distance + (m - n) * (p.written + 1) }
    let p := label.foldl (pass basic m) p
    writeAll label basic ms (m + 1) { p with distance := p.distance + 1 }

def codePoints (label : Text) : List Nat :=
  (((label.filter (!isAscii ·)).map Char.toNat).mergeSort (· ≤ ·)).eraseReps

def encode (label : Text) : Text :=
  let plain := label.filter isAscii
  let front := if plain.isEmpty then [] else plain ++ ['-']
  front ++ (writeAll label plain.length (codePoints label) 128 { written := plain.length }).output

def distance? (bias place weight : Nat) : Text → Option (Nat × Text)
  | [] => none
  | c :: rest =>
    match digitValue? c with
    | none => none
    | some n =>
      if n < limit bias place then some (n * weight, rest)
      else (distance? bias (place + 36) (weight * (36 - limit bias place)) rest).map
        fun (m, rest) => (n * weight + m, rest)

/-- The characters that the distances put into a label. Each distance takes at least one character
of the text, so as many steps as there are characters suffice. -/
def insertAll (label : Text) (n place bias : Nat) : Nat → Text → Option Text
  | _, [] => some label
  | 0, _ => none
  | steps + 1, s =>
    match distance? bias 36 1 s with
    | none => none
    | some (d, rest) =>
      let count := label.length + 1
      let next := n + (place + d) / count
      let index := (place + d) % count
      match scalar? next with
      | none => none
      | some c =>
        insertAll (label.insertIdx index c) next (index + 1) (adapt (place == 0) d count) steps rest

def decode? (s : Text) : Option Text :=
  let tail := (s.reverse.takeWhile (· != '-')).reverse
  let front := s.take (s.length - tail.length)
  if s.all isAscii then
    match front with
    | [] => insertAll [] 128 0 72 tail.length tail
    | ['-'] => none
    | front => insertAll front.dropLast 128 0 72 tail.length tail
  else none

end DiagramReview.Punycode
