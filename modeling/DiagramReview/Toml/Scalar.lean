import DiagramReview.Text.Digit
import DiagramReview.Toml.Value

namespace DiagramReview.Toml

def digits? (isDigit : Char → Bool) : Text → Option Text
  | [] => none
  | [c] => if isDigit c then some [c] else none
  | c :: '_' :: d :: rest =>
    if isDigit c && isDigit d then (digits? isDigit (d :: rest)).map (c :: ·) else none
  | c :: rest => if isDigit c then (digits? isDigit rest).map (c :: ·) else none

def isHexDigit (c : Char) : Bool := (Text.hexValue? c).isSome

def isOctalDigit (c : Char) : Bool := '0' ≤ c && c ≤ '7'

def isBinaryDigit (c : Char) : Bool := c == '0' || c == '1'

def inRange (n : Int) : Option Toml := if Bits.holdsSigned 64 n then some (.integer n) else none

def signed : Text → Bool × Text
  | '+' :: rest => (false, rest)
  | '-' :: rest => (true, rest)
  | rest => (false, rest)

def whole? (s : Text) : Option Text := do
  let digits ← digits? Char.isDigit s
  if digits.length > 1 && digits.head? == some '0' then none else some digits

def integer? (s : Text) : Option Toml :=
  match s with
  | '0' :: 'x' :: rest => do inRange (Text.inBase 16 (← digits? isHexDigit rest))
  | '0' :: 'o' :: rest => do inRange (Text.inBase 8 (← digits? isOctalDigit rest))
  | '0' :: 'b' :: rest => do inRange (Text.inBase 2 (← digits? isBinaryDigit rest))
  | _ => do
    let (negative, rest) := signed s
    let n : Int := Text.inBase 10 (← whole? rest)
    inRange (if negative then -n else n)

/-- The double nearest to `digits · 10^exponent`, if it is finite. Exponents far out of reach are
not computed. -/
def decimalFloat? (negative : Bool) (digits : Nat) (places : Nat) (exponent : Int) : Option Toml :=
  let e := exponent - places
  let size : Int := (Nat.toDigits 10 digits).length
  let units :=
    if digits = 0 ∨ size + e < -400 then some 0
    else if 400 < size + e then none
    else if 0 ≤ e then some (Binary64.ofRatio (digits * Nat.pow 10 e.toNat) 1)
    else some (Binary64.ofRatio digits (Nat.pow 10 (-e).toNat))
  match units.map (Binary64.ofUnits negative) with
  | some (.finite sign u) => some (.float (.finite sign u))
  | _ => none

def exponent? : Text → Option Int
  | [] => some 0
  | c :: rest =>
    if c == 'e' || c == 'E' then do
      let (negative, digits) := signed rest
      let n : Int := Text.inBase 10 (← digits? Char.isDigit digits)
      return if negative then -n else n
    else none

def isExponentMark (c : Char) : Bool := c == 'e' || c == 'E'

def float? (s : Text) : Option Toml :=
  let (negative, rest) := signed s
  if rest = "inf".toList then some (.float (.infinite negative))
  else if rest = "nan".toList then some (.float .nan)
  else
    let front := rest.takeWhile fun c => c != '.' && !isExponentMark c
    match rest.dropWhile fun c => c != '.' && !isExponentMark c with
    | [] => none
    | '.' :: after => do
      let digits ← whole? front
      let places ← digits? Char.isDigit (after.takeWhile (!isExponentMark ·))
      let e ← exponent? (after.dropWhile (!isExponentMark ·))
      decimalFloat? negative (Text.inBase 10 (digits ++ places)) places.length e
    | after => do
      let digits ← whole? front
      decimalFloat? negative (Text.inBase 10 digits) 0 (← exponent? after)

def fixed? (count : Nat) (s : Text) : Option (Nat × Text) :=
  let front := s.take count
  if front.length = count && front.all Char.isDigit then some (Text.inBase 10 front, s.drop count)
  else none

def expect? (c : Char) : Text → Option Text
  | d :: rest => if c = d then some rest else none
  | [] => none

def daysIn (year month : Nat) : Nat :=
  match month with
  | 2 => if year % 4 = 0 ∧ (year % 100 ≠ 0 ∨ year % 400 = 0) then 29 else 28
  | 4 | 6 | 9 | 11 => 30
  | _ => 31

def afterDate? (s : Text) : Option Text := do
  let (year, s) ← fixed? 4 s
  let (month, s) ← fixed? 2 (← expect? '-' s)
  let (day, s) ← fixed? 2 (← expect? '-' s)
  if 1 ≤ month ∧ month ≤ 12 ∧ 1 ≤ day ∧ day ≤ daysIn year month then some s else none

def afterTime? (s : Text) : Option Text := do
  let (hour, s) ← fixed? 2 s
  let (minute, s) ← fixed? 2 (← expect? ':' s)
  if 23 < hour || 59 < minute then none
  match s with
  | ':' :: rest =>
    let (second, s) ← fixed? 2 rest
    if 60 < second then none
    match s with
    | '.' :: places =>
      if (places.takeWhile Char.isDigit).isEmpty then none
      else some (places.dropWhile Char.isDigit)
    | _ => some s
  | _ => some s

def isOffset : Text → Bool
  | [] | ['Z'] | ['z'] => true
  | c :: rest => (c == '+' || c == '-') && ((do
      let (hour, s) ← fixed? 2 rest
      let (minute, s) ← fixed? 2 (← expect? ':' s)
      if hour ≤ 23 ∧ minute ≤ 59 ∧ s = [] then some () else none) : Option Unit).isSome

def moment? (s : Text) : Option Toml :=
  match afterDate? s with
  | some [] => some .moment
  | some (c :: rest) =>
    if c == 'T' || c == 't' || c == ' ' then
      match afterTime? rest with
      | some offset => if isOffset offset then some .moment else none
      | none => none
    else none
  | none => if afterTime? s = some [] then some .moment else none

def isScalarChar (c : Char) : Bool := c.isAlphanum || "+-_.:".toList.contains c

/-- The characters of the scalar at the front and the rest; a blank may stand between a date and
a time. -/
def scalarSpan (s : Text) : Text × Text :=
  let front := s.takeWhile isScalarChar
  match s.dropWhile isScalarChar with
  | ' ' :: c :: rest =>
    if afterDate? front = some [] && c.isDigit then
      (front ++ ' ' :: (c :: rest).takeWhile isScalarChar, (c :: rest).dropWhile isScalarChar)
    else (front, ' ' :: c :: rest)
  | rest => (front, rest)

def scalar? (s : Text) : Option Toml :=
  if s = "true".toList then some (.boolean true)
  else if s = "false".toList then some (.boolean false)
  else (integer? s).orElse fun _ => (float? s).orElse fun _ => moment? s

def isPlain (c : Char) : Bool := c == '\t' || (32 ≤ c.toNat && c.toNat != 127)

def literal? : Text → Option (Text × Text)
  | [] => none
  | '\'' :: rest => some ([], rest)
  | c :: rest =>
    if isPlain c then (literal? rest).map fun (cs, after) => (c :: cs, after) else none

def escaped? : Char → Option Char
  | 'b' => some '\x08'
  | 't' => some '\t'
  | 'n' => some '\n'
  | 'f' => some '\x0c'
  | 'r' => some '\r'
  | 'e' => some '\x1b'
  | '"' => some '"'
  | '\\' => some '\\'
  | _ => none

def numbered? (digits : Text) : Option Char := do Text.scalar? (← Text.hexNumber? digits)

def basic? : Text → Option (Text × Text)
  | [] => none
  | '"' :: rest => some ([], rest)
  | '\\' :: 'x' :: a :: b :: rest => do
    let c ← numbered? [a, b]
    (basic? rest).map fun (cs, after) => (c :: cs, after)
  | '\\' :: 'u' :: a :: b :: c :: d :: rest => do
    let ch ← numbered? [a, b, c, d]
    (basic? rest).map fun (cs, after) => (ch :: cs, after)
  | '\\' :: 'U' :: a :: b :: c :: d :: e :: f :: g :: h :: rest => do
    let ch ← numbered? [a, b, c, d, e, f, g, h]
    (basic? rest).map fun (cs, after) => (ch :: cs, after)
  | '\\' :: c :: rest => do
    let ch ← escaped? c
    (basic? rest).map fun (cs, after) => (ch :: cs, after)
  | c :: rest =>
    if isPlain c then (basic? rest).map fun (cs, after) => (c :: cs, after) else none

/-- The end of a string over several lines: three quotes, and up to two more before them that
belong to the string. -/
def closing? (quote : Char) (s : Text) : Option (Text × Text) :=
  let run := (s.takeWhile (· == quote)).length
  if run < 3 then none
  else some (List.replicate (min run 5 - 3) quote, s.drop (min run 5))

def longLiteral? : Text → Option (Text × Text)
  | [] => none
  | '\r' :: '\n' :: rest => (longLiteral? rest).map fun (cs, after) => ('\n' :: cs, after)
  | c :: rest =>
    match closing? '\'' (c :: rest) with
    | some found => some found
    | none =>
      if isPlain c || c == '\n' then (longLiteral? rest).map fun (cs, after) => (c :: cs, after)
      else none

def skippedBlanks : Text → Nat
  | '\r' :: '\n' :: rest => skippedBlanks rest + 2
  | c :: rest => if c == ' ' || c == '\t' || c == '\n' then skippedBlanks rest + 1 else 0
  | [] => 0

def endsLine (s : Text) : Bool :=
  match s.dropWhile fun c => c == ' ' || c == '\t' with
  | '\n' :: _ => true
  | '\r' :: '\n' :: _ => true
  | _ => false

def longBasic? : Nat → Text → Option (Text × Text)
  | _, [] => none
  | skip + 1, _ :: rest => longBasic? skip rest
  | 0, '\r' :: '\n' :: rest => (longBasic? 0 rest).map fun (cs, after) => ('\n' :: cs, after)
  | 0, '\\' :: 'x' :: a :: b :: rest => do
    let c ← numbered? [a, b]
    (longBasic? 0 rest).map fun (cs, after) => (c :: cs, after)
  | 0, '\\' :: 'u' :: a :: b :: c :: d :: rest => do
    let ch ← numbered? [a, b, c, d]
    (longBasic? 0 rest).map fun (cs, after) => (ch :: cs, after)
  | 0, '\\' :: 'U' :: a :: b :: c :: d :: e :: f :: g :: h :: rest => do
    let ch ← numbered? [a, b, c, d, e, f, g, h]
    (longBasic? 0 rest).map fun (cs, after) => (ch :: cs, after)
  | 0, '\\' :: c :: rest =>
    if endsLine (c :: rest) then longBasic? (skippedBlanks (c :: rest)) (c :: rest)
    else do
      let ch ← escaped? c
      (longBasic? 0 rest).map fun (cs, after) => (ch :: cs, after)
  | 0, c :: rest =>
    match closing? '"' (c :: rest) with
    | some found => some found
    | none =>
      if isPlain c || c == '\n' then (longBasic? 0 rest).map fun (cs, after) => (c :: cs, after)
      else none

def dropFirstNewline : Text → Text
  | '\n' :: rest => rest
  | '\r' :: '\n' :: rest => rest
  | rest => rest

def shortString? : Text → Option (Text × Text)
  | '"' :: rest => basic? rest
  | '\'' :: rest => literal? rest
  | _ => none

def string? : Text → Option (Text × Text)
  | '"' :: '"' :: '"' :: rest => longBasic? 0 (dropFirstNewline rest)
  | '\'' :: '\'' :: '\'' :: rest => longLiteral? (dropFirstNewline rest)
  | s => shortString? s

end DiagramReview.Toml
