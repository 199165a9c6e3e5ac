import DiagramReview.Json.Value

namespace DiagramReview.Json

def isSpace (c : Char) : Bool := c == ' ' || c == '\n' || c == '\r' || c == '\t'

def skipSpace (s : Text) : Text := s.dropWhile isSpace

def paired? (high low : Nat) : Option Char :=
  if 0xD800 ≤ high ∧ high < 0xDC00 ∧ 0xDC00 ≤ low ∧ low < 0xE000 then
    Text.scalar? (0x10000 + (high - 0xD800) * 0x400 + (low - 0xDC00))
  else none

def unescape? : Char → Option Char
  | '"' => some '"'
  | '\\' => some '\\'
  | '/' => some '/'
  | 'b' => some '\x08'
  | 'f' => some '\x0c'
  | 'n' => some '\n'
  | 'r' => some '\r'
  | 't' => some '\t'
  | _ => none

/-- The characters of a string up to its closing quote, and the text after it. The first half of a
pair of surrogates waits for the second. -/
def readString : Option Nat → Text → Option (Text × Text)
  | _, [] => none
  | high, '\\' :: 'u' :: a :: b :: c :: d :: rest => do
    let n ← Text.hexNumber? [a, b, c, d]
    if high.isNone && 0xD800 ≤ n && n < 0xDC00 then readString (some n) rest
    else
      let ch ← match high with
        | none => Text.scalar? n
        | some high => paired? high n
      let (chars, after) ← readString none rest
      return (ch :: chars, after)
  | some _, _ => none
  | none, '"' :: rest => some ([], rest)
  | none, '\\' :: c :: rest => do
    let ch ← unescape? c
    let (chars, after) ← readString none rest
    return (ch :: chars, after)
  | none, c :: rest =>
    if c.toNat < 32 || c == '\\' then none
    else do
      let (chars, after) ← readString none rest
      return (c :: chars, after)

def isNumeral (c : Char) : Bool := c.isDigit || "+-.eE".toList.contains c

def isWhole : Text → Bool
  | [] => false
  | ['0'] => true
  | '0' :: _ => false
  | digits => digits.all Char.isDigit

def isExponent : Text → Bool
  | [] => true
  | e :: '+' :: digits | e :: '-' :: digits =>
    (e == 'e' || e == 'E') && !digits.isEmpty && digits.all Char.isDigit
  | e :: digits => (e == 'e' || e == 'E') && !digits.isEmpty && digits.all Char.isDigit

def isFraction : Text → Bool
  | '.' :: rest => !(rest.takeWhile Char.isDigit).isEmpty && isExponent (rest.dropWhile Char.isDigit)
  | rest => isExponent rest

def number? (numeral : Text) : Option Json :=
  let body := match numeral with
    | '-' :: rest => rest
    | _ => numeral
  let whole := body.takeWhile Char.isDigit
  let rest := body.dropWhile Char.isDigit
  if !isWhole whole || !isFraction rest then none
  else if !rest.isEmpty || numeral = ['-', '0'] then some (decimal (String.ofList numeral))
  else if numeral.head? = some '-' then some (integer (-(Text.inBase 10 whole)))
  else some (integer (Text.inBase 10 whole))

mutual

def readValue : Nat → Text → Option (Json × Text)
  | 0, _ => none
  | steps + 1, s =>
    match skipSpace s with
    | 'n' :: 'u' :: 'l' :: 'l' :: rest => some (null, rest)
    | 't' :: 'r' :: 'u' :: 'e' :: rest => some (bool true, rest)
    | 'f' :: 'a' :: 'l' :: 's' :: 'e' :: rest => some (bool false, rest)
    | '"' :: rest => do
      let (chars, after) ← readString none rest
      return (string (String.ofList chars), after)
    | '[' :: rest =>
      match skipSpace rest with
      | ']' :: after => some (array [], after)
      | _ => do
        let (first, rest) ← readValue steps rest
        let (items, after) ← readItems steps rest
        return (array (first :: items), after)
    | '{' :: rest =>
      match skipSpace rest with
      | '}' :: after => some (object [], after)
      | _ => do
        let (first, rest) ← readMember steps rest
        let (members, after) ← readMembers steps rest
        return (object (first :: members), after)
    | rest => do
      let value ← number? (rest.takeWhile isNumeral)
      return (value, rest.dropWhile isNumeral)

def readItems : Nat → Text → Option (List Json × Text)
  | 0, _ => none
  | steps + 1, s =>
    match skipSpace s with
    | ']' :: after => some ([], after)
    | ',' :: rest => do
      let (item, rest) ← readValue steps rest
      let (items, after) ← readItems steps rest
      return (item :: items, after)
    | _ => none

def readMember : Nat → Text → Option ((String × Json) × Text)
  | 0, _ => none
  | steps + 1, s =>
    match skipSpace s with
    | '"' :: rest => do
      let (key, rest) ← readString none rest
      match skipSpace rest with
      | ':' :: rest =>
        let (value, after) ← readValue steps rest
        return ((String.ofList key, value), after)
      | _ => none
    | _ => none

def readMembers : Nat → Text → Option (List (String × Json) × Text)
  | 0, _ => none
  | steps + 1, s =>
    match skipSpace s with
    | '}' :: after => some ([], after)
    | ',' :: rest => do
      let (member, rest) ← readMember steps rest
      let (members, after) ← readMembers steps rest
      return (member :: members, after)
    | _ => none

end

/-- The value that a whole text writes. Every step reads a character or goes down a level, so a
few steps for each character suffice. -/
def parse? (s : Text) : Option Json := do
  let (value, rest) ← readValue (3 * s.length + 3) s
  if (skipSpace rest).isEmpty then some value else none

end DiagramReview.Json
