import DiagramReview.Text.Digit

namespace DiagramReview.Percent

open Text

def ofByte (b : UInt8) : Text :=
  ['%', (hexDigit (b.toNat / 16)).toUpper, (hexDigit (b.toNat % 16)).toUpper]

def bytesOf (c : Char) : List UInt8 := (String.singleton c).toUTF8.toList

def encode (isPlain : Char → Bool) (s : Text) : Text :=
  s.flatMap fun c => if isPlain c then [c] else (bytesOf c).flatMap ofByte

def bytes : Text → List UInt8
  | '%' :: a :: b :: rest =>
    match hexNumber? [a, b] with
    | some n => UInt8.ofNat n :: bytes rest
    | none => bytesOf '%' ++ bytes (a :: b :: rest)
  | c :: rest => bytesOf c ++ bytes rest
  | [] => []

def decode? (s : Text) : Option Text :=
  (String.fromUTF8? (ByteArray.mk (bytes s).toArray)).map String.toList

def isPrintable (c : Char) : Bool := 0x20 ≤ c.toNat && c.toNat < 0x7F

def isPrintableBut (others : String) (c : Char) : Bool := isPrintable c && !others.toList.contains c

def isPlainInFragment : Char → Bool := isPrintableBut " \"<>`"

def isPlainInPath : Char → Bool := isPrintableBut " \"<>`#?\x7b\x7d"

def isPlainInUser : Char → Bool := isPrintableBut " \"<>`#?\x7b\x7d/:;=@[\\]^|"

def isPlainInQuery : Char → Bool := isPrintableBut " \"<>#"

def isPlainInWebQuery : Char → Bool := isPrintableBut " \"<>#'"

end DiagramReview.Percent
