import DiagramReview.Number.Bits

/-!
Double-precision numbers, held exactly. The least positive double is the unit: every finite double
is a whole number of units, and a result is rounded to the nearest double, a tie going to the one
whose last place is even.
-/

namespace DiagramReview

/-- The nearest whole number to a quotient; of two equally near, the even one. -/
def roundDiv (n d : Nat) : Nat :=
  let q := n / d
  if 2 * (n % d) < d then q
  else if d < 2 * (n % d) then q + 1
  else if q % 2 = 0 then q else q + 1

/-- A double-precision number. -/
inductive Binary64 where
  | nan
  | infinite (negative : Bool)
  | finite (negative : Bool) (units : Nat)
  deriving DecidableEq, Repr

namespace Binary64

def one : Nat := Nat.pow 2 1074

def lastPlace (units : Nat) : Nat := units.log2 - 52

def nearest (n d : Nat) : Nat :=
  let p := lastPlace (n / d)
  roundDiv n (d * Nat.pow 2 p) * Nat.pow 2 p

def ofRatio (n d : Nat) : Nat := nearest (n * one) d

def ofNat (n : Nat) : Nat := ofRatio n 1

def add (a b : Nat) : Nat := nearest (a + b) 1

def mul (a b : Nat) : Nat := nearest (a * b) one

def ofUnits (negative : Bool) (units : Nat) : Binary64 :=
  if units < Nat.pow 2 2098 then finite negative units else infinite negative

def below (n : Nat) : Binary64 → Bool
  | nan => false
  | infinite negative => negative
  | finite false units => units < n * one
  | finite true units => 0 < units || 0 < n

def toNat : Binary64 → Nat
  | nan => 0
  | infinite negative => if negative then 0 else Bits.values 64 - 1
  | finite true _ => 0
  | finite false units => min ((2 * units + one) / (2 * one)) (Bits.values 64 - 1)

def oneDecimal : Binary64 → String
  | nan => "NaN"
  | infinite negative => sign negative ++ "inf"
  | finite negative units =>
    let tenths := roundDiv (10 * units) one
    sign negative ++ toString (tenths / 10) ++ "." ++ toString (tenths % 10)
where
  sign (negative : Bool) : String := if negative then "-" else ""

end Binary64

end DiagramReview
