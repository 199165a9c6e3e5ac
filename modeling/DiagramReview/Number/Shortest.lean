import DiagramReview.Number.Binary64

/-!
The shortest decimal text of a double: the fewest digits that round to it, of those the nearest,
written without an exponent.
-/

namespace DiagramReview.Binary64

def halfGaps (units : Nat) : Nat × Nat :=
  let p := lastPlace units
  (if units = Nat.pow 2 (52 + p) ∧ 0 < p then Nat.pow 2 p else 2 * Nat.pow 2 p, 2 * Nat.pow 2 p)

/-- Is `n / d`, in quarters of a unit, rounded to the given number of units? The ends of the
interval are, if the last place is even. -/
def roundsTo (units n d : Nat) : Bool :=
  let (below, above) := halfGaps units
  let even := units / Nat.pow 2 (lastPlace units) % 2 = 0
  let low := (4 * units - below) * d
  let high := (4 * units + above) * d
  if even then low ≤ n && n ≤ high else low < n && n < high

def leadingPower (units : Nat) : Int :=
  if one ≤ units then (Nat.toDigits 10 (units / one)).length - 1
  else -(((List.range 324).find? fun j => one ≤ units * Nat.pow 10 (j + 1)).getD 323 + 1)

def onGrid? (units : Nat) (k : Int) : Option Nat :=
  let (n, d) := if 0 ≤ k then (units, one * Nat.pow 10 k.toNat)
    else (units * Nat.pow 10 (-k).toNat, one)
  let near := (2 * n + d) / (2 * d)
  let other := if near * d ≤ n then near + 1 else near - 1
  let fits (c : Nat) : Bool :=
    if 0 ≤ k then roundsTo units (4 * c * Nat.pow 10 k.toNat * one) 1
    else roundsTo units (4 * c * one) (Nat.pow 10 (-k).toNat)
  [near, other].find? fits

/-- The digits and the power of ten of the last one. The first grid tried is one step of ten coarser
than the value, for what rounds up to the next power of ten. -/
def shortestDigits (units : Nat) : Nat × Int :=
  let e := leadingPower units
  let grids := (List.range 18).map fun (i : Nat) => e + 1 - (i : Int)
  (grids.findSome? fun k => (onGrid? units k).map (·, k)).getD (0, 0)

def positional (c : Nat) (k : Int) : String :=
  if 0 ≤ k then toString (c * Nat.pow 10 k.toNat) ++ ".0"
  else
    let places := (-k).toNat
    let digits := toString (c % Nat.pow 10 places)
    toString (c / Nat.pow 10 places) ++ "." ++ "".pushn '0' (places - digits.length) ++ digits

def shortest : Binary64 → String
  | nan => "NaN"
  | infinite negative => (if negative then "-" else "") ++ "inf"
  | finite negative units =>
    (if negative then "-" else "") ++
      if units = 0 then "0.0" else
        let (c, k) := shortestDigits units
        positional c k

end DiagramReview.Binary64
