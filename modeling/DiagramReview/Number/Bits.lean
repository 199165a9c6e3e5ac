namespace DiagramReview.Bits

def values (bits : Nat) : Nat := Nat.pow 2 bits

def holds (bits : Nat) (n : Int) : Bool := 0 ≤ n && n < values bits

def holdsSigned (bits : Nat) (n : Int) : Bool :=
  -(values (bits - 1) : Int) ≤ n && n < values (bits - 1)

theorem values_pos (bits : Nat) : 0 < values bits := Nat.pow_pos (by decide)

end DiagramReview.Bits
