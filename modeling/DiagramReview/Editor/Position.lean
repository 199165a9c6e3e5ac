import DiagramReview.Json.Value

namespace DiagramReview

structure Position where
  line : Nat
  column : Nat
  deriving DecidableEq, Repr

namespace Position

def toJson (p : Position) : Json :=
  .object [("line", .nat p.line), ("character", .nat p.column)]

end Position

end DiagramReview
