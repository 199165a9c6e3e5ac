import DiagramReview.Number.Binary64

namespace DiagramReview

inductive Level where
  | simple
  | moderate
  | complex
  deriving DecidableEq, Repr

namespace Level

def name : Level → String
  | simple => "simple"
  | moderate => "moderate"
  | complex => "complex"

def rank : Level → Nat
  | simple => 0
  | moderate => 1
  | complex => 2

instance : LE Level := ⟨fun a b => a.rank ≤ b.rank⟩

instance (a b : Level) : Decidable (a ≤ b) := inferInstanceAs (Decidable (a.rank ≤ b.rank))

end Level

/-- The scores from which a diagram is moderate and from which it is complex. The second should
be the greater; nothing demands it. -/
structure Thresholds where
  simple : UInt32 := 25
  moderate : UInt32 := 40
  deriving DecidableEq, Repr

namespace Thresholds

def inverted (t : Thresholds) : Bool := t.moderate ≤ t.simple

def classify (t : Thresholds) (score : Binary64) : Level :=
  if score.below t.simple.toNat then .simple
  else if score.below t.moderate.toNat then .moderate
  else .complex

end Thresholds

end DiagramReview
