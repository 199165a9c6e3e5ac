import DiagramReview.Complexity.Level
import DiagramReview.Diagram.Metrics

namespace DiagramReview

/-- A weight in tenths. -/
structure Weight where
  counter : Counter
  tenths : Nat
  deriving DecidableEq, Repr

namespace Kind

def weights : Kind → List Weight
  | classes => [⟨.elements, 10⟩, ⟨.attributes, 3⟩, ⟨.methods, 3⟩, ⟨.relationships, 5⟩]
  | sequence => [⟨.elements, 20⟩, ⟨.relationships, 10⟩, ⟨.nesting, 50⟩, ⟨.branches, 30⟩]
  | state | oldState => [⟨.elements, 15⟩, ⟨.relationships, 10⟩, ⟨.nesting, 50⟩]
  | entities => [⟨.elements, 15⟩, ⟨.attributes, 3⟩, ⟨.relationships, 10⟩]
  | flowchart | graph =>
    [⟨.elements, 10⟩, ⟨.relationships, 8⟩, ⟨.subgraphs, 30⟩, ⟨.branches, 20⟩]

end Kind

namespace Metrics

def weighed (m : Metrics) (w : Weight) : Nat :=
  Binary64.mul (Binary64.ofNat (m.get w.counter)) (Binary64.ofRatio w.tenths 10)

def scoreUnits (m : Metrics) (kind : Kind) : Nat :=
  kind.weights.foldl (fun sum w => Binary64.add sum (m.weighed w)) 0

def score (m : Metrics) : Option Kind → Binary64
  | none => .finite false 0
  | some kind => .ofUnits false (m.scoreUnits kind)

end Metrics

structure Rating where
  score : Nat
  level : Level
  raw : Binary64
  deriving DecidableEq, Repr

/-- The rating of a raw score. The level follows the score before it is rounded. -/
def Thresholds.rate (t : Thresholds) (raw : Binary64) : Rating :=
  { score := raw.toNat, level := t.classify raw, raw := raw }

end DiagramReview
