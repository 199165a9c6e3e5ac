import DiagramReview.Complexity.Advice

namespace DiagramReview

structure Analysis where
  kind : Option Kind
  metrics : Metrics
  complexity : Rating
  thresholds : Thresholds
  recommendations : List Recommendation
  deriving DecidableEq, Repr

namespace Analysis

def ofKind (t : Thresholds) (kind : Kind) (s : Text) : Analysis :=
  let m := Metrics.measure kind s
  let raw := m.score kind
  { kind := kind
    metrics := m
    complexity := t.rate raw
    thresholds := t
    recommendations := m.advice kind t raw }

def ofText? (t : Thresholds) (s : Text) : Option Analysis :=
  (Kind.detect s).map fun kind => ofKind t kind s

def undetected : String := "Could not detect the diagram type"

end Analysis

inductive Report where
  | analysed (valid : Bool) (analysis : Analysis)
  | undetected (valid : Bool) (error : String)
  deriving DecidableEq, Repr

namespace Report

def ofText (t : Thresholds) (s : Text) : Report :=
  match Analysis.ofText? t s with
  | some found => .analysed true found
  | none => .undetected false Analysis.undetected

end Report

end DiagramReview
