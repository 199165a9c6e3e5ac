import DiagramReview.Validation.Inspection

namespace DiagramReview

structure Verdict where
  valid : Bool
  kind : Option Kind
  complexity : Rating
  findings : Findings
  deriving DecidableEq, Repr

namespace Verdict

def complexityFindings (r : Rating) : Findings :=
  .ensure (r.level = .simple) (.warning
    { category := .complexity
      message := "Diagram complexity is " ++ r.level.name ++ " (score: " ++ toString r.score ++ ")"
      suggestion := some (if r.level = .complex
        then "Splitting the diagram is strongly recommended"
        else "Consider simplifying the diagram") })

def inspection (kind : Option Kind) (m : Metrics) (s : Text) : Findings :=
  .inspect s .empty (Aspect.structural ++ [.specific kind m])

def ofText (t : Thresholds) (s : Text) : Verdict :=
  let kind := Kind.detect s
  let m := Metrics.measureAny kind s
  let rating := t.rate (m.score kind)
  let findings := inspection kind m s ++ complexityFindings rating
  { valid := findings.isValid, kind := kind, complexity := rating, findings := findings }

def isValid (v : Verdict) : Bool := v.findings.isValid

end Verdict

end DiagramReview
