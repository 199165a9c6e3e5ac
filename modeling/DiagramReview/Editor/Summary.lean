import DiagramReview.Complexity.Analysis

namespace DiagramReview

namespace Analysis

def markdown (a : Analysis) : String :=
  let counters := a.metrics.entries.filter fun (_, n) => n != 0
  "**" ++ Kind.nameOf a.kind ++ "** diagram\n\n**Complexity:** " ++ toString a.complexity.score ++
    " (" ++ a.complexity.level.name ++ ")" ++
    (if counters.isEmpty then "" else "\n\n**Metrics:**") ++
    String.join (counters.map fun (name, n) => "\n- " ++ name ++ ": " ++ toString n)

def summary? (t : Thresholds) (s : Text) : Option String := (ofText? t s).map markdown

end Analysis

end DiagramReview
