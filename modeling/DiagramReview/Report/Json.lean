import DiagramReview.Complexity.Analysis
import DiagramReview.Json.Value
import DiagramReview.Validation.Verdict

namespace DiagramReview

open Json

def kindJson (kind : Option Kind) : Json := .string (Kind.nameOf kind)

namespace Metrics

def toJson (m : Metrics) : Json := .object (m.entries.map fun (name, n) => (name, .nat n))

end Metrics

namespace Recommendation

def toJson (r : Recommendation) : Json :=
  .object ([("type", .string r.tone.name), ("message", .string r.message)] ++
    optional "action" (r.action.map .string))

end Recommendation

namespace Thresholds

def toJson (t : Thresholds) : Json :=
  .object [("simple", .nat t.simple.toNat), ("moderate", .nat t.moderate.toNat)]

end Thresholds

namespace Analysis

def members (a : Analysis) : List (String × Json) :=
  [("diagramType", kindJson a.kind),
   ("metrics", a.metrics.toJson),
   ("complexity", .object
     [("score", .nat a.complexity.score),
      ("level", .string a.complexity.level.name),
      ("threshold", a.thresholds.toJson)]),
   ("recommendations", .array (a.recommendations.map Recommendation.toJson))]

end Analysis

namespace Report

def toJson : Report → Json
  | analysed valid found => .object (("valid", .bool valid) :: found.members)
  | undetected valid error => .object [("valid", .bool valid), ("error", .string error)]

end Report

namespace Finding

def toJson (f : Finding) : Json :=
  .object ([("type", .string f.category.name), ("message", .string f.message)] ++
    optional "line" (f.line.map .nat) ++ optional "content" (f.content.map .string) ++
    optional "suggestion" (f.suggestion.map .string) ++
    optional "expected" (f.expected.map .string))

end Finding

namespace Verdict

def toJson (v : Verdict) : Json :=
  .object
    [("valid", .bool v.valid),
     ("diagramType", kindJson v.kind),
     ("complexity", .object
       [("score", .nat v.complexity.score), ("level", .string v.complexity.level.name)]),
     ("errors", .array (v.findings.errors.map Finding.toJson)),
     ("warnings", .array (v.findings.warnings.map Finding.toJson)),
     ("info", .array (v.findings.infos.map Finding.toJson))]

end Verdict

end DiagramReview
