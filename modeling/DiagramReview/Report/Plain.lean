import DiagramReview.Complexity.Analysis
import DiagramReview.Validation.Verdict

namespace DiagramReview

def endLines (lines : List String) : String := String.join (lines.map (· ++ "\n"))

def capitalised (name : String) : String :=
  match name.toList with
  | [] => ""
  | c :: cs => String.ofList (c.toUpper :: cs)

namespace Recommendation

def mark : Tone → String
  | .success => "[ok]"
  | .warning => "[warn]"
  | .error => "[error]"
  | .suggestion => "[hint]"

def plainLines (r : Recommendation) : List String :=
  ("  " ++ mark r.tone ++ " " ++ r.message) :: (r.action.map ("     -> " ++ ·)).toList

end Recommendation

namespace Analysis

def metricLines (m : Metrics) : List String :=
  (m.entries.filter fun (name, n) => name == Counter.elements.name || n != 0).map
    fun (name, n) => "  " ++ capitalised name ++ ": " ++ toString n

def plainLines (a : Analysis) (file : String) : List String :=
  ["", "=== Mermaid Complexity Analysis ===", "",
    "File: " ++ file,
    "Diagram Type: " ++ Kind.nameOf a.kind,
    "", "Metrics:"] ++
  metricLines a.metrics ++
  ["", "Complexity:",
    "  Score: " ++ toString a.complexity.score,
    "  Level: " ++ a.complexity.level.name.toUpper,
    "  Thresholds: Simple < " ++ toString a.thresholds.simple ++ ", Moderate < " ++
      toString a.thresholds.moderate,
    "", "Recommendations:"] ++
  a.recommendations.flatMap Recommendation.plainLines

def plain (a : Analysis) (file : String) : String := endLines (a.plainLines file)

end Analysis

namespace Finding

def headLine (number : Nat) (f : Finding) : String :=
  "  " ++ toString number ++ ". [" ++ f.category.name ++ "] " ++ f.message

def detailLines (f : Finding) : List String :=
  (f.line.map fun n => "     Line: " ++ toString n).toList ++
  (f.content.map ("     Content: " ++ ·)).toList ++
  (f.expected.map ("     Expected: " ++ ·)).toList ++
  (f.suggestion.map ("     Suggestion: " ++ ·)).toList

end Finding

namespace Verdict

def listing (title : String) (detailed : Bool) : List Finding → List String
  | [] => []
  | findings =>
    (title ++ ":") ::
      (findings.mapIdx fun i f =>
        f.headLine (i + 1) :: if detailed then f.detailLines else []).flatten ++ [""]

def plainLines (v : Verdict) (file : String) : List String :=
  ["", "=== Mermaid Diagram Validation ===", "",
    "File: " ++ file,
    "Diagram Type: " ++ Kind.nameOf v.kind,
    "Complexity: " ++ v.complexity.level.name ++ " (score: " ++ toString v.complexity.score ++ ")",
    "Status: " ++ (if v.valid then "VALID" else "INVALID"),
    ""] ++
  listing "ERRORS" true v.findings.errors ++
  listing "WARNINGS" true v.findings.warnings ++
  listing "INFO" false v.findings.infos ++
  if v.valid && v.findings.warnings.isEmpty then
    ["Validation passed: all checks succeeded."]
  else []

def plain (v : Verdict) (file : String) : String := endLines (v.plainLines file)

end Verdict

end DiagramReview
