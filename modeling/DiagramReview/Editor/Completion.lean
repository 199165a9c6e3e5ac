import DiagramReview.Editor.Position
import DiagramReview.Validation.Check

namespace DiagramReview

open Text

namespace Completion

def typed (s : Text) (p : Position) : Text :=
  trimLeft (((rows s)[p.line]?.getD []).take p.column)

def declarations (s : Text) (p : Position) : List String :=
  if (Kind.detect s).isSome then []
  else Check.declarations.filter ((typed s p).isPrefixOf ·.toList)

def itemJson (label : String) : Json :=
  .object ([("label", .string label), ("kind", .nat 14),
    ("detail", .string "Mermaid diagram declaration")] ++
    if "graph".toList.isPrefixOf label.toList then [("tags", .array [.nat 1])] else [])

end Completion

end DiagramReview
