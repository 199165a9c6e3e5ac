import DiagramReview.Editor.Position
import DiagramReview.Number.Bits
import DiagramReview.Text.Line
import DiagramReview.Text.Units
import DiagramReview.Validation.Finding

namespace DiagramReview

open Text

structure Diagnostic where
  first : Position
  last : Position
  severity : Severity
  category : Category
  message : String
  deriving DecidableEq, Repr

namespace Severity

def code : Severity → Nat
  | error => 1
  | warning => 2
  | info => 3

end Severity

namespace Diagnostic

def withoutReturns (line : Text) : Text := (line.reverse.dropWhile (· == '\r')).reverse

def lineIndex (f : Finding) : Nat := (f.line.getD 1) - 1

def lineWidth (s : Text) (index : Nat) : Nat :=
  ((lines s)[index]?.map fun line => length16 (withoutReturns line)).getD 0

/-- A finding marks the whole of its line. Line numbers and widths are written in 32 bits. -/
def ofFinding (s : Text) (severity : Severity) (f : Finding) : Diagnostic :=
  let index := lineIndex f
  { first := ⟨index % Bits.values 32, 0⟩
    last := ⟨index % Bits.values 32, lineWidth s index % Bits.values 32⟩
    severity := severity
    category := f.category
    message := match f.suggestion with
      | none => f.message
      | some suggestion => f.message ++ " (" ++ suggestion ++ ")" }

def ofFindings (s : Text) (found : Findings) : List Diagnostic :=
  found.bySeverity.map fun (severity, f) => ofFinding s severity f

def toJson (d : Diagnostic) : Json :=
  .object
    [("range", .object [("start", d.first.toJson), ("end", d.last.toJson)]),
     ("severity", .nat d.severity.code),
     ("code", .string d.category.name),
     ("source", .string "mermaid-check"),
     ("message", .string d.message)]

end Diagnostic

end DiagramReview
