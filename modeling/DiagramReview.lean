import DiagramReview.Main
import DiagramReview.Proofs.Server.DocumentEvent
import DiagramReview.Proofs.Report.Json
import DiagramReview.Proofs.Server.Synchrony
import DiagramReview.Proofs.Text.Trim
import DiagramReview.Proofs.Validation.Inspection
import DiagramReview.Proofs.Validation.Findings
import DiagramReview.Proofs.Validation.Declaration
import DiagramReview.Proofs.Validation.Validity
import DiagramReview.Proofs.Validation.Agreement
import DiagramReview.Proofs.Text.LineEnd
import DiagramReview.Proofs.Text.Match
import DiagramReview.Proofs.Complexity.LineEnd
import DiagramReview.Proofs.Validation.LineEnd
import DiagramReview.Proofs.Editor.Range
import DiagramReview.Proofs.Settings.Layers
import DiagramReview.Proofs.Validation.Locality
import DiagramReview.Proofs.Validation.Insertion
import DiagramReview.Proofs.Validation.ForeignComment
import DiagramReview.Proofs.Command.Exit
import DiagramReview.Proofs.Diagram.Nesting
import DiagramReview.Proofs.Complexity.Growth
import DiagramReview.Proofs.Editor.Completion
import DiagramReview.Proofs.Diagram.Messages
import DiagramReview.Proofs.Diagram.Declarations
import DiagramReview.Proofs.Diagram.Additivity
import DiagramReview.Proofs.Text.Front
import DiagramReview.Proofs.Diagram.Document
import DiagramReview.Proofs.Text.Run
import DiagramReview.Proofs.Diagram.Edges
import DiagramReview.Proofs.Diagram.Nodes
import DiagramReview.Proofs.Diagram.MessageLines
import DiagramReview.Proofs.Diagram.LinkLines
import DiagramReview.Proofs.Diagram.ClassLines
import DiagramReview.Proofs.Validation.Label
import DiagramReview.Proofs.Complexity.Limits
import DiagramReview.Proofs.Complexity.ExactSum
import DiagramReview.Proofs.Validation.QuotedLabel
import DiagramReview.Proofs.Validation.Arrow
import DiagramReview.Proofs.Report.Plain
import DiagramReview.Proofs.Text.Token
import DiagramReview.Proofs.Diagram.Tokens
