import DiagramReview.Complexity.Analysis
import DiagramReview.Validation.Verdict

namespace DiagramReview

inductive LogLevel where
  | error
  | warn
  | info
  | debug
  | trace
  deriving DecidableEq, Repr

namespace LogLevel

def name : LogLevel → String
  | error => "ERROR"
  | warn => "WARN"
  | info => "INFO"
  | debug => "DEBUG"
  | trace => "TRACE"

def all : List LogLevel := [error, warn, info, debug, trace]

def rank : LogLevel → Nat
  | error => 1
  | warn => 2
  | info => 3
  | debug => 4
  | trace => 5

end LogLevel

inductive LogSource where
  | config
  | metrics
  | complexity
  | validation
  | server
  deriving DecidableEq, Repr

namespace LogSource

def path : LogSource → String
  | config => "mermaid_check::config"
  | metrics => "mermaid_check::diagram::metrics"
  | complexity => "mermaid_check::complexity"
  | validation => "mermaid_check::validation::engine"
  | server => "mermaid_check::lsp::server"

end LogSource

structure LogRecord where
  level : LogLevel
  source : LogSource
  message : String
  deriving DecidableEq, Repr

namespace LogRecord

def indented (message : String) : String :=
  String.ofList (message.toList.flatMap fun c => if c = '\n' then "\n    ".toList else [c])

def line (r : LogRecord) : String :=
  "[" ++ r.level.name.pushn ' ' (5 - r.level.name.length) ++ " " ++ r.source.path ++ "] " ++
    indented r.message

end LogRecord

namespace Metrics

def note (m : Metrics) : String :=
  "MetricSet \x7b " ++
    ", ".intercalate (m.entries.map fun (name, n) => name ++ ": " ++ toString n) ++ " \x7d"

def record (m : Metrics) (kind : Option Kind) : LogRecord :=
  ⟨.debug, .metrics, "extracted " ++ Kind.nameOf kind ++ " metrics: " ++ m.note⟩

end Metrics

namespace Analysis

def records (t : Thresholds) (s : Text) : List LogRecord :=
  match ofText? t s with
  | none => [⟨.debug, .complexity, "complexity check skipped: no diagram declaration"⟩]
  | some a =>
    [a.metrics.record a.kind,
      ⟨.debug, .complexity, Kind.nameOf a.kind ++ " diagram scored " ++ a.complexity.raw.oneDecimal ++
        " (" ++ a.complexity.level.name ++ ")"⟩]

end Analysis

namespace Verdict

def records (t : Thresholds) (s : Text) : List LogRecord :=
  let v := ofText t s
  [(Metrics.measureAny v.kind s).record v.kind,
    ⟨.debug, .validation, "validated " ++ Kind.nameOf v.kind ++ " diagram: " ++
      toString v.findings.errors.length ++ " errors, " ++
      toString v.findings.warnings.length ++ " warnings, " ++
      toString v.findings.infos.length ++ " info"⟩]

end Verdict

end DiagramReview
