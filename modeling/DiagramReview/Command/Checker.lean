import DiagramReview.Command.Arguments
import DiagramReview.Log.Filter
import DiagramReview.Report.Json
import DiagramReview.Report.Plain

namespace DiagramReview

/-- What a program finds when it starts: `here` is the working directory, if it can be told, and
`home` the directory for the settings of a user. -/
structure Host where
  files : Files
  input : Except ReadError Text
  here : Option String
  home : Option String

/-- What a program leaves behind. Usage errors are explained in words that are not fixed. -/
structure Outcome where
  exit : Nat
  output : String := ""
  errors : Option (List String)
  deriving DecidableEq, Repr

namespace Checker

def failure (message : String) : String := "Error: " ++ message

def nowhere : String := "Failed to determine working directory"

def displayName (file : String) : String := if Path.isInput file then "<stdin>" else file

def readInput (host : Host) (file : String) : Except String Text :=
  if Path.isInput file then host.input.mapError fun _ => "Failed to read standard input"
  else (host.files.read file).mapError fun _ => "Failed to read " ++ file

structure Result where
  exit : Nat
  output : String := ""
  records : List LogRecord := []
  error : Option String := none
  deriving DecidableEq, Repr

def line (s : String) : String := s ++ "\n"

def complexityResult (t : Thresholds) (a : CheckArguments) (s : Text) : Result :=
  let report := Report.ofText t s
  match report with
  | .undetected _ error =>
    { exit := 1, records := Analysis.records t s, error := some (failure error) }
  | .analysed _ found =>
    { exit := if found.complexity.level = .complex then 1 else 0
      output := line (if a.json then report.toJson.pretty else found.plain (displayName a.file))
      records := Analysis.records t s }

def validationResult (t : Thresholds) (a : CheckArguments) (s : Text) : Result :=
  let v := Verdict.ofText t s
  { exit := if v.valid then 0 else 1
    output := line (if a.json then v.toJson.pretty else v.plain (displayName a.file))
    records := Verdict.records t s }

def taskResult (host : Host) (c : Config) (a : CheckArguments) : Result :=
  match a.task with
  | .complexity overrides =>
    let c := c.override overrides
    match readInput host a.file with
    | .error message => { exit := 1, records := c.warnings, error := some (failure message) }
    | .ok s =>
      let r := complexityResult c.thresholds a s
      { r with records := c.warnings ++ r.records }
  | .validate =>
    match readInput host a.file with
    | .error message => { exit := 1, error := some (failure message) }
    | .ok s => validationResult c.thresholds a s

def result (host : Host) (a : CheckArguments) : Result :=
  match host.here with
  | none => { exit := 1, error := some (failure nowhere) }
  | some here =>
    let noted := Config.fileRecords host.files (Config.paths host.files host.home here a.config)
    match Config.load host.files host.home here a.config with
    | .error e => { exit := 1, records := noted, error := some (failure e.message) }
    | .ok c =>
      let r := taskResult host c a
      { r with records := noted ++ r.records }

def version : String := "mermaid-check 0.1.0"

def run (host : Host) (words : List String) : Outcome :=
  match CheckArguments.ofWords words with
  | .error .displayVersion => { exit := 0, output := line version, errors := some [] }
  | .error .displayHelp => { exit := 0, errors := some [] }
  | .error _ => { exit := 2, errors := none }
  | .ok a =>
    let r := result host a
    let (filter, complaints) := LogFilter.ofText a.logLevel.toList
    { exit := r.exit
      output := r.output
      errors := some (complaints ++ filter.lines r.records ++ r.error.toList) }

end Checker

end DiagramReview
