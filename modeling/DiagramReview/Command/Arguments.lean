import DiagramReview.Command.Options
import DiagramReview.Settings.Config

namespace DiagramReview

structure ServerArguments where
  config : Option String
  overrides : Overrides
  logLevel : String
  deriving DecidableEq, Repr

namespace ServerArguments

def specs : List OptionSpec :=
  [⟨"config", .path⟩, ⟨"simple", .number⟩, ⟨"moderate", .number⟩, ⟨"log-level", .text⟩,
    ⟨"help", .help⟩, ⟨"version", .version⟩]

def ofWords (words : List String) : Except ArgumentError ServerArguments := do
  let r ← Reading.all specs {} words
  return {
    config := r.value? "config"
    overrides := ⟨r.number? "simple", r.number? "moderate"⟩
    logLevel := (r.value? "log-level").getD "info" }

end ServerArguments

namespace Config

def ofArguments (files : Files) (home : Option String) (here : String) (a : ServerArguments) :
    Except LoadError Config := do
  let c ← load files home here a.config
  return { c.override a.overrides with logLevel := a.logLevel }

def argumentRecords (files : Files) (home : Option String) (here : String) (a : ServerArguments) :
    List LogRecord :=
  fileRecords files (paths files home here a.config) ++
  match load files home here a.config with
  | .ok c => (c.override a.overrides).warnings
  | .error _ => []

end Config

inductive Task where
  | complexity (overrides : Overrides)
  | validate
  deriving DecidableEq, Repr

structure CheckArguments where
  config : Option String
  logLevel : String
  task : Task
  file : String
  json : Bool
  deriving DecidableEq, Repr

namespace CheckArguments

def sharedSpecs : List OptionSpec := [⟨"config", .path⟩, ⟨"log-level", .text⟩, ⟨"help", .help⟩]

def frontSpecs : List OptionSpec := ⟨"version", .version⟩ :: sharedSpecs

def validateSpecs : List OptionSpec := ⟨"json", .flag⟩ :: sharedSpecs

def complexitySpecs : List OptionSpec :=
  [⟨"simple", .number⟩, ⟨"moderate", .number⟩] ++ validateSpecs

def fileSpec : OptionSpec := ⟨"file", .path⟩

def commands : List String := ["complexity", "validate", "help"]

def build (front back : Reading) (task : Task) : Except ArgumentError CheckArguments := do
  match back.value? fileSpec.name with
  | none => .error .missingArgument
  | some file =>
    let front ← front.settle
    return {
      config := (back.value? "config").orElse fun _ => front.value? "config"
      logLevel := ((back.value? "log-level").orElse fun _ => front.value? "log-level").getD "warn"
      task := task
      file := file
      json := back.has "json" }

def ofWords (words : List String) : Except ArgumentError CheckArguments := do
  let (front, command, words) ← Reading.upToCommand frontSpecs {} words
  let start : Reading := { unnamed := [fileSpec] }
  if command = "complexity" then
    let back ← Reading.all complexitySpecs start words
    build front back (.complexity ⟨back.number? "simple", back.number? "moderate"⟩)
  else if command = "validate" then
    build front (← Reading.all validateSpecs start words) .validate
  else if command = "help" ∧ (words = [] ∨ ∃ name ∈ commands, words = [name]) then
    .error .displayHelp
  else .error .unknownCommand

end CheckArguments

end DiagramReview
