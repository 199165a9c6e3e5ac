import DiagramReview.Command.Checker
import DiagramReview.Server.State

namespace DiagramReview

structure Session where
  steps : List (Option (List Json))
  exit : Nat
  errors : Option (List String)

namespace Session

def messages (m : ClientMessage) (r : Reaction) : List Json :=
  r.sent.map ServerNotification.toJson ++
    match m.id, r.answer with
    | some id, some answer => [answerJson id answer]
    | _, _ => []

def exchange (v : Server) : List ClientMessage → List (Option (List Json)) × List LogRecord
  | [] => ([], [])
  | m :: ms =>
    if v.phase = .exited then ([none], [])
    else
      let r := v.react m
      let (rest, records) := exchange r.server ms
      (some (messages m r) :: rest, r.records ++ records)

def startRecords (c : Config) : List LogRecord :=
  ⟨.info, .server, "starting mermaid-ls with thresholds simple < " ++ toString c.thresholds.simple ++
    ", moderate < " ++ toString c.thresholds.moderate⟩ ::
  c.sources.map fun path => ⟨.info, .server, "using configuration " ++ path⟩

inductive Launch where
  | ended (exit : Nat) (errors : Option (List String))
  | listening (server : Server) (filter : LogFilter) (notes : List String)

def launch (host : Host) (words : List String) : Launch :=
  match ServerArguments.ofWords words with
  | .error .displayVersion | .error .displayHelp => .ended 0 (some [])
  | .error _ => .ended 2 none
  | .ok a =>
    let (filter, complaints) := LogFilter.ofText a.logLevel.toList
    match host.here with
    | none => .ended 1 (some (complaints ++ [Checker.failure Checker.nowhere]))
    | some here =>
      let notes := complaints ++ filter.lines (Config.argumentRecords host.files host.home here a)
      match Config.ofArguments host.files host.home here a with
      | .error e => .ended 1 (some (notes ++ [Checker.failure e.message]))
      | .ok c =>
        .listening { thresholds := c.thresholds } filter (notes ++ filter.lines (startRecords c))

def run (host : Host) (words : List String) (messages : List ClientMessage) : Session :=
  match launch host words with
  | .ended exit errors => { steps := if messages.isEmpty then [] else [none], exit, errors }
  | .listening server filter notes =>
    let (steps, records) := exchange server messages
    { steps, exit := 0, errors := some (notes ++ filter.lines records) }

end Session

end DiagramReview
