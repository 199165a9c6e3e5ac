import DiagramReview.Complexity.Level
import DiagramReview.Editor.Diagnostic
import DiagramReview.Json.Value

namespace DiagramReview

structure ClientMessage where
  method : String
  id : Option Json := none
  params : Option Json := none

inductive RequestError where
  | methodNotFound (unknown : Option String)
  | invalidParams
  | invalidRequest
  | notInitialized
  deriving DecidableEq, Repr

namespace RequestError

def code : RequestError → Int
  | methodNotFound _ => -32601
  | invalidParams => -32602
  | invalidRequest => -32600
  | notInitialized => -32002

def message? : RequestError → Option String
  | methodNotFound _ => some "Method not found"
  | invalidParams => none
  | invalidRequest => some "Invalid request"
  | notInitialized => some "Server not initialized"

def toJson (e : RequestError) : Json :=
  .object (("code", .integer e.code) ::
    (Json.optional "message" (e.message?.map .string) ++
      match e with
      | methodNotFound (some method) => [("data", .string method)]
      | _ => []))

end RequestError

inductive ServerNotification where
  | publish (uri : String) (diagnostics : List Diagnostic)
  | greeting (t : Thresholds)
  deriving DecidableEq, Repr

namespace ServerNotification

def method : ServerNotification → String
  | publish _ _ => "textDocument/publishDiagnostics"
  | greeting _ => "window/logMessage"

def params : ServerNotification → Json
  | publish uri diagnostics =>
    .object [("diagnostics", .array (diagnostics.map Diagnostic.toJson)), ("uri", .string uri)]
  | greeting t =>
    .object [("type", .nat 3), ("message", .string ("mermaid-ls initialized (simple < " ++
      toString t.simple ++ ", moderate < " ++ toString t.moderate ++ ")"))]

def toJson (n : ServerNotification) : Json :=
  .object [("method", .string n.method), ("params", n.params)]

end ServerNotification

def answerJson (id : Json) : Except RequestError Json → Json
  | .ok result => .object [("id", id), ("result", result)]
  | .error e => .object [("id", id), ("error", e.toJson)]

end DiagramReview
