import DiagramReview.Editor.Completion
import DiagramReview.Editor.Summary
import DiagramReview.Log.Record
import DiagramReview.Server.Documents
import DiagramReview.Server.Message
import DiagramReview.Server.Method

/-!
The language server as a function of its state and one message. It keeps the documents that a
client has opened, with the verdicts on them, and publishes the findings of each new text.
-/

namespace DiagramReview

inductive Phase where
  | uninitialized
  | initialized
  | shutDown
  | exited
  deriving DecidableEq, Repr

structure Server where
  thresholds : Thresholds
  phase : Phase := .uninitialized
  documents : Documents := []

structure Reaction where
  server : Server
  answer : Option (Except RequestError Json) := none
  sent : List ServerNotification := []
  records : List LogRecord := []

namespace Server

def capabilities : Json :=
  .object
    [("capabilities", .object
      [("textDocumentSync", .nat 1), ("hoverProvider", .bool true),
       ("completionProvider", .object [("resolveProvider", .bool false)])]),
     ("serverInfo", .object [("name", .string "mermaid-ls"), ("version", .string "0.1.0")])]

def store (v : Server) (uri : String) (s : Text) : Reaction :=
  let d := Document.ofText v.thresholds s
  { server := { v with documents := v.documents.set uri d }
    sent := [.publish uri d.diagnostics]
    records := Verdict.records v.thresholds s }

def close (v : Server) (uri : String) : Reaction :=
  { server := { v with documents := v.documents.erase uri }, sent := [.publish uri []] }

def hover (v : Server) (uri : String) : Reaction :=
  match v.documents.get? uri with
  | none => { server := v, answer := some (.ok .null) }
  | some d =>
    { server := v
      answer := some (.ok (.orNull ((Analysis.summary? v.thresholds d.content).map fun summary =>
        .object [("contents", .object [("kind", .string "markdown"), ("value", .string summary)])])))
      records := Analysis.records v.thresholds d.content }

def complete (v : Server) (uri : String) (p : Position) : Reaction :=
  let items := ((v.documents.get? uri).map fun d => Completion.declarations d.content p).getD []
  { server := v
    answer := some (.ok (if items.isEmpty then .null else .array (items.map Completion.itemJson))) }

def uriOf? (params : Json) : Option String := do
  match ← (← params.member? "textDocument").member? "uri" with
  | .string uri => some uri
  | _ => none

def textOf? (item : Json) : Option Text := do
  match ← item.member? "text" with
  | .string s => some s.toList
  | _ => none

def natOf? (name : String) (params : Json) : Option Nat := do
  match ← params.member? name with
  | .integer n => some n.toNat
  | _ => none

def positionOf? (params : Json) : Option Position := do
  let p ← params.member? "position"
  return ⟨← natOf? "line" p, ← natOf? "character" p⟩

def lastText? (params : Json) : Option Text := do
  match ← params.member? "contentChanges" with
  | .array items => textOf? (← items.getLast?)
  | _ => none

inductive Service where
  | initialized
  | didOpen
  | didChange
  | didClose
  | hover
  | completion
  deriving DecidableEq, Repr

namespace Service

def method : Service → String
  | initialized => "initialized"
  | didOpen => "textDocument/didOpen"
  | didChange => "textDocument/didChange"
  | didClose => "textDocument/didClose"
  | hover => "textDocument/hover"
  | completion => "textDocument/completion"

def all : List Service := [initialized, didOpen, didChange, didClose, hover, completion]

def sending : Service → Sending
  | hover | completion => .request
  | _ => .notification

def shape : Service → Shape
  | initialized => .nothing
  | didOpen => .opened
  | didChange => .changed
  | didClose => .closed
  | hover => .hover
  | completion => .completion

end Service

def serve (v : Server) (params : Json) : Service → Reaction
  | .initialized => { server := v, sent := [.greeting v.thresholds] }
  | .didOpen =>
    match uriOf? params, params.member? "textDocument" >>= textOf? with
    | some uri, some s => v.store uri s
    | _, _ => { server := v }
  | .didChange =>
    match uriOf? params, lastText? params with
    | some uri, some s => v.store uri s
    | _, _ => { server := v }
  | .didClose =>
    match uriOf? params with
    | some uri => v.close uri
    | none => { server := v }
  | .hover =>
    match uriOf? params with
    | some uri => v.hover uri
    | none => { server := v }
  | .completion =>
    match uriOf? params, positionOf? params with
    | some uri, some p => v.complete uri p
    | _, _ => { server := v }

def read? (shape : Shape) (params : Option Json) : Option Json := params >>= shape.read?

def refuse (v : Server) (m : ClientMessage) (e : RequestError) : Reaction :=
  { server := v, answer := m.id.map fun _ => .error e }

def untimely : Phase → RequestError
  | .uninitialized => .notInitialized
  | _ => .invalidRequest

/-- A message that is sent as the method should be, and with well-formed parameters. A notification
has no identifier, and a request without one is not answered. -/
def proper (v : Server) (m : ClientMessage) (sending : Sending) (shape : Shape)
    (run : Json → Reaction) : Reaction :=
  match sending, m.id with
  | .notification, some _ => v.refuse m .invalidRequest
  | .request, none => { server := v }
  | _, _ =>
    match read? shape m.params with
    | some params => run params
    | none => v.refuse m .invalidParams

def timely (v : Server) (m : ClientMessage) (sending : Sending) (shape : Shape)
    (run : Json → Reaction) : Reaction :=
  if v.phase ≠ .initialized then v.refuse m (untimely v.phase)
  else v.proper m sending shape run

def prepare (v : Server) (m : ClientMessage) : Reaction :=
  if v.phase ≠ .uninitialized then v.refuse m .invalidRequest
  else v.proper m .request .start fun _ =>
    { server := { v with phase := .initialized }, answer := some (.ok capabilities) }

def shutDown (v : Server) (m : ClientMessage) : Reaction :=
  if v.phase ≠ .initialized then v.refuse m (untimely v.phase)
  else
    let v := { v with phase := .shutDown }
    if m.params.isSome then v.refuse m .invalidParams
    else { server := v, answer := m.id.map fun _ => .ok .null }

/-- A request can be cancelled at any time; all have been answered by then. -/
def cancel (v : Server) (m : ClientMessage) : Reaction :=
  v.proper m .notification .cancelled fun _ => { server := v }

/-- An unknown method. Those that only some servers know are not even refused. -/
def unknown (v : Server) (m : ClientMessage) : Reaction :=
  if "$/".toList.isPrefixOf m.method.toList then { server := v }
  else v.refuse m (.methodNotFound (some m.method))

def react (v : Server) (m : ClientMessage) : Reaction :=
  if m.method = "initialize" then v.prepare m
  else if m.method = "shutdown" then v.shutDown m
  else if m.method = "exit" then { server := { v with phase := .exited } }
  else if m.method = "$/cancelRequest" then v.cancel m
  else match Service.all.find? (·.method = m.method) with
    | some service => v.timely m service.sending service.shape (v.serve · service)
    | none =>
      match Method.unserved.find? (·.name = m.method) with
      | some method =>
        v.timely m method.sending method.shape fun _ => v.refuse m (.methodNotFound none)
      | none => v.unknown m

def run (v : Server) : List ClientMessage → List (Option Reaction)
  | [] => []
  | m :: ms =>
    if v.phase = .exited then none :: run v ms
    else
      let r := v.react m
      some r :: run r.server ms

end Server

end DiagramReview
