import DiagramReview.Proofs.Server.Reading
import DiagramReview.Server.State

namespace DiagramReview

inductive DocumentEvent where
  | opened (uri : String) (text : Text)
  | changed (uri : String) (texts : List Text)
  | closed (uri : String)
  deriving DecidableEq, Repr

namespace DocumentEvent

def uri : DocumentEvent → String
  | opened uri _ | changed uri _ | closed uri => uri

def text? : DocumentEvent → Option Text
  | opened _ s => some s
  | changed _ texts => texts.getLast?
  | closed _ => none

def acts : DocumentEvent → Bool
  | changed _ texts => !texts.isEmpty
  | opened _ _ | closed _ => true

def texts? (params : Json) : Option (List Text) := do
  match ← params.member? "contentChanges" with
  | .array items => items.mapM Server.textOf?
  | _ => none

def ofParams? (params : Json) : Server.Service → Option DocumentEvent
  | .didOpen => do
    return opened (← Server.uriOf? params) (← params.member? "textDocument" >>= Server.textOf?)
  | .didChange => do return changed (← Server.uriOf? params) (← texts? params)
  | .didClose => do return closed (← Server.uriOf? params)
  | .initialized | .hover | .completion => none

def ofMessage? (m : ClientMessage) : Option DocumentEvent :=
  if m.id.isSome then none
  else do
    let service ← Server.Service.all.find? (·.method = m.method)
    ofParams? (← Server.read? service.shape m.params) service

def marks (t : Thresholds) (s : Text) : List Diagnostic :=
  let found := (Verdict.ofText t s).findings
  found.errors.map (Diagnostic.ofFinding s .error) ++
    found.warnings.map (Diagnostic.ofFinding s .warning) ++
    found.infos.map (Diagnostic.ofFinding s .info)

def publication (t : Thresholds) (e : DocumentEvent) : String × List Diagnostic :=
  (e.uri, e.text?.elim [] (marks t))

def apply (t : Thresholds) (ds : Documents) (e : DocumentEvent) : Documents :=
  match e.text? with
  | some s => ds.set e.uri ⟨s, .ofText t s⟩
  | none => ds.erase e.uri

theorem diagnostics_eq_marks (t : Thresholds) (s : Text) :
    (Document.ofText t s).diagnostics = marks t s := by
  simp [Document.diagnostics, Document.ofText, Diagnostic.ofFindings, Findings.bySeverity, marks,
    Function.comp_def]

theorem get?_apply (t : Thresholds) (ds : Documents) (e : DocumentEvent) (uri : String) :
    (e.apply t ds).get? uri =
      if uri = e.uri then e.text?.map fun s => ⟨s, .ofText t s⟩ else ds.get? uri := by
  unfold apply
  cases e.text? with
  | some s => exact Documents.get?_set ds e.uri uri _
  | none => exact Documents.get?_erase ds e.uri uri

end DocumentEvent

namespace Shape

theorem uriOf_of_read {members inner : List (String × Presence × Shape)} {v p : Json}
    (h : (record (need "textDocument" (record (need "uri" uri :: inner)) :: members)).read? v =
      some p)
    (hn : ("textDocument" :: members.map (·.1)).Nodup) (hi : ("uri" :: inner.map (·.1)).Nodup) :
    ∃ d u, p.member? "textDocument" = some d ∧ Server.uriOf? p = some u ∧
      ∃ x, (record (need "uri" uri :: inner)).read? x = some d := by
  obtain ⟨x, d, hd, hp⟩ := member_of_read_record h hn List.mem_cons_self
  obtain ⟨y, w, hw, hu⟩ := member_of_read_record hd hi List.mem_cons_self
  obtain ⟨u, rfl⟩ := string_of_read_uri hw
  exact ⟨d, u, hp, by simp [Server.uriOf?, hp, hu], x, hd⟩

theorem textOf_of_read {members : List (String × Presence × Shape)} {v d : Json}
    (h : (record members).read? v = some d) (hn : (members.map (·.1)).Nodup)
    (hm : need "text" text ∈ members) : ∃ s, Server.textOf? d = some s := by
  obtain ⟨x, w, hw, hd⟩ := member_of_read_record h hn hm
  obtain ⟨s, rfl⟩ := string_of_read_text hw
  exact ⟨s.toList, by simp [Server.textOf?, hd]⟩

theorem opened_of_read {v p : Json} (h : opened.read? v = some p) :
    ∃ u s, Server.uriOf? p = some u ∧ p.member? "textDocument" >>= Server.textOf? = some s := by
  obtain ⟨d, u, hd, hu, x, hx⟩ := uriOf_of_read h (by decide) (by decide)
  obtain ⟨s, hs⟩ := textOf_of_read hx (by decide) (by simp)
  exact ⟨u, s, hu, by simp [hd, hs]⟩

theorem changed_of_read {v p : Json} (h : changed.read? v = some p) :
    ∃ u texts, Server.uriOf? p = some u ∧ DocumentEvent.texts? p = some texts ∧
      Server.lastText? p = texts.getLast? := by
  have hm : need "contentChanges" (listOf change) ∈
      [need "textDocument" (record [need "uri" uri, need "version" whole]),
        need "contentChanges" (listOf change)] := by simp
  obtain ⟨d, u, -, hu, -⟩ := uriOf_of_read h (by decide) (by decide)
  obtain ⟨x, w, hw, hp⟩ := member_of_read_record h (by decide) hm
  obtain ⟨items, rfl, hi⟩ := array_of_read_listOf hw
  obtain ⟨texts, ht⟩ := exists_mapM (f := Server.textOf?) (l := items) fun d hd => by
    obtain ⟨y, hy⟩ := hi d hd
    exact textOf_of_read hy (by decide) (by simp)
  refine ⟨u, texts, hu, ?_, ?_⟩
  · simp [DocumentEvent.texts?, hp, ht]
  · simp [Server.lastText?, hp, getLast?_of_mapM ht]

theorem closed_of_read {v p : Json} (h : closed.read? v = some p) :
    ∃ u, Server.uriOf? p = some u := by
  obtain ⟨-, u, -, hu, -⟩ := uriOf_of_read h (by decide) (by decide)
  exact ⟨u, hu⟩

end Shape

namespace DocumentEvent

variable {m : ClientMessage}

theorem ofMessage?_of_service {service : Server.Service}
    (h : Server.Service.all.find? (·.method = m.method) = some service) (hi : m.id = none) :
    ofMessage? m = (Server.read? service.shape m.params).bind (ofParams? · service) := by
  simp [ofMessage?, hi, h]

theorem ofMessage?_of_id {id : Json} (h : m.id = some id) : ofMessage? m = none := by
  simp [ofMessage?, h]

theorem ofMessage?_of_unserved (h : Server.Service.all.find? (·.method = m.method) = none) :
    ofMessage? m = none := by
  unfold ofMessage?
  split
  · rfl
  · simp [h]

theorem isSome_ofMessage? {service : Server.Service} {params : Json}
    (hs : service ∈ [.didOpen, .didChange, .didClose]) (hm : m.method = service.method)
    (hi : m.id = none) (hr : Server.read? service.shape m.params = some params) :
    (ofMessage? m).isSome := by
  have hf : Server.Service.all.find? (·.method = m.method) = some service := by
    rw [hm]
    cases service <;> decide
  obtain ⟨given, -, hg⟩ := Option.bind_eq_some_iff.mp hr
  rw [ofMessage?_of_service hf hi, hr, Option.bind_some]
  cases service with
  | didOpen =>
    obtain ⟨u, s, hu, ht⟩ := Shape.opened_of_read hg
    simp [ofParams?, hu, ht]
  | didChange =>
    obtain ⟨u, texts, hu, ht, -⟩ := Shape.changed_of_read hg
    simp [ofParams?, hu, ht]
  | didClose =>
    obtain ⟨u, hu⟩ := Shape.closed_of_read hg
    simp [ofParams?, hu]
  | initialized | hover | completion => simp at hs

def service : DocumentEvent → Server.Service
  | opened _ _ => .didOpen
  | changed _ _ => .didChange
  | closed _ => .didClose

def params (languageId : String) (version : Int) : DocumentEvent → Json
  | opened uri s => .object [("textDocument", .object
      [("uri", .string uri), ("languageId", .string languageId), ("version", .integer version),
       ("text", .string (String.ofList s))])]
  | changed uri texts => .object
      [("textDocument", .object [("uri", .string uri), ("version", .integer version)]),
       ("contentChanges",
        .array (texts.map fun s => .object [("text", .string (String.ofList s))]))]
  | closed uri => .object [("textDocument", .object [("uri", .string uri)])]

def toMessage (languageId : String) (version : Int) (e : DocumentEvent) : ClientMessage :=
  { method := e.service.method, params := some (e.params languageId version) }

def named (uri : String) : DocumentEvent → DocumentEvent
  | opened _ s => opened uri s
  | changed _ texts => changed uri texts
  | closed _ => closed uri

theorem read_changes (texts : List Text) :
    let items := texts.map fun s => Json.object [("text", .string (String.ofList s))]
    items.mapM Shape.change.read? = some items ∧ items.mapM Server.textOf? = some texts := by
  induction texts with
  | nil => exact ⟨rfl, rfl⟩
  | cons s texts ih =>
    obtain ⟨hr, ht⟩ := ih
    have hs : Shape.change.read? (.object [("text", .string (String.ofList s))]) =
        some (.object [("text", .string (String.ofList s))]) := by
      simp [Shape.change, Shape.read?, Shape.readMembers, Shape.may, Shape.need, List.lookup_cons]
    constructor
    · rw [List.map_cons, List.mapM_cons, hs, hr]
      rfl
    · rw [List.map_cons, List.mapM_cons, ht]
      simp [Server.textOf?, Json.member?]

theorem ofMessage?_toMessage (e : DocumentEvent) (languageId uri : String) (version : Int)
    (hu : Uri.normal? e.uri = some uri) (hv : Bits.holdsSigned 32 version = true) :
    ofMessage? (e.toMessage languageId version) = some (e.named uri) := by
  have hf : Server.Service.all.find? (·.method = (e.toMessage languageId version).method) =
      some e.service := by cases e <;> rfl
  rw [ofMessage?_of_service hf rfl]
  cases e with
  | opened name s =>
    have hu : Uri.normal? name = some uri := hu
    simp [toMessage, service, params, named, ofParams?, Server.read?, Server.Service.shape,
      Shape.opened, Shape.need, Shape.read?, Shape.readMembers, List.lookup_cons, Server.uriOf?,
      Server.textOf?, Json.member?, hu, hv]
  | changed name texts =>
    have hu : Uri.normal? name = some uri := hu
    obtain ⟨hr, ht⟩ := read_changes texts
    simp [toMessage, service, params, named, ofParams?, texts?, Server.read?, Server.Service.shape,
      Shape.changed, Shape.need, Shape.read?, Shape.readMembers, List.lookup_cons, Server.uriOf?,
      Json.member?, hu, hv, hr, ht]
  | closed name =>
    have hu : Uri.normal? name = some uri := hu
    simp [toMessage, service, params, named, ofParams?, Server.read?, Server.Service.shape,
      Shape.closed, Shape.onDocument, Shape.document, Shape.need, Shape.read?, Shape.readMembers,
      Server.uriOf?, Json.member?, hu]

end DocumentEvent

end DiagramReview
