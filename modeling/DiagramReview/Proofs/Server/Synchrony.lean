import DiagramReview.Proofs.Server.DocumentEvent
import Mathlib.Data.List.Induction

/-!
The documents that a server keeps and the findings that it has published stay in step with what a
client has said, whatever messages arrive and in whatever order.
-/

namespace DiagramReview

def Reaction.publications (r : Reaction) : List (String × List Diagnostic) :=
  r.sent.filterMap fun
    | .publish uri marks => some (uri, marks)
    | .greeting _ => none

namespace Server

/-- The event that a message carries for a server that is running, if it asks for anything. -/
def event? (v : Server) (m : ClientMessage) : Option DocumentEvent :=
  if v.phase = .initialized then (DocumentEvent.ofMessage? m).filter (·.acts) else none

structure Follows (v : Server) (e? : Option DocumentEvent) (r : Reaction) : Prop where
  thresholds : r.server.thresholds = v.thresholds
  documents : r.server.documents = e?.elim v.documents (·.apply v.thresholds v.documents)
  publications : r.publications = e?.toList.map (·.publication v.thresholds)

variable {v : Server} {m : ClientMessage} {params : Json} {uri : String}

theorem follows_of_silent {r : Reaction} (hs : r.sent = [])
    (ht : r.server.thresholds = v.thresholds) (hd : r.server.documents = v.documents) :
    v.Follows none r := by
  refine ⟨ht, hd, ?_⟩
  simp [Reaction.publications, hs]

theorem refuse_follows (e : RequestError) : v.Follows none (v.refuse m e) :=
  follows_of_silent rfl rfl rfl

theorem store_follows {e : DocumentEvent} {s : Text} (hu : e.uri = uri) (hs : e.text? = some s) :
    v.Follows (some e) (v.store uri s) := by
  subst hu
  refine ⟨rfl, ?_, ?_⟩
  · simp [store, DocumentEvent.apply, hs, Document.ofText]
  · simp [store, Reaction.publications, DocumentEvent.publication, hs,
      ← DocumentEvent.diagnostics_eq_marks]

theorem close_follows : v.Follows (some (.closed uri)) (v.close uri) := ⟨rfl, rfl, rfl⟩

theorem serve_didOpen_follows {given : Json} (h : Shape.opened.read? given = some params) :
    v.Follows ((DocumentEvent.ofParams? params .didOpen).filter (·.acts))
      (v.serve params .didOpen) := by
  obtain ⟨u, s, hu, hs⟩ := Shape.opened_of_read h
  have he : DocumentEvent.ofParams? params .didOpen = some (.opened u s) := by
    simp [DocumentEvent.ofParams?, hu, hs]
  have hr : v.serve params .didOpen = v.store u s := by simp [serve, hu, hs]
  rw [he, hr]
  exact store_follows rfl rfl

theorem serve_didChange_follows {given : Json} (h : Shape.changed.read? given = some params) :
    v.Follows ((DocumentEvent.ofParams? params .didChange).filter (·.acts))
      (v.serve params .didChange) := by
  obtain ⟨u, texts, hu, ht, hl⟩ := Shape.changed_of_read h
  have he : DocumentEvent.ofParams? params .didChange = some (.changed u texts) := by
    simp [DocumentEvent.ofParams?, hu, ht]
  rw [he]
  cases hlast : texts.getLast? with
  | none =>
    have hr : v.serve params .didChange = { server := v } := by simp [serve, hu, hl, hlast]
    have ha : texts = [] := List.getLast?_eq_none_iff.mp hlast
    have hf : v.Follows none { server := v } := follows_of_silent rfl rfl rfl
    simpa [hr, ha, DocumentEvent.acts, Option.filter] using hf
  | some s =>
    have hr : v.serve params .didChange = v.store u s := by simp [serve, hu, hl, hlast]
    have ha : texts ≠ [] := by rintro rfl; cases hlast
    have hf : v.Follows (some (.changed u texts)) (v.store u s) := store_follows rfl hlast
    simpa [hr, ha, DocumentEvent.acts, Option.filter] using hf

theorem serve_didClose_follows {given : Json} (h : Shape.closed.read? given = some params) :
    v.Follows ((DocumentEvent.ofParams? params .didClose).filter (·.acts))
      (v.serve params .didClose) := by
  obtain ⟨u, hu⟩ := Shape.closed_of_read h
  have he : DocumentEvent.ofParams? params .didClose = some (.closed u) := by
    simp [DocumentEvent.ofParams?, hu]
  have hr : v.serve params .didClose = v.close u := by simp [serve, hu]
  rw [he, hr]
  exact close_follows

theorem hover_follows : v.Follows none (v.hover uri) := by
  unfold hover
  cases v.documents.get? uri <;> exact follows_of_silent rfl rfl rfl

theorem serve_follows {service : Service} {given : Json}
    (h : service.shape.read? given = some params) :
    v.Follows ((DocumentEvent.ofParams? params service).filter (·.acts))
      (v.serve params service) := by
  cases service with
  | initialized => exact ⟨rfl, rfl, rfl⟩
  | didOpen => exact serve_didOpen_follows h
  | didChange => exact serve_didChange_follows h
  | didClose => exact serve_didClose_follows h
  | hover =>
    simp only [DocumentEvent.ofParams?, Option.filter_none, serve]
    split
    · exact hover_follows
    · exact follows_of_silent rfl rfl rfl
  | completion =>
    simp only [DocumentEvent.ofParams?, Option.filter_none, serve]
    split <;> exact follows_of_silent rfl rfl rfl

theorem proper_induction {P : Reaction → Prop} {sending : Sending} {shape : Shape}
    {run : Json → Reaction} (hsilent : P { server := v }) (hrefuse : ∀ e, P (v.refuse m e))
    (hrun : ∀ p, P (run p)) : P (v.proper m sending shape run) := by
  unfold proper
  split
  · exact hrefuse _
  · exact hsilent
  · split
    · exact hrun _
    · exact hrefuse _

theorem timely_induction {P : Reaction → Prop} {sending : Sending} {shape : Shape}
    {run : Json → Reaction} (hsilent : P { server := v }) (hrefuse : ∀ e, P (v.refuse m e))
    (hrun : ∀ p, P (run p)) : P (v.timely m sending shape run) := by
  unfold timely
  split
  · exact hrefuse _
  · exact proper_induction hsilent hrefuse hrun

theorem proper_follows_none {sending : Sending} {shape : Shape} {run : Json → Reaction}
    (h : ∀ p, v.Follows none (run p)) : v.Follows none (v.proper m sending shape run) :=
  proper_induction (follows_of_silent rfl rfl rfl) refuse_follows h

theorem ofParams?_of_request {service : Service} (h : service.sending = .request) (params : Json) :
    DocumentEvent.ofParams? params service = none := by
  cases service with
  | hover | completion => rfl
  | initialized | didOpen | didChange | didClose => cases h

theorem timely_follows {service : Service}
    (h : Service.all.find? (·.method = m.method) = some service) :
    v.Follows (v.event? m) (v.timely m service.sending service.shape (v.serve · service)) := by
  by_cases hp : v.phase = .initialized
  · simp only [timely, event?, hp, ne_eq, not_true_eq_false, ↓reduceIte, proper]
    cases hi : m.id with
    | none =>
      rw [DocumentEvent.ofMessage?_of_service h hi]
      cases hs : service.sending with
      | request =>
        have he : (read? service.shape m.params).bind (DocumentEvent.ofParams? · service) =
            none := by
          simp [ofParams?_of_request hs]
        rw [he]
        exact follows_of_silent rfl rfl rfl
      | notification =>
        cases hr : read? service.shape m.params with
        | none => exact refuse_follows _
        | some params =>
          obtain ⟨given, -, hg⟩ := Option.bind_eq_some_iff.mp hr
          exact serve_follows hg
    | some id =>
      rw [DocumentEvent.ofMessage?_of_id hi]
      cases hs : service.sending with
      | notification => exact refuse_follows _
      | request =>
        cases hr : read? service.shape m.params with
        | none => exact refuse_follows _
        | some params =>
          obtain ⟨given, -, hg⟩ := Option.bind_eq_some_iff.mp hr
          have hf := serve_follows (v := v) hg
          rwa [ofParams?_of_request hs] at hf
  · simp only [timely, event?, hp, ne_eq, not_false_eq_true, ↓reduceIte]
    exact refuse_follows _

theorem event?_of_unserved (h : Service.all.find? (·.method = m.method) = none) :
    v.event? m = none := by
  simp [event?, DocumentEvent.ofMessage?_of_unserved h]

theorem prepare_follows : v.Follows none (v.prepare m) := by
  unfold prepare
  split
  · exact refuse_follows _
  · exact proper_follows_none fun _ => follows_of_silent rfl rfl rfl

theorem shutDown_follows : v.Follows none (v.shutDown m) := by
  unfold shutDown
  split
  · exact refuse_follows _
  · dsimp only
    split <;> exact follows_of_silent rfl rfl rfl

theorem unknown_follows : v.Follows none (v.unknown m) := by
  unfold unknown
  split
  · exact follows_of_silent rfl rfl rfl
  · exact refuse_follows _

theorem react_follows (v : Server) (m : ClientMessage) : v.Follows (v.event? m) (v.react m) := by
  have hnone {name : String} (hm : m.method = name)
      (hn : Service.all.find? (·.method = name) = none) {r : Reaction} (hr : v.Follows none r) :
      v.Follows (v.event? m) r := by
    rwa [event?_of_unserved (hm ▸ hn)]
  unfold react
  split_ifs with hstart hend hexit hcancel
  · exact hnone hstart (by decide) prepare_follows
  · exact hnone hend (by decide) shutDown_follows
  · exact hnone hexit (by decide) (follows_of_silent rfl rfl rfl)
  · exact hnone hcancel (by decide) (proper_follows_none fun _ => follows_of_silent rfl rfl rfl)
  · cases hs : Service.all.find? (·.method = m.method) with
    | some service => exact timely_follows hs
    | none =>
      rw [event?_of_unserved hs]
      dsimp only
      split
      · exact timely_induction (follows_of_silent rfl rfl rfl) refuse_follows fun _ =>
          refuse_follows _
      · exact unknown_follows

theorem phase_serve (v : Server) (params : Json) (service : Service) :
    (v.serve params service).server.phase = v.phase := by
  cases service with
  | initialized => rfl
  | didOpen | didChange | didClose | completion =>
    simp only [serve]
    split <;> rfl
  | hover =>
    simp only [serve]
    split
    · unfold hover
      split <;> rfl
    · rfl

theorem phase_react (hv : v.phase = .initialized) (hend : m.method ≠ "shutdown")
    (hexit : m.method ≠ "exit") : (v.react m).server.phase = .initialized := by
  have hrefuse (e : RequestError) : (v.refuse m e).server.phase = .initialized := hv
  unfold react
  rw [if_neg hend, if_neg hexit]
  split_ifs with hstart hcancel
  · rw [prepare, if_pos (by simp [hv])]
    exact hrefuse _
  · exact proper_induction (P := (·.server.phase = .initialized)) hv hrefuse fun _ => hv
  · cases Service.all.find? (·.method = m.method) with
    | some service =>
      refine timely_induction (P := (·.server.phase = .initialized)) hv hrefuse fun p => ?_
      exact (phase_serve v p service).trans hv
    | none =>
      dsimp only
      split
      · exact timely_induction (P := (·.server.phase = .initialized)) hv hrefuse fun _ =>
          hrefuse _
      · unfold unknown
        split <;> exact hv

def after (v : Server) : List ClientMessage → Server
  | [] => v
  | m :: ms => if v.phase = .exited then after v ms else after (v.react m).server ms

def events (v : Server) : List ClientMessage → List DocumentEvent
  | [] => []
  | m :: ms =>
    if v.phase = .exited then events v ms
    else (v.event? m).toList ++ events (v.react m).server ms

def published (v : Server) (ms : List ClientMessage) : List (String × List Diagnostic) :=
  (v.run ms).flatMap fun r? => r?.elim [] Reaction.publications

def latest? (uri : String) (es : List DocumentEvent) : Option DocumentEvent :=
  (es.filter (·.uri = uri)).getLast?

def lastMarks? (uri : String) (ps : List (String × List Diagnostic)) : Option (List Diagnostic) :=
  ((ps.filter (·.1 = uri)).getLast?).map (·.2)

theorem thresholds_after (v : Server) (ms : List ClientMessage) :
    (v.after ms).thresholds = v.thresholds := by
  induction ms generalizing v with
  | nil => rfl
  | cons m ms ih =>
    rw [after]
    split_ifs with h
    · exact ih v
    · rw [ih, (react_follows v m).thresholds]

theorem documents_after (v : Server) (ms : List ClientMessage) :
    (v.after ms).documents =
      (v.events ms).foldl (fun ds e => e.apply v.thresholds ds) v.documents := by
  induction ms generalizing v with
  | nil => rfl
  | cons m ms ih =>
    rw [after, events]
    split_ifs with h
    · exact ih v
    · have hr := react_follows v m
      rw [ih, List.foldl_append, hr.thresholds, hr.documents]
      cases v.event? m <;> rfl

theorem published_eq (v : Server) (ms : List ClientMessage) :
    v.published ms = (v.events ms).map (·.publication v.thresholds) := by
  induction ms generalizing v with
  | nil => rfl
  | cons m ms ih =>
    rw [published, run, events]
    split_ifs with h
    · exact ih v
    · have hr := react_follows v m
      have ih := ih (v.react m).server
      rw [published, hr.thresholds] at ih
      rw [List.flatMap_cons, ih, List.map_append]
      cases he : v.event? m <;> simp [hr.publications, he]

theorem events_of_running (hv : v.phase = .initialized) {ms : List ClientMessage}
    (h : ∀ m ∈ ms, m.method ≠ "shutdown" ∧ m.method ≠ "exit") :
    v.events ms = (ms.filterMap DocumentEvent.ofMessage?).filter (·.acts) := by
  induction ms generalizing v with
  | nil => rfl
  | cons m ms ih =>
    obtain ⟨hend, hexit⟩ := h m List.mem_cons_self
    have hrest := ih (phase_react hv hend hexit) fun k hk => h k (List.mem_cons_of_mem _ hk)
    rw [events, hv, if_neg (by decide), hrest, event?, if_pos hv, List.filterMap_cons]
    cases DocumentEvent.ofMessage? m with
    | none => rfl
    | some e => cases he : e.acts <;> simp [Option.filter, he]

theorem get?_foldl_apply (t : Thresholds) (es : List DocumentEvent) (ds : Documents)
    (uri : String) : (es.foldl (fun ds e => e.apply t ds) ds).get? uri =
      (latest? uri es).elim (ds.get? uri) fun e => e.text?.map fun s => ⟨s, .ofText t s⟩ := by
  -- from the end, since the last event for a document decides
  induction es using List.reverseRecOn with
  | nil => rfl
  | append_singleton es e ih =>
    rw [List.foldl_append, List.foldl_cons, List.foldl_nil, DocumentEvent.get?_apply]
    by_cases hu : e.uri = uri
    · simp [latest?, hu]
    · have hu' : uri ≠ e.uri := fun h => hu h.symm
      simpa [latest?, hu, hu'] using ih

theorem lastMarks?_map (t : Thresholds) (es : List DocumentEvent) (uri : String) :
    lastMarks? uri (es.map (·.publication t)) =
      (latest? uri es).map fun e => e.text?.elim [] (DocumentEvent.marks t) := by
  simp [lastMarks?, latest?, List.filter_map, Function.comp_def, DocumentEvent.publication]

/-- A notification carries the event that its client wrote, whatever else stands beside it as long
as it is well-formed, and a running server takes the events of all its messages. After any messages,
in whatever phase a server without documents was met, the store holds a document exactly if the last
event that concerns it gives a text, and then that text with its verdict; an event publishes one
list of marks, and a message without event neither publishes nor changes anything; and the last
marks published for a document are those of the text in the store, or none if it is not there. -/
theorem documents_in_step (t : Thresholds) (phase : Phase) (ms : List ClientMessage) :
    let v : Server := { thresholds := t, phase := phase }
    let w := v.after ms
    (∀ (e : DocumentEvent) languageId uri version, Uri.normal? e.uri = some uri →
      Bits.holdsSigned 32 version = true →
      DocumentEvent.ofMessage? (e.toMessage languageId version) = some (e.named uri)) ∧
    (∀ m service params, service ∈ [Service.didOpen, .didChange, .didClose] →
      m.method = service.method → m.id = none → read? service.shape m.params = some params →
      (DocumentEvent.ofMessage? m).isSome) ∧
    (phase = .initialized → (∀ m ∈ ms, m.method ≠ "shutdown" ∧ m.method ≠ "exit") →
      v.events ms = (ms.filterMap DocumentEvent.ofMessage?).filter (·.acts)) ∧
    (∀ uri, w.documents.get? uri =
      (latest? uri (v.events ms)).bind fun e => e.text?.map fun s => ⟨s, .ofText t s⟩) ∧
    (∀ m, (w.react m).publications = (w.event? m).toList.map (·.publication t) ∧
      (w.event? m = none → (w.react m).server.documents = w.documents)) ∧
    (∀ uri, lastMarks? uri (v.published ms) =
      (latest? uri (v.events ms)).map fun _ =>
        (w.documents.get? uri).elim [] fun d => DocumentEvent.marks t d.content) := by
  intro v w
  have hstore (uri : String) : w.documents.get? uri =
      (latest? uri (v.events ms)).bind fun e => e.text?.map fun s => ⟨s, .ofText t s⟩ := by
    have h := get?_foldl_apply t (v.events ms) v.documents uri
    rw [documents_after, h]
    cases latest? uri (v.events ms) <;> rfl
  refine ⟨fun e languageId uri version => e.ofMessage?_toMessage languageId uri version,
    fun m service params => DocumentEvent.isSome_ofMessage?,
    fun hp => events_of_running hp, hstore, fun m => ?_, fun uri => ?_⟩
  · have hw : w.thresholds = t := thresholds_after v ms
    have hr := react_follows w m
    refine ⟨by rw [hr.publications, hw], fun he => ?_⟩
    rw [hr.documents, he]
    rfl
  · rw [published_eq, lastMarks?_map, hstore]
    cases latest? uri (v.events ms) with
    | none => rfl
    | some e =>
      cases h : e.text? with
      | none => simp [h]
      | some s => simp [h]; rfl

end Server

end DiagramReview
