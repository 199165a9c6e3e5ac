import DiagramReview.Proofs.Diagram.Document
import DiagramReview.Proofs.Diagram.Edges
import DiagramReview.Proofs.Diagram.Nodes

namespace DiagramReview

open Text Text.Piece Text.Pattern

def linkMarks : Text := "[]()|-\n".toList

structure Label where
  text : Text
  ne_nil : text ≠ []
  plain : text.all (!linkMarks.contains ·) = true

structure Node where
  name : Name
  label : Label
  not_keyword : ¬ "subgraph".toList <+: name.text

structure LinkLine where
  indent : Nat
  source : Node
  target : Node
  label : Option Label

def Node.text (x : Node) : Text := x.name.text ++ "[".toList ++ x.label.text ++ "]".toList

def edgeLabel : Option Label → Text
  | none => []
  | some t => "|".toList ++ t.text ++ "|".toList

def LinkLine.arrow (m : LinkLine) : Text := " -->".toList ++ edgeLabel m.label ++ " ".toList

def LinkLine.line (m : LinkLine) : Text :=
  List.replicate m.indent ' ' ++ m.source.text ++ m.arrow ++ m.target.text

def linkDocument (ms : List LinkLine) (ended : Bool) : Text :=
  document "flowchart TD".toList (ms.map LinkLine.line) ended

variable {c : Char} {s p : Text}

theorem isWord_of_mem_linkMarks (hc : c ∈ linkMarks) : isWord c = false := by
  have hmarks : linkMarks.all (!isWord ·) = true := by decide
  simpa using List.all_eq_true.mp hmarks c hc

theorem ne_space_of_mem_linkMarks (hc : c ∈ linkMarks) : c ≠ ' ' := by
  rintro rfl
  exact absurd hc (by decide)

theorem Label.notMem (t : Label) (hc : c ∈ linkMarks) : c ∉ t.text := by
  intro hmem
  have hplain := List.all_eq_true.mp t.plain c hmem
  simp [hc] at hplain

namespace Node

variable (x : Node)

theorem text_append (b : Text) :
    x.text ++ b = x.name.text ++ '[' :: (x.label.text ++ ']' :: b) := by
  simp [text]

theorem notMem_text (hc : c ∈ linkMarks) (hbracket : c ∉ "[]".toList) : c ∉ x.text := by
  have hname := x.name.notMem (isWord_of_mem_linkMarks hc)
  have hlabel := x.label.notMem hc
  have hne : c ≠ '[' ∧ c ≠ ']' := by simpa using hbracket
  simp [text, hname, hlabel, hne]

theorem count_squareNode_append (hopen : '[' ∉ p) (hclose : ']' ∉ p) (b : Text) :
    squareNode.count (p ++ (x.text ++ b)) = squareNode.count b + 1 := by
  obtain ⟨w, d, hx, hd⟩ := x.name.exists_concat
  have hfree (e : Char) (he : e ∈ linkMarks) (hp : e ∉ p) : e ∉ p ++ w := by
    have hname := x.name.notMem (isWord_of_mem_linkMarks he)
    rw [hx, List.mem_append, not_or] at hname
    simp [hp, hname.1]
  have hsplit : p ++ (x.text ++ b) = (p ++ w) ++ d :: '[' :: (x.label.text ++ ']' :: b) := by
    simp [text_append, hx]
  rw [hsplit]
  exact brackets_square.count_append_label (hfree '[' (by decide) hopen)
    (hfree ']' (by decide) hclose) hd x.label.ne_nil (x.label.notMem (by decide)) b

end Node

namespace LinkLine

variable (m : LinkLine)

def front : Text := List.replicate m.indent ' ' ++ m.source.text

def back : Text := edgeLabel m.label ++ ' ' :: m.target.text

theorem line_eq : m.line = m.front ++ ' ' :: ("-->".toList ++ m.back) := by
  simp [line, arrow, front, back]

theorem notMem_front (hc : c ∈ linkMarks) (hbracket : c ∉ "[]".toList) : c ∉ m.front := by
  have hsource := m.source.notMem_text hc hbracket
  simp [front, hsource, ne_space_of_mem_linkMarks hc]

theorem notMem_edgeLabel (hc : c ∈ linkMarks) (hbar : c ≠ '|') (t : Option Label) :
    c ∉ edgeLabel t := by
  rcases t with - | t
  · exact List.not_mem_nil
  · simp [edgeLabel, t.notMem hc, hbar]

theorem notMem_arrow (hc : c ∈ linkMarks) (hedge : c ∉ "->|".toList) : c ∉ m.arrow := by
  obtain ⟨hdash, hangle, hbar⟩ : c ≠ '-' ∧ c ≠ '>' ∧ c ≠ '|' := by simpa using hedge
  have hlabel := notMem_edgeLabel hc hbar m.label
  simp [arrow, hdash, hangle, hlabel, ne_space_of_mem_linkMarks hc]

theorem notMem_back (hc : c ∈ linkMarks) (hbracket : c ∉ "[]".toList) (hbar : c ≠ '|') :
    c ∉ m.back := by
  have htarget := m.target.notMem_text hc hbracket
  have hlabel := notMem_edgeLabel hc hbar m.label
  simp [back, htarget, hlabel, ne_space_of_mem_linkMarks hc]

theorem dash_notMem : '-' ∉ m.front ∧ '-' ∉ m.back :=
  ⟨m.notMem_front (by decide) (by decide), m.notMem_back (by decide) (by decide) (by decide)⟩

theorem notMem_line (hc : c ∈ linkMarks) (hedge : c ∉ "->|".toList) (hbracket : c ∉ "[]".toList) :
    c ∉ m.line := by
  have hsource := m.source.notMem_text hc hbracket
  have htarget := m.target.notMem_text hc hbracket
  have harrow := m.notMem_arrow hc hedge
  simp [line, hsource, harrow, htarget, ne_space_of_mem_linkMarks hc]

theorem count_edge_line : edge.count m.line = 1 := by
  obtain ⟨hfront, hback⟩ := m.dash_notMem
  have harrow : edge.count ("-->".toList ++ m.back) = edge.count m.back + 1 := count_edge_arrow _
  rw [line_eq, count_append_of_notMem rfl rfl hfront, count_edge_cons (by decide), harrow,
    count_of_notMem rfl rfl hback]

theorem count_dottedEdge_line : dottedEdge.count m.line = 0 := by
  obtain ⟨hfront, hback⟩ := m.dash_notMem
  have harrow : dottedEdge.count ("-->".toList ++ m.back) = dottedEdge.count m.back :=
    count_append_of_notMem rfl rfl (by decide) _
  rw [line_eq, count_append_cons rfl (by decide), harrow,
    spells_dottedEdge.count_eq_zero (by decide) hfront,
    spells_dottedEdge.count_eq_zero (by decide) hback]

theorem count_labelledEdge_line :
    labelledEdge.count m.line = if m.label.isSome then 1 else 0 := by
  obtain ⟨hfront, hback⟩ := m.dash_notMem
  have hbar : ">|".toList.isPrefixOf ('>' :: m.back) = m.label.isSome := by
    rw [back]
    cases m.label <;> simp [edgeLabel, List.isPrefixOf]
  have hangle : ∀ c ∈ ('>' :: m.back).head?, c ≠ '-' := by
    rintro c ⟨⟩
    decide
  have harrow : labelledEdge.count ("-->".toList ++ m.back) =
      labelledEdge.count ('>' :: m.back) + if m.label.isSome then 1 else 0 := by
    rw [← hbar]
    exact count_labelledEdge_two hangle
  rw [line_eq, count_append_of_notMem rfl rfl hfront, count_cons_of_ne rfl rfl (by decide), harrow,
    count_cons_of_ne rfl rfl (by decide), count_of_notMem rfl rfl hback, Nat.zero_add]

theorem count_squareNode_lines (ms : List LinkLine) (hopen : '[' ∉ p) (hclose : ']' ∉ p)
    (hs : ']' ∉ s) :
    squareNode.count (p ++ ((ms.map line).flatMap ('\n' :: ·) ++ s)) = 2 * ms.length := by
  induction ms generalizing p with
  | nil => exact count_of_no_closing (by simp [hclose, hs]) '['
  | cons m ms ih =>
    have hsplit : p ++ (((m :: ms).map line).flatMap ('\n' :: ·) ++ s) =
        (p ++ '\n' :: List.replicate m.indent ' ') ++ (m.source.text ++ (m.arrow ++
          (m.target.text ++ ((ms.map line).flatMap ('\n' :: ·) ++ s)))) := by
      simp [line]
    have hrest := ih (p := []) (by decide) (by decide)
    rw [List.nil_append] at hrest
    rw [hsplit, m.source.count_squareNode_append (by simp [hopen]) (by simp [hclose]),
      m.target.count_squareNode_append (m.notMem_arrow (by decide) (by decide))
        (m.notMem_arrow (by decide) (by decide)), hrest, List.length_cons]
    omega

theorem subgraph_not_prefix : ¬ "subgraph".toList <+: trim m.line := by
  have hsplit : m.line = List.replicate m.indent ' ' ++ (m.source.name.text ++
      '[' :: (m.source.label.text ++ ']' :: (" -->".toList ++ m.back))) := by
    simp [line, arrow, back, Node.text]
  rw [hsplit, trim_indented_name _ _ (by decide), prefix_append_cons_iff (by decide)]
  exact m.source.not_keyword

theorem notMem_lines (ms : List LinkLine) (hheader : c ∉ "flowchart TD".toList) (hc : c ∈ linkMarks)
    (hedge : c ∉ "->|".toList) (hbracket : c ∉ "[]".toList) :
    ∀ l ∈ "flowchart TD".toList :: ms.map line, c ∉ l := by
  refine List.forall_mem_cons.mpr ⟨hheader, fun l hl => ?_⟩
  obtain ⟨m, -, rfl⟩ := List.mem_map.mp hl
  exact m.notMem_line hc hedge hbracket

theorem newline_notMem_lines (ms : List LinkLine) :
    ∀ l ∈ "flowchart TD".toList :: ms.map line, '\n' ∉ l :=
  notMem_lines ms (by decide) (by decide) (by decide) (by decide)

end LinkLine

section Document

variable (ms : List LinkLine) (ended : Bool)

theorem count_edge_document : edge.count (linkDocument ms ended) = ms.length := by
  rw [linkDocument, count_document rfl (by decide) (by decide)]
  simp [LinkLine.count_edge_line]

theorem count_dottedEdge_document : dottedEdge.count (linkDocument ms ended) = 0 := by
  rw [linkDocument, count_document rfl (by decide) (by decide)]
  simp [LinkLine.count_dottedEdge_line]

theorem count_labelledEdge_document :
    labelledEdge.count (linkDocument ms ended) = ms.countP (·.label.isSome) := by
  rw [linkDocument, count_document rfl (by decide) (by decide)]
  simp [LinkLine.count_labelledEdge_line, sum_map_ite]

theorem count_squareNode_document :
    squareNode.count (linkDocument ms ended) = 2 * ms.length := by
  have hend : ']' ∉ if ended then ['\n'] else [] := by cases ended <;> decide
  have hcount := LinkLine.count_squareNode_lines (p := "flowchart TD".toList) ms (by decide)
    (by decide) hend
  rwa [← List.append_assoc, ← document_eq] at hcount

theorem count_roundNode_document : roundNode.count (linkDocument ms ended) = 0 :=
  have hlines := LinkLine.notMem_lines ms (c := ')') (by decide) (by decide) (by decide) (by decide)
  count_of_no_closing (notMem_document (by decide) hlines ended) '('

theorem count_subgraph_document : subgraph.count (linkDocument ms ended) = 0 := by
  have hcount : subgraph.count (linkDocument ms ended) = _ := keywords_subgraph.count_eq _
  rw [hcount, List.countP_eq_zero]
  intro l hl
  rcases mem_lines_document (LinkLine.newline_notMem_lines ms) hl with rfl | hl | rfl
  · decide
  · obtain ⟨m, -, rfl⟩ := List.mem_map.mp hl
    simpa [List.isPrefixOf_iff_prefix] using m.subgraph_not_prefix
  · decide

end Document

namespace Metrics

/-- A flowchart written from links is detected as one, and shows two nodes and one edge for each link
and a branch for each labelled one, and nothing else. -/
theorem written_links_counted (ms : List LinkLine) (ended : Bool) :
    let s := linkDocument ms ended
    Kind.detect s = some .flowchart ∧
    measure .flowchart s =
      { elements := 2 * ms.length
        relationships := ms.length
        branches := ms.countP (·.label.isSome) } := by
  intro s
  refine ⟨detect_document (LinkLine.newline_notMem_lines ms) (by decide) ended, ?_⟩
  rw [measure, count_squareNode_document, count_roundNode_document, count_edge_document,
    count_dottedEdge_document, count_labelledEdge_document, count_subgraph_document, Nat.add_zero,
    Nat.add_zero]

example : let name : Name := ⟨"A".toList, by decide, List.all_eq_true.mp (by decide)⟩
    let start : Node := ⟨name, ⟨"a start".toList, by decide, by decide⟩, by decide⟩
    (LinkLine.mk 2 start start (some ⟨"yes".toList, by decide, by decide⟩)).line =
      "  A[a start] -->|yes| A[a start]".toList := by
  decide

end Metrics

end DiagramReview
