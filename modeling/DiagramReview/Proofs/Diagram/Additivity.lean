import DiagramReview.Diagram.Metrics
import DiagramReview.Proofs.Text.OpenLine

namespace DiagramReview

open Text Text.Piece Text.Pattern

variable {f g : Text → Nat} {p : Pattern} {words : List Text}

def AddsUp (f : Text → Nat) : Prop := ∀ a b, f (a ++ '\n' :: b) = f a + f b

theorem AddsUp.add (hf : AddsUp f) (hg : AddsUp g) : AddsUp fun s => f s + g s := by
  intro a b
  change f (a ++ '\n' :: b) + g (a ++ '\n' :: b) = _
  rw [hf, hg, Nat.add_add_add_comm]

theorem addsUp_count (hl : p.lineStart = false) (h : ∀ q ∈ p.pieces, q.shuns '\n' = true) :
    AddsUp p.count :=
  count_append_cons hl h

def keywordLine (words : List Text) : Pattern := atLineStart [many isBlank, anyOf words]

structure Keywords (words : List Text) : Prop where
  steady : steady (keywordLine words).pieces = true
  ends : words.all (fun w => w.getLast?.all (!isBlank ·)) = true

namespace Keywords

variable (h : Keywords words)
include h

theorem lineLed : (keywordLine words).LineLed := lineLed_of_steady h.steady

theorem newline_notMem : ∀ w ∈ words, '\n' ∉ w := by
  have hsteady := h.steady
  simp only [Text.steady, Bool.and_eq_true] at hsteady
  simpa [keywordLine, atLineStart, withinLines] using hsteady.1.1.1

theorem openLines_eq_zero (s : Text) : (keywordLine words).openLines s = 0 := by
  have hwords := h.newline_notMem
  apply Text.openLines_eq_zero
  · simpa [withinLines] using hwords
  · simpa [Piece.shuns] using hwords

theorem occursIn_line {l : Text} (hn : '\n' ∉ l) :
    (keywordLine words).occursIn l = words.any (·.isPrefixOf (trim l)) := by
  have hwidth : ((keywordLine words).width? true l).isSome =
      words.any (·.isPrefixOf (trimLeft l)) := by
    rw [width?_true, keywordLine, atLineStart, widthOf?_many, Option.isSome_map, ← trimLeft,
      widthOf?_anyOf, Option.isSome_bind, ← List.isSome_find?]
    cases words.find? (·.isPrefixOf (trimLeft l)) <;> rfl
  rw [h.lineLed.occursIn_eq hn, hwidth, trim_eq_trimRight_trimLeft, Bool.eq_iff_iff,
    List.any_eq_true, List.any_eq_true]
  refine exists_congr fun w => and_congr_right fun hw => ?_
  have hend := not_blank_of_all (List.all_eq_true.mp h.ends w hw)
  rw [List.isPrefixOf_iff_prefix, List.isPrefixOf_iff_prefix, prefix_trimRight_iff hend]

theorem count_eq (s : Text) : (keywordLine words).count s =
    (lines s).countP fun l => words.any (·.isPrefixOf (trim l)) := by
  have hle := h.lineLed.count_le s
  have hge := h.lineLed.countP_lines_le s
  rw [h.openLines_eq_zero] at hle hge
  have hlines : (lines s).countP (keywordLine words).occursIn =
      (lines s).countP fun l => words.any (·.isPrefixOf (trim l)) := by
    apply List.countP_congr
    intro l hl
    rw [h.occursIn_line (newline_notMem_of_mem_lines hl)]
  omega

theorem addsUp : AddsUp (keywordLine words).count := by
  intro a b
  rw [h.count_eq, h.count_eq, h.count_eq, lines_append, List.countP_append]

end Keywords

theorem keywords_branch : Keywords ["alt".toList, "opt".toList] := ⟨by decide, by decide⟩

theorem keywords_subgraph : Keywords ["subgraph".toList] := ⟨by decide, by decide⟩

namespace Metrics

def lineCounters : Kind → List Counter
  | .classes => [.attributes, .methods, .relationships]
  | .sequence => [.relationships, .branches]
  | .state | .oldState | .entities => [.relationships]
  | .flowchart | .graph => [.relationships, .subgraphs, .branches]

theorem addsUp_arrows : AddsUp fun s => classArrow.count s + classDottedArrow.count s :=
  (addsUp_count rfl (by decide)).add (addsUp_count rfl (by decide))

theorem addsUp_ends : AddsUp fun s => barEnd.count s + footEnd.count s :=
  (addsUp_count rfl (by decide)).add (addsUp_count rfl (by decide))

theorem addsUp_edges : AddsUp fun s => edge.count s + dottedEdge.count s :=
  (addsUp_count rfl (by decide)).add (addsUp_count rfl (by decide))

theorem addsUp_get {kind : Kind} {c : Counter} (hc : c ∈ lineCounters kind) :
    AddsUp fun s => (measure kind s).get c := by
  cases kind with
  | classes =>
    simp only [lineCounters, List.mem_cons, List.not_mem_nil, or_false] at hc
    rcases hc with rfl | rfl | rfl
    · exact addsUp_count (p := classAttribute) rfl (by decide)
    · exact addsUp_count (p := classMethod) rfl (by decide)
    · exact addsUp_arrows
  | sequence =>
    simp only [lineCounters, List.mem_cons, List.not_mem_nil, or_false] at hc
    rcases hc with rfl | rfl
    · exact addsUp_count (p := messageArrow) rfl (by decide)
    · exact keywords_branch.addsUp
  | state | oldState =>
    obtain rfl := List.mem_singleton.mp hc
    exact addsUp_count (p := stateTransition) rfl (by decide)
  | entities =>
    obtain rfl := List.mem_singleton.mp hc
    exact addsUp_ends
  | flowchart | graph =>
    simp only [lineCounters, List.mem_cons, List.not_mem_nil, or_false] at hc
    rcases hc with rfl | rfl | rfl
    · exact addsUp_edges
    · exact keywords_subgraph.addsUp
    · exact addsUp_count (p := labelledEdge) rfl (by decide)

/-- Keywords are counted once for each line that opens with one, and all of these counters add up
over any cut at a newline. -/
theorem counters_add_up :
    (∀ kind, ∀ c ∈ lineCounters kind, ∀ a b : Text, (measure kind (a ++ '\n' :: b)).get c =
      (measure kind a).get c + (measure kind b).get c) ∧
    (∀ s, (measure .sequence s).branches = (lines s).countP fun l =>
      "alt".toList.isPrefixOf (trim l) || "opt".toList.isPrefixOf (trim l)) ∧
    ∀ kind, kind = .flowchart ∨ kind = .graph → ∀ s, (measure kind s).subgraphs =
      (lines s).countP fun l => "subgraph".toList.isPrefixOf (trim l) := by
  refine ⟨fun kind c hc => addsUp_get hc, fun s => ?_, fun kind hkind s => ?_⟩
  · have hcount := keywords_branch.count_eq s
    simp only [List.any_cons, List.any_nil, Bool.or_false] at hcount
    exact hcount
  · have hcount := keywords_subgraph.count_eq s
    simp only [List.any_cons, List.any_nil, Bool.or_false] at hcount
    rcases hkind with rfl | rfl
    · exact hcount
    · exact hcount

theorem counters_add_up_at_blank_lines :
    let a := "sequenceDiagram\n  alt x\n ".toList
    let b := " optional\nAnn->>Bob".toList
    Counter.branches ∈ lineCounters .sequence ∧
    (measure .sequence (a ++ '\n' :: b)).branches =
      (measure .sequence a).branches + (measure .sequence b).branches ∧
    (measure .sequence (a ++ '\n' :: b)).branches = 2 ∧
    (measure .graph "subgraph\n\n subgraphs".toList).subgraphs =
      (lines "subgraph\n\n subgraphs".toList).countP fun l =>
        "subgraph".toList.isPrefixOf (trim l) := by
  intro a b
  have hbranches : Counter.branches ∈ lineCounters .sequence := by decide
  have hsum := counters_add_up.1 .sequence .branches hbranches a b
  have htwo : (measure .sequence (a ++ '\n' :: b)).branches = 2 := by decide
  exact ⟨hbranches, hsum, htwo, counters_add_up.2.2 .graph (.inr rfl) _⟩

end Metrics

end DiagramReview
