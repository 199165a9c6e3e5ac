import DiagramReview.Complexity.Analysis
import DiagramReview.Proofs.Complexity.Order
import DiagramReview.Proofs.Diagram.Detection
import DiagramReview.Proofs.Diagram.Nesting
import DiagramReview.Proofs.Text.Growth

namespace DiagramReview

open Text Text.Piece Text.Pattern

theorem Kind.detect_append {a : Text} {kind : Kind} (h : detect a = some kind) (b : Text) :
    detect (a ++ '\n' :: b) = some kind := by
  rw [detect_append_eq_or, h, Option.some_or]

theorem exists_map_trim_rows_append (a b : Text) :
    ∃ rest, (rows (a ++ '\n' :: b)).map trim = (rows a).map trim ++ rest := by
  obtain ⟨last, hlast, -⟩ := map_trim_lines a
  refine ⟨last ++ (rows b).map trim, ?_⟩
  rw [map_trim_rows_append, hlast, List.append_assoc]

theorem nestingDepth_le_append (keywords : List Text) (a b : Text) :
    nestingDepth keywords a ≤ nestingDepth keywords (a ++ '\n' :: b) := by
  obtain ⟨rest, hrest⟩ := exists_map_trim_rows_append a b
  rw [nestingDepth, nestingDepth, hrest]
  exact deepest_le_append keywords 0 _ rest

namespace Metrics

theorem participants_le_append {a : Text} (h : participant.occursIn a = true) (b : Text) :
    participants a ≤ participants (a ++ '\n' :: b) := by
  have hlasting : Lasting participant.pieces := lasting_of_steady (by decide)
  have hpos := occursIn_iff_count_pos.mp h
  have hle := count_le_count_append hlasting a b
  rw [participants, participants, if_neg (by omega), if_neg (by omega)]
  exact hle

theorem lasting_stateDeclaration : Lasting stateDeclaration.pieces := by
  let front : List Piece := [many isBlank, anyOf ["[*]".toList, []], many isBlank, one isWord,
    many fun c => isWord c || isBlank c]
  have hlines : withinLines front = true := by decide
  have hruns : runsEnd (front ++ [word ":".toList]) = true := by decide
  -- no piece before the colon takes one
  have hshuns : ∀ q ∈ front, q.shuns ':' = true := by decide
  exact lasting_of_shuns (by decide) hlines hruns hshuns

theorem get_measure_le_append {kind : Kind} {a : Text}
    (h : kind ≠ .sequence ∨ participant.occursIn a = true) (b : Text) (c : Counter) :
    (measure kind a).get c ≤ (measure kind (a ++ '\n' :: b)).get c := by
  have hcount {p : Pattern} (hp : Lasting p.pieces) : p.count a ≤ p.count (a ++ '\n' :: b) :=
    count_le_count_append hp a b
  cases kind with
  | classes =>
    cases c with
    | elements => exact hcount (lasting_of_steady (by decide))
    | attributes => exact hcount (lasting_of_steady (by decide))
    | methods => exact hcount (lasting_of_steady (by decide))
    | relationships =>
      apply Nat.add_le_add
      · exact hcount (lasting_of_steady (by decide))
      · exact hcount (lasting_of_steady (by decide))
    | nesting | branches | subgraphs => exact Nat.le_refl 0
  | sequence =>
    cases c with
    | elements => exact participants_le_append (h.resolve_left fun hne => hne rfl) b
    | relationships => exact hcount (lasting_of_steady (by decide))
    | nesting => exact nestingDepth_le_append sequenceBlocks a b
    | branches => exact hcount (lasting_of_steady (by decide))
    | attributes | methods | subgraphs => exact Nat.le_refl 0
  | state | oldState =>
    cases c with
    | elements => exact hcount lasting_stateDeclaration
    | relationships => exact hcount (lasting_of_steady (by decide))
    | nesting => exact nestingDepth_le_append stateBlocks a b
    | attributes | methods | branches | subgraphs => exact Nat.le_refl 0
  | entities =>
    cases c with
    | elements => exact hcount (lasting_of_steady (by decide))
    | attributes => exact hcount (lasting_of_steady (by decide))
    | relationships =>
      apply Nat.add_le_add
      · exact hcount (lasting_of_steady (by decide))
      · exact hcount (lasting_of_steady (by decide))
    | nesting | methods | branches | subgraphs => exact Nat.le_refl 0
  | flowchart | graph =>
    cases c with
    | elements =>
      apply Nat.add_le_add
      · exact hcount (lasting_of_steady (by decide))
      · exact hcount (lasting_of_steady (by decide))
    | relationships =>
      apply Nat.add_le_add
      · exact hcount (lasting_of_steady (by decide))
      · exact hcount (lasting_of_steady (by decide))
    | subgraphs => exact hcount (lasting_of_steady (by decide))
    | branches => exact hcount (lasting_of_steady (by decide))
    | nesting | attributes | methods => exact Nat.le_refl 0

end Metrics

theorem Analysis.level_ofKind_mono (t : Thresholds) (kind : Kind) {a b : Text}
    (h : ∀ c, (Metrics.measure kind a).get c ≤ (Metrics.measure kind b).get c) :
    (ofKind t kind a).complexity.level ≤ (ofKind t kind b).complexity.level := by
  have hlevel (s : Text) : (ofKind t kind s).complexity.level =
      t.classify ((Metrics.measure kind s).score kind) := by rw [ofKind, Thresholds.rate]
  rw [hlevel, hlevel]
  exact t.classify_mono (Metrics.score_mono h kind)

/-- Lines added to a document of a known kind leave the kind as it is and take no counter and no
level down. A sequence diagram has to name a participant first: without one the participants are
those that its messages imply. -/
theorem added_lines_never_simplify {a : Text} {kind : Kind} (hkind : Kind.detect a = some kind)
    (h : kind ≠ .sequence ∨ participant.occursIn a = true) (b : Text) :
    Kind.detect (a ++ '\n' :: b) = some kind ∧
      (∀ c, (Metrics.measure kind a).get c ≤ (Metrics.measure kind (a ++ '\n' :: b)).get c) ∧
      ∀ t, ∃ x y, Analysis.ofText? t a = some x ∧ Analysis.ofText? t (a ++ '\n' :: b) = some y ∧
        x.complexity.level ≤ y.complexity.level := by
  have hgrown : Kind.detect (a ++ '\n' :: b) = some kind := Kind.detect_append hkind b
  have hget := Metrics.get_measure_le_append h b
  refine ⟨hgrown, hget, fun t =>
    ⟨Analysis.ofKind t kind a, Analysis.ofKind t kind (a ++ '\n' :: b), ?_, ?_, ?_⟩⟩
  · rw [Analysis.ofText?, hkind, Option.map_some]
  · rw [Analysis.ofText?, hgrown, Option.map_some]
  · exact Analysis.level_ofKind_mono t kind hget

theorem end_of_message_added_never_simplifies :
    let a := "sequenceDiagram\nparticipant\tAnn\nopt late\nAnn -".toList
    let b := "->>Bob: hello\nend".toList
    Kind.detect a = some .sequence ∧ participant.occursIn a = true ∧
      Kind.detect (a ++ '\n' :: b) = some .sequence ∧
      (∀ c, (Metrics.measure .sequence a).get c ≤
        (Metrics.measure .sequence (a ++ '\n' :: b)).get c) ∧
      ∀ t, ∃ x y, Analysis.ofText? t a = some x ∧ Analysis.ofText? t (a ++ '\n' :: b) = some y ∧
        x.complexity.level ≤ y.complexity.level := by
  intro a b
  have hkind : Kind.detect a = some .sequence := by decide
  have hnamed : participant.occursIn a = true := by decide
  exact ⟨hkind, hnamed, added_lines_never_simplify hkind (.inr hnamed) b⟩

end DiagramReview
