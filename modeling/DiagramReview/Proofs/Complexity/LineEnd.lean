import DiagramReview.Complexity.Analysis
import DiagramReview.Proofs.Text.Match

namespace DiagramReview

open Text Text.Pattern

theorem Kind.detect_withReturns (s : Text) : Kind.detect (withReturns s) = Kind.detect s := by
  rw [Kind.detect, Kind.detect, findSome?_rows (f := Kind.ofLine?) rfl,
    findSome?_rows (f := Kind.ofLine?) rfl]
  have hm (ls : List Text) :
      ls.findSome? (fun l => Kind.ofLine? (trim l)) = (ls.map trim).findSome? Kind.ofLine? := by
    rw [List.findSome?_map]
    rfl
  rw [hm, hm, map_trim_lines_withReturns]

theorem nestingDepth_withReturns (keywords : List Text) (s : Text) :
    nestingDepth keywords (withReturns s) = nestingDepth keywords s := by
  rw [nestingDepth, nestingDepth, map_trim_rows_withReturns]

theorem takeWhile_isWord_withEnds {e : Text} (he : IsEnd e) (s : Text) :
    (withEnds e s).takeWhile isWord = s.takeWhile isWord := by
  have hnewline : '\n' ∉ s.takeWhile isWord := by
    intro hm
    have hw : isWord '\n' = true := List.all_eq_true.mp List.all_takeWhile '\n' hm
    exact absurd hw (by decide)
  rw [takeWhile_withEnds he (by decide), withEnds_of_notMem hnewline]

theorem messageEnds_withReturns (m : Text) : messageEnds (withReturns m) = messageEnds m := by
  have hlast : (withReturns m).reverse.takeWhile isWord = m.reverse.takeWhile isWord := by
    rw [withReturns, reverse_withEnds]
    exact takeWhile_isWord_withEnds isEnd_newline_return m.reverse
  rw [messageEnds, messageEnds, hlast, withReturns,
    takeWhile_isWord_withEnds isEnd_return_newline m]

theorem implicitParticipants_withReturns (s : Text) :
    implicitParticipants (withReturns s) = implicitParticipants s := by
  have hm : message.keepsEnds = true := by decide
  rw [implicitParticipants, implicitParticipants, occurrences_withReturns hm, List.flatMap_map]
  simp only [messageEnds_withReturns]

namespace Metrics

theorem participants_withReturns (s : Text) : participants (withReturns s) = participants s := by
  have hp : participant.keepsEnds = true := by decide
  simp only [participants, count_withReturns hp, implicitParticipants_withReturns]

theorem measure_withReturns (kind : Kind) (s : Text) :
    measure kind (withReturns s) = measure kind s := by
  cases kind with
  | classes =>
    have hclass : classDeclaration.keepsEnds = true := by decide
    have hattribute : classAttribute.keepsEnds = true := by decide
    have hmethod : classMethod.keepsEnds = true := by decide
    have harrow : classArrow.keepsEnds = true := by decide
    have hdotted : classDottedArrow.keepsEnds = true := by decide
    simp only [measure, count_withReturns hclass, count_withReturns hattribute,
      count_withReturns hmethod, count_withReturns harrow, count_withReturns hdotted]
  | sequence =>
    have harrow : messageArrow.keepsEnds = true := by decide
    have hbranch : sequenceBranch.keepsEnds = true := by decide
    simp only [measure, participants_withReturns, nestingDepth_withReturns,
      count_withReturns harrow, count_withReturns hbranch]
  | state | oldState =>
    have hstate : stateDeclaration.keepsEnds = true := by decide
    have htransition : stateTransition.keepsEnds = true := by decide
    simp only [measure, nestingDepth_withReturns, count_withReturns hstate,
      count_withReturns htransition]
  | entities =>
    have hblock : entityBlock.keepsEnds = true := by decide
    have hattribute : entityAttribute.keepsEnds = true := by decide
    have hbar : barEnd.keepsEnds = true := by decide
    have hfoot : footEnd.keepsEnds = true := by decide
    simp only [measure, count_withReturns hblock, count_withReturns hattribute,
      count_withReturns hbar, count_withReturns hfoot]
  | flowchart | graph =>
    have hsquare : squareNode.keepsEnds = true := by decide
    have hround : roundNode.keepsEnds = true := by decide
    have hedge : edge.keepsEnds = true := by decide
    have hdotted : dottedEdge.keepsEnds = true := by decide
    have hsubgraph : subgraph.keepsEnds = true := by decide
    have hlabelled : labelledEdge.keepsEnds = true := by decide
    simp only [measure, count_withReturns hsquare, count_withReturns hround,
      count_withReturns hedge, count_withReturns hdotted, count_withReturns hsubgraph,
      count_withReturns hlabelled]

theorem measureAny_withReturns (kind : Option Kind) (s : Text) :
    measureAny kind (withReturns s) = measureAny kind s := by
  cases kind with
  | none => rfl
  | some kind => exact measure_withReturns kind s

end Metrics

/-- Returns before the newlines of any text change neither its kind nor what is counted in it as a
diagram of whichever kind, nor its depth for any keywords, nor what its analysis says. -/
theorem analysis_withReturns (s : Text) :
    Kind.detect (withReturns s) = Kind.detect s ∧
    (∀ kind, Metrics.measureAny kind (withReturns s) = Metrics.measureAny kind s) ∧
    (∀ keywords, nestingDepth keywords (withReturns s) = nestingDepth keywords s) ∧
    ∀ t, Analysis.ofText? t (withReturns s) = Analysis.ofText? t s := by
  have hkind := Kind.detect_withReturns s
  refine ⟨hkind, fun kind => Metrics.measureAny_withReturns kind s,
    fun keywords => nestingDepth_withReturns keywords s, fun t => ?_⟩
  rw [Analysis.ofText?, Analysis.ofText?, hkind]
  congr 1
  funext kind
  simp only [Analysis.ofKind, Metrics.measure_withReturns]

end DiagramReview
