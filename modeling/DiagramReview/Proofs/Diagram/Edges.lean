import DiagramReview.Diagram.Metrics
import DiagramReview.Proofs.Text.Front
import DiagramReview.Proofs.Text.Run
import Mathlib.Algebra.GroupWithZero.Nat

namespace DiagramReview

open Text Text.Piece Text.Pattern

variable {c : Char} {s t : Text}

def edgesOfRun (n : Nat) (rest : Text) : Nat :=
  n / 3 + if n % 3 = 2 ∧ rest.head? = some '>' then 1 else 0

theorem edgesOfRun_add_three (n : Nat) (rest : Text) :
    edgesOfRun (n + 3) rest = edgesOfRun n rest + 1 := by
  rw [edgesOfRun, edgesOfRun, Nat.add_mod_right]
  omega

theorem edgesOfRun_two (rest : Text) :
    edgesOfRun 2 rest = if rest.head? = some '>' then 1 else 0 := by
  simp [edgesOfRun]

theorem one_le_edgesOfRun (n : Nat) (rest : Text) (h : rest.head? = some '>') :
    1 ≤ edgesOfRun (n + 2) rest := by
  rw [edgesOfRun]
  simp only [h, and_true]
  split_ifs <;> omega

theorem count_lone_dash {p : Pattern} {words : List Text} (hl : p.lineStart = false)
    (h : Spells p.pieces words) (hwords : words.all ("--".toList.isPrefixOf ·) = true)
    (ht : ∀ c ∈ t.head?, c ≠ '-') : p.count ('-' :: t) = p.count t := by
  apply count_cons hl
  rw [h, Option.map_eq_none_iff, List.find?_eq_none]
  intro w hw hprefix
  have hopen := List.isPrefixOf_iff_prefix.mp (List.all_eq_true.mp hwords w hw)
  have hdash := hopen.trans (List.isPrefixOf_iff_prefix.mp hprefix)
  obtain ⟨r, hr⟩ := hdash
  obtain rfl : '-' :: r = t := (List.cons.inj hr).2
  exact ht '-' rfl rfl

theorem spells_edge : Spells edge.pieces ["---".toList, "-->".toList] :=
  (spells_nil.charOf_cons "->".toList).word_cons "--".toList

theorem count_edge_cons (hc : c ≠ '-') (s : Text) : edge.count (c :: s) = edge.count s :=
  count_cons_of_ne rfl rfl hc s

theorem count_edge_dashes (s : Text) :
    edge.count ('-' :: '-' :: '-' :: s) = edge.count s + 1 :=
  count_append (a := "---".toList) rfl (by decide) (spells_edge _)

theorem count_edge_arrow (s : Text) : edge.count ('-' :: '-' :: '>' :: s) = edge.count s + 1 :=
  count_append (a := "-->".toList) rfl (by decide) (spells_edge _)

theorem count_edge_lone (ht : ∀ c ∈ t.head?, c ≠ '-') :
    edge.count ('-' :: t) = edge.count t := count_lone_dash rfl spells_edge (by decide) ht

theorem count_edge_two (ht : ∀ c ∈ t.head?, c ≠ '-') :
    edge.count ('-' :: '-' :: t) = edgesOfRun 2 t + edge.count t := by
  rw [edgesOfRun_two]
  rcases t with - | ⟨c, t⟩
  · decide
  · have hc : c ≠ '-' := ht c rfl
    by_cases hangle : c = '>'
    · subst hangle
      rw [count_edge_arrow, count_edge_cons hc, List.head?_cons, if_pos rfl, Nat.add_comm]
    · have hnone : widthOf? edge.pieces ('-' :: '-' :: c :: t) = none := by
        rw [spells_edge]
        simp [List.isPrefixOf, hc.symm, Ne.symm hangle]
      rw [count_cons rfl hnone, count_edge_lone ht, if_neg (by simpa using hangle), Nat.zero_add]

theorem count_edge_replicate (n : Nat) (ht : ∀ c ∈ t.head?, c ≠ '-') :
    edge.count (List.replicate n '-' ++ t) = edgesOfRun n t + edge.count t := by
  induction n using Nat.strongRecOn with
  | ind n ih =>
    match n with
    | 0 => simp [edgesOfRun]
    | 1 => simpa [edgesOfRun] using count_edge_lone ht
    | 2 => exact count_edge_two ht
    | n + 3 =>
      have hcount : edge.count (List.replicate (n + 3) '-' ++ t) =
          edge.count (List.replicate n '-' ++ t) + 1 := count_edge_dashes _
      rw [hcount, ih n (by omega), edgesOfRun_add_three]
      omega

theorem dashes_induction {motive : Text → Prop} (nil : motive [])
    (other : ∀ c s, c ≠ '-' → motive s → motive (c :: s))
    (run : ∀ n t, (∀ c ∈ t.head?, c ≠ '-') → motive t →
      motive (List.replicate (n + 1) '-' ++ t)) (s : Text) : motive s := by
  induction s using maximalRun_induction (· == '-') with
  | nil => exact nil
  | other c s hc ih => exact other c s (by simpa using hc) ih
  | run r t hne hr ht ih =>
    obtain ⟨n, hn⟩ := Nat.exists_eq_succ_of_ne_zero (Nat.ne_of_gt (List.length_pos_iff.mpr hne))
    obtain rfl : r = List.replicate (n + 1) '-' :=
      List.eq_replicate_iff.mpr ⟨hn, fun c hc => by simpa using hr c hc⟩
    exact run n t (fun c hc => by simpa using ht c hc) ih

theorem count_edge (s : Text) : edge.count s =
    ((runsWithRest (· == '-') s).map fun r => edgesOfRun r.1.length r.2).sum := by
  induction s using dashes_induction with
  | nil => rfl
  | other c s hc ih =>
    have hruns : runsWithRest (· == '-') (c :: s) = runsWithRest (· == '-') s :=
      runsWithRest_cons (by simpa using hc) s
    rw [count_edge_cons hc, ih, hruns]
  | run n t ht ih =>
    have hruns : runsWithRest (· == '-') (List.replicate (n + 1) '-' ++ t) =
        (List.replicate (n + 1) '-', t) :: runsWithRest (· == '-') t :=
      runsWithRest_append (by simp) (by simp) fun c hc => by simpa using ht c hc
    rw [count_edge_replicate _ ht, ih, hruns, List.map_cons, List.sum_cons, List.length_replicate]

theorem spells_dottedEdge : Spells dottedEdge.pieces ["..--".toList, "..->".toList] :=
  (spells_nil.charOf_cons "->".toList).word_cons "..-".toList

theorem count_dottedEdge (s : Text) :
    dottedEdge.count s = places ["..--".toList, "..->".toList] s :=
  count_eq_places rfl spells_dottedEdge (by decide) s

theorem spells_labelledEdge : Spells labelledEdge.pieces ["-->|".toList] :=
  spells_nil.word_cons "-->|".toList

theorem count_labelledEdge_replicate (n : Nat) (t : Text) :
    labelledEdge.count (List.replicate (n + 2) '-' ++ t) =
      labelledEdge.count ('-' :: '-' :: t) := by
  induction n with
  | zero => rfl
  | succ n ih =>
    have hnone : widthOf? labelledEdge.pieces ('-' :: (List.replicate (n + 2) '-' ++ t)) = none := by
      rw [spells_labelledEdge]
      simp [List.replicate_succ, List.isPrefixOf]
    rw [← ih]
    exact count_cons rfl hnone

theorem count_labelledEdge_lone (ht : ∀ c ∈ t.head?, c ≠ '-') :
    labelledEdge.count ('-' :: t) = labelledEdge.count t :=
  count_lone_dash rfl spells_labelledEdge (by decide) ht

theorem count_labelledEdge_two (ht : ∀ c ∈ t.head?, c ≠ '-') :
    labelledEdge.count ('-' :: '-' :: t) =
      labelledEdge.count t + if ">|".toList.isPrefixOf t then 1 else 0 := by
  split_ifs with hbar
  · obtain ⟨b, rfl⟩ := List.isPrefixOf_iff_prefix.mp hbar
    have hlabel : labelledEdge.count ('-' :: '-' :: (">|".toList ++ b)) = labelledEdge.count b + 1 :=
      count_append (a := "-->|".toList) rfl (by decide) (spells_labelledEdge _)
    rw [hlabel, count_append_of_notMem (a := ">|".toList) rfl rfl (by decide)]
  · have hnone : widthOf? labelledEdge.pieces ('-' :: '-' :: t) = none := by
      rw [spells_labelledEdge]
      simpa [List.isPrefixOf] using hbar
    rw [count_cons rfl hnone, count_labelledEdge_lone ht, Nat.add_zero]

theorem count_labelledEdge_two_le (n : Nat) (ht : ∀ c ∈ t.head?, c ≠ '-') :
    labelledEdge.count ('-' :: '-' :: t) ≤ edgesOfRun (n + 2) t + labelledEdge.count t := by
  rw [count_labelledEdge_two ht]
  split_ifs with hbar
  · obtain ⟨b, rfl⟩ := List.isPrefixOf_iff_prefix.mp hbar
    have hedge := one_le_edgesOfRun n (">|".toList ++ b) rfl
    omega
  · exact Nat.le_add_left _ _

theorem count_labelledEdge_le (s : Text) : labelledEdge.count s ≤ edge.count s := by
  induction s using dashes_induction with
  | nil => exact Nat.le_refl _
  | other c s hc ih =>
    have hlabel : labelledEdge.count (c :: s) = labelledEdge.count s := count_cons_of_ne rfl rfl hc s
    rwa [hlabel, count_edge_cons hc]
  | run n t ht ih =>
    rw [count_edge_replicate _ ht]
    cases n with
    | zero =>
      have hlone : labelledEdge.count (List.replicate 1 '-' ++ t) = labelledEdge.count t :=
        count_labelledEdge_lone ht
      rw [hlone]
      omega
    | succ n =>
      rw [count_labelledEdge_replicate]
      exact (count_labelledEdge_two_le n ht).trans (Nat.add_le_add_left ih _)

namespace Metrics

/-- The edges of a flowchart are the places of dotted ones and, for each maximal run of dashes, as many
as the run holds; those with a label are never more. -/
theorem edges_counted_by_run : ∀ kind ∈ [Kind.flowchart, Kind.graph], ∀ s,
    (measure kind s).relationships = places ["..--".toList, "..->".toList] s +
      ((runsWithRest (· == '-') s).map fun r => edgesOfRun r.1.length r.2).sum ∧
    (measure kind s).branches ≤ (measure kind s).relationships := by
  have hedges (s : Text) : edge.count s + dottedEdge.count s =
      places ["..--".toList, "..->".toList] s +
        ((runsWithRest (· == '-') s).map fun r => edgesOfRun r.1.length r.2).sum ∧
      labelledEdge.count s ≤ edge.count s + dottedEdge.count s := by
    refine ⟨?_, (count_labelledEdge_le s).trans (Nat.le_add_right _ _)⟩
    rw [count_edge, count_dottedEdge, Nat.add_comm]
  intro kind hkind s
  simp only [List.mem_cons, List.not_mem_nil, or_false] at hkind
  rcases hkind with rfl | rfl
  · exact hedges s
  · exact hedges s

theorem edges_counted_by_run_of_five :
    let s := "graph LR\nA -----> B\nB -..->|x| C ---->|y| D\nD ..-- E --".toList
    Kind.graph ∈ [Kind.flowchart, Kind.graph] ∧
    (measure .graph s).relationships = places ["..--".toList, "..->".toList] s +
      ((runsWithRest (· == '-') s).map fun r => edgesOfRun r.1.length r.2).sum ∧
    (measure .graph s).branches ≤ (measure .graph s).relationships ∧
    (measure .graph s).relationships = 5 := by
  intro s
  have hkind : Kind.graph ∈ [Kind.flowchart, Kind.graph] := by decide
  obtain ⟨hedges, hlabels⟩ := edges_counted_by_run .graph hkind s
  exact ⟨hkind, hedges, hlabels, by decide⟩

end Metrics

end DiagramReview
