import DiagramReview.Diagram.Kind
import DiagramReview.Proofs.Text.Trim

namespace DiagramReview.Kind

open Text

variable {s t line : Text} {kind : Kind}

theorem mem_all (kind : Kind) : kind ∈ all := by cases kind <;> decide

theorem ofLine?_eq_none_iff :
    ofLine? line = none ↔ ∀ kind : Kind, ¬ kind.keyword.toList <+: line := by
  rw [ofLine?, List.find?_eq_none]
  constructor
  · intro h kind hk
    exact h kind (mem_all kind) (List.isPrefixOf_iff_prefix.mpr hk)
  · intro h kind _ hk
    exact h kind (List.isPrefixOf_iff_prefix.mp hk)

theorem last_not_blank (kind : Kind) : ∀ c ∈ kind.keyword.toList.getLast?, isBlank c = false := by
  apply not_blank_of_all
  cases kind <;> decide

theorem ofLine?_trimRight (line : Text) : ofLine? (trimRight line) = none ↔ ofLine? line = none := by
  simp only [ofLine?_eq_none_iff, prefix_trimRight_iff (last_not_blank _)]

theorem detect_eq_none_iff : detect s = none ↔ ∀ l ∈ rows s, ofLine? (trim l) = none :=
  List.findSome?_eq_none_iff

theorem detect_of_rows_set {i : Nat} (hs : detect s = none) (ht : rows t = (rows s).set i line)
    (hi : i < (rows s).length) (hline : ofLine? (trim line) = some kind) :
    detect t = some kind := by
  have hbefore : ((rows s).take i).findSome? (fun l => ofLine? (trim l)) = none := by
    apply List.findSome?_eq_none_iff.mpr
    intro l hl
    exact detect_eq_none_iff.mp hs l (List.mem_of_mem_take hl)
  rw [detect, ht, List.set_eq_take_append_cons_drop, if_pos hi, List.findSome?_append, hbefore,
    Option.none_or, List.findSome?_cons, hline]

theorem detect_append_eq_or (a b : Text) :
    detect (a ++ '\n' :: b) = (detect a).or (detect b) := by
  have hlines (s : Text) : detect s = (lines s).findSome? fun l => ofLine? (trim l) :=
    findSome?_rows rfl s
  rw [hlines, hlines, hlines, lines_append, List.findSome?_append]

theorem detect_of_line (h : '\n' ∉ line) : detect line = ofLine? (trim line) := by
  have hlines : lines line = [line] := List.splitOn_eq_singleton h
  rw [detect, findSome?_rows (f := ofLine?) rfl, hlines, List.findSome?_singleton]

def opens (line : Text) (kind : Kind) : Bool := kind.keyword.toList.isPrefixOf line

def Longest (line : Text) (kind : Kind) : Prop :=
  kind.keyword.toList <+: line ∧ ∀ other : Kind, other.keyword.toList <+: line →
    other.keyword.toList.length ≤ kind.keyword.toList.length

def detectBy (order : List Kind) (s : Text) : Option Kind :=
  (rows s).findSome? fun row => order.find? (opens (trim row))

variable {order : List Kind} {other : Kind}

theorem opens_iff : opens line kind = true ↔ kind.keyword.toList <+: line :=
  List.isPrefixOf_iff_prefix

theorem keyword_prefix (h : kind.keyword.toList <+: other.keyword.toList) :
    kind = other ∨ kind = oldState ∧ other = state := by
  revert h
  cases kind <;> cases other <;> decide

theorem opens_oldState (h : opens line state = true) : opens line oldState = true := by
  have hshorter : oldState.keyword.toList <+: state.keyword.toList := by decide
  exact opens_iff.mpr (hshorter.trans (opens_iff.mp h))

theorem idxOf_le {i : Nat} (hi : i < order.length) : order.idxOf order[i] ≤ i := by
  by_contra hlt
  have hnot := List.not_of_lt_findIdx (Nat.not_le.mp hlt)
  simp at hnot

theorem longest_of_find? (hfirst : order.idxOf state < order.idxOf oldState)
    (h : order.find? (opens line) = some kind) : Longest line kind := by
  obtain ⟨hopens, i, hi, rfl, hbefore⟩ := List.find?_eq_some_iff_getElem.mp h
  refine ⟨opens_iff.mp hopens, fun other hother => ?_⟩
  rcases List.prefix_or_prefix_of_prefix hother (opens_iff.mp hopens) with hle | hle
  · exact hle.length_le
  · rcases keyword_prefix hle with heq | ⟨hold, rfl⟩
    · rw [heq]
    · have hplace : order.idxOf state < i := by
        have hle := idxOf_le hi
        rw [hold] at hle
        omega
      have hnot := hbefore _ hplace
      rw [List.getElem_idxOf, opens_iff.mpr hother] at hnot
      cases hnot

theorem Longest.eq (h : Longest line kind) (h' : Longest line other) : kind = other := by
  have hlength := Nat.le_antisymm (h'.2 kind h.1) (h.2 other h'.1)
  have hkeyword : kind.keyword.toList = other.keyword.toList := by
    rw [List.prefix_iff_eq_take.mp h.1, List.prefix_iff_eq_take.mp h'.1, hlength]
  have hshorter : kind.keyword.toList <+: other.keyword.toList := hkeyword ▸ List.prefix_rfl
  rcases keyword_prefix hshorter with rfl | ⟨rfl, rfl⟩
  · rfl
  · exact absurd hlength (by decide)

theorem find?_eq_some_iff (hall : ∀ k : Kind, k ∈ order)
    (hfirst : order.idxOf state < order.idxOf oldState) :
    order.find? (opens line) = some kind ↔ Longest line kind := by
  constructor
  · exact longest_of_find? hfirst
  · intro h
    cases hfind : order.find? (opens line) with
    | none => exact absurd (opens_iff.mpr h.1) (List.find?_eq_none.mp hfind kind (hall kind))
    | some found => rw [(longest_of_find? hfirst hfind).eq h]

theorem ofLine?_eq_some_iff : ofLine? line = some kind ↔ Longest line kind :=
  find?_eq_some_iff mem_all (by decide)

theorem find?_eq_ofLine? (hall : ∀ k : Kind, k ∈ order)
    (hfirst : order.idxOf state < order.idxOf oldState) (line : Text) :
    order.find? (opens line) = ofLine? line := by
  apply Option.ext
  intro kind
  rw [find?_eq_some_iff hall hfirst, ofLine?_eq_some_iff]

theorem state_first_of_find? (h : order.find? (opens state.keyword.toList) = some state) :
    order.idxOf state < order.idxOf oldState := by
  obtain ⟨hopens, i, hi, hstate, hbefore⟩ := List.find?_eq_some_iff_getElem.mp h
  have hle := idxOf_le hi
  rw [hstate] at hle
  by_contra hlt
  have hold : order.idxOf oldState ≠ i := by
    rintro rfl
    rw [List.getElem_idxOf] at hstate
    cases hstate
  have hnot := hbefore (order.idxOf oldState) (by omega)
  rw [List.getElem_idxOf, opens_oldState hopens] at hnot
  cases hnot

/-- The first line that opens with a keyword decides on the kind of a document, and on a line by
itself the longest of its keywords. An order in which all keywords are tried gives the same kinds
exactly if the second notation of state diagrams comes before the first. -/
theorem first_line_longest_keyword (a b line : Text) (order : List Kind) (hline : '\n' ∉ line)
    (horder : order.Perm all) :
    detect (a ++ '\n' :: b) = (detect a).or (detect b) ∧
      (∀ kind, detect line = some kind ↔ Longest (trim line) kind) ∧
      (detect line = none ↔ ∀ kind : Kind, ¬ kind.keyword.toList <+: trim line) ∧
      ((∀ s, detectBy order s = detect s) ↔ order.idxOf state < order.idxOf oldState) := by
  have hall (k : Kind) : k ∈ order := horder.mem_iff.mpr (mem_all k)
  refine ⟨detect_append_eq_or a b, fun kind => ?_, ?_, fun h => ?_, fun hfirst s => ?_⟩
  · rw [detect_of_line hline, ofLine?_eq_some_iff]
  · rw [detect_of_line hline, ofLine?_eq_none_iff]
  · apply state_first_of_find?
    have hdoc : detectBy order state.keyword.toList = some state := (h _).trans (by decide)
    have hrow : rows state.keyword.toList = [state.keyword.toList] := by decide
    have htrim : trim state.keyword.toList = state.keyword.toList := by decide
    rwa [detectBy, hrow, List.findSome?_singleton, htrim] at hdoc
  · simp only [detectBy, detect, find?_eq_ofLine? hall hfirst]

theorem first_line_longest_keyword_of_state :
    let a := "%% title\n\t stateDiagram-v2\r".toList
    let line := "  stateDiagram-v2 x".toList
    let order := [graph, state, classes, oldState, flowchart, sequence, entities]
    '\n' ∉ line ∧ order.Perm all ∧ detect (a ++ '\n' :: "graph TD".toList) = some state ∧
      detect line = some state ∧ ∀ s, detectBy order s = detect s := by
  intro a line order
  have hline : '\n' ∉ line := by decide
  have horder : order.Perm all := by decide
  obtain ⟨hfirst, hlongest, -, hsame⟩ :=
    first_line_longest_keyword a "graph TD".toList line order hline horder
  refine ⟨hline, horder, ?_, (hlongest state).mpr ?_, hsame.mpr (by decide)⟩
  · have ha : detect a = some state := by decide
    rw [hfirst, ha, Option.some_or]
  · exact ofLine?_eq_some_iff.mp (by decide)

end DiagramReview.Kind
