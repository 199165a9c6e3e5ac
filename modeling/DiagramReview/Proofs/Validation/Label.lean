import DiagramReview.Proofs.Text.Front
import DiagramReview.Proofs.Validation.Findings

namespace DiagramReview.Check

open Text Text.Piece Text.Pattern

def FirstDelimited (line label : Text) : Prop :=
  ∃ a o c b, line = a ++ o :: (label ++ c :: b) ∧ '"' ∉ a ∧ '[' ∉ a ∧ (o = '"' ∨ o = '[') ∧
    '"' ∉ label ∧ ']' ∉ label ∧ (c = '"' ∨ c = ']')

def labelPattern : Pattern := anywhere [one opensLabel, many (!closesLabel ·), one closesLabel]

variable {a b s t line label : Text} {o c : Char} {n : Nat}

theorem opensLabel_iff : opensLabel c = true ↔ c = '"' ∨ c = '[' := by simp [opensLabel]

theorem closesLabel_iff : closesLabel c = true ↔ c = '"' ∨ c = ']' := by simp [closesLabel]

theorem opensLabel_eq_false_iff : (∀ c ∈ a, opensLabel c = false) ↔ '"' ∉ a ∧ '[' ∉ a := by
  simp only [← Bool.not_eq_true, opensLabel_iff, not_or, ← List.forall_mem_ne', forall_and]

theorem closesLabel_eq_false_iff : (∀ c ∈ a, closesLabel c = false) ↔ '"' ∉ a ∧ ']' ∉ a := by
  simp only [← Bool.not_eq_true, closesLabel_iff, not_or, ← List.forall_mem_ne', forall_and]

theorem firstDelimited_iff : FirstDelimited line label ↔ ∃ a o c b,
    line = a ++ o :: (label ++ c :: b) ∧ (∀ x ∈ a, opensLabel x = false) ∧ opensLabel o = true ∧
      (∀ x ∈ label, closesLabel x = false) ∧ closesLabel c = true := by
  simp only [FirstDelimited, opensLabel_eq_false_iff, closesLabel_eq_false_iff, opensLabel_iff,
    closesLabel_iff, and_assoc]

theorem first_cases (accepts : Char → Bool) (s : Text) : (∀ x ∈ s, accepts x = false) ∨
    ∃ a c b, s = a ++ c :: b ∧ (∀ x ∈ a, accepts x = false) ∧ accepts c = true := by
  cases h : s.find? accepts with
  | none => exact .inl (by simpa using h)
  | some c =>
    obtain ⟨hc, a, b, rfl, ha⟩ := List.find?_eq_some_iff_append.mp h
    exact .inr ⟨a, c, b, rfl, by simpa using ha, hc⟩

theorem takeWhile_closing (ht : ∀ x ∈ t, closesLabel x = false) (hc : closesLabel c = true)
    (b : Text) : (t ++ c :: b).takeWhile (!closesLabel ·) = t := by
  have hself : t.takeWhile (!closesLabel ·) = t :=
    List.takeWhile_eq_self_iff.mpr (by simpa using ht)
  rw [takeWhile_append_cons (by simp [hc]), hself]

theorem firstLabel?_of_opening (ha : ∀ x ∈ a, opensLabel x = false) (ho : opensLabel o = true)
    (s : Text) : firstLabel? (a ++ o :: s) =
      if s.any closesLabel then some (s.takeWhile (!closesLabel ·)) else none := by
  have hfront : a.dropWhile (!opensLabel ·) = [] :=
    List.dropWhile_eq_nil_iff.mpr (by simpa using ha)
  rw [firstLabel?, dropWhile_append_cons (by simp [ho]), hfront, List.nil_append]

theorem firstLabel?_eq_some_iff : firstLabel? line = some label ↔ FirstDelimited line label := by
  rw [firstDelimited_iff]
  constructor
  · intro h
    rcases first_cases opensLabel line with hno | ⟨a, o, s, rfl, ha, ho⟩
    · have hdrop : line.dropWhile (!opensLabel ·) = [] :=
        List.dropWhile_eq_nil_iff.mpr (by simpa using hno)
      rw [firstLabel?, hdrop] at h
      cases h
    · rw [firstLabel?_of_opening ha ho] at h
      rcases first_cases closesLabel s with hno | ⟨t, c, b, rfl, ht, hc⟩
      · rw [if_neg (by simpa using hno)] at h
        cases h
      · rw [if_pos (by simp [hc]), takeWhile_closing ht hc] at h
        obtain rfl := Option.some.inj h
        exact ⟨a, o, c, b, rfl, ha, ho, ht, hc⟩
  · rintro ⟨a, o, c, b, rfl, ha, ho, ht, hc⟩
    rw [firstLabel?_of_opening ha ho, if_pos (by simp [hc]), takeWhile_closing ht hc]

theorem occurrences_of_delimited (ha : ∀ x ∈ a, opensLabel x = false) (ho : opensLabel o = true)
    (ht : ∀ x ∈ t, closesLabel x = false) (hc : closesLabel c = true) (b : Text) :
    labelPattern.occurrences (a ++ o :: (t ++ c :: b)) =
      (o :: (t ++ [c])) :: labelPattern.occurrences b := by
  have hdrop : (t ++ c :: b).dropWhile (!closesLabel ·) = c :: b := by
    rw [dropWhile_append_cons (by simp [hc]), List.dropWhile_eq_nil_iff.mpr (by simpa using ht),
      List.nil_append]
  have hwidth : widthOf? labelPattern.pieces (o :: (t ++ [c]) ++ b) =
      some (o :: (t ++ [c])).length := by
    rw [List.cons_append, List.append_assoc, labelPattern, anywhere, widthOf?_one_cons, if_pos ho,
      widthOf?_many, List.singleton_append, takeWhile_closing ht hc, hdrop, widthOf?_one_cons,
      if_pos hc]
    simp [widthOf?, Nat.add_comm]
  have hparts : o :: (t ++ c :: b) = o :: (t ++ [c]) ++ b := by simp
  rw [occurrences_append_of_none rfl rfl ha, hparts,
    occurrences_append rfl (List.cons_ne_nil _ _) hwidth]

theorem occurrences_of_unclosed (hs : ∀ x ∈ s, closesLabel x = false) (o : Char) :
    labelPattern.occurrences (o :: s) = [] := by
  apply scan_of_suffixes
  intro t ht
  rcases t with - | ⟨d, t⟩
  · rfl
  · have hsuffix : t <:+ s := by
      rcases List.suffix_cons_iff.mp ht with heq | hsuffix
      · rw [(List.cons.inj heq).2]
      · exact (List.suffix_cons d t).trans hsuffix
    have hdrop : t.dropWhile (!closesLabel ·) = [] := by
      apply List.dropWhile_eq_nil_iff.mpr
      intro x hx
      simpa using hs x (hsuffix.subset hx)
    rw [labelPattern, anywhere, widthOf?_one_cons, widthOf?_many, hdrop]
    split_ifs <;> rfl

theorem firstDelimited_iff_head? : FirstDelimited line label ↔
    ∃ o c, (labelPattern.occurrences line).head? = some (o :: (label ++ [c])) := by
  rw [firstDelimited_iff]
  constructor
  · rintro ⟨a, o, c, b, rfl, ha, ho, ht, hc⟩
    exact ⟨o, c, by rw [occurrences_of_delimited ha ho ht hc, List.head?_cons]⟩
  · rintro ⟨o', c', h⟩
    rcases first_cases opensLabel line with hno | ⟨a, o, s, rfl, ha, ho⟩
    · have hnone := occurrences_append_of_none (p := labelPattern) rfl rfl hno []
      rw [List.append_nil] at hnone
      rw [hnone] at h
      cases h
    · rcases first_cases closesLabel s with hno | ⟨t, c, b, rfl, ht, hc⟩
      · rw [occurrences_append_of_none rfl rfl ha, occurrences_of_unclosed hno] at h
        cases h
      · rw [occurrences_of_delimited ha ho ht hc] at h
        obtain ⟨rfl, htext⟩ := List.cons.inj (Option.some.inj h)
        obtain ⟨rfl, -⟩ := List.append_inj' htext rfl
        exact ⟨a, o, c, b, rfl, ha, ho, ht, hc⟩

def labelWarnings (n : Nat) (line label : Text) : List Finding :=
  (if '<' ∈ label ∨ '>' ∈ label then [angleWarning n line] else []) ++
    (if '{' ∈ label ∨ '}' ∈ label then [braceWarning n line] else []) ++
      if 30 < label.length then [longLabelWarning n line label] else []

theorem ensure_warning {p : Prop} [Decidable p] {fine : Bool} (h : fine = true ↔ ¬ p)
    (f : Finding) : Findings.ensure fine (.warning f) = { warnings := if p then [f] else [] } := by
  by_cases hp : p
  · rw [Findings.ensure, if_neg (by simp [h, hp]), if_pos hp]
    rfl
  · rw [Findings.ensure, if_pos (h.mpr hp), if_neg hp]
    rfl

theorem labelFindings_eq (n : Nat) (line label : Text) :
    labelFindings n line label = { warnings := labelWarnings n line label } := by
  have hangle : (!(label.contains '<' || label.contains '>')) = true ↔
      ¬ ('<' ∈ label ∨ '>' ∈ label) := by simp
  have hbrace : (!(label.contains '{' || label.contains '}')) = true ↔
      ¬ ('{' ∈ label ∨ '}' ∈ label) := by simp
  have hlong : decide (label.length ≤ longestLabel) = true ↔ ¬ 30 < label.length := by
    rw [decide_eq_true_iff, longestLabel, Nat.not_lt]
  rw [labelFindings, ensure_warning hangle, ensure_warning hbrace, ensure_warning hlong]
  rfl

theorem lineLabel_of_skipped (h : isCommentOrFence line = true) (n : Nat) :
    lineLabel n line = .empty := if_pos h

theorem lineLabel_of_delimited (h : isCommentOrFence line = false)
    (hlabel : FirstDelimited line label) (n : Nat) :
    lineLabel n line = { warnings := if label = [] then [] else labelWarnings n line label } := by
  rw [lineLabel, if_neg (by simp [h]), firstLabel?_eq_some_iff.mpr hlabel]
  rcases label with - | ⟨c, label⟩
  · rfl
  · rw [if_neg (List.cons_ne_nil _ _), ← labelFindings_eq]

theorem lineLabel_of_undelimited (h : ∀ label, ¬ FirstDelimited line label) (n : Nat) :
    lineLabel n line = .empty := by
  have hnone : firstLabel? line = none := by
    apply Option.eq_none_iff_forall_ne_some.mpr
    intro label hlabel
    exact h label (firstLabel?_eq_some_iff.mp hlabel)
  rw [lineLabel, hnone, ite_self]

theorem lineLabel_eq (n : Nat) (line : Text) :
    lineLabel n line = { warnings := (lineLabel n line).warnings } := by
  cases h : isCommentOrFence line with
  | true =>
    rw [lineLabel_of_skipped h]
    rfl
  | false =>
    cases hfirst : firstLabel? line with
    | none =>
      rw [lineLabel, hfirst, ite_self]
      rfl
    | some label => rw [lineLabel_of_delimited h (firstLabel?_eq_some_iff.mp hfirst)]

theorem labels_eq (s : Text) : labels s =
    { warnings := (numberedLines s).flatMap fun x => (lineLabel x.1 x.2).warnings } := by
  have herrors (x : Nat × Text) : (lineLabel x.1 x.2).errors = [] :=
    congrArg Findings.errors (lineLabel_eq x.1 x.2)
  have hinfos (x : Nat × Text) : (lineLabel x.1 x.2).infos = [] :=
    congrArg Findings.infos (lineLabel_eq x.1 x.2)
  simp [labels, onLines, Findings.join, List.flatMap_map, herrors, hinfos]

/-- Into any findings the check of labels puts warnings only, and those are, line by line, what the
first delimited text decides on each line that is neither comment nor fence. That text is what the
leftmost match of the label pattern holds between its delimiters. -/
theorem first_label_inspected (s : Text) :
    (∃ warningsOf : Nat → Text → List Finding,
      (∀ found, (Aspect.labels.record s).after found =
        found ++ { warnings := (numberedLines s).flatMap fun x => warningsOf x.1 x.2 }) ∧
      ∀ n line,
        ("%%".toList <+: trim line ∨ "```".toList <+: trim line → warningsOf n line = []) ∧
        (¬ ("%%".toList <+: trim line ∨ "```".toList <+: trim line) →
          (∀ label, FirstDelimited line label →
            warningsOf n line = if label = [] then [] else labelWarnings n line label) ∧
          ((∀ label, ¬ FirstDelimited line label) → warningsOf n line = []))) ∧
    ∀ line label, FirstDelimited line label ↔
      ∃ o c, (labelPattern.occurrences line).head? = some (o :: (label ++ [c])) := by
  refine ⟨⟨fun n line => (lineLabel n line).warnings, fun found => ?_, fun n line => ?_⟩,
    fun line label => firstDelimited_iff_head?⟩
  · rw [(Aspect.writes s .labels).after_eq, Aspect.findings, labels_eq]
  · simp only [← isCommentOrFence_iff, Bool.not_eq_true]
    refine ⟨fun h => ?_, fun h => ⟨fun label hlabel => ?_, fun hnone => ?_⟩⟩
    · rw [lineLabel_of_skipped h]
      rfl
    · rw [lineLabel_of_delimited h hlabel]
    · rw [lineLabel_of_undelimited hnone]
      rfl

theorem first_label_inspected_between_mixed_delimiters :
    let upper := "A[\"<b>\"]".toList
    let lower := "B\"x <y] -- [z\"".toList
    FirstDelimited upper [] ∧ FirstDelimited lower "x <y".toList ∧
      ((Aspect.labels.record (upper ++ '\n' :: lower)).after .empty).warnings =
        [angleWarning 2 lower] := by
  intro upper lower
  have hupper : FirstDelimited upper [] := firstLabel?_eq_some_iff.mp (by decide)
  have hlower : FirstDelimited lower "x <y".toList := firstLabel?_eq_some_iff.mp (by decide)
  obtain ⟨⟨warningsOf, hfound, hline⟩, -⟩ := first_label_inspected (upper ++ '\n' :: lower)
  have hnone := ((hline 1 upper).2 (by decide)).1 [] hupper
  have hangle := ((hline 2 lower).2 (by decide)).1 _ hlower
  have hlines : numberedLines (upper ++ '\n' :: lower) = [(1, upper), (2, lower)] := by decide
  have hwarnings : labelWarnings 2 lower "x <y".toList = [angleWarning 2 lower] := by decide
  refine ⟨hupper, hlower, ?_⟩
  rw [hfound, hlines, Findings.warnings_append, List.flatMap_cons, List.flatMap_cons, hnone, hangle,
    hwarnings]
  rfl

end DiagramReview.Check
