import DiagramReview.Proofs.Complexity.LineEnd
import DiagramReview.Proofs.Validation.ArrowHead
import DiagramReview.Proofs.Validation.Categories

/-!
How lines end makes a difference to the validation of a document in one way only: a return after a
dash at the end of a line is the second of the two blanks between which a dash is taken for a lone
one.
-/

namespace DiagramReview

open Text

namespace Check

variable {s l : Text} {n : Nat} {v : Severity}

/-! ### Lines with a return at their end -/

theorem quoted_append_return (l : Text) : quoted (l ++ ['\r']) = quoted l := by
  rw [quoted, quoted, trim_append_return]

theorem isComment_append_return (l : Text) : isComment (l ++ ['\r']) = isComment l := by
  rw [isComment, isComment, trim_append_return]

theorem isCommentOrFence_append_return (l : Text) :
    isCommentOrFence (l ++ ['\r']) = isCommentOrFence l := by
  rw [isCommentOrFence, isCommentOrFence, isComment_append_return, trim_append_return]

theorem hasPart_append_return {c : Char} {part : Text} (hp : Unbroken (c :: part)) (l : Text) :
    hasPart (c :: part) (l ++ ['\r']) = hasPart (c :: part) l := by
  rw [Bool.eq_iff_iff, hasPart_iff, hasPart_iff, List.infix_concat_iff, List.suffix_concat_iff]
  constructor
  · rintro ((h | ⟨t, h, -⟩) | h)
    · cases h
    · have hr : '\r' ∈ c :: part := by simp [h]
      exact absurd hr hp.1
    · exact h
  · exact .inr

theorem count_append_return {c : Char} (hc : c ≠ '\r') (l : Text) :
    (l ++ ['\r']).count c = l.count c := by
  simp [List.count_append, hc.symm]

theorem lineComments_append_return (n : Nat) (l : Text) :
    lineComments n (l ++ ['\r']) = lineComments n l := by
  have hpart : hasPart "<!--".toList (l ++ ['\r']) = hasPart "<!--".toList l :=
    hasPart_append_return (by decide) l
  simp only [lineComments, slashComment, htmlComment, trim_append_return, quoted_append_return,
    hpart]

theorem lineQuotes_append_return (n : Nat) (l : Text) :
    lineQuotes n (l ++ ['\r']) = lineQuotes n l := by
  have hquote : (l ++ ['\r']).count '"' = l.count '"' := count_append_return (by decide) l
  have hopen : (l ++ ['\r']).count '[' = l.count '[' := count_append_return (by decide) l
  have hclose : (l ++ ['\r']).count ']' = l.count ']' := count_append_return (by decide) l
  simp only [lineQuotes, unclosedQuote, unclosedBracket, isComment_append_return,
    quoted_append_return, hquote, hopen, hclose]

theorem firstLabel?_append_return (l : Text) : firstLabel? (l ++ ['\r']) = firstLabel? l := by
  have hopen : ['\r'].dropWhile (!opensLabel ·) = [] := by decide
  rw [firstLabel?, firstLabel?, List.dropWhile_append, hopen]
  cases hl : l.dropWhile (!opensLabel ·) with
  | nil => rfl
  | cons c rest =>
    have hany : (rest ++ ['\r']).any closesLabel = rest.any closesLabel := by
      have hclose : closesLabel '\r' = false := by decide
      simp [List.any_append, hclose]
    simp only [List.isEmpty_cons, Bool.false_eq_true, if_false, List.cons_append, hany]
    cases hc : rest.any closesLabel with
    | false => rfl
    | true =>
      -- the label ends within the line, before the return
      have hshort : (rest.takeWhile (!closesLabel ·)).length ≠ rest.length := by
        intro hlen
        have hself := (List.takeWhile_prefix (!closesLabel ·)).eq_of_length hlen
        have hall : (rest.takeWhile (!closesLabel ·)).all (!closesLabel ·) = true :=
          List.all_takeWhile
        rw [hself] at hall
        obtain ⟨d, hd, hd'⟩ := List.any_eq_true.mp hc
        have hn := List.all_eq_true.mp hall d hd
        rw [hd'] at hn
        cases hn
      rw [List.takeWhile_append, if_neg hshort]

theorem lineLabel_append_return (n : Nat) (l : Text) :
    lineLabel n (l ++ ['\r']) = lineLabel n l := by
  have hfindings (label : Text) :
      labelFindings n (l ++ ['\r']) label = labelFindings n l label := by
    simp only [labelFindings, angleWarning, braceWarning, longLabelWarning, quoted_append_return]
  simp only [lineLabel, isCommentOrFence_append_return, firstLabel?_append_return, hfindings]

theorem loose_append_return (before : Option Char) (l : Text) :
    loose '>' isArrowBody before (l ++ ['\r']) = loose '>' isArrowBody before l := by
  induction l generalizing before with
  | nil => simp [loose]
  | cons c l ih => rw [List.cons_append, loose, loose, ih]

/-! ### Lone dashes -/

def HasLoneDash (l : Text) : Prop :=
  ∃ a b, isBlank a = true ∧ isBlank b = true ∧ [a, '-', b] <:+: l

def EndsInDash (l : Text) : Prop := ∃ a, isBlank a = true ∧ [a, '-'] <:+ l

theorem loneDash_fits_iff (c : Char) (r : Text) :
    (∃ n, Pattern.widthOf? loneDash.pieces (c :: r) = some (n + 1)) ↔
      isBlank c = true ∧ ∃ b, isBlank b = true ∧ ['-', b] <+: r := by
  have hpieces : loneDash.pieces = [.one isBlank, .anyOf [['-']], .one isBlank] := rfl
  rw [hpieces]
  cases hc : isBlank c with
  | false => simp [widthOf?_cons, Piece.width?, hc]
  | true =>
    rcases r with - | ⟨d, r⟩
    · simp [widthOf?_cons, Piece.width?, hc]
    · by_cases hd : d = '-'
      · subst hd
        rcases r with - | ⟨b, r⟩
        · simp [widthOf?_cons, Piece.width?, hc]
        · cases hb : isBlank b with
          | false => simp [widthOf?_cons, Piece.width?, hc, hb]
          | true => simp [Pattern.widthOf?, Piece.width?, hc, hb]
      · simp [widthOf?_cons, Piece.width?, hc, Ne.symm hd]

theorem occursIn_loneDash_iff (l : Text) : loneDash.occursIn l = true ↔ HasLoneDash l := by
  rw [occursIn_iff rfl]
  simp only [loneDash_fits_iff, HasLoneDash, List.infix_iff_prefix_suffix]
  constructor
  · rintro ⟨a, r, hr, ha, b, hb, hp⟩
    exact ⟨a, b, ha, hb, a :: r, List.cons_prefix_cons.mpr ⟨rfl, hp⟩, hr⟩
  · rintro ⟨a, b, ha, hb, t, hp, ht⟩
    obtain ⟨r, rfl⟩ := hp
    exact ⟨a, _, ht, ha, b, hb, List.prefix_append _ _⟩

theorem hasLoneDash_append_return (l : Text) :
    HasLoneDash (l ++ ['\r']) ↔ HasLoneDash l ∨ EndsInDash l := by
  constructor
  · rintro ⟨a, b, ha, hb, h⟩
    rcases List.infix_concat_iff.mp h with h | h
    · obtain he | ⟨t, ht, hs⟩ := List.suffix_concat_iff.mp h
      · cases he
      · have hconcat : [a, '-'] ++ [b] = t ++ ['\r'] := ht
        have ht' : [a, '-'] = t := (List.append_inj' hconcat rfl).1
        exact .inr ⟨a, ha, ht' ▸ hs⟩
    · exact .inl ⟨a, b, ha, hb, h⟩
  · rintro (⟨a, b, ha, hb, h⟩ | ⟨a, ha, h⟩)
    · exact ⟨a, b, ha, hb, h.trans (List.prefix_append _ _).isInfix⟩
    · obtain ⟨t, rfl⟩ := h
      exact ⟨a, '\r', ha, isBlank_return, t, [], by simp⟩

instance (l : Text) : Decidable (HasLoneDash l) := decidable_of_iff _ (occursIn_loneDash_iff l)

instance (l : Text) : Decidable (EndsInDash l) :=
  decidable_of_iff (l.any (fun a => isBlank a && [a, '-'].isSuffixOf l) = true) (by
    simp only [List.any_eq_true, Bool.and_eq_true, List.isSuffixOf_iff_suffix]
    exact ⟨fun ⟨a, _, h⟩ => ⟨a, h⟩, fun ⟨a, h⟩ => ⟨a, h.2.subset List.mem_cons_self, h⟩⟩)

/-- A line that is searched for arrows and ends in a dash after a blank, while it has no other dash
between blanks and no two dashes in a row. -/
structure DanglingDash (l : Text) : Prop where
  inspected : ¬ "%%".toList <+: trim l ∧ ¬ "```".toList <+: trim l
  ends : EndsInDash l
  only : ¬ HasLoneDash l
  single : ¬ "--".toList <:+: l

instance (l : Text) : Decidable (DanglingDash l) :=
  decidable_of_iff ((¬ "%%".toList <+: trim l ∧ ¬ "```".toList <+: trim l) ∧ EndsInDash l ∧
      ¬ HasLoneDash l ∧ ¬ "--".toList <:+: l)
    ⟨fun h => ⟨h.1, h.2.1, h.2.2.1, h.2.2.2⟩, fun h => ⟨h.inspected, h.ends, h.only, h.single⟩⟩

theorem lineArrows_append_return (n : Nat) (l : Text) : lineArrows n (l ++ ['\r']) =
    lineArrows n l ++ .ensure (!decide (DanglingDash l)) (.warning (loneDashWarning n l)) := by
  have hhead : hasLooseHead (l ++ ['\r']) = hasLooseHead l := by
    rw [hasLooseHead_eq, hasLooseHead_eq, loose_append_return]
  have hpart : hasPart "--".toList (l ++ ['\r']) = hasPart "--".toList l :=
    hasPart_append_return (by decide) l
  have hdash : loneDash.occursIn (l ++ ['\r']) =
      (loneDash.occursIn l || decide (EndsInDash l)) := by
    rw [Bool.eq_iff_iff, Bool.or_eq_true, decide_eq_true_iff, occursIn_loneDash_iff,
      occursIn_loneDash_iff, hasLoneDash_append_return]
  simp only [lineArrows, looseHeadWarning, loneDashWarning, isCommentOrFence_append_return,
    quoted_append_return, hhead, hpart, hdash]
  cases hc : isCommentOrFence l with
  | true =>
    have hd : ¬ DanglingDash l := fun h =>
      ((isCommentOrFence_iff l).mp hc).elim h.inspected.1 h.inspected.2
    simp [hd, Findings.ensure, Findings.append_empty]
  | false =>
    have hinspected : ¬ "%%".toList <+: trim l ∧ ¬ "```".toList <+: trim l := by
      rw [← not_or, ← isCommentOrFence_iff, hc]
      decide
    have hd : decide (DanglingDash l) =
        (decide (EndsInDash l) && !loneDash.occursIn l && !hasPart "--".toList l) := by
      rw [Bool.eq_iff_iff]
      simp only [decide_eq_true_iff, Bool.and_eq_true, Bool.not_eq_true', ← Bool.not_eq_true,
        occursIn_loneDash_iff, hasPart_iff]
      exact ⟨fun h => ⟨⟨h.ends, h.only⟩, h.single⟩, fun h => ⟨hinspected, h.1.1, h.1.2, h.2⟩⟩
    simp only [Bool.false_eq_true, if_false, hd, Findings.append_assoc]
    congr 1
    cases loneDash.occursIn l <;> cases hasPart "--".toList l <;> cases decide (EndsInDash l) <;>
      simp [Findings.ensure, Findings.append_empty, Findings.empty_append]

/-! ### The checks of a document -/

theorem numberedLines_withReturns (s : Text) : numberedLines (withReturns s) =
    (numberedLines s).map fun x =>
      (x.1, if x.1 < (lines s).length then x.2 ++ ['\r'] else x.2) := by
  rw [numberedLines, numberedLines, lines_withReturns]
  apply List.ext_getElem
  · simp
  · intro i h₁ h₂
    simp

theorem onLines_withReturns {check : Nat → Text → Findings}
    (h : ∀ n l, check n (l ++ ['\r']) = check n l) (s : Text) :
    onLines check (withReturns s) = onLines check s := by
  have hline (n : Nat) (l : Text) :
      check n (if n < (lines s).length then l ++ ['\r'] else l) = check n l := by
    split
    · exact h n l
    · rfl
  rw [onLines, onLines, numberedLines_withReturns, List.map_map]
  congr 2
  funext x
  exact hline x.1 x.2

theorem fence_withReturns (s : Text) : fence (withReturns s) = fence s := by
  have hopen : "```mermaid".toList.isPrefixOf (trim (withReturns s)) =
      "```mermaid".toList.isPrefixOf (trim s) := by
    rw [Bool.eq_iff_iff, List.isPrefixOf_iff_prefix, List.isPrefixOf_iff_prefix, trim_withReturns]
    exact prefix_withReturns_iff (by decide)
  have hclose : fenceMark.isSuffixOf (trim (withReturns s)) = fenceMark.isSuffixOf (trim s) := by
    rw [Bool.eq_iff_iff, List.isSuffixOf_iff_suffix, List.isSuffixOf_iff_suffix, trim_withReturns]
    exact suffix_withReturns_iff (by decide)
  rw [fence, fence, hopen, hclose, length_lines_withReturns]

theorem declaration_withReturns (s : Text) : declaration (withReturns s) = declaration s := by
  have htrim (n : Nat) (l : Text) :
      trim (if n < (lines s).length then l ++ ['\r'] else l) = trim l := by
    split
    · exact trim_append_return l
    · rfl
  have hfirst : firstSignificant (withReturns s) = firstSignificant s := by
    rw [firstSignificant, firstSignificant, numberedLines_withReturns, List.map_map]
    congr 2
    funext x
    exact Prod.ext rfl (htrim x.1 x.2)
  rw [declaration, declaration, hfirst]

theorem specific_withReturns (kind : Option Kind) (m : Metrics) (s : Text) :
    specific kind m (withReturns s) = specific kind m s := by
  have hpart : hasPart "stateDiagram-v2".toList (withReturns s) =
      hasPart "stateDiagram-v2".toList s := by
    rw [Bool.eq_iff_iff, hasPart_iff, hasPart_iff]
    exact infix_withReturns_iff (by decide)
  cases kind with
  | none => rfl
  | some kind =>
    have hversion : version kind (withReturns s) = version kind s := by
      cases kind with
      | state | oldState => rw [version, version, hpart]
      | classes | sequence | entities | flowchart | graph => rfl
    rw [specific, specific, hversion]

def dangling (s : Text) (x : Nat × Text) : List Finding :=
  if x.1 < (lines s).length ∧ DanglingDash x.2 then [loneDashWarning x.1 x.2] else []

theorem mem_dangling {x : Nat × Text} {f : Finding} : f ∈ dangling s x ↔
    x.1 < (lines s).length ∧ DanglingDash x.2 ∧ f = loneDashWarning x.1 x.2 := by
  unfold dangling
  split_ifs with h
  · simp [h]
  · simpa using fun hn hd => absurd ⟨hn, hd⟩ h

theorem length_flatMap_dangling (s : Text) : ((numberedLines s).flatMap (dangling s)).length =
    (lines s).dropLast.countP (DanglingDash ·) := by
  -- the number of the first line and the number of lines vary
  have hcount (ls : List Text) (k : Nat) :
      ((ls.mapIdx fun i l => (i + k, l)).flatMap (dangling s)).length =
        (ls.take ((lines s).length - k)).countP (DanglingDash ·) := by
    induction ls generalizing k with
    | nil => simp
    | cons l ls ih =>
      have hshift : (fun i (l : Text) => (i + 1 + k, l)) = fun i l => (i + (k + 1), l) := by
        funext i l
        rw [Nat.add_right_comm, Nat.add_assoc]
      rw [List.mapIdx_cons, List.flatMap_cons, List.length_append, hshift, ih]
      by_cases hk : k < (lines s).length
      · obtain ⟨m, hm⟩ : ∃ m, (lines s).length - k = m + 1 := ⟨(lines s).length - (k + 1), by omega⟩
        have hm' : (lines s).length - (k + 1) = m := by omega
        rw [hm, hm', List.take_succ_cons, List.countP_cons]
        by_cases hd : DanglingDash l
        · simp [dangling, hk, hd, Nat.add_comm]
        · simp [dangling, hd]
      · have hz : (lines s).length - k = 0 := by omega
        have hz' : (lines s).length - (k + 1) = 0 := by omega
        simp [dangling, hk, hz, hz']
  rw [numberedLines, hcount, List.dropLast_eq_take]

theorem warnings_arrows_withReturns (s : Text) : (arrows (withReturns s)).bucket .warning =
    (numberedLines s).flatMap fun x => (lineArrows x.1 x.2).bucket .warning ++ dangling s x := by
  rw [arrows, bucket_onLines, numberedLines_withReturns, List.flatMap_map]
  congr 1
  funext x
  obtain ⟨n, l⟩ := x
  by_cases hn : n < (lines s).length
  · by_cases hd : DanglingDash l
    · simp [dangling, hn, hd, lineArrows_append_return]
    · simp [dangling, hn, hd, lineArrows_append_return]
  · simp [dangling, hn]

end Check

/-! ### Lists with additions -/

theorem sublist_flatMap_append {α β : Type} (f g : α → List β) (xs : List α) :
    (xs.flatMap f).Sublist (xs.flatMap fun x => f x ++ g x) := by
  induction xs with
  | nil => exact List.Sublist.slnil
  | cons x xs ih =>
    rw [List.flatMap_cons, List.flatMap_cons]
    exact (List.sublist_append_left _ _).append ih

theorem length_flatMap_append {α β : Type} (f g : α → List β) (xs : List α) :
    (xs.flatMap fun x => f x ++ g x).length = (xs.flatMap f).length + (xs.flatMap g).length := by
  induction xs with
  | nil => rfl
  | cons x xs ih =>
    simp only [List.flatMap_cons, List.length_append, ih]
    omega

/-! ### The verdict -/

namespace Verdict

theorem metrics_withReturns (s : Text) : metrics (withReturns s) = metrics s := by
  rw [metrics, metrics, Kind.detect_withReturns, Metrics.measureAny_withReturns]

theorem complexity_withReturns (t : Thresholds) (s : Text) :
    (ofText t (withReturns s)).complexity = (ofText t s).complexity := by
  rw [complexity_ofText, complexity_ofText, metrics_withReturns, Kind.detect_withReturns]

theorem exists_findings_around_arrows (t : Thresholds) (s : Text) (v : Severity) : ∃ a b,
    (ofText t s).findings.bucket v = a ++ (Check.arrows s).bucket v ++ b ∧
    (ofText t (withReturns s)).findings.bucket v =
      a ++ (Check.arrows (withReturns s)).bucket v ++ b := by
  have hcomments : Check.comments (withReturns s) = Check.comments s :=
    Check.onLines_withReturns Check.lineComments_append_return s
  have hquotes : Check.quotes (withReturns s) = Check.quotes s :=
    Check.onLines_withReturns Check.lineQuotes_append_return s
  have hlabels : Check.labels (withReturns s) = Check.labels s :=
    Check.onLines_withReturns Check.lineLabel_append_return s
  refine ⟨(Check.fence s).bucket v ++ (Check.declaration s).bucket v ++
      (Check.comments s).bucket v ++ (Check.quotes s).bucket v,
    (Check.labels s).bucket v ++ (Check.specific (Kind.detect s) (metrics s) s).bucket v ++
      (complexityFindings (t.rate ((metrics s).score (Kind.detect s)))).bucket v, ?_, ?_⟩
  · rw [bucket_ofText]
    simp only [Aspect.structural, List.flatMap_cons, List.flatMap_nil, Aspect.findings,
      List.append_nil, List.append_assoc]
  · rw [bucket_ofText, Kind.detect_withReturns, metrics_withReturns, Check.specific_withReturns]
    simp only [Aspect.structural, List.flatMap_cons, List.flatMap_nil, Aspect.findings,
      List.append_nil, List.append_assoc, Check.fence_withReturns, Check.declaration_withReturns,
      hcomments, hquotes, hlabels]

theorem exists_warnings_around_arrows (t : Thresholds) (s : Text) : ∃ a b,
    (ofText t s).findings.warnings = a ++ (Check.arrows s).bucket .warning ++ b ∧
    (ofText t (withReturns s)).findings.warnings =
      a ++ (Check.arrows (withReturns s)).bucket .warning ++ b :=
  exists_findings_around_arrows t s .warning

theorem bucket_withReturns_of_ne {v : Severity} (hv : v ≠ .warning) (t : Thresholds) (s : Text) :
    (ofText t (withReturns s)).findings.bucket v = (ofText t s).findings.bucket v := by
  have hcategories : Aspect.arrows.categories v = [] := by
    cases v with
    | warning => exact absurd rfl hv
    | error | info => rfl
  have harrows (s : Text) : (Check.arrows s).bucket v = [] := Aspect.bucket_eq_nil hcategories s
  obtain ⟨a, b, hs, hr⟩ := exists_findings_around_arrows t s v
  rw [hs, hr, harrows, harrows]

theorem warnings_sublist_withReturns (t : Thresholds) (s : Text) :
    (ofText t s).findings.warnings.Sublist (ofText t (withReturns s)).findings.warnings := by
  obtain ⟨a, b, hs, hr⟩ := exists_warnings_around_arrows t s
  have harrows : ((Check.arrows s).bucket .warning).Sublist
      ((Check.arrows (withReturns s)).bucket .warning) := by
    rw [Check.warnings_arrows_withReturns, Check.arrows, Check.bucket_onLines]
    exact sublist_flatMap_append _ _ _
  rw [hs, hr]
  exact (harrows.append_left a).append_right b

theorem length_warnings_withReturns (t : Thresholds) (s : Text) :
    (ofText t (withReturns s)).findings.warnings.length =
      (ofText t s).findings.warnings.length +
        (lines s).dropLast.countP (Check.DanglingDash ·) := by
  obtain ⟨a, b, hs, hr⟩ := exists_warnings_around_arrows t s
  have harrows : ((Check.arrows (withReturns s)).bucket .warning).length =
      ((Check.arrows s).bucket .warning).length +
        (lines s).dropLast.countP (Check.DanglingDash ·) := by
    rw [Check.warnings_arrows_withReturns, length_flatMap_append, Check.length_flatMap_dangling,
      Check.arrows, Check.bucket_onLines]
  rw [hs, hr]
  simp only [List.length_append, harrows]
  omega

theorem mem_warnings_withReturns_iff (t : Thresholds) (s : Text) (f : Finding) :
    f ∈ (ofText t (withReturns s)).findings.warnings ↔
      f ∈ (ofText t s).findings.warnings ∨ ∃ i l, (lines s)[i]? = some l ∧
        i + 1 < (lines s).length ∧ Check.DanglingDash l ∧ f = Check.loneDashWarning (i + 1) l := by
  obtain ⟨a, b, hs, hr⟩ := exists_warnings_around_arrows t s
  have harrows : f ∈ (Check.arrows (withReturns s)).bucket .warning ↔
      f ∈ (Check.arrows s).bucket .warning ∨ ∃ i l, (lines s)[i]? = some l ∧
        i + 1 < (lines s).length ∧ Check.DanglingDash l ∧ f = Check.loneDashWarning (i + 1) l := by
    rw [Check.warnings_arrows_withReturns, Check.arrows, Check.bucket_onLines]
    simp only [List.mem_flatMap, List.mem_append, Check.mem_dangling]
    constructor
    · rintro ⟨⟨n, l⟩, hx, hf | ⟨hn, hd, hf⟩⟩
      · exact .inl ⟨(n, l), hx, hf⟩
      · obtain ⟨i, hi, rfl⟩ := mem_numberedLines.mp hx
        exact .inr ⟨i, l, hi, hn, hd, hf⟩
    · rintro (⟨x, hx, hf⟩ | ⟨i, l, hi, hn, hd, hf⟩)
      · exact ⟨x, hx, .inl hf⟩
      · exact ⟨(i + 1, l), mem_numberedLines.mpr ⟨i, hi, rfl⟩, .inr ⟨hn, hd, hf⟩⟩
  rw [hs, hr, List.mem_append, List.mem_append, List.mem_append, List.mem_append, harrows]
  constructor
  · rintro ((ha | hf | hd) | hb)
    · exact .inl (.inl (.inl ha))
    · exact .inl (.inl (.inr hf))
    · exact .inr hd
    · exact .inl (.inr hb)
  · rintro (((ha | hf) | hb) | hd)
    · exact .inl (.inl ha)
    · exact .inl (.inr (.inl hf))
    · exact .inr hb
    · exact .inl (.inr (.inr hd))

end Verdict

/-- Returns before the newlines of a text leave its kind, its complexity, its errors and so its
validity as they are. What they add is one warning for each line but the last that ends in a
dangling dash, so the verdict stays the same exactly if no line does. -/
theorem verdict_withReturns (t : Thresholds) (s : Text) :
    let v := Verdict.ofText t s
    let w := Verdict.ofText t (withReturns s)
    (w.kind = v.kind ∧ w.complexity = v.complexity ∧ w.valid = v.valid ∧
      w.findings.errors = v.findings.errors ∧ w.findings.infos = v.findings.infos) ∧
    v.findings.warnings.Sublist w.findings.warnings ∧
    (∀ f, f ∈ w.findings.warnings ↔ f ∈ v.findings.warnings ∨ ∃ i l, (lines s)[i]? = some l ∧
      i + 1 < (lines s).length ∧ Check.DanglingDash l ∧ f = Check.loneDashWarning (i + 1) l) ∧
    w.findings.warnings.length =
      v.findings.warnings.length + (lines s).dropLast.countP (Check.DanglingDash ·) ∧
    (w = v ↔ ∀ l ∈ (lines s).dropLast, ¬ Check.DanglingDash l) := by
  intro v w
  have hkind : w.kind = v.kind := Kind.detect_withReturns s
  have hcomplexity : w.complexity = v.complexity := Verdict.complexity_withReturns t s
  have herrors : w.findings.errors = v.findings.errors :=
    Verdict.bucket_withReturns_of_ne (v := .error) (by decide) t s
  have hinfos : w.findings.infos = v.findings.infos :=
    Verdict.bucket_withReturns_of_ne (v := .info) (by decide) t s
  have hvalid : w.valid = v.valid := by
    rw [Bool.eq_iff_iff, Verdict.valid_iff_errors_nil, Verdict.valid_iff_errors_nil, herrors]
  have hsublist : v.findings.warnings.Sublist w.findings.warnings :=
    Verdict.warnings_sublist_withReturns t s
  have hlength : w.findings.warnings.length =
      v.findings.warnings.length + (lines s).dropLast.countP (Check.DanglingDash ·) :=
    Verdict.length_warnings_withReturns t s
  refine ⟨⟨hkind, hcomplexity, hvalid, herrors, hinfos⟩, hsublist,
    Verdict.mem_warnings_withReturns_iff t s, hlength, ?_, ?_⟩
  · intro heq l hl hd
    rw [heq] at hlength
    have hzero : (lines s).dropLast.countP (Check.DanglingDash ·) = 0 := by omega
    exact List.countP_eq_zero.mp hzero l hl (decide_eq_true hd)
  · intro hnone
    have hzero : (lines s).dropLast.countP (Check.DanglingDash ·) = 0 :=
      List.countP_eq_zero.mpr fun l hl hd => hnone l hl (of_decide_eq_true hd)
    rw [hzero, Nat.add_zero] at hlength
    have hwarnings := hsublist.eq_of_length hlength.symm
    have hfindings : w.findings = v.findings :=
      Findings.ext_iff.mpr ⟨herrors, hwarnings.symm, hinfos⟩
    have heta (u : Verdict) : u = ⟨u.valid, u.kind, u.complexity, u.findings⟩ := rfl
    rw [heta w, heta v, hvalid, hkind, hcomplexity, hfindings]

theorem dash_before_return_is_lone :
    let s := "```mermaid\nflowchart TD\nA -\n```".toList
    let r := "```mermaid\r\nflowchart TD\r\nA -\r\n```".toList
    '\r' ∉ s ∧ r = withReturns s ∧ (Verdict.ofText {} s).findings.warnings = [] ∧
      (Verdict.ofText {} r).findings.warnings = [Check.loneDashWarning 3 "A -".toList] ∧
      Verdict.ofText {} r ≠ Verdict.ofText {} s := by
  intro s r
  have hs : (Verdict.ofText {} s).findings.warnings = [] := by decide +kernel
  have hr : (Verdict.ofText {} r).findings.warnings = [Check.loneDashWarning 3 "A -".toList] := by
    decide +kernel
  refine ⟨by decide +kernel, by decide +kernel, hs, hr, ?_⟩
  intro heq
  rw [heq, hs] at hr
  cases hr

end DiagramReview
