import DiagramReview.Proofs.Validation.Insertion
import DiagramReview.Proofs.Validation.Validity

namespace DiagramReview

open Text

namespace Check

variable {check : Nat → Text → Findings} {c s line : Text} {k n : Nat} {v : Severity}

structure SlashLine (c : Text) : Prop where
  unbroken : '\n' ∉ c
  marked : "//".toList <+: trim c
  unmixed : ¬ "<!--".toList <:+: c
  quotes : Even (c.count '"')
  brackets : c.count '[' = c.count ']'

theorem SlashLine.errors_lineComments (h : SlashLine c) (n : Nat) :
    (lineComments n c).bucket .error = [slashComment n c] := by
  have hslashes : "//".toList.isPrefixOf (trim c) = true := List.isPrefixOf_iff_prefix.mpr h.marked
  have hclose : ¬ "-->".toList <+: trim c := not_prefix_of_prefix (by decide) h.marked
  rw [lineComments_of_no_html h.unmixed hclose, hslashes]
  rfl

theorem SlashLine.errors_lineQuotes (h : SlashLine c) (n : Nat) :
    (lineQuotes n c).bucket .error = [] :=
  (errors_lineQuotes_eq_nil n c).mpr fun _ => ⟨h.quotes, h.brackets⟩

theorem bucket_onLines_insertLine {ok : Text → Prop} (h : ∀ n l, (check n l).bucket v = [] ↔ ok l)
    (hs : ∀ l ∈ lines s, ok l) (hline : '\n' ∉ c) (hk : k ≤ (lines s).length) :
    (onLines check (insertLine k c s)).bucket v = (check (k + 1) c).bucket v := by
  have hold (xs : List (Nat × Text)) (hxs : ∀ x ∈ xs, x ∈ numberedLines s) :
      (xs.map fun x => (renumber k x.1, x.2)).flatMap (fun x => (check x.1 x.2).bucket v) = [] := by
    rw [List.flatMap_map, List.flatMap_eq_nil_iff]
    intro x hx
    exact (h _ _).mpr (hs _ (mem_lines_of_mem_numberedLines (hxs x hx)))
  rw [bucket_onLines, numberedLines_insertLine hline hk, List.flatMap_append, List.flatMap_cons,
    hold _ fun x hx => List.mem_of_mem_take hx, hold _ fun x hx => List.mem_of_mem_drop hx,
    List.nil_append, List.append_nil]

theorem FirstSignificant.insertLine (h : FirstSignificant s n line) (hn : n ≤ k)
    (hline : '\n' ∉ c) : FirstSignificant (insertLine k c s) n line := by
  obtain ⟨before, l, after, hs, rfl, hl, hsig, hb⟩ := h
  have hfront : before ++ [l] <+: (lines s).take k := by
    apply List.prefix_take_iff.mpr
    refine ⟨⟨after, by rw [hs, List.append_assoc]; rfl⟩, ?_⟩
    rw [List.length_append, List.length_singleton]
    exact hn
  obtain ⟨rest, hrest⟩ := hfront
  refine ⟨before, l, rest ++ c :: (lines s).drop k, ?_, rfl, hl, hsig, hb⟩
  rw [lines_insertLine hline, ← hrest]
  simp

theorem FirstSignificant.exists_take (h : FirstSignificant s n line) (hn : n ≤ k) :
    ∃ l ∈ (lines s).take k, trim l ≠ [] := by
  obtain ⟨before, l, after, hs, rfl, rfl, hsig, -⟩ := h
  refine ⟨l, ?_, hsig.1⟩
  rw [hs, List.mem_take_iff_getElem]
  refine ⟨before.length, ?_, by simp⟩
  rw [List.length_append, List.length_cons]
  omega

end Check

open Check

variable {s c line : Text} {k n : Nat}

theorem errors_declaration_insertLine (w : WellFormed s) (hfirst : FirstSignificant s n line)
    (hbelow : n ≤ k) (hline : '\n' ∉ c) :
    (declaration (insertLine k c s)).bucket .error = [] := by
  obtain ⟨m, first, hm, d, hd, hp⟩ := w.declares
  have hsame : (m, first) = (n, line) := by
    apply Option.some.inj
    rw [← firstSignificant_eq_some_iff.mpr hm, ← firstSignificant_eq_some_iff.mpr hfirst]
  obtain ⟨rfl, rfl⟩ := Prod.mk.inj hsame
  have hdeclares : isDeclaration first = true :=
    List.any_eq_true.mpr ⟨d, hd, List.isPrefixOf_iff_prefix.mpr hp⟩
  exact errors_declaration_eq_nil.mpr ⟨m, first, hfirst.insertLine hbelow hline, hdeclares⟩

theorem errors_structural_insertLine (w : WellFormed s) (hfirst : FirstSignificant s n line)
    (hbelow : n ≤ k) (habove : ∃ l ∈ (lines s).drop k, trim l ≠ []) (hc : SlashLine c) :
    (Aspect.structural.flatMap fun a => (a.findings (insertLine k c s)).bucket .error) =
      [slashComment (k + 1) c] := by
  have hk : k ≤ (lines s).length := Nat.le_of_lt (lt_length_of_exists_drop habove)
  have hfence : (fence (insertLine k c s)).bucket .error = [] := by
    rw [fence_insertLine hc.unbroken (hfirst.exists_take hbelow) habove, Findings.bucket_map,
      (errors_fence_eq_nil s).mpr ⟨w.opens, w.closes⟩, List.map_nil]
  have hdeclaration := errors_declaration_insertLine w hfirst hbelow hc.unbroken
  have hcomments : (comments (insertLine k c s)).bucket .error = [slashComment (k + 1) c] := by
    rw [← hc.errors_lineComments (k + 1)]
    exact bucket_onLines_insertLine errors_lineComments_eq_nil w.comments hc.unbroken hk
  have hquotes : (quotes (insertLine k c s)).bucket .error = [] := by
    rw [← hc.errors_lineQuotes (k + 1)]
    exact bucket_onLines_insertLine errors_lineQuotes_eq_nil w.balances hc.unbroken hk
  have harrows : (arrows (insertLine k c s)).bucket .error = [] :=
    Aspect.bucket_eq_nil (a := .arrows) rfl _
  have hlabels : (labels (insertLine k c s)).bucket .error = [] :=
    Aspect.bucket_eq_nil (a := .labels) rfl _
  simp only [Aspect.structural, List.flatMap_cons, List.flatMap_nil, Aspect.findings, hfence,
    hdeclaration, hcomments, hquotes, harrows, hlabels, List.nil_append, List.append_nil]

/-- A line that opens with two slashes, somewhere below the declaration of a valid document and
above its last line that is not blank, is the only error of the new document: it is reported for
the number of the line and with its text. -/
theorem slash_line_is_only_error (t u : Thresholds) (s c line : Text) (k n : Nat)
    (hvalid : (Verdict.ofText u s).valid = true) (hfirst : FirstSignificant s n line)
    (hbelow : n ≤ k) (habove : ∃ l ∈ (lines s).drop k, trim l ≠ []) (hc : SlashLine c) :
    (lines (insertLine k c s))[k]? = some c ∧
    (Verdict.ofText t (insertLine k c s)).findings.errors =
      [{ category := .invalidComment
         message := "JavaScript-style comments (//) are invalid. Use %% instead"
         line := some (k + 1)
         content := some (String.ofList (trim c)) }] := by
  have w : WellFormed s := wellFormed_of_valid hvalid
  have hk : k ≤ (lines s).length := Nat.le_of_lt (lt_length_of_exists_drop habove)
  have hspecific : (specific (Kind.detect (insertLine k c s))
      (Verdict.metrics (insertLine k c s)) (insertLine k c s)).bucket .error = [] :=
    errors_specific_of_errors_nil (errors_declaration_insertLine w hfirst hbelow hc.unbroken) _
  constructor
  · have hlen : ((lines s).take k).length = k := List.length_take_of_le hk
    rw [lines_insertLine hc.unbroken, List.getElem?_append_right (by omega), hlen, Nat.sub_self]
    rfl
  · rw [errors_ofText, errors_structural_insertLine w hfirst hbelow habove hc, hspecific]
    rfl

theorem slash_line_is_only_error_below_flowchart :
    let s := "\n```mermaid\n%% note\n flowchart LR \nA[\"x\"] --> B\n\n```\n\n".toList
    let c := " //\t\"[or] not\" ".toList
    (Verdict.ofText {} s).valid = true ∧ FirstSignificant s 4 "flowchart LR".toList ∧ 4 ≤ 4 ∧
      (∃ l ∈ (lines s).drop 4, trim l ≠ []) ∧ SlashLine c ∧
      (lines (insertLine 4 c s))[4]? = some c ∧
      (Verdict.ofText ⟨0, 0⟩ (insertLine 4 c s)).findings.errors =
        [{ category := .invalidComment
           message := "JavaScript-style comments (//) are invalid. Use %% instead"
           line := some 5
           content := some (String.ofList (trim c)) }] := by
  intro s c
  have hvalid : (Verdict.ofText {} s).valid = true := by decide +kernel
  have hfirst : FirstSignificant s 4 "flowchart LR".toList :=
    firstSignificant_eq_some_iff.mp (by decide)
  have habove : ∃ l ∈ (lines s).drop 4, trim l ≠ [] := by decide
  have hc : SlashLine c := ⟨by decide, by decide, by decide, by decide, by decide⟩
  exact ⟨hvalid, hfirst, Nat.le_refl 4, habove, hc,
    slash_line_is_only_error ⟨0, 0⟩ {} s c _ 4 4 hvalid hfirst (Nat.le_refl 4) habove hc⟩

end DiagramReview
