import DiagramReview.Proofs.Diagram.Document
import DiagramReview.Proofs.Validation.Label
import DiagramReview.Proofs.Validation.Place

namespace DiagramReview.Check

open Text

def bracketed (x : Name) (t r : Text) : Text := x.text ++ '[' :: (t ++ ']' :: r)

def betweenQuotes (t : Text) : Text := '"' :: (t ++ ['"'])

variable {x : Name} {t r s l : Text} {n : Nat} {f : Finding} {v : Severity}

theorem firstDelimited_bracketed (hquote : '"' ∉ t) (hclose : ']' ∉ t) :
    FirstDelimited (bracketed x t r) t :=
  ⟨x.text, '[', ']', r, rfl, x.notMem (by decide), x.notMem (by decide), .inr rfl, hquote, hclose,
    .inr rfl⟩

theorem firstDelimited_betweenQuotes : FirstDelimited (bracketed x (betweenQuotes t) r) [] :=
  ⟨x.text, '[', '"', t ++ '"' :: ']' :: r, by simp [bracketed, betweenQuotes],
    x.notMem (by decide), x.notMem (by decide), .inr rfl, List.not_mem_nil, List.not_mem_nil,
    .inl rfl⟩

theorem isCommentOrFence_bracketed (x : Name) (t r : Text) :
    isCommentOrFence (bracketed x t r) = false := by
  obtain ⟨d, w, hx, hd, -⟩ := x.exists_cons
  have htrim : trim (bracketed x t r) = d :: trimRight (w ++ '[' :: (t ++ ']' :: r)) := by
    have hblank := isBlank_of_isWord hd
    have hright : trimRight (d :: (w ++ '[' :: (t ++ ']' :: r))) =
        d :: trimRight (w ++ '[' :: (t ++ ']' :: r)) := trimRight_append_cons hblank [] _
    rw [bracketed, hx, trim, List.cons_append, hright, trimLeft,
      List.dropWhile_cons_of_neg (by simp [hblank])]
  have hfirst {c : Char} {mark : Text} (hc : isWord c = false) :
      ¬ c :: mark <+: trim (bracketed x t r) := by
    rw [htrim, List.cons_prefix_cons]
    rintro ⟨rfl, -⟩
    rw [hd] at hc
    cases hc
  rw [← Bool.not_eq_true, isCommentOrFence_iff]
  exact not_or.mpr ⟨hfirst (by decide), hfirst (by decide)⟩

theorem line_lineLabel (n : Nat) (l : Text) : (lineLabel n l).All (·.line = some n) := by
  unfold lineLabel
  split
  · exact Findings.all_empty
  · split
    · exact Findings.all_empty
    · exact Findings.all_empty
    · refine Findings.all_append.mpr ⟨Findings.all_append.mpr ⟨.ensure ?_ _, .ensure ?_ _⟩,
        .ensure ?_ _⟩
      all_goals exact Findings.all_warning.mpr rfl

theorem eq_of_mem_numberedLines {l' : Text} (h : (n, l) ∈ numberedLines s)
    (h' : (n, l') ∈ numberedLines s) : l = l' := by
  obtain ⟨i, hi, rfl⟩ := mem_numberedLines.mp h
  obtain ⟨j, hj, hij⟩ := mem_numberedLines.mp h'
  obtain rfl : i = j := by omega
  exact Option.some.inj (hi.symm.trans hj)

theorem mem_labels_iff (h : (n, l) ∈ numberedLines s) :
    f ∈ ((Aspect.labels.record s).after .empty).bucket v ∧ f.line = some n ↔
      f ∈ (lineLabel n l).bucket v := by
  rw [Findings.bucket_after_record, Aspect.findings, labels, mem_bucket_onLines]
  constructor
  · rintro ⟨⟨m, l', hl', hf⟩, hline⟩
    obtain rfl : m = n := Option.some.inj ((line_lineLabel m l' v f hf).symm.trans hline)
    rwa [eq_of_mem_numberedLines h hl']
  · intro hf
    exact ⟨⟨n, l, h, hf⟩, line_lineLabel n l v f hf⟩

theorem mem_labelWarnings_longLabel (n : Nat) (l t : Text) :
    longLabelWarning n l t ∈ labelWarnings n l t ↔ 30 < t.length := by
  simp only [labelWarnings, List.mem_append]
  constructor
  · rintro ((h | h) | h)
    · split_ifs at h <;> simp [longLabelWarning, angleWarning] at h
    · split_ifs at h <;> simp [longLabelWarning, braceWarning] at h
    · by_contra hshort
      simp [hshort] at h
  · intro hlong
    exact .inr (by simp [hlong])

/-- Of a text in brackets behind a name, free of quotes and closing brackets, it is said that it is
too long exactly if it has more than thirty characters; of any text that also stands between quotes,
nothing is said. -/
theorem label_measured_unless_quoted (x : Name) (t r s : Text) (n : Nat) :
    ('"' ∉ t → ']' ∉ t → (n, bracketed x t r) ∈ numberedLines s →
      (longLabelWarning n (bracketed x t r) t ∈
        ((Aspect.labels.record s).after .empty).bucket .warning ↔ 30 < t.length)) ∧
    ((n, bracketed x (betweenQuotes t) r) ∈ numberedLines s →
      ∀ v, ∀ f ∈ ((Aspect.labels.record s).after .empty).bucket v, f.line ≠ some n) := by
  constructor
  · intro hquote hclose hline
    have hlabel := lineLabel_of_delimited (isCommentOrFence_bracketed x t r)
      (firstDelimited_bracketed hquote hclose) n
    have hplace : (longLabelWarning n (bracketed x t r) t).line = some n := rfl
    rw [← and_iff_left (a := _ ∈ _) hplace, mem_labels_iff hline, hlabel, Findings.bucket]
    split_ifs with hnil
    · simp [hnil]
    · exact mem_labelWarnings_longLabel n (bracketed x t r) t
  · intro hline v f hf hn
    have hlabel := lineLabel_of_delimited (isCommentOrFence_bracketed x (betweenQuotes t) r)
      firstDelimited_betweenQuotes n
    have hmem := (mem_labels_iff hline).mp ⟨hf, hn⟩
    rw [hlabel, if_pos rfl] at hmem
    cases v <;> cases hmem

def longText : Text := "The quick brown fox jumps again".toList

def nodeName : Name := ⟨"A".toList, by decide, List.all_eq_true.mp (by decide)⟩

theorem label_measured_unless_quoted_below_plain :
    let plain := bracketed nodeName longText " --> B".toList
    let quoted := bracketed nodeName (betweenQuotes longText) " --> B".toList
    let found := (Aspect.labels.record (plain ++ '\n' :: quoted)).after .empty
    longLabelWarning 1 plain longText ∈ found.bucket .warning ∧
      ∀ v, ∀ f ∈ found.bucket v, f.line ≠ some 2 := by
  intro plain quoted found
  have hlines : numberedLines (plain ++ '\n' :: quoted) = [(1, plain), (2, quoted)] := by decide
  have hplain := label_measured_unless_quoted nodeName longText " --> B".toList
    (plain ++ '\n' :: quoted) 1
  have hquoted := label_measured_unless_quoted nodeName longText " --> B".toList
    (plain ++ '\n' :: quoted) 2
  rw [hlines] at hplain hquoted
  exact ⟨(hplain.1 (by decide) (by decide) (by simp [plain])).mpr (by decide),
    hquoted.2 (by simp [quoted])⟩

theorem quoted_label_not_measured :
    let line := bracketed nodeName (betweenQuotes longText) []
    30 < longText.length ∧ '"' ∉ longText ∧ '[' ∉ longText ∧ ']' ∉ longText ∧ '\n' ∉ longText ∧
      lines line = [line] ∧ (Aspect.labels.record line).after .empty = .empty := by
  decide

end DiagramReview.Check
