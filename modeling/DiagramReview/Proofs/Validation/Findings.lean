import DiagramReview.Proofs.Text.Trim
import DiagramReview.Proofs.Validation.Inspection
import DiagramReview.Validation.Verdict

namespace DiagramReview

namespace Findings

def bucket (f : Findings) : Severity → List Finding
  | .error => f.errors
  | .warning => f.warnings
  | .info => f.infos

@[simp] theorem bucket_append (a b : Findings) (v : Severity) :
    (a ++ b).bucket v = a.bucket v ++ b.bucket v := by cases v <;> rfl

@[simp] theorem bucket_empty (v : Severity) : empty.bucket v = [] := by cases v <;> rfl

@[simp] theorem bucket_join (fs : List Findings) (v : Severity) :
    (join fs).bucket v = fs.flatMap (·.bucket v) := by cases v <;> rfl

@[simp] theorem bucket_ensure (fine : Bool) (f : Findings) (v : Severity) :
    (ensure fine f).bucket v = if fine then [] else f.bucket v := by
  cases fine with
  | true => exact bucket_empty v
  | false => rfl

@[simp] theorem bucket_error (f : Finding) (v : Severity) :
    (error f).bucket v = if v = .error then [f] else [] := by cases v <;> rfl

@[simp] theorem bucket_warning (f : Finding) (v : Severity) :
    (warning f).bucket v = if v = .warning then [f] else [] := by cases v <;> rfl

@[simp] theorem bucket_info (f : Finding) (v : Severity) :
    (info f).bucket v = if v = .info then [f] else [] := by cases v <;> rfl

theorem bucket_inspect (s : Text) (found : Findings) (aspects : List Aspect) (v : Severity) :
    (inspect s found aspects).bucket v =
      found.bucket v ++ aspects.flatMap fun a => (a.findings s).bucket v := by
  induction aspects generalizing found with
  | nil => rw [inspect_nil, List.flatMap_nil, List.append_nil]
  | cons a aspects ih =>
    rw [inspect_cons, ih, bucket_append, List.flatMap_cons, List.append_assoc]

theorem bucket_after_record (s : Text) (a : Aspect) (v : Severity) :
    ((a.record s).after empty).bucket v = (a.findings s).bucket v := by
  rw [(a.writes s).after_eq, empty_append]

theorem isValid_of_perm {a b : Findings} (h : (a.bucket .error).Perm (b.bucket .error)) :
    a.isValid = b.isValid :=
  h.isEmpty_eq

/-- Checks that run one after the other over some findings keep those in front of every bucket, and
each puts behind them what it writes when it runs by itself. So their order decides only in which
order the findings stand. -/
theorem inspect_only_appends (s : Text) (found : Findings) (aspects : List Aspect) :
    (∀ v, (inspect s found aspects).bucket v =
      found.bucket v ++ aspects.flatMap fun a => ((a.record s).after empty).bucket v) ∧
    ∀ reordered, reordered.Perm aspects →
      (∀ v, ((inspect s found reordered).bucket v).Perm ((inspect s found aspects).bucket v)) ∧
      (inspect s found reordered).isValid = (inspect s found aspects).isValid := by
  have hperm (reordered : List Aspect) (h : reordered.Perm aspects) (v : Severity) :
      ((inspect s found reordered).bucket v).Perm ((inspect s found aspects).bucket v) := by
    rw [bucket_inspect, bucket_inspect]
    exact (h.flatMap_right _).append_left _
  refine ⟨fun v => ?_, fun reordered h => ⟨hperm reordered h, ?_⟩⟩
  · simp only [bucket_inspect, bucket_after_record]
  · exact isValid_of_perm (hperm reordered h .error)

end Findings

namespace Text

theorem mem_numberedLines {s l : Text} {n : Nat} :
    (n, l) ∈ numberedLines s ↔ ∃ i, (lines s)[i]? = some l ∧ n = i + 1 := by
  simp only [numberedLines, List.mem_mapIdx, Prod.mk.injEq]
  constructor
  · rintro ⟨i, hi, rfl, rfl⟩
    exact ⟨i, List.getElem?_eq_getElem hi, rfl⟩
  · rintro ⟨i, hi, rfl⟩
    obtain ⟨hlt, rfl⟩ := List.getElem?_eq_some_iff.mp hi
    exact ⟨i, hlt, rfl, rfl⟩

theorem mem_lines_of_mem_numberedLines {s l : Text} {n : Nat} (h : (n, l) ∈ numberedLines s) :
    l ∈ lines s := by
  obtain ⟨i, hi, -⟩ := mem_numberedLines.mp h
  exact List.mem_of_getElem? hi

theorem exists_mem_numberedLines {s l : Text} (h : l ∈ lines s) :
    ∃ n, (n, l) ∈ numberedLines s := by
  obtain ⟨i, hi⟩ := List.mem_iff_getElem?.mp h
  exact ⟨i + 1, mem_numberedLines.mpr ⟨i, hi, rfl⟩⟩

end Text

namespace Check

open Text

variable {check : Nat → Text → Findings} {s : Text} {v : Severity}

theorem bucket_onLines (check : Nat → Text → Findings) (s : Text) (v : Severity) :
    (onLines check s).bucket v =
      (numberedLines s).flatMap fun x => (check x.1 x.2).bucket v := by
  rw [onLines, Findings.bucket_join, List.flatMap_map]

theorem mem_bucket_onLines {f : Finding} :
    f ∈ (onLines check s).bucket v ↔
      ∃ n l, (n, l) ∈ numberedLines s ∧ f ∈ (check n l).bucket v := by
  simp [onLines]

theorem bucket_onLines_eq_nil {ok : Text → Prop}
    (h : ∀ n l, (check n l).bucket v = [] ↔ ok l) :
    (onLines check s).bucket v = [] ↔ ∀ l ∈ lines s, ok l := by
  simp only [List.eq_nil_iff_forall_not_mem, mem_bucket_onLines] at h ⊢
  constructor
  · intro hn l hl
    obtain ⟨n, hm⟩ := exists_mem_numberedLines hl
    exact (h n l).mp fun f hf => hn f ⟨n, l, hm, hf⟩
  · rintro hok f ⟨n, l, hm, hf⟩
    exact (h n l).mpr (hok l (mem_lines_of_mem_numberedLines hm)) f hf

theorem isCommentOrFence_iff (l : Text) : isCommentOrFence l = true ↔
    "%%".toList <+: trim l ∨ "```".toList <+: trim l := by
  rw [isCommentOrFence, isComment, commentMark, fenceMark, Bool.or_eq_true,
    List.isPrefixOf_iff_prefix, List.isPrefixOf_iff_prefix]

theorem bucket_cap_of_ne (hv : v ≠ .warning) (m : Metrics) (c : Cap) : (cap m c).bucket v = [] := by
  unfold cap
  cases c.remedy with
  | none => exact Findings.bucket_empty v
  | some remedy => simp [hv]

theorem bucket_version_of_ne (hv : v ≠ .error) (kind : Kind) (s : Text) :
    (version kind s).bucket v = [] := by
  cases kind <;> simp [version, hv]

theorem bucket_specific (kind : Kind) (m : Metrics) (s : Text) (v : Severity) :
    (specific (some kind) m s).bucket v = (version kind s).bucket v ++
      (kind.caps.flatMap fun c => (cap m c).bucket v) ++
      if v = .info then [counted m kind] else [] := by
  simp [specific, List.flatMap_map]

theorem errors_specific (kind : Kind) (m : Metrics) (s : Text) :
    (specific (some kind) m s).bucket .error = (version kind s).bucket .error := by
  simp [bucket_specific, bucket_cap_of_ne]

theorem warnings_specific (kind : Kind) (m : Metrics) (s : Text) :
    (specific (some kind) m s).bucket .warning =
      kind.caps.flatMap fun c => (cap m c).bucket .warning := by
  simp [bucket_specific, bucket_version_of_ne]

theorem infos_specific (kind : Kind) (m : Metrics) (s : Text) :
    (specific (some kind) m s).bucket .info = [counted m kind] := by
  simp [bucket_specific, bucket_version_of_ne, bucket_cap_of_ne]

end Check

namespace Verdict

theorem bucket_complexityFindings (r : Rating) (v : Severity) (hv : v ≠ .warning) :
    (complexityFindings r).bucket v = [] := by
  simp [complexityFindings, hv]

def metrics (s : Text) : Metrics := .measureAny (Kind.detect s) s

theorem complexity_ofText (t : Thresholds) (s : Text) :
    (ofText t s).complexity = t.rate ((metrics s).score (Kind.detect s)) := rfl

theorem valid_iff_errors_nil (t : Thresholds) (s : Text) :
    (ofText t s).valid = true ↔ (ofText t s).findings.errors = [] :=
  List.isEmpty_iff

theorem bucket_ofText (t : Thresholds) (s : Text) (v : Severity) :
    (ofText t s).findings.bucket v =
      (Aspect.structural.flatMap fun a => (a.findings s).bucket v) ++
        (Check.specific (Kind.detect s) (metrics s) s).bucket v ++
        (complexityFindings (t.rate ((metrics s).score (Kind.detect s)))).bucket v := by
  have h : (ofText t s).findings = inspection (Kind.detect s) (metrics s) s ++
      complexityFindings (t.rate ((metrics s).score (Kind.detect s))) := rfl
  rw [h, Findings.bucket_append, inspection, Findings.bucket_inspect, List.flatMap_append]
  simp [Aspect.findings]

end Verdict

end DiagramReview
