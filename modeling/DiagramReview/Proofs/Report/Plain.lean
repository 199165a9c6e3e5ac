import DiagramReview.Proofs.Report.Listing
import DiagramReview.Proofs.Validation.OneLine

namespace DiagramReview

open Text

theorem toList_endLines_cons (l : String) (ls : List String) :
    (endLines (l :: ls)).toList = l.toList ++ '\n' :: (endLines ls).toList := by
  simp [endLines]

theorem toList_endLines_append (ls ms : List String) :
    (endLines (ls ++ ms)).toList = (endLines ls).toList ++ (endLines ms).toList := by
  induction ls with
  | nil => simp [endLines]
  | cons l ls ih =>
    rw [List.cons_append, toList_endLines_cons, ih, toList_endLines_cons, List.append_assoc,
      List.cons_append]

theorem lines_endLines {ls : List String} (h : ∀ l ∈ ls, InLine l) :
    lines (endLines ls).toList = ls.map String.toList ++ [[]] := by
  induction ls with
  | nil => rfl
  | cons l ls ih =>
    obtain ⟨hl, hrest⟩ := List.forall_mem_cons.mp h
    rw [toList_endLines_cons, lines_append, ih hrest, lines, List.splitOn_eq_singleton hl]
    rfl

theorem endLines_inj {ls ms : List String} (hls : ∀ l ∈ ls, InLine l) (hms : ∀ l ∈ ms, InLine l)
    (h : endLines ls = endLines ms) : ls = ms := by
  have hlines := lines_endLines hls
  rw [h, lines_endLines hms] at hlines
  have hinj : Function.Injective String.toList := fun _ _ => String.toList_inj.mp
  exact (List.map_injective_iff.mpr hinj (List.append_cancel_right hlines)).symm

def linesBelow (file report : String) : List Text :=
  (lines report.toList).drop (4 + file.toList.count '\n')

def Severity.isDetailed (severity : Severity) : Bool := severity != .info

namespace Verdict

variable {v w : Verdict} {file l : String}

def statusLines (v : Verdict) : List String :=
  ["Diagram Type: " ++ Kind.nameOf v.kind,
    "Complexity: " ++ v.complexity.level.name ++ " (score: " ++ toString v.complexity.score ++ ")",
    "Status: " ++ (if v.valid then "VALID" else "INVALID"),
    ""]

def closing (v : Verdict) : List String :=
  if v.valid && v.findings.warnings.isEmpty then ["Validation passed: all checks succeeded."] else []

def bodyLines (v : Verdict) : List String :=
  v.statusLines ++ (listing "ERRORS" true v.findings.errors ++
    (listing "WARNINGS" true v.findings.warnings ++
      (listing "INFO" false v.findings.infos ++ v.closing)))

theorem plainLines_eq (v : Verdict) (file : String) : v.plainLines file =
    ["", "=== Mermaid Diagram Validation ===", "", "File: " ++ file] ++ v.bodyLines := by
  simp only [plainLines, bodyLines, statusLines, closing, List.append_assoc, List.cons_append,
    List.nil_append]

theorem toList_plain (v : Verdict) (file : String) : (v.plain file).toList =
    ("\n=== Mermaid Diagram Validation ===\n\nFile: ".toList ++ file.toList) ++
      '\n' :: (endLines v.bodyLines).toList := by
  rw [plain, plainLines_eq, toList_endLines_append]
  simp [endLines]

theorem plain_eq_iff :
    v.plain file = w.plain file ↔ endLines v.bodyLines = endLines w.bodyLines := by
  rw [← String.toList_inj, toList_plain, toList_plain, List.append_cancel_left_eq,
    List.cons.injEq, eq_self, true_and, String.toList_inj]

theorem linesBelow_plain (h : ∀ l ∈ v.bodyLines, InLine l) (file : String) :
    linesBelow file (v.plain file) = v.bodyLines.map String.toList ++ [[]] := by
  have htop : (lines ("\n=== Mermaid Diagram Validation ===\n\nFile: ".toList ++
      file.toList)).length = 4 + file.toList.count '\n' := by
    rw [lines, length_splitOn, List.count_append, Nat.add_right_comm]
    rfl
  rw [linesBelow, toList_plain, lines_append, lines_endLines h, ← htop, List.drop_left]

/-- The verdicts agree in all but what the plain report leaves out: the score before it is rounded
and the details of the infos. -/
structure ShowSame (v w : Verdict) : Prop where
  valid : v.valid = w.valid
  kind : v.kind = w.kind
  level : v.complexity.level = w.complexity.level
  score : v.complexity.score = w.complexity.score
  errors : v.findings.errors = w.findings.errors
  warnings : v.findings.warnings = w.findings.warnings
  infos : v.findings.infos.map (fun f => (f.category, f.message)) =
    w.findings.infos.map (fun f => (f.category, f.message))

theorem map_shown_detailed (fs : List Finding) : fs.map (Finding.shown true) = fs := List.map_id fs

theorem map_shown_brief_iff {fs gs : List Finding} :
    fs.map (Finding.shown false) = gs.map (Finding.shown false) ↔
      fs.map (fun f => (f.category, f.message)) = gs.map (fun f => (f.category, f.message)) := by
  have hshown (fs : List Finding) : fs.map (Finding.shown false) =
      (fs.map fun f => (f.category, f.message)).map Finding.brief := by
    rw [List.map_map]
    rfl
  rw [hshown, hshown, (List.map_injective_iff.mpr Finding.brief_injective).eq_iff]

theorem space_notMem_levelName (level : Level) : ' ' ∉ level.name.toList := by
  cases level <;> decide

theorem statusLines_inj (h : v.statusLines = w.statusLines) :
    v.kind = w.kind ∧ v.complexity.level = w.complexity.level ∧
      v.complexity.score = w.complexity.score ∧ v.valid = w.valid := by
  obtain ⟨hkind, h⟩ := List.cons.inj h
  obtain ⟨hrating, h⟩ := List.cons.inj h
  have hstatus := (List.cons.inj h).1
  have hchars := congrArg String.toList hrating
  simp only [String.toList_append, List.append_assoc, List.append_cancel_left_eq] at hchars
  obtain ⟨hlevel, -⟩ := append_cons_inj (space_notMem_levelName _) (space_notMem_levelName _) hchars
  rw [hlevel] at hchars
  have hscore := List.append_cancel_right (List.append_cancel_left
    (List.append_cancel_left hchars))
  refine ⟨Kind.nameOf_injective ((String.append_right_inj _).mp hkind),
    Level.name_injective (String.toList_inj.mp hlevel), ?_, ?_⟩
  · exact Nat.repr_injective (String.toList_inj.mp hscore)
  · revert hstatus
    cases v.valid <;> cases w.valid <;> decide

theorem notLed_closing {mark : String} (h : Apart "Validation passed: all checks succeeded." mark)
    (v : Verdict) : NotLed mark v.closing := by
  unfold closing
  split
  · exact notLed_cons (h.not_opens (List.prefix_refl _)) []
  · exact fun _ hl => nomatch hl

theorem bodyLines_inj (h : v.bodyLines = w.bodyLines) : v.ShowSame w := by
  obtain ⟨hstatus, h⟩ := List.append_inj h rfl
  -- no part of the report goes on below with the title of a listing that it ends
  have hinfos {mark : String} (hinfo : Apart ("INFO" ++ ":") mark)
      (hclosing : Apart "Validation passed: all checks succeeded." mark) (v : Verdict) :
      NotLed mark (listing "INFO" false v.findings.infos ++ v.closing) :=
    notLed_listing hinfo (notLed_closing hclosing v) _ _
  have hwarnings (v : Verdict) : NotLed ("ERRORS" ++ ":") (listing "WARNINGS" true
      v.findings.warnings ++ (listing "INFO" false v.findings.infos ++ v.closing)) :=
    notLed_listing (by decide) (hinfos (by decide) (by decide) v) _ _
  obtain ⟨herrors, h⟩ := listing_inj (hwarnings v) (hwarnings w) h
  obtain ⟨hwarned, h⟩ := listing_inj (hinfos (by decide) (by decide) v)
    (hinfos (by decide) (by decide) w) h
  obtain ⟨hinformed, -⟩ := listing_inj (notLed_closing (by decide) v)
    (notLed_closing (by decide) w) h
  obtain ⟨hkind, hlevel, hscore, hvalid⟩ := statusLines_inj hstatus
  rw [map_shown_detailed, map_shown_detailed] at herrors hwarned
  exact ⟨hvalid, hkind, hlevel, hscore, herrors, hwarned, map_shown_brief_iff.mp hinformed⟩

theorem ShowSame.bodyLines_eq (h : v.ShowSame w) : v.bodyLines = w.bodyLines := by
  have hstatus : v.statusLines = w.statusLines := by
    rw [statusLines, statusLines, h.kind, h.level, h.score, h.valid]
  have hclosing : v.closing = w.closing := by rw [closing, closing, h.valid, h.warnings]
  rw [bodyLines, bodyLines, hstatus, hclosing, h.errors, h.warnings,
    listing_congr (map_shown_brief_iff.mpr h.infos)]

theorem inLine_kindName (kind : Option Kind) : InLine (Kind.nameOf kind) := by
  cases kind with
  | none => decide
  | some kind => cases kind <;> decide

theorem inLine_categoryName (c : Category) : InLine c.name := by cases c <;> decide

theorem inLine_statusLines (v : Verdict) : ∀ l ∈ v.statusLines, InLine l := by
  have hkind : InLine ("Diagram Type: " ++ Kind.nameOf v.kind) :=
    .append (by decide) (inLine_kindName _)
  have hrating : InLine ("Complexity: " ++ v.complexity.level.name ++ " (score: " ++
      toString v.complexity.score ++ ")") :=
    (((InLine.append (by decide) (inLine_levelName _)).append (by decide)).append
      (inLine_toString _)).append (by decide)
  have hstatus : InLine ("Status: " ++ (if v.valid then "VALID" else "INVALID")) := by
    cases v.valid <;> decide
  simpa [statusLines] using ⟨hkind, hrating, hstatus, by decide⟩

theorem inLine_mark {f : Finding} {d : String × Option String} (hd : d ∈ f.details) :
    InLine d.1 := by
  have hmarks : ∀ m ∈ Finding.detailMarks, InLine m := by decide
  exact hmarks _ (Finding.map_fst_details f ▸ List.mem_map_of_mem hd)

theorem inLine_detail {f : Finding} (hf : f.OneLine) {d : String × Option String}
    (hd : d ∈ f.details) {t : String} (ht : t ∈ d.2) : InLine t := by
  simp only [Finding.details, Finding.detailMarks, List.zip_cons_cons, List.zip_nil_left,
    List.mem_cons, List.not_mem_nil, or_false] at hd
  rcases hd with rfl | rfl | rfl | rfl
  · obtain ⟨n, -, rfl⟩ := Option.mem_map.mp ht
    exact inLine_toString n
  all_goals exact hf t (by simp [Finding.texts, Option.mem_toList.mpr ht])

theorem inLine_entry {f : Finding} (hf : f.OneLine) (detailed : Bool) (n : Nat) :
    ∀ l ∈ f.entry detailed n, InLine l := by
  have hmessage : InLine f.message := hf _ List.mem_cons_self
  have hhead : InLine (f.headLine n) :=
    ((((InLine.append (by decide) (inLine_toString n)).append (by decide)).append
      (inLine_categoryName _)).append (by decide)).append hmessage
  have hdetails : ∀ l ∈ f.detailLines, InLine l := by
    intro l hl
    obtain ⟨d, hd, t, ht, rfl⟩ := Finding.mem_detailLines.mp hl
    exact .append (inLine_mark hd) (inLine_detail hf hd ht)
  refine List.forall_mem_cons.mpr ⟨hhead, ?_⟩
  cases detailed with
  | true => exact hdetails
  | false => exact List.forall_mem_nil _

theorem inLine_listing {title : String} {fs : List Finding} (ht : InLine title)
    (hfs : ∀ f ∈ fs, f.OneLine) (detailed : Bool) : ∀ l ∈ listing title detailed fs, InLine l := by
  intro l hl
  obtain ⟨-, rfl | rfl | hl⟩ := mem_listing.mp hl
  · exact ht.append (by decide)
  · decide
  · obtain ⟨i, f, hf, hl⟩ := Finding.mem_entriesFrom.mp hl
    exact inLine_entry (hfs f (List.mem_of_getElem? hf)) _ _ l hl

theorem inLine_bodyLines (h : v.findings.All Finding.OneLine) : ∀ l ∈ v.bodyLines, InLine l := by
  have hclosing : ∀ l ∈ v.closing, InLine l := by
    unfold closing
    split <;> decide
  simp only [bodyLines, List.forall_mem_append]
  exact ⟨inLine_statusLines v, inLine_listing (by decide) (h .error) true,
    inLine_listing (by decide) (h .warning) true, inLine_listing (by decide) (h .info) false,
    hclosing⟩

theorem not_opens_of_mem_statusLines (h : l ∈ v.statusLines) : ¬ Opens "  " l := by
  simp only [statusLines, List.mem_cons, List.not_mem_nil, or_false] at h
  rcases h with rfl | rfl | rfl | rfl
  · exact Apart.not_opens (by decide) (opens_append "Diagram Type: " _)
  · exact Apart.not_opens (by decide)
      ((((opens_append "Complexity: " _).append _).append _).append _)
  · exact Apart.not_opens (by decide) (opens_append "Status: " _)
  · decide

theorem not_opens_of_mem_closing (h : l ∈ v.closing) : ¬ Opens "  " l := by
  unfold closing at h
  split at h
  · rw [List.mem_singleton.mp h]
    decide
  · cases h

theorem mem_listing_iff {title : String} {detailed : Bool} {fs : List Finding}
    (htitle : ¬ Opens "  " (title ++ ":")) (h : Opens "  " l) :
    l ∈ listing title detailed fs ↔ l ∈ Finding.entriesFrom detailed 1 fs := by
  rw [mem_listing]
  constructor
  · rintro ⟨-, rfl | rfl | hl⟩
    · exact absurd h htitle
    · exact absurd h (by decide)
    · exact hl
  · intro hl
    refine ⟨?_, .inr (.inr hl)⟩
    rintro rfl
    cases hl

theorem mem_bodyLines_iff (h : Opens "  " l) : l ∈ v.bodyLines ↔
    ∃ severity, ∃ i : Nat, ∃ f, (v.findings.bucket severity)[i]? = some f ∧
      l ∈ f.entry severity.isDetailed (i + 1) := by
  have hstatus : l ∉ v.statusLines := fun hl => not_opens_of_mem_statusLines hl h
  have hclosing : l ∉ v.closing := fun hl => not_opens_of_mem_closing hl h
  have hlisted : l ∈ v.bodyLines ↔ ∃ severity : Severity,
      l ∈ Finding.entriesFrom severity.isDetailed 1 (v.findings.bucket severity) := by
    rw [bodyLines, List.mem_append, List.mem_append, List.mem_append, List.mem_append,
      mem_listing_iff (by decide) h, mem_listing_iff (by decide) h, mem_listing_iff (by decide) h]
    constructor
    · rintro (hl | hl | hl | hl | hl)
      · exact absurd hl hstatus
      · exact ⟨.error, hl⟩
      · exact ⟨.warning, hl⟩
      · exact ⟨.info, hl⟩
      · exact absurd hl hclosing
    · rintro ⟨severity, hl⟩
      cases severity with
      | error => exact .inr (.inl hl)
      | warning => exact .inr (.inr (.inl hl))
      | info => exact .inr (.inr (.inr (.inl hl)))
  simp only [hlisted, Finding.mem_entriesFrom, Nat.add_comm 1]

theorem headLine_mem_bodyLines_iff {n : Nat} {g : Finding} : g.headLine n ∈ v.bodyLines ↔
    ∃ severity, ∃ i : Nat, ∃ f, (v.findings.bucket severity)[i]? = some f ∧
      n = i + 1 ∧ g.category = f.category ∧ g.message = f.message := by
  have hopens : Opens "  " (g.headLine n) :=
    ((((opens_append "  " _).append _).append _).append _).append _
  rw [mem_bodyLines_iff hopens]
  constructor
  · rintro ⟨severity, i, f, hf, hl⟩
    obtain hhead | ⟨-, hdetail⟩ := Finding.mem_entry.mp hl
    · exact ⟨severity, i, f, hf, Finding.headLine_inj hhead⟩
    · exact absurd (Finding.opens_of_mem_detailLines hdetail) (Finding.headLine_not_opens n g)
  · rintro ⟨severity, i, f, hf, rfl, hcategory, hmessage⟩
    refine ⟨severity, i, f, hf, Finding.mem_entry.mpr (.inl ?_)⟩
    rw [Finding.headLine, Finding.headLine, hcategory, hmessage]

theorem detail_mem_bodyLines_iff (h : Opens "     " l) : l ∈ v.bodyLines ↔
    ∃ f ∈ v.findings.errors ++ v.findings.warnings, l ∈ f.detailLines := by
  have hopens : Opens "  " l := Opens.trans (by decide) h
  rw [mem_bodyLines_iff hopens]
  constructor
  · rintro ⟨severity, i, f, hf, hl⟩
    have hmem := List.mem_of_getElem? hf
    obtain rfl | ⟨hdetailed, hdetail⟩ := Finding.mem_entry.mp hl
    · exact absurd h (Finding.headLine_not_opens _ f)
    · refine ⟨f, List.mem_append.mpr ?_, hdetail⟩
      cases severity with
      | error => exact .inl hmem
      | warning => exact .inr hmem
      | info => cases hdetailed
  · rintro ⟨f, hf, hdetail⟩
    have hlisted (severity : Severity) (hdetailed : severity.isDetailed = true)
        (hf : f ∈ v.findings.bucket severity) :
        ∃ severity, ∃ i : Nat, ∃ f, (v.findings.bucket severity)[i]? = some f ∧
          l ∈ f.entry severity.isDetailed (i + 1) := by
      obtain ⟨i, hi⟩ := List.mem_iff_getElem?.mp hf
      exact ⟨severity, i, f, hi, Finding.mem_entry.mpr (.inr ⟨hdetailed, hdetail⟩)⟩
    obtain hf | hf := List.mem_append.mp hf
    · exact hlisted .error rfl hf
    · exact hlisted .warning rfl hf

theorem mem_linesBelow_iff (h : ∀ l ∈ v.bodyLines, InLine l) (hl : l ≠ "") :
    l.toList ∈ linesBelow file (v.plain file) ↔ l ∈ v.bodyLines := by
  have hinj : Function.Injective String.toList := fun _ _ => String.toList_injective
  have hempty : l.toList ≠ [] := fun hnil => hl (String.toList_injective hnil)
  rw [linesBelow_plain h, List.mem_append, List.mem_singleton, or_iff_left hempty,
    List.mem_map_of_injective hinj]

/-- Plain reports on one file are the same exactly if the verdicts show the same, where no text of a
finding holds a newline. Below the name of the file, each line that reads as the head of a finding is
the head of that finding, and each line as far to the right as details are is a detail that a finding
has. No text that validation finds in a document holds a newline. -/
theorem plain_report_unambiguous (file : String) (v w : Verdict)
    (hv : v.findings.All Finding.OneLine) (hw : w.findings.All Finding.OneLine) :
    (v.plain file = w.plain file ↔ v.ShowSame w) ∧
      (∀ n g, (Finding.headLine n g).toList ∈ linesBelow file (v.plain file) ↔
        ∃ severity, ∃ i : Nat, ∃ f, (v.findings.bucket severity)[i]? = some f ∧
          n = i + 1 ∧ g.category = f.category ∧ g.message = f.message) ∧
      (∀ l, Opens "     " l → (l.toList ∈ linesBelow file (v.plain file) ↔
        ∃ f ∈ v.findings.errors ++ v.findings.warnings, l ∈ f.detailLines)) ∧
      ∀ t s, (ofText t s).findings.All Finding.OneLine := by
  have hbody := inLine_bodyLines hv
  refine ⟨plain_eq_iff.trans ⟨fun h => ?_, fun h => ?_⟩, fun n g => ?_, fun l hl => ?_, oneLine⟩
  · exact bodyLines_inj (endLines_inj hbody (inLine_bodyLines hw) h)
  · rw [h.bodyLines_eq]
  · rw [mem_linesBelow_iff hbody (Finding.headLine_ne_empty n g), headLine_mem_bodyLines_iff]
  · have hne : l ≠ "" := by
      rintro rfl
      exact absurd hl (by decide)
    rw [mem_linesBelow_iff hbody hne, detail_mem_bodyLines_iff hl]

theorem plain_report_unambiguous_of_documents :
    (ofText {} "classDiagram\nA > B".toList).findings.All Finding.OneLine ∧
      (ofText {} "classDiagram\nA > C".toList).findings.All Finding.OneLine ∧
      (ofText {} "classDiagram\nA > B".toList).plain "a.mmd" ≠
        (ofText {} "classDiagram\nA > C".toList).plain "a.mmd" := by
  have hb := oneLine {} "classDiagram\nA > B".toList
  have hc := oneLine {} "classDiagram\nA > C".toList
  refine ⟨hb, hc, fun h => ?_⟩
  have hsame := (plain_report_unambiguous "a.mmd" _ _ hb hc).1.mp h
  exact absurd hsame.warnings (by decide +kernel)

end Verdict

end DiagramReview
