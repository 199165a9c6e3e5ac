import DiagramReview.Command.Checker
import DiagramReview.Proofs.Files.Ancestor
import DiagramReview.Proofs.Validation.Thresholds

namespace DiagramReview.Checker

def settings? (host : Host) (a : CheckArguments) : Option Config :=
  host.here.bind fun here => (Config.load host.files host.home here a.config).toOption

def IsDash (file : String) : Prop :=
  ¬ Path.IsAbsolute file.toList ∧ Path.names file.toList = [['-']]

/-- The text that is checked, if it can be read: the standard input for a dash, else the file. -/
def Reads (host : Host) (file : String) (s : Text) : Prop :=
  (IsDash file ∧ host.input = .ok s) ∨ (¬ IsDash file ∧ host.files.read file = .ok s)

def Passes (a : CheckArguments) (c : Config) (s : Text) : Prop :=
  match a.task with
  | .validate => (Verdict.ofText c.thresholds s).findings.errors = []
  | .complexity o => ∃ x, Analysis.ofText? (c.override o).thresholds s = some x ∧
      x.complexity.level ≠ .complex

def Reports (a : CheckArguments) (s : Text) : Prop :=
  match a.task with
  | .validate => True
  | .complexity _ => Kind.detect s ≠ none

variable {host : Host} {words : List String} {a : CheckArguments} {c : Config} {s : Text}

theorem not_reports_iff :
    ¬ Reports a s ↔ ∃ o, a.task = .complexity o ∧ Kind.detect s = none := by
  unfold Reports
  cases a.task with
  | validate => simp
  | complexity o => simp

theorem readInput_eq_ok_iff {file : String} : readInput host file = .ok s ↔ Reads host file s := by
  have hmap {message : ReadError → String} {x : Except ReadError Text} :
      x.mapError message = .ok s ↔ x = .ok s := by
    cases x <;> simp [Except.mapError]
  have hdash : Path.isInput file = true ↔ IsDash file := Path.isInput_iff
  unfold readInput Reads
  split_ifs with h
  · simp [hmap, hdash.mp h]
  · simp [hmap, mt hdash.mpr h]

theorem line_ne_empty (s : String) : line s ≠ "" := by
  intro h
  have hlist := congrArg String.toList h
  rw [line, String.toList_append] at hlist
  exact List.append_ne_nil_of_right_ne_nil _ (by decide) hlist

theorem exit_validationResult (t : Thresholds) (a : CheckArguments) (s : Text) :
    (validationResult t a s).exit = 0 ↔ (Verdict.ofText t s).findings.errors = [] := by
  rw [← Verdict.valid_iff_errors_nil, validationResult]
  dsimp only
  split_ifs with h <;> simp [h]

theorem complexityResult_of_detect_eq_none {t : Thresholds} (h : Kind.detect s = none) :
    (complexityResult t a s).exit = 1 ∧ (complexityResult t a s).output = "" := by
  have hreport : Report.ofText t s = .undetected false Analysis.undetected := by
    rw [Report.ofText, Analysis.ofText?, h, Option.map_none]
  rw [complexityResult, hreport]
  exact ⟨rfl, rfl⟩

theorem complexityResult_of_analysis {t : Thresholds} {x : Analysis}
    (h : Analysis.ofText? t s = some x) :
    ((complexityResult t a s).exit = 0 ↔ x.complexity.level ≠ .complex) ∧
      (complexityResult t a s).output ≠ "" := by
  have hreport : Report.ofText t s = .analysed true x := by rw [Report.ofText, h]
  rw [complexityResult, hreport]
  refine ⟨?_, line_ne_empty _⟩
  dsimp only
  split_ifs with hlevel <;> simp [hlevel]

theorem taskResult_validate (h : a.task = .validate) (hs : readInput host a.file = .ok s) :
    taskResult host c a = validationResult c.thresholds a s := by
  rw [taskResult, h, hs]

theorem taskResult_complexity {o : Overrides} (h : a.task = .complexity o)
    (hs : readInput host a.file = .ok s) :
    (taskResult host c a).exit = (complexityResult (c.override o).thresholds a s).exit ∧
      (taskResult host c a).output = (complexityResult (c.override o).thresholds a s).output := by
  rw [taskResult, h, hs]
  exact ⟨rfl, rfl⟩

theorem taskResult_of_unread {message : String} (h : readInput host a.file = .error message) :
    (taskResult host c a).exit = 1 ∧ (taskResult host c a).output = "" := by
  unfold taskResult
  cases a.task with
  | complexity o => rw [h]; exact ⟨rfl, rfl⟩
  | validate => rw [h]; exact ⟨rfl, rfl⟩

theorem taskResult_of_read (h : readInput host a.file = .ok s) :
    ((taskResult host c a).exit = 0 ↔ Passes a c s) ∧
      ((taskResult host c a).output = "" ↔ ¬ Reports a s) := by
  cases htask : a.task with
  | validate =>
    rw [taskResult_validate htask h, exit_validationResult, Passes, Reports, htask]
    have houtput : (validationResult c.thresholds a s).output ≠ "" := line_ne_empty _
    exact ⟨Iff.rfl, fun he => absurd he houtput, fun hn => absurd trivial hn⟩
  | complexity o =>
    obtain ⟨hexit, houtput⟩ := taskResult_complexity (c := c) htask h
    rw [hexit, houtput, Passes, Reports, htask]
    dsimp only
    cases hkind : Kind.detect s with
    | none =>
      have hnone : Analysis.ofText? (c.override o).thresholds s = none := by
        rw [Analysis.ofText?, hkind, Option.map_none]
      obtain ⟨he, ho⟩ :=
        complexityResult_of_detect_eq_none (a := a) (t := (c.override o).thresholds) hkind
      simp [he, ho, hnone]
    | some kind =>
      have hsome : Analysis.ofText? (c.override o).thresholds s =
          some (.ofKind (c.override o).thresholds kind s) := by
        rw [Analysis.ofText?, hkind, Option.map_some]
      obtain ⟨he, ho⟩ := complexityResult_of_analysis (a := a) hsome
      simp [he, ho, hsome]

theorem result_of_settings?_eq_none (h : settings? host a = none) :
    (result host a).exit = 1 ∧ (result host a).output = "" := by
  unfold settings? at h
  unfold result
  cases hhere : host.here with
  | none => exact ⟨rfl, rfl⟩
  | some here =>
    dsimp only
    cases hload : Config.load host.files host.home here a.config with
    | error e => exact ⟨rfl, rfl⟩
    | ok c => rw [hhere, Option.bind_some, hload] at h; cases h

theorem result_of_settings?_eq_some (h : settings? host a = some c) :
    (result host a).exit = (taskResult host c a).exit ∧
      (result host a).output = (taskResult host c a).output := by
  unfold settings? at h
  unfold result
  cases hhere : host.here with
  | none => rw [hhere] at h; cases h
  | some here =>
    dsimp only
    cases hload : Config.load host.files host.home here a.config with
    | error e => rw [hhere, Option.bind_some, hload] at h; cases h
    | ok d =>
      rw [hhere, Option.bind_some, hload] at h
      cases h
      exact ⟨rfl, rfl⟩

theorem exit_result_eq_zero_iff : (result host a).exit = 0 ↔
    ∃ c s, settings? host a = some c ∧ Reads host a.file s ∧ Passes a c s := by
  simp only [← readInput_eq_ok_iff]
  cases hc : settings? host a with
  | none => simp [(result_of_settings?_eq_none hc).1]
  | some c =>
    rw [(result_of_settings?_eq_some hc).1]
    cases hs : readInput host a.file with
    | error message => simp [(taskResult_of_unread (c := c) hs).1]
    | ok s => simp [(taskResult_of_read (c := c) hs).1]

theorem output_result_eq_empty_iff : (result host a).output = "" ↔
    settings? host a = none ∨ (¬ ∃ s, Reads host a.file s) ∨
      ∃ s, Reads host a.file s ∧ ¬ Reports a s := by
  simp only [← readInput_eq_ok_iff]
  cases hc : settings? host a with
  | none => simp [(result_of_settings?_eq_none hc).2]
  | some c =>
    rw [(result_of_settings?_eq_some hc).2]
    cases hs : readInput host a.file with
    | error message => simp [(taskResult_of_unread (c := c) hs).2]
    | ok s => simp [(taskResult_of_read (c := c) hs).2]

theorem exit_taskResult_le_one (host : Host) (c : Config) (a : CheckArguments) :
    (taskResult host c a).exit ≤ 1 := by
  cases hs : readInput host a.file with
  | error message => rw [(taskResult_of_unread hs).1]
  | ok s =>
    cases htask : a.task with
    | validate =>
      rw [taskResult_validate htask hs, validationResult]
      dsimp only
      split_ifs <;> decide
    | complexity o =>
      rw [(taskResult_complexity htask hs).1, complexityResult]
      split
      · exact Nat.le_refl 1
      · dsimp only
        split_ifs <;> decide

theorem exit_result_le_one (host : Host) (a : CheckArguments) : (result host a).exit ≤ 1 := by
  cases hc : settings? host a with
  | none => rw [(result_of_settings?_eq_none hc).1]
  | some c =>
    rw [(result_of_settings?_eq_some hc).1]
    exact exit_taskResult_le_one host c a

theorem exit_result_eq {host' : Host} {a' : CheckArguments}
    (h : (result host a).exit = 0 ↔ (result host' a').exit = 0) :
    (result host a).exit = (result host' a').exit := by
  have hle := exit_result_le_one host a
  have hle' := exit_result_le_one host' a'
  omega

theorem run_of_ofWords (host : Host) (h : CheckArguments.ofWords words = .ok a) :
    (run host words).exit = (result host a).exit ∧
      (run host words).output = (result host a).output := by
  rw [run, h]
  exact ⟨rfl, rfl⟩

variable {host' : Host} {a' : CheckArguments}

theorem exit_result_eq_of_json (hconfig : a'.config = a.config) (htask : a'.task = a.task)
    (hfile : a'.file = a.file) : (result host a').exit = (result host a).exit := by
  apply exit_result_eq
  simp only [exit_result_eq_zero_iff, settings?, Passes, hconfig, htask, hfile]

theorem validates_of_validates (htask : a.task = .validate) (htask' : a'.task = .validate)
    (hc' : (settings? host' a').isSome)
    (hread : ∀ s, Reads host a.file s ↔ Reads host' a'.file s)
    (h : (result host a).exit = 0) : (result host' a').exit = 0 := by
  obtain ⟨c, s, -, hs, hpass⟩ := exit_result_eq_zero_iff.mp h
  obtain ⟨c', hc'⟩ := Option.isSome_iff_exists.mp hc'
  refine exit_result_eq_zero_iff.mpr ⟨c', s, hc', (hread s).mp hs, ?_⟩
  -- the two runs may work with different thresholds, which have no part in the errors
  rw [Passes, htask] at hpass
  rw [Passes, htask']
  exact (Verdict.agreeBelowLevel c'.thresholds c.thresholds s).errors.trans hpass

/-- The exit code of a run tells what came of its task, and a run writes nothing exactly where its
settings do not load, its text cannot be read or it has no diagram to score. The form of the report
has no part in the exit code; nor have the settings in that of a validation, of which thresholds
change the level and the warning about it alone. -/
theorem exit_tells_result (host : Host) (h : CheckArguments.ofWords words = .ok a) :
    (a.task = .validate →
      ((run host words).exit = 0 ↔ ∃ c s, settings? host a = some c ∧
        Reads host a.file s ∧ (Verdict.ofText c.thresholds s).findings.errors = []) ∧
      ∀ host' words' a', CheckArguments.ofWords words' = .ok a' → a'.task = .validate →
        (settings? host a).isSome → (settings? host' a').isSome →
        (∀ s, Reads host a.file s ↔ Reads host' a'.file s) →
        (run host' words').exit = (run host words).exit) ∧
    (∀ o, a.task = .complexity o →
      ((run host words).exit = 0 ↔ ∃ c s x, settings? host a = some c ∧
        Reads host a.file s ∧ Analysis.ofText? (c.override o).thresholds s = some x ∧
        x.complexity.level ≠ .complex)) ∧
    (∀ words' a', CheckArguments.ofWords words' = .ok a' →
      a'.config = a.config → a'.task = a.task → a'.file = a.file →
      (run host words').exit = (run host words).exit) ∧
    ((run host words).output = "" ↔ settings? host a = none ∨ (¬ ∃ s, Reads host a.file s) ∨
      ∃ o s, a.task = .complexity o ∧ Reads host a.file s ∧ Kind.detect s = none) ∧
    ∀ t t' s, Verdict.AgreeBelowLevel (.ofText t s) (.ofText t' s) := by
  obtain ⟨hexit, houtput⟩ := run_of_ofWords host h
  refine ⟨fun htask => ⟨?_, ?_⟩, ?_, ?_, ?_, Verdict.agreeBelowLevel⟩
  · simp only [hexit, exit_result_eq_zero_iff, Passes, htask]
  · intro host' words' a' h' htask' hc hc' hread
    rw [hexit, (run_of_ofWords host' h').1]
    apply exit_result_eq
    constructor
    · exact validates_of_validates htask' htask hc fun s => (hread s).symm
    · exact validates_of_validates htask htask' hc' hread
  · intro o htask
    simp only [hexit, exit_result_eq_zero_iff, Passes, htask, ← exists_and_left]
  · intro words' a' h' hconfig htask hfile
    rw [hexit, (run_of_ofWords host h').1]
    exact exit_result_eq_of_json hconfig htask hfile
  · rw [houtput, output_result_eq_empty_iff]
    simp only [not_reports_iff, ← exists_and_left]
    rw [exists_comm]
    simp only [and_left_comm]

theorem settings_leave_exit_of_validation :
    let settings : Text := "[thresholds]\nmoderate = 1".toList
    let empty : Tree := .dir [("d", .dir [("e", .dir [])])]
    let tree : Tree :=
      .dir [("d", .dir [(".mermaid-check.toml", .file (.ok settings)), ("e", .dir [])])]
    let bare : Host :=
      { files := empty.files "/d/e", input := .ok "graph TD\nA[open".toList, here := some "/d/e",
        home := none }
    let host : Host := { bare with files := tree.files "/d/e" }
    let words := ["validate", "-"]
    let a : CheckArguments :=
      { config := none, logLevel := "warn", task := .validate, file := "-", json := false }
    let words' := ["--log-level", "off", "validate", "--json", "-"]
    let a' : CheckArguments := { a with logLevel := "off", json := true }
    CheckArguments.ofWords words = .ok a ∧ CheckArguments.ofWords words' = .ok a' ∧
      (settings? bare a).isSome ∧ (settings? host a').isSome ∧
      (∀ s, Reads bare a.file s ↔ Reads host a'.file s) ∧
      (run host words').exit = (run bare words).exit := by
  intro settings empty tree bare host words a words' a'
  have h : CheckArguments.ofWords words = .ok a := rfl
  have h' : CheckArguments.ofWords words' = .ok a' := rfl
  have hc : (settings? bare a).isSome := by decide +kernel
  have hc' : (settings? host a').isSome := by decide +kernel
  have hdash : IsDash "-" := Path.isInput_iff.mp rfl
  have hread (s : Text) : Reads bare a.file s ↔ Reads host a'.file s := by
    simp [Reads, a, a', hdash, host]
  exact ⟨h, h', hc, hc', hread,
    ((exit_tells_result bare h).1 rfl).2 host words' a' h' rfl hc hc' hread⟩

end DiagramReview.Checker
