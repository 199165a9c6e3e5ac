import DiagramReview.Proofs.Complexity.Empty
import DiagramReview.Proofs.Settings.Search
import Mathlib.Data.List.Forall2
import Mathlib.Data.List.Induction

namespace DiagramReview

namespace Overrides

def lastGiven (field : Overrides → Option UInt32) (layers : List Overrides) : Option UInt32 :=
  ((layers.filterMap field).filter (· ≠ 0)).getLast?

variable {field : Overrides → Option UInt32} {layers : List Overrides}

theorem chosen_lastGiven (o : Overrides) (standing : UInt32) :
    chosen (field o) ((lastGiven field layers).getD standing) =
      (lastGiven field (layers ++ [o])).getD standing := by
  rw [lastGiven, lastGiven, List.filterMap_append, List.filter_append]
  cases hf : field o with
  | none => simp [chosen, hf]
  | some n =>
    by_cases hn : n = 0
    · simp [chosen, hf, hn]
    · simp [chosen, hf, hn]

theorem ne_zero_of_lastGiven {n : UInt32} (h : lastGiven field layers = some n) : n ≠ 0 := by
  have hmem := (List.mem_filter.mp (List.mem_of_getLast? h)).2
  exact of_decide_eq_true hmem

theorem one_le_lastGiven {standing : UInt32} (h : 1 ≤ standing) :
    1 ≤ (lastGiven field layers).getD standing := by
  cases hl : lastGiven field layers with
  | none => exact h
  | some n =>
    have hn := ne_zero_of_lastGiven hl
    rw [Option.getD_some, UInt32.le_iff_toNat_le]
    have hpos : n.toNat ≠ 0 := fun he => hn (UInt32.toNat_inj.mp he)
    exact Nat.one_le_iff_ne_zero.mpr hpos

def Gives (files : Files) (path : String) (o : Overrides) : Prop :=
  ∃ s, files.read path = .ok s ∧ ofText s = .ok o

inductive Fails (files : Files) (path : String) : LoadError → Prop where
  | unreadable {cause : ReadError} (h : files.read path = .error cause) :
      Fails files path (.unreadable path cause)
  | invalid {s : Text} {cause : SettingsError} (hs : files.read path = .ok s)
      (h : ofText s = .error cause) : Fails files path (.invalid path cause)

theorem ofFile_cases (files : Files) (path : String) :
    (∃ o, ofFile files path = .ok o ∧ Gives files path o) ∨
      ∃ e, ofFile files path = .error e ∧ Fails files path e := by
  unfold ofFile
  cases hs : files.read path with
  | error cause => exact .inr ⟨_, rfl, .unreadable hs⟩
  | ok s =>
    cases ho : ofText s with
    | error cause => exact .inr ⟨_, by simp [ho, Except.mapError], .invalid hs ho⟩
    | ok o => exact .inl ⟨o, by simp [ho, Except.mapError], s, hs, ho⟩

theorem Fails.exists_message {files : Files} {path : String} {e : LoadError}
    (h : Fails files path e) : ∃ what, e.message = what ++ path := by
  cases h with
  | unreadable h => exact ⟨_, rfl⟩
  | invalid hs h => exact ⟨_, rfl⟩

theorem Fails.not_gives {files : Files} {path : String} {e : LoadError} (h : Fails files path e)
    (o : Overrides) : ¬ Gives files path o := by
  rintro ⟨s, hs, ho⟩
  cases h with
  | unreadable h =>
    rw [h] at hs
    cases hs
  | invalid hs' h =>
    obtain rfl := Except.ok.inj (hs'.symm.trans hs)
    rw [h] at ho
    cases ho

end Overrides

namespace Config

open Overrides

structure Layered (ps : List String) (layers : List Overrides) (c : Config) : Prop where
  sources : c.sources = ps
  simple : c.thresholds.simple = (lastGiven (·.simple) layers).getD 25
  moderate : c.thresholds.moderate = (lastGiven (·.moderate) layers).getD 40

section

variable {ps : List String} {layers : List Overrides} {c : Config}

theorem layered_nil : Layered [] [] {} := ⟨rfl, rfl, rfl⟩

theorem Layered.withFile (h : Layered ps layers c) (path : String) (o : Overrides) :
    Layered (ps ++ [path]) (layers ++ [o]) (c.withFile path o) := by
  constructor
  · rw [← h.sources]
    rfl
  · rw [← chosen_lastGiven, ← h.simple]
    rfl
  · rw [← chosen_lastGiven, ← h.moderate]
    rfl

theorem Layered.override (h : Layered ps layers c) (o : Overrides) :
    Layered ps (layers ++ [o]) (c.override o) := by
  constructor
  · exact h.sources
  · rw [← chosen_lastGiven, ← h.simple]
    rfl
  · rw [← chosen_lastGiven, ← h.moderate]
    rfl

theorem Layered.foldl_override (h : Layered ps layers c) (os : List Overrides) :
    Layered ps (layers ++ os) (os.foldl Config.override c) := by
  induction os generalizing layers c with
  | nil => simpa using h
  | cons o os ih =>
    have hstep := ih (h.override o)
    rwa [List.append_assoc] at hstep

theorem Layered.one_le_simple (h : Layered ps layers c) : 1 ≤ c.thresholds.simple := by
  rw [h.simple]
  exact one_le_lastGiven (by decide)

theorem Layered.one_le_moderate (h : Layered ps layers c) : 1 ≤ c.thresholds.moderate := by
  rw [h.moderate]
  exact one_le_lastGiven (by decide)

end

variable {files : Files}

def FirstFailure (files : Files) (ps : List String) (e : LoadError) : Prop :=
  ∃ before path after, ps = before ++ path :: after ∧ (∀ q ∈ before, ∃ o, Gives files q o) ∧
    Fails files path e

theorem FirstFailure.append {ps : List String} {e : LoadError} (h : FirstFailure files ps e)
    (path : String) : FirstFailure files (ps ++ [path]) e := by
  obtain ⟨before, p, after, rfl, hbefore, hp⟩ := h
  exact ⟨before, p, after ++ [path], by simp, hbefore, hp⟩

theorem ofFiles_concat (files : Files) (ps : List String) (path : String) :
    ofFiles files (ps ++ [path]) =
      (ofFiles files ps).bind fun c => (ofFile files path).map (c.withFile path ·) := by
  rw [ofFiles, ofFiles, List.foldlM_append]
  cases ps.foldlM (fun c path => do return c.withFile path (← ofFile files path)) ({} : Config) with
  | error e => rfl
  | ok c =>
    simp only [bind, Except.bind, List.foldlM_cons, List.foldlM_nil]
    cases ofFile files path <;> rfl

def Loads (files : Files) (ps : List String) : Except LoadError Config → Prop
  | .ok c => ∃ layers, List.Forall₂ (Gives files) ps layers ∧ Layered ps layers c
  | .error e => FirstFailure files ps e

theorem exists_gives_of_forall₂ {ps : List String} {layers : List Overrides}
    (h : List.Forall₂ (Gives files) ps layers) : ∀ q ∈ ps, ∃ o, Gives files q o := by
  induction h with
  | nil => simp
  | cons ho _ ih => simpa using ⟨⟨_, ho⟩, ih⟩

theorem loads_ofFiles (files : Files) (ps : List String) : Loads files ps (ofFiles files ps) := by
  -- the last file is read after all others, so a failure before it stands
  induction ps using List.reverseRecOn with
  | nil => exact ⟨[], .nil, layered_nil⟩
  | append_singleton ps path ih =>
    rw [ofFiles_concat]
    cases hps : ofFiles files ps with
    | error e =>
      rw [hps] at ih
      exact FirstFailure.append ih path
    | ok c =>
      rw [hps] at ih
      obtain ⟨layers, hgives, hlayers⟩ := ih
      rcases ofFile_cases files path with ⟨o, ho, hgiven⟩ | ⟨e, he, hfails⟩
      · simp only [Except.bind, ho, Except.map]
        exact ⟨layers ++ [o], List.rel_append hgives (.cons hgiven .nil), hlayers.withFile path o⟩
      · simp only [Except.bind, he, Except.map]
        exact ⟨ps, path, [], rfl, exists_gives_of_forall₂ hgives, hfails⟩

theorem exists_ofFiles_eq_ok_iff (files : Files) (ps : List String) :
    (∃ c, ofFiles files ps = .ok c) ↔ ∀ path ∈ ps, ∃ o, Gives files path o := by
  have hloads := loads_ofFiles files ps
  cases hr : ofFiles files ps with
  | error e =>
    rw [hr] at hloads
    obtain ⟨before, path, after, rfl, -, hfails⟩ := hloads
    constructor
    · rintro ⟨c, hc⟩
      cases hc
    · intro hall
      obtain ⟨o, ho⟩ := hall path (by simp)
      exact absurd ho (hfails.not_gives o)
  | ok c =>
    rw [hr] at hloads
    obtain ⟨layers, hgives, -⟩ := hloads
    exact ⟨fun _ => exists_gives_of_forall₂ hgives, fun _ => ⟨c, rfl⟩⟩

theorem ofFiles_congr {other : Files} {ps : List String} (h : ∀ p ∈ ps, other.read p = files.read p) :
    ofFiles other ps = ofFiles files ps := by
  induction ps using List.reverseRecOn with
  | nil => rfl
  | append_singleton ps path ih =>
    have hfile : ofFile other path = ofFile files path := by
      rw [ofFile, ofFile, h path (by simp)]
    rw [ofFiles_concat, ofFiles_concat, hfile, ih fun p hp => h p (List.mem_append_left _ hp)]

def inversionNote (t : Thresholds) : LogRecord :=
  ⟨.warn, .config, "moderate threshold (" ++ toString t.moderate ++
    ") should exceed simple threshold (" ++ toString t.simple ++ ")"⟩

def NotesInversion (t : Thresholds) (records : List LogRecord) : Prop :=
  records.filter (·.level = .warn) = if t.moderate ≤ t.simple then [inversionNote t] else []

theorem notesInversion_warnings (c : Config) : NotesInversion c.thresholds c.warnings := by
  unfold NotesInversion warnings Thresholds.inverted
  by_cases h : c.thresholds.moderate ≤ c.thresholds.simple
  · simp [h, inversionNote]
  · simp [h]

theorem notesInversion_fileRecords {ps : List String} {c : Config} (h : ofFiles files ps = .ok c) :
    NotesInversion c.thresholds (fileRecords files ps) := by
  have hdebug (qs : List String) : (qs.map fun path =>
      (⟨.debug, .config, "loaded configuration from " ++ path⟩ : LogRecord)).filter
        (·.level = .warn) = [] := by simp
  rw [NotesInversion, fileRecords, h, List.filter_append, hdebug, List.nil_append]
  exact notesInversion_warnings c

/-- A named file is the only one that settings come from; without one they come from the user's
file and the project's nearest one. Each threshold is the last one that a file or a later override
gives and that is not zero, so none is zero and nothing to count is simple; loading and each
override warn of thresholds in the wrong order. Loading fails just where a file gives no settings,
and the first such file is the one that the error names. -/
theorem loading_layers (files : Files) :
    (∀ home start named, Located files home start named (paths files home start named) ∧
      load files home start named = ofFiles files (paths files home start named)) ∧
    (∀ path (other : Files), other.read path = files.read path → ∀ home start home' start',
      load other home start (some path) = load files home' start' (some path)) ∧
    ∀ ps, ((∃ c, ofFiles files ps = .ok c) ↔ ∀ path ∈ ps, ∃ o, Gives files path o) ∧
      match ofFiles files ps with
      | .error e => ∃ before path after, ps = before ++ path :: after ∧
          (∀ q ∈ before, ∃ o, Gives files q o) ∧ Fails files path e ∧
          ∃ what, e.message = what ++ path
      | .ok c => ∃ layers, List.Forall₂ (Gives files) ps layers ∧
          NotesInversion c.thresholds (fileRecords files ps) ∧
          ∀ os, let d := os.foldl Config.override c
            Layered ps (layers ++ os) d ∧ 1 ≤ d.thresholds.simple ∧ 1 ≤ d.thresholds.moderate ∧
            (∀ s, Kind.detect s = none ∨ Verdict.metrics s = {} →
              (Verdict.ofText d.thresholds s).complexity.level = .simple) ∧
            (∀ kind s, Metrics.measure kind s = {} →
              (Analysis.ofKind d.thresholds kind s).complexity.level = .simple) ∧
            ∀ o, NotesInversion (d.override o).thresholds (d.override o).warnings := by
  refine ⟨fun home start named => ⟨located_paths files home start named, rfl⟩, ?_, ?_⟩
  · intro path other h home start home' start'
    have hpaths : ∀ p ∈ [path], other.read p = files.read p := by
      intro p hp
      obtain rfl := List.mem_singleton.mp hp
      exact h
    exact ofFiles_congr hpaths
  · intro ps
    refine ⟨exists_ofFiles_eq_ok_iff files ps, ?_⟩
    have hloads := loads_ofFiles files ps
    cases hr : ofFiles files ps with
    | error e =>
      rw [hr] at hloads
      obtain ⟨before, path, after, hps, hbefore, hfails⟩ := hloads
      exact ⟨before, path, after, hps, hbefore, hfails, hfails.exists_message⟩
    | ok c =>
      rw [hr] at hloads
      obtain ⟨layers, hgives, hlayers⟩ := hloads
      refine ⟨layers, hgives, notesInversion_fileRecords hr, fun os => ?_⟩
      have hd := hlayers.foldl_override os
      exact ⟨hd, hd.one_le_simple, hd.one_le_moderate,
        fun s hs => Verdict.level_of_empty hd.one_le_simple hs,
        fun kind s hs => Analysis.level_of_empty hd.one_le_simple hs,
        fun o => notesInversion_warnings _⟩

end Config

end DiagramReview
