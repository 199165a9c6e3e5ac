import DiagramReview.Proofs.Files.Ancestor
import DiagramReview.Settings.Config

namespace DiagramReview.Config

open Path

def IsNearest (files : Files) (start path : String) : Prop :=
  ∃ n dir, IsAbove n start dir ∧ path = entry dir ".mermaid-check.toml" ∧
    files.isFile path = true ∧
    ∀ m < n, ∀ below, IsAbove m start below →
      files.isFile (entry below ".mermaid-check.toml") = false

theorem join_projectFile (dir : String) :
    join dir projectFile = entry dir ".mermaid-check.toml" := join_eq_entry (by decide)

theorem userPath_eq (dir : String) :
    userPath dir = entry (entry dir "mermaid-check") "config.toml" := by
  rw [userPath, join_eq_entry (by decide), join_eq_entry (by decide)]

theorem projectPath?_eq_some_iff {files : Files} {start path : String} :
    projectPath? files start = some path ↔ IsNearest files start path := by
  rw [projectPath?, List.find?_eq_some_iff_getElem]
  constructor
  · rintro ⟨hfile, n, hn, rfl, hbelow⟩
    rw [List.length_map] at hn
    rw [List.getElem_map, join_projectFile] at hfile ⊢
    refine ⟨n, (ancestors start)[n], isAbove_of_getElem? (List.getElem?_eq_getElem hn), rfl, hfile,
      ?_⟩
    intro m hm below hb
    obtain ⟨hlt, rfl⟩ := List.getElem?_eq_some_iff.mp (getElem?_ancestors_iff.mpr hb)
    have h := hbelow m hm
    rwa [List.getElem_map, join_projectFile, Bool.not_eq_true'] at h
  · rintro ⟨n, dir, hn, rfl, hfile, hbelow⟩
    obtain ⟨hlt, rfl⟩ := List.getElem?_eq_some_iff.mp (getElem?_ancestors_iff.mpr hn)
    refine ⟨hfile, n, by rwa [List.length_map], by rw [List.getElem_map, join_projectFile], ?_⟩
    intro m hm
    have hm' : m < (ancestors start).length := Nat.lt_trans hm hlt
    rw [List.getElem_map, join_projectFile, Bool.not_eq_true']
    exact hbelow m hm _ (isAbove_of_getElem? (List.getElem?_eq_getElem hm'))

/-- The files that settings come from: the one that is named, else the user's, if it is a file,
and then the nearest one of a project. -/
def Located (files : Files) (home : Option String) (start : String) :
    Option String → List String → Prop
  | some path, ps => ps = [path]
  | none, ps => ∃ user project : Option String, ps = user.toList ++ project.toList ∧
      (∀ path, user = some path ↔
        (∃ dir, home = some dir ∧ path = entry (entry dir "mermaid-check") "config.toml") ∧
          files.isFile path = true) ∧
      ∀ path, project = some path ↔ IsNearest files start path

theorem located_paths (files : Files) (home : Option String) (start : String)
    (named : Option String) : Located files home start named (paths files home start named) := by
  cases named with
  | some path => rfl
  | none =>
    refine ⟨_, _, rfl, ?_, fun path => projectPath?_eq_some_iff⟩
    intro path
    rw [Option.filter_eq_some_iff, Option.map_eq_some_iff]
    simp only [eq_comm, userPath_eq]

end DiagramReview.Config
