import DiagramReview.Editor.Diagnostic
import DiagramReview.Validation.Verdict

namespace DiagramReview

structure Document where
  content : Text
  verdict : Verdict
  deriving DecidableEq, Repr

namespace Document

def ofText (t : Thresholds) (s : Text) : Document := ⟨s, .ofText t s⟩

def diagnostics (d : Document) : List Diagnostic :=
  Diagnostic.ofFindings d.content d.verdict.findings

end Document

abbrev Documents := List (String × Document)

namespace Documents

def get? (ds : Documents) (uri : String) : Option Document := ds.lookup uri

def erase (ds : Documents) (uri : String) : Documents := ds.filter (·.1 ≠ uri)

def set (ds : Documents) (uri : String) (d : Document) : Documents :=
  (ds.filter (·.1 < uri)) ++ (uri, d) :: ds.filter (uri < ·.1)

theorem lookup_filter (p : String → Bool) (ds : Documents) (uri : String) :
    (ds.filter (p ·.1)).lookup uri = if p uri then ds.lookup uri else none := by
  induction ds with
  | nil => simp
  | cons entry ds ih =>
    obtain ⟨name, d⟩ := entry
    by_cases hn : uri = name
    · subst hn
      by_cases hp : p uri <;> simp [hp, ih]
    · have hb : (uri == name) = false := beq_false_of_ne hn
      by_cases hp : p name <;> simp [hp, List.lookup_cons, hb, ih]

theorem lt_or_gt_of_ne {uri other : String} (h : other ≠ uri) : other < uri ∨ uri < other := by
  by_cases hl : other < uri
  · exact .inl hl
  · by_cases hg : uri < other
    · exact .inr hg
    · exact absurd (String.le_antisymm (String.not_lt.1 hg) (String.not_lt.1 hl)) h

theorem get?_erase (ds : Documents) (uri other : String) :
    (ds.erase uri).get? other = if other = uri then none else ds.get? other := by
  simp only [get?, erase, lookup_filter (fun name => decide (name ≠ uri))]
  by_cases h : other = uri <;> simp [h]

theorem get?_set (ds : Documents) (uri other : String) (d : Document) :
    (ds.set uri d).get? other = if other = uri then some d else ds.get? other := by
  simp only [get?, set, List.lookup_append, List.lookup_cons,
    lookup_filter (fun name => decide (name < uri)), lookup_filter (fun name => decide (uri < name))]
  by_cases h : other = uri
  · subst h
    simp only [String.lt_irrefl, decide_false, Bool.false_eq_true, ↓reduceIte, beq_self_eq_true,
      Option.none_or]
  · have hb : (other == uri) = false := beq_false_of_ne h
    rcases lt_or_gt_of_ne h with hl | hg
    · have hg : ¬ uri < other := fun hg => String.lt_irrefl _ (String.lt_trans hl hg)
      simp [h, hb, hl, hg]
    · have hl : ¬ other < uri := fun hl => String.lt_irrefl _ (String.lt_trans hl hg)
      simp [h, hb, hl, hg]

end Documents

end DiagramReview
