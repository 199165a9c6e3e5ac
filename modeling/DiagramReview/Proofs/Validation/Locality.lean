import DiagramReview.Proofs.Validation.Findings

namespace DiagramReview

open Text

def Finding.moved (g : Nat → Nat) (f : Finding) : Finding := { f with line := f.line.map g }

namespace Findings

def map (f : Finding → Finding) (found : Findings) : Findings :=
  ⟨found.errors.map f, found.warnings.map f, found.infos.map f⟩

variable {f : Finding → Finding} {g : Finding}

theorem map_empty : map f empty = empty := rfl

theorem map_append (a b : Findings) : map f (a ++ b) = map f a ++ map f b := by
  simp [map, ext_iff]

theorem map_join (all : List Findings) : map f (join all) = join (all.map (map f)) := by
  simp [map, join, List.map_flatMap, List.flatMap_map]

theorem map_ensure (fine : Bool) (a : Findings) :
    map f (ensure fine a) = ensure fine (map f a) := by
  cases fine <;> rfl

theorem map_error : map f (error g) = error (f g) := rfl

theorem map_warning : map f (warning g) = warning (f g) := rfl

theorem bucket_map (found : Findings) (v : Severity) :
    (found.map f).bucket v = (found.bucket v).map f := by
  cases v <;> rfl

theorem join_append (as bs : List Findings) : join (as ++ bs) = join as ++ join bs := by
  simp [join, ext_iff]

end Findings

theorem Text.numberedLines_append (a b : Text) : numberedLines (a ++ '\n' :: b) =
    numberedLines a ++ (numberedLines b).map fun x => (x.1 + (lines a).length, x.2) := by
  rw [numberedLines, numberedLines, numberedLines, lines_append, List.mapIdx_append]
  congr 1
  apply List.ext_getElem (by simp)
  intro i h₁ h₂
  rw [List.getElem_map, List.getElem_mapIdx, List.getElem_mapIdx, Nat.add_right_comm]

namespace Check

variable {check : Nat → Text → Findings}

/-- A check of one line writes the number that it is given into its findings and makes no other use
of it. -/
def Renumbers (check : Nat → Text → Findings) : Prop :=
  ∀ (g : Nat → Nat) n l, check (g n) l = (check n l).map (Finding.moved g)

theorem renumbers_lineComments : Renumbers lineComments := by
  intro g n l
  simp only [lineComments, slashComment, htmlComment, Findings.map_append, Findings.map_ensure,
    Findings.map_error, Finding.moved, Option.map_some]

theorem renumbers_lineQuotes : Renumbers lineQuotes := by
  intro g n l
  unfold lineQuotes
  split
  · exact Findings.map_empty.symm
  · simp only [unclosedQuote, unclosedBracket, Findings.map_append, Findings.map_ensure,
      Findings.map_error, Finding.moved, Option.map_some]

theorem renumbers_lineArrows : Renumbers lineArrows := by
  intro g n l
  unfold lineArrows
  split
  · exact Findings.map_empty.symm
  · simp only [looseHeadWarning, loneDashWarning, Findings.map_append, Findings.map_ensure,
      Findings.map_warning, Finding.moved, Option.map_some]

theorem renumbers_lineLabel : Renumbers lineLabel := by
  intro g n l
  unfold lineLabel
  split
  · exact Findings.map_empty.symm
  · split
    · exact Findings.map_empty.symm
    · exact Findings.map_empty.symm
    · simp only [labelFindings, angleWarning, braceWarning, longLabelWarning, Findings.map_append,
        Findings.map_ensure, Findings.map_warning, Finding.moved, Option.map_some]

theorem onLines_append (h : Renumbers check) (a b : Text) : onLines check (a ++ '\n' :: b) =
    onLines check a ++ (onLines check b).map (Finding.moved (· + (lines a).length)) := by
  rw [onLines, onLines, onLines, numberedLines_append, List.map_append, Findings.join_append,
    Findings.map_join, List.map_map, List.map_map]
  congr 2
  apply List.map_congr_left
  intro x _
  exact h (· + (lines a).length) x.1 x.2

theorem bucket_onLines_append (h : Renumbers check) (a b : Text) (v : Severity) :
    (onLines check (a ++ '\n' :: b)).bucket v = (onLines check a).bucket v ++
      ((onLines check b).bucket v).map (Finding.moved (· + (lines a).length)) := by
  rw [onLines_append h, Findings.bucket_append, Findings.bucket_map]

end Check

theorem Aspect.bucket_record_append {aspect : Aspect} {check : Nat → Text → Findings}
    (hcheck : ∀ s, aspect.findings s = Check.onLines check s) (h : Check.Renumbers check)
    (a b : Text) (v : Severity) :
    ((aspect.record (a ++ '\n' :: b)).after .empty).bucket v =
      ((aspect.record a).after .empty).bucket v ++
        (((aspect.record b).after .empty).bucket v).map
          (Finding.moved (· + (lines a).length)) := by
  simp only [Findings.bucket_after_record, hcheck]
  exact Check.bucket_onLines_append h a b v

/-- What the checks of lines write for a text with another one below it: in every bucket first what
they write for the upper one, then what they write for the lower one, with the numbers of its lines
raised by the number of lines above. -/
theorem line_checks_local (a b : Text) (v : Severity) :
    let found (aspect : Aspect) (s : Text) := ((aspect.record s).after .empty).bucket v
    let below := List.map (Finding.moved (· + (lines a).length))
    found .comments (a ++ '\n' :: b) = found .comments a ++ below (found .comments b) ∧
    found .quotes (a ++ '\n' :: b) = found .quotes a ++ below (found .quotes b) ∧
    found .arrows (a ++ '\n' :: b) = found .arrows a ++ below (found .arrows b) ∧
    found .labels (a ++ '\n' :: b) = found .labels a ++ below (found .labels b) := by
  refine ⟨?comments, ?quotes, ?arrows, ?labels⟩
  case comments =>
    exact Aspect.bucket_record_append (fun _ => rfl) Check.renumbers_lineComments a b v
  case quotes =>
    exact Aspect.bucket_record_append (fun _ => rfl) Check.renumbers_lineQuotes a b v
  case arrows =>
    exact Aspect.bucket_record_append (fun _ => rfl) Check.renumbers_lineArrows a b v
  case labels =>
    exact Aspect.bucket_record_append (fun _ => rfl) Check.renumbers_lineLabel a b v

end DiagramReview
