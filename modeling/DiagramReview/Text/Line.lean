import DiagramReview.Text.Blank

/-!
Two ways of cutting a text into lines: `lines` cuts at every newline and loses nothing, `rows` also
drops a carriage return before the newline and an empty last line.
-/

namespace DiagramReview.Text

def lines (s : Text) : List Text := s.splitOn '\n'

def unlines (ls : List Text) : Text := ['\n'].intercalate ls

def numberedLines (s : Text) : List (Nat × Text) := (lines s).mapIdx fun i l => (i + 1, l)

def dropReturn (l : Text) : Text := if l.getLast? = some '\r' then l.dropLast else l

def endedRows : List Text → List Text
  | [] => []
  | [last] => if last.isEmpty then [] else [last]
  | l :: ls => dropReturn l :: endedRows ls

/-- The lines as a reader sees them: a return before the newline belongs to the line's end, and a
newline at the end of the text opens no further line. -/
def rows (s : Text) : List Text := endedRows (lines s)

theorem length_splitOn (sep : Char) (s : Text) : (s.splitOn sep).length = s.count sep + 1 := by
  induction s with
  | nil => rfl
  | cons c s ih =>
    rw [List.splitOn_cons_eq_if_modifyHead, List.count_cons]
    split
    · rw [List.length_cons, ih]
    · rw [List.length_modifyHead, ih]

theorem notMem_of_mem_splitOn {sep : Char} {s l : Text} (h : l ∈ s.splitOn sep) : sep ∉ l := by
  induction s generalizing l with
  | nil => simp_all
  | cons c s ih =>
    obtain ⟨m, ms, hs⟩ := List.exists_cons_of_ne_nil (List.splitOn_ne_nil sep s)
    rw [hs] at ih
    rw [List.splitOn_cons_eq_if_modifyHead, hs] at h
    split at h
    · rcases List.mem_cons.1 h with rfl | h
      · simp
      · exact ih h
    · rename_i hc
      rcases List.mem_cons.1 h with rfl | h
      · have hm : sep ∉ m := ih List.mem_cons_self
        have hne : sep ≠ c := fun e => hc (beq_iff_eq.mpr e.symm)
        simp [hm, hne]
      · exact ih (List.mem_cons_of_mem _ h)

theorem intercalate_append (sep : Char) {a b : List Text} (ha : a ≠ []) (hb : b ≠ []) :
    [sep].intercalate (a ++ b) = [sep].intercalate a ++ sep :: [sep].intercalate b := by
  induction a with
  | nil => exact absurd rfl ha
  | cons l a ih =>
    cases a with
    | nil => simp [List.intercalate_cons_of_ne_nil hb]
    | cons m a =>
      rw [List.cons_append, List.intercalate_cons_of_ne_nil (by simp), ih (by simp)]
      simp

theorem intercalate_isPrefix (sep : Char) {a b : List Text} (h : a <+: b) :
    [sep].intercalate a <+: [sep].intercalate b := by
  obtain ⟨c, rfl⟩ := h
  by_cases ha : a = []
  · simp [ha]
  · by_cases hc : c = []
    · simp [hc]
    · rw [intercalate_append sep ha hc]
      exact List.prefix_append _ _

theorem length_lines_pos (s : Text) : 0 < (lines s).length :=
  List.length_pos_iff.mpr (List.splitOn_ne_nil '\n' s)

theorem unlines_lines (s : Text) : unlines (lines s) = s := List.intercalate_splitOn '\n'

theorem lines_unlines {ls : List Text} (hne : ls ≠ []) (h : ∀ l ∈ ls, '\n' ∉ l) :
    lines (unlines ls) = ls := List.splitOn_intercalate '\n' h hne

@[simp] theorem unlines_singleton (l : Text) : unlines [l] = l := List.intercalate_singleton

theorem unlines_append {a b : List Text} (ha : a ≠ []) (hb : b ≠ []) :
    unlines (a ++ b) = unlines a ++ '\n' :: unlines b := intercalate_append '\n' ha hb

theorem unlines_cons (l : Text) {ls : List Text} (h : ls ≠ []) :
    unlines (l :: ls) = l ++ '\n' :: unlines ls := by
  rw [unlines, List.intercalate_cons_of_ne_nil h, List.append_assoc, List.singleton_append, unlines]

theorem lines_append (a b : Text) : lines (a ++ '\n' :: b) = lines a ++ lines b :=
  List.splitOn_append_cons_self a b

theorem newline_notMem_of_mem_lines {s l : Text} (h : l ∈ lines s) : '\n' ∉ l :=
  notMem_of_mem_splitOn h

end DiagramReview.Text
