import DiagramReview.Proofs.Text.LineEnd

namespace DiagramReview.Text

structure Compact (w : Text) : Prop where
  ne_nil : w ≠ []
  newline_notMem : '\n' ∉ w
  head_not_blank : ∀ c ∈ w.head?, isBlank c = false
  last_not_blank : ∀ c ∈ w.getLast?, isBlank c = false

def retype (w : Text) (column : Nat) (line : Text) : Text :=
  (line.take column).takeWhile isBlank ++ (w ++ line.drop column)

def retypeLine (w : Text) (i column : Nat) (s : Text) : Text :=
  let width := ((rows s)[i]?.getD []).length
  unlines ((lines s).modify i (retype w (min column width)))

variable {w l row s : Text} {ls rest : List Text} {n i : Nat}

theorem retype_min : retype w (min n l.length) l = retype w n l := by
  unfold retype
  rcases Nat.le_total n l.length with h | h
  · rw [Nat.min_eq_left h]
  · rw [Nat.min_eq_right h, List.take_of_length_le h, List.take_length, List.drop_of_length_le h,
      List.drop_length]

theorem retype_concat (c : Char) :
    retype w (min n l.length) (l ++ [c]) = retype w n l ++ [c] := by
  have hle : min n l.length ≤ l.length := Nat.min_le_right _ _
  rw [retype, List.take_append_of_le_length hle, List.drop_append_of_le_length hle,
    ← retype_min, retype]
  simp

theorem newline_notMem_retype (hw : '\n' ∉ w) (hl : '\n' ∉ l) : '\n' ∉ retype w n l := by
  intro h
  rcases List.mem_append.mp h with h | h
  · exact hl (List.mem_of_mem_take ((List.takeWhile_prefix _).subset h))
  · rcases List.mem_append.mp h with h | h
    · exact hw h
    · exact hl (List.mem_of_mem_drop h)

theorem getLast?_retype (hw : Compact w) (hl : l.getLast? ≠ some '\r') :
    (retype w n l).getLast? ≠ some '\r' := by
  intro h
  obtain ⟨c, hc⟩ := Option.ne_none_iff_exists'.mp (mt List.getLast?_eq_none_iff.mp hw.ne_nil)
  rw [retype, List.getLast?_append, List.getLast?_append, hc, List.getLast?_drop] at h
  split_ifs at h with hlen
  · -- nothing stands behind the column, and the text itself ends in no return
    obtain rfl : c = '\r' := by simpa using h
    have hblank := hw.last_not_blank _ hc
    rw [isBlank_return] at hblank
    cases hblank
  · cases hlast : l.getLast? with
    | none => simp [List.getLast?_eq_none_iff.mp hlast] at hlen
    | some x =>
      rw [hlast] at h hl
      exact hl h

theorem dropReturn_retype (hw : Compact w) :
    dropReturn (retype w (min n (dropReturn l).length) l) = retype w n (dropReturn l) := by
  by_cases hl : l.getLast? = some '\r'
  · obtain ⟨r, rfl⟩ := List.getLast?_eq_some_iff.mp hl
    have hr : dropReturn (r ++ ['\r']) = r := by simp [dropReturn]
    rw [hr, retype_concat]
    simp [dropReturn]
  · have hl' : dropReturn l = l := if_neg hl
    rw [hl', retype_min]
    exact if_neg (getLast?_retype hw hl)

theorem endedRows_retype (hw : Compact w) (h : endedRows (l :: ls) = row :: rest) :
    endedRows (retype w (min n row.length) l :: ls) = retype w n row :: rest := by
  cases ls with
  | nil =>
    -- the last line keeps its return, and an empty one is none of the rows
    by_cases hl : l.isEmpty = true
    · simp [endedRows, hl] at h
    · obtain ⟨rfl, rfl⟩ : l = row ∧ [] = rest := by simpa [endedRows, hl] using h
      have hne : (retype w n l).isEmpty = false := by simp [retype, hw.ne_nil]
      rw [retype_min, endedRows, hne]
      rfl
  | cons m ms =>
    obtain ⟨rfl, rfl⟩ := List.cons.inj h
    exact congrArg (· :: endedRows (m :: ms)) (dropReturn_retype hw)

theorem lines_retypeLine (hw : Compact w) (hrow : (rows s)[i]? = some row) :
    ∃ before l after, lines s = before ++ l :: after ∧ before.length = i ∧
      lines (retypeLine w i n s) = before ++ retype w (min n row.length) l :: after := by
  have hi : i < (lines s).length := by
    obtain ⟨rest, hrest, -⟩ := map_trim_lines s
    have hlen := congrArg List.length hrest
    have hlt := (List.getElem?_eq_some_iff.mp hrow).1
    simp only [List.length_append, List.length_map] at hlen
    omega
  obtain ⟨before, l, after, hs, hbefore, hmodify⟩ :=
    List.exists_of_modify (retype w (min n row.length)) hi
  refine ⟨before, l, after, hs, hbefore, ?_⟩
  have hmem : ∀ x ∈ before ++ l :: after, '\n' ∉ x := by
    intro x hx
    exact newline_notMem_of_mem_lines (hs ▸ hx)
  rw [retypeLine, hrow, Option.getD_some, hmodify]
  apply lines_unlines (by simp)
  intro x hx
  rcases List.mem_append.mp hx with hx | hx
  · exact hmem x (List.mem_append_left _ hx)
  · rcases List.mem_cons.mp hx with rfl | hx
    · exact newline_notMem_retype hw.newline_notMem (hmem l (by simp))
    · exact hmem x (by simp [hx])

theorem rows_retypeLine (hw : Compact w) (hrow : (rows s)[i]? = some row) :
    rows (retypeLine w i n s) = (rows s).set i (retype w n row) := by
  obtain ⟨before, l, after, hs, rfl, hretyped⟩ := lines_retypeLine (n := n) hw hrow
  have hrows (x : Text) : endedRows (before ++ x :: after) =
      before.map dropReturn ++ endedRows (x :: after) := endedRows_append _ (List.cons_ne_nil _ _)
  have hsplit : rows s = before.map dropReturn ++ endedRows (l :: after) := by rw [rows, hs, hrows]
  rw [hsplit, List.getElem?_append_right (by simp)] at hrow
  cases hended : endedRows (l :: after) with
  | nil => simp [hended] at hrow
  | cons x rest =>
    obtain rfl : x = row := by simpa [hended] using hrow
    rw [rows, hretyped, hrows, endedRows_retype hw hended, hsplit, hended]
    simp

end DiagramReview.Text
