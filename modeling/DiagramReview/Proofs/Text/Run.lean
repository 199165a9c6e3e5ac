import DiagramReview.Proofs.Text.Front

namespace DiagramReview.Text

variable {accepts : Char → Bool} {c : Char} {r s t : Text}

/-- The maximal runs from left to right, each with the text after it; `inside` tells that the
character before the text is in the class. -/
def runsFrom (accepts : Char → Bool) : (inside : Bool) → Text → List (Text × Text)
  | _, [] => []
  | inside, c :: s =>
    if accepts c then
      if inside then runsFrom accepts true s
      else (c :: s.takeWhile accepts, s.dropWhile accepts) :: runsFrom accepts true s
    else runsFrom accepts false s

def runsWithRest (accepts : Char → Bool) (s : Text) : List (Text × Text) := runsFrom accepts false s

theorem head_dropWhile (accepts : Char → Bool) (s : Text) :
    ∀ c ∈ (s.dropWhile accepts).head?, accepts c = false := by
  intro c hc
  have h := List.head?_dropWhile_not accepts s
  rwa [hc] at h

theorem maximalRun_induction {motive : Text → Prop} (accepts : Char → Bool) (nil : motive [])
    (other : ∀ c s, accepts c = false → motive s → motive (c :: s))
    (run : ∀ r t, r ≠ [] → (∀ c ∈ r, accepts c = true) → (∀ c ∈ t.head?, accepts c = false) →
      motive t → motive (r ++ t)) (s : Text) : motive s := by
  induction hn : s.length using Nat.strongRecOn generalizing s with
  | ind n ih =>
    rcases s with - | ⟨c, s⟩
    · exact nil
    · rw [List.length_cons] at hn
      cases hc : accepts c with
      | false => exact other c s hc (ih s.length (by omega) s rfl)
      | true =>
        have hle := (List.dropWhile_suffix accepts (l := s)).length_le
        have hrun : ∀ x ∈ c :: s.takeWhile accepts, accepts x = true :=
          List.forall_mem_cons.mpr ⟨hc, fun _ => List.mem_takeWhile_imp⟩
        have h := run _ _ (List.cons_ne_nil _ _) hrun (head_dropWhile accepts s)
          (ih (s.dropWhile accepts).length (by omega) _ rfl)
        rwa [List.cons_append, List.takeWhile_append_dropWhile] at h

theorem runsFrom_true (accepts : Char → Bool) (s : Text) :
    runsFrom accepts true s = runsWithRest accepts (s.dropWhile accepts) := by
  induction s with
  | nil => rfl
  | cons c s ih =>
    rw [runsFrom, List.dropWhile_cons]
    cases hc : accepts c with
    | false => simp [runsWithRest, runsFrom, hc]
    | true => simpa using ih

theorem runsWithRest_cons (hc : accepts c = false) (s : Text) :
    runsWithRest accepts (c :: s) = runsWithRest accepts s := by
  simp [runsWithRest, runsFrom, hc]

theorem runsWithRest_append (hne : r ≠ []) (hr : ∀ c ∈ r, accepts c = true)
    (ht : ∀ c ∈ t.head?, accepts c = false) :
    runsWithRest accepts (r ++ t) = (r, t) :: runsWithRest accepts t := by
  obtain ⟨c, r, rfl⟩ := List.exists_cons_of_ne_nil hne
  obtain ⟨hc, hr⟩ := List.forall_mem_cons.mp hr
  have htake : (r ++ t).takeWhile accepts = r := by
    rw [List.takeWhile_append_of_pos hr, takeWhile_of_head ht, List.append_nil]
  have hdrop : (r ++ t).dropWhile accepts = t := by
    rw [List.dropWhile_append_of_pos hr, dropWhile_of_head ht]
  rw [List.cons_append, runsWithRest, runsFrom, if_pos hc, htake, runsFrom_true, hdrop]
  rfl

end DiagramReview.Text
