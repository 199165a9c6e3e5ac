import DiagramReview.Proofs.Text.Growth

namespace DiagramReview.Text

open Piece Pattern

variable {p : Pattern} {ps : List Piece} {c : Char}

theorem takeWhile_append_cons {accepts : Char → Bool} (hc : accepts c = false) (a b : Text) :
    (a ++ c :: b).takeWhile accepts = a.takeWhile accepts := by
  induction a with
  | nil => simp [hc]
  | cons x a ih => simp [List.takeWhile_cons, ih]

theorem takeWhile_ne_append {a : Text} (ha : c ∉ a) (b : Text) :
    (a ++ c :: b).takeWhile (· != c) = a := by
  have hfree : ∀ x ∈ a, (x != c) = true := by
    intro x hx
    rw [bne_iff_ne]
    rintro rfl
    exact ha hx
  rw [takeWhile_append_cons (by simp), List.takeWhile_eq_self_iff.mpr hfree]

theorem dropWhile_ne_append {a : Text} (ha : c ∉ a) (b : Text) :
    (a ++ c :: b).dropWhile (· != c) = c :: b := by
  have hparts := List.takeWhile_append_dropWhile (p := (· != c)) (l := a ++ c :: b)
  rw [takeWhile_ne_append ha] at hparts
  exact List.append_cancel_left hparts

theorem widthOf?_append_cons (h : ∀ q ∈ ps, q.shuns c = true) (a b : Text) :
    widthOf? ps (a ++ c :: b) = widthOf? ps a := by
  induction ps generalizing a with
  | nil => rfl
  | cons q ps ih =>
    have hq := h q List.mem_cons_self
    have hps := ih fun r hr => h r (List.mem_cons_of_mem _ hr)
    cases q with
    | one accepts =>
      have hc : accepts c = false := by simpa [Piece.shuns] using hq
      rcases a with - | ⟨d, a⟩
      · rw [List.nil_append, widthOf?_one_cons, hc]
        rfl
      · rw [List.cons_append, widthOf?_one_cons, widthOf?_one_cons, hps]
    | many accepts =>
      have hc : accepts c = false := by simpa [Piece.shuns] using hq
      rw [widthOf?_many, widthOf?_many, takeWhile_append_cons hc, dropWhile_append_cons hc, hps]
    | anyOf words =>
      have hw : ∀ w ∈ words, c ∉ w := by simpa [Piece.shuns] using hq
      rw [widthOf?_anyOf, widthOf?_anyOf, find?_isPrefixOf_append hw]
      cases hfind : words.find? (·.isPrefixOf a) with
      | none => rfl
      | some w =>
        have hlen := (prefix_of_find? hfind).length_le
        rw [Option.bind_some, Option.bind_some, List.drop_append_of_le_length hlen, hps]

theorem scan_eq_scan_true (hl : p.lineStart = false) (start : Bool) (skip : Nat) (s : Text) :
    p.scan start skip s = p.scan true skip s := by
  rcases s with - | ⟨d, s⟩
  · rw [scan, scan]
  · cases skip with
    | succ skip => rw [scan, scan]
    | zero =>
      rw [scan, scan]
      simp [Pattern.width?, hl]

theorem scan_append_cons (hl : p.lineStart = false) (h : ∀ q ∈ p.pieces, q.shuns c = true)
    (a b : Text) {skip : Nat} (hskip : skip ≤ a.length) :
    p.scan true skip (a ++ c :: b) = p.scan true skip a ++ p.occurrences b := by
  have hwidth := width?_of_anywhere hl true
  induction a generalizing skip with
  | nil =>
    obtain rfl : skip = 0 := Nat.le_zero.mp hskip
    have hnone (n : Nat) : p.width? true (c :: b) ≠ some (n + 1) := by
      have hnil := widthOf?_append_cons h [] b
      rw [hwidth]
      intro hn
      have hle := widthOf?_le (hnil.symm.trans hn)
      cases hle
    rw [List.nil_append, scan_of_width?_ne_succ hnone, scan_eq_scan_true hl, scan]
    rfl
  | cons d a ih =>
    have hsame : p.width? true (d :: (a ++ c :: b)) = p.width? true (d :: a) := by
      rw [hwidth, hwidth]
      exact widthOf?_append_cons h (d :: a) b
    cases skip with
    | succ skip =>
      rw [List.cons_append, scan, scan, scan_eq_scan_true hl, scan_eq_scan_true hl _ _ a]
      exact ih (Nat.le_of_succ_le_succ hskip)
    | zero =>
      rw [List.cons_append]
      by_cases hs : ∀ n, p.width? true (d :: a) ≠ some (n + 1)
      · rw [scan_of_width?_ne_succ hs, scan_of_width?_ne_succ (hsame ▸ hs), scan_eq_scan_true hl,
          scan_eq_scan_true hl _ _ a]
        exact ih (Nat.zero_le _)
      · obtain ⟨n, hn⟩ := not_forall_not.mp hs
        have hle : n ≤ a.length := Nat.le_of_succ_le_succ (widthOf?_le (hwidth (d :: a) ▸ hn))
        rw [scan_of_width?_succ hn, scan_of_width?_succ (hsame.trans hn), scan_eq_scan_true hl,
          scan_eq_scan_true hl _ _ a, ih hle, List.take_append_of_le_length hle, List.cons_append]

theorem occurrences_append_cons (hl : p.lineStart = false) (h : ∀ q ∈ p.pieces, q.shuns c = true)
    (a b : Text) : p.occurrences (a ++ c :: b) = p.occurrences a ++ p.occurrences b :=
  scan_append_cons hl h a b (Nat.zero_le _)

theorem count_append_cons (hl : p.lineStart = false) (h : ∀ q ∈ p.pieces, q.shuns c = true)
    (a b : Text) : p.count (a ++ c :: b) = p.count a + p.count b := by
  rw [count, occurrences_append_cons hl h, List.length_append, count, count]

def runs (accepts : Char → Bool) (s : Text) : List Text :=
  (s.splitOnP fun c => !accepts c).filter fun r => !r.isEmpty

variable {accepts : Char → Bool}

theorem runs_append_cons (hc : accepts c = false) (a b : Text) :
    runs accepts (a ++ c :: b) = runs accepts a ++ runs accepts b := by
  simp [runs, List.splitOnP_append_cons, hc]

theorem runs_of_all {s : Text} (h : ∀ x ∈ s, accepts x = true) :
    runs accepts s = if s.isEmpty then [] else [s] := by
  rw [runs, List.splitOnP_eq_singleton (by simpa using h)]
  cases s <;> rfl

theorem runs_induction {motive : Text → Prop} (accepts : Char → Bool)
    (run : ∀ s, (∀ x ∈ s, accepts x = true) → motive s)
    (join : ∀ a c b, accepts c = false → motive a → motive b → motive (a ++ c :: b)) (s : Text) :
    motive s := by
  suffices hfront : ∀ front : Text, (∀ x ∈ front, accepts x = true) → motive (front ++ s) from
    hfront [] (by simp)
  induction s with
  | nil =>
    intro front h
    rw [List.append_nil]
    exact run front h
  | cons c s ih =>
    intro front h
    cases hc : accepts c with
    | false => exact join front c s hc (run front h) (ih [] (by simp))
    | true =>
      rw [List.append_cons]
      apply ih
      exact List.forall_mem_append.mpr ⟨h, List.forall_mem_singleton.mpr hc⟩

end DiagramReview.Text
