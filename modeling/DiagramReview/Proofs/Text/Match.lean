import DiagramReview.Proofs.Text.LineEnd
import DiagramReview.Text.Pattern

/-!
Matches of a pattern in a text whose lines end in another way. Where no piece of a pattern can part
a return from its newline, the matches in the text with returns are those in the original text, with
returns. Also, what it means that a pattern occurs at all.
-/

namespace DiagramReview.Text

open Piece Pattern

variable {p : Pattern} {ps : List Piece} {accepts : Char → Bool} {s : Text}

theorem widthOf?_cons (q : Piece) (ps : List Piece) (s : Text) : widthOf? (q :: ps) s =
    (q.width? s).bind fun n => (widthOf? ps (s.drop n)).map (n + ·) := by
  rw [widthOf?]
  cases q.width? s with
  | none => rfl
  | some n => cases h : widthOf? ps (s.drop n) <;> simp [h]

theorem widthOf?_append (ps qs : List Piece) (s : Text) : widthOf? (ps ++ qs) s =
    (widthOf? ps s).bind fun n => (widthOf? qs (s.drop n)).map (n + ·) := by
  induction ps generalizing s with
  | nil => simp [widthOf?]
  | cons q ps ih =>
    rw [List.cons_append, widthOf?_cons, widthOf?_cons]
    cases q.width? s with
    | none => rfl
    | some n =>
      rw [Option.bind_some, Option.bind_some, ih]
      cases widthOf? ps (s.drop n) with
      | none => rfl
      | some m => simp [Function.comp_def, Nat.add_assoc, List.drop_drop]

theorem width?_of_anywhere (hl : p.lineStart = false) (start : Bool) (s : Text) :
    p.width? start s = widthOf? p.pieces s := by
  simp [Pattern.width?, hl]

def runsOn : List Piece → Bool
  | many accepts :: _ => accepts '\n'
  | _ => false

def startsInLine : List Piece → Bool
  | one accepts :: _ => !accepts '\n'
  | anyOf words :: _ => words.all fun w => w.head?.any (· != '\n')
  | _ => false

/-- Does every piece take a return and the newline after it together, or leave both? A single
character of a class may be the return only if a run that takes the newline comes next. -/
def keepsEnds : List Piece → Bool
  | [] => true
  | one accepts :: ps =>
    (accepts '\r' == accepts '\n') && (!accepts '\n' || runsOn ps) && keepsEnds ps
  | many accepts :: ps => (accepts '\r' == accepts '\n') && keepsEnds ps
  | anyOf words :: ps => words.all (fun w => decide (Unbroken w)) && keepsEnds ps

def Pattern.keepsEnds (p : Pattern) : Bool :=
  Text.keepsEnds p.pieces && (p.lineStart || startsInLine p.pieces)

theorem widthOf?_newline_of_runsOn (h : runsOn ps = true) (s : Text) :
    widthOf? ps ('\n' :: s) = (widthOf? ps s).map (· + 1) := by
  cases ps with
  | nil => cases h
  | cons q ps =>
    cases q with
    | one accepts => cases h
    | anyOf words => cases h
    | many accepts =>
      have hn : accepts '\n' = true := h
      have htake : ('\n' :: s).takeWhile accepts = '\n' :: s.takeWhile accepts := by
        rw [List.takeWhile_cons, if_pos hn]
      simp only [widthOf?_cons, Piece.width?, htake, List.length_cons, List.drop_succ_cons,
        Option.bind_some, Option.map_map]
      congr 1
      funext m
      exact Nat.add_right_comm _ _ _

theorem widthOf?_newline_of_startsInLine (h : startsInLine ps = true) (s : Text) :
    widthOf? ps ('\n' :: s) = none := by
  cases ps with
  | nil => cases h
  | cons q ps =>
    rw [widthOf?_cons]
    cases q with
    | many accepts => cases h
    | one accepts =>
      have hn : accepts '\n' = false := by simpa [startsInLine] using h
      simp [Piece.width?, hn]
    | anyOf words =>
      have hfind : words.find? (·.isPrefixOf ('\n' :: s)) = none := by
        apply List.find?_eq_none.mpr
        intro w hw
        have hw' := List.all_eq_true.mp h w hw
        cases w with
        | nil => cases hw'
        | cons c w =>
          have hc : c ≠ '\n' := by simpa using hw'
          simp [List.isPrefixOf, hc]
      simp [Piece.width?, hfind]

theorem length_withReturns_take_succ_of_ne {c : Char} (hc : c ≠ '\n') (n : Nat) (s : Text) :
    (withReturns ((c :: s).take (n + 1))).length = (withReturns (s.take n)).length + 1 := by
  rw [List.take_succ_cons, withReturns_cons hc, List.length_cons]

theorem length_withReturns_take_succ_newline (n : Nat) (s : Text) :
    (withReturns (('\n' :: s).take (n + 1))).length = (withReturns (s.take n)).length + 2 := by
  rw [List.take_succ_cons, withReturns_newline, List.length_cons, List.length_cons]

theorem take_append_drop_withReturns (n : Nat) (s : Text) :
    withReturns (s.take n) ++ withReturns (s.drop n) = withReturns s := by
  rw [withReturns, withReturns, withReturns, ← withEnds_append, List.take_append_drop]

theorem drop_withReturns (n : Nat) (s : Text) :
    (withReturns s).drop (withReturns (s.take n)).length = withReturns (s.drop n) := by
  rw [← take_append_drop_withReturns n s, List.drop_left]

theorem take_withReturns (n : Nat) (s : Text) :
    (withReturns s).take (withReturns (s.take n)).length = withReturns (s.take n) := by
  conv => lhs; arg 2; rw [← take_append_drop_withReturns n s]
  rw [List.take_left]

theorem length_withReturns_take_add (n m : Nat) (s : Text) :
    (withReturns (s.take (n + m))).length =
      (withReturns (s.take n)).length + (withReturns ((s.drop n).take m)).length := by
  rw [List.take_add, withReturns, withEnds_append, List.length_append]
  rfl

theorem width?_many_withReturns (h : accepts '\r' = accepts '\n') (s : Text) :
    (many accepts).width? (withReturns s) =
      ((many accepts).width? s).map fun n => (withReturns (s.take n)).length := by
  have htake : (withReturns s).takeWhile accepts = withReturns (s.takeWhile accepts) :=
    takeWhile_withEnds isEnd_return_newline h s
  have hrun : s.take (s.takeWhile accepts).length = s.takeWhile accepts :=
    (List.prefix_iff_eq_take.mp (List.takeWhile_prefix accepts)).symm
  rw [Piece.width?, htake, Piece.width?, Option.map_some, hrun]

theorem width?_anyOf_withReturns {words : List Text} (h : ∀ w ∈ words, Unbroken w) (s : Text) :
    (anyOf words).width? (withReturns s) =
      ((anyOf words).width? s).map fun n => (withReturns (s.take n)).length := by
  have hfind : words.find? (·.isPrefixOf (withReturns s)) = words.find? (·.isPrefixOf s) := by
    induction words with
    | nil => rfl
    | cons w words ih =>
      have hw : w.isPrefixOf (withReturns s) = w.isPrefixOf s := by
        rw [Bool.eq_iff_iff, List.isPrefixOf_iff_prefix, List.isPrefixOf_iff_prefix]
        exact prefix_withReturns_iff (h w List.mem_cons_self)
      rw [List.find?_cons, List.find?_cons, hw, ih fun v hv => h v (List.mem_cons_of_mem _ hv)]
  rw [Piece.width?, hfind, Piece.width?]
  cases hw : words.find? (·.isPrefixOf s) with
  | none => rfl
  | some w =>
    have hprefix : w <+: s := List.isPrefixOf_iff_prefix.mp (by simpa using List.find?_some hw)
    have hplain : withReturns (s.take w.length) = w := by
      rw [← List.prefix_iff_eq_take.mp hprefix]
      exact withEnds_of_notMem (h w (List.mem_of_find?_eq_some hw)).2 _
    simp [hplain]

theorem widthOf?_withReturns (h : keepsEnds ps = true) (s : Text) :
    widthOf? ps (withReturns s) =
      (widthOf? ps s).map fun n => (withReturns (s.take n)).length := by
  induction ps generalizing s with
  | nil => simp [widthOf?, withReturns]
  | cons q ps ih =>
    -- a piece whose own width corresponds leaves a rest that corresponds
    have hstep (hps : keepsEnds ps = true) (hq : q.width? (withReturns s) =
        (q.width? s).map fun n => (withReturns (s.take n)).length) :
        widthOf? (q :: ps) (withReturns s) =
          (widthOf? (q :: ps) s).map fun n => (withReturns (s.take n)).length := by
      rw [widthOf?_cons, widthOf?_cons, hq]
      cases q.width? s with
      | none => rfl
      | some n =>
        simp only [Option.map_some, Option.bind_some, drop_withReturns, ih hps, Option.map_map]
        congr 1
        funext m
        exact (length_withReturns_take_add n m s).symm
    cases q with
    | many accepts =>
      simp only [keepsEnds, Bool.and_eq_true, beq_iff_eq] at h
      exact hstep h.2 (width?_many_withReturns h.1 s)
    | anyOf words =>
      simp only [keepsEnds, Bool.and_eq_true, List.all_eq_true, decide_eq_true_iff] at h
      exact hstep h.2 (width?_anyOf_withReturns h.1 s)
    | one accepts =>
      simp only [keepsEnds, Bool.and_eq_true, beq_iff_eq, Bool.or_eq_true, Bool.not_eq_true'] at h
      obtain ⟨⟨hr, hn⟩, hps⟩ := h
      cases s with
      | nil => rfl
      | cons c s =>
        by_cases hc : c = '\n'
        · subst hc
          rw [withReturns_newline, widthOf?_cons, widthOf?_cons, Piece.width?, Piece.width?, hr]
          cases ha : accepts '\n' with
          | false => rfl
          | true =>
            -- the return is taken alone, and the run after it takes the newline
            have hruns : runsOn ps = true := by simpa [ha] using hn
            simp only [if_true, Option.bind_some, List.drop_succ_cons, List.drop_zero,
              widthOf?_newline_of_runsOn hruns, ih hps, Option.map_map]
            congr 1
            funext n
            have hl := length_withReturns_take_succ_newline n s
            simp only [Function.comp_apply]
            rw [Nat.add_comm 1 n, hl]
            omega
        · apply hstep hps
          have hone : (withReturns ((c :: s).take 1)).length = 1 :=
            length_withReturns_take_succ_of_ne hc 0 s
          rw [withReturns_cons hc, Piece.width?, Piece.width?]
          cases accepts c with
          | false => rfl
          | true => exact congrArg some hone.symm

theorem width?_withReturns (h : p.keepsEnds = true) (lineStart : Bool) (s : Text) :
    p.width? lineStart (withReturns s) =
      (p.width? lineStart s).map fun n => (withReturns (s.take n)).length := by
  have hp : keepsEnds p.pieces = true := (Bool.and_eq_true _ _ ▸ h).1
  rw [Pattern.width?, Pattern.width?, widthOf?_withReturns hp]
  split <;> rfl

theorem width?_newline (h : p.keepsEnds = true) (s : Text) : p.width? false ('\n' :: s) = none := by
  rw [Pattern.width?]
  cases hl : p.lineStart with
  | true => rfl
  | false =>
    rw [Pattern.keepsEnds, hl, Bool.false_or, Bool.and_eq_true] at h
    exact widthOf?_newline_of_startsInLine h.2 s

theorem scan_of_width?_succ {b : Bool} {c : Char} {n : Nat}
    (h : p.width? b (c :: s) = some (n + 1)) :
    p.scan b 0 (c :: s) = (c :: s.take n) :: p.scan (c == '\n') n s := by
  rw [scan, h]

theorem scan_of_width?_ne_succ {b : Bool} {c : Char}
    (h : ∀ n, p.width? b (c :: s) ≠ some (n + 1)) :
    p.scan b 0 (c :: s) = p.scan (c == '\n') 0 s := by
  rw [scan]
  split
  · next n hn => exact absurd hn (h n)
  · rfl

theorem scan_ne_nil_iff (hl : p.lineStart = false) (b : Bool) (s : Text) :
    p.scan b 0 s ≠ [] ↔
      ∃ c r, c :: r <:+ s ∧ ∃ n, widthOf? p.pieces (c :: r) = some (n + 1) := by
  have hwidth := width?_of_anywhere hl
  induction s generalizing b with
  | nil => simp [scan]
  | cons c s ih =>
    by_cases hs : ∀ n, p.width? b (c :: s) ≠ some (n + 1)
    · rw [scan_of_width?_ne_succ hs]
      refine (ih (c == '\n')).trans ?_
      constructor
      · rintro ⟨d, r, hr, hn⟩
        exact ⟨d, r, hr.trans (List.suffix_cons _ _), hn⟩
      · rintro ⟨d, r, hr, n, hn⟩
        rcases List.suffix_cons_iff.mp hr with he | hr
        · rw [he, ← hwidth b] at hn
          exact absurd hn (hs n)
        · exact ⟨d, r, hr, n, hn⟩
    · obtain ⟨n, hn⟩ := not_forall_not.mp hs
      rw [scan_of_width?_succ hn]
      rw [hwidth] at hn
      exact iff_of_true (List.cons_ne_nil _ _) ⟨c, s, List.suffix_rfl, n, hn⟩

theorem occursIn_iff_count_pos {p : Pattern} {s : Text} : p.occursIn s = true ↔ 0 < p.count s := by
  rw [occursIn, count, Bool.not_eq_true', List.isEmpty_eq_false_iff, List.length_pos_iff]

theorem occursIn_iff (hl : p.lineStart = false) (s : Text) : p.occursIn s = true ↔
    ∃ c r, c :: r <:+ s ∧ ∃ n, widthOf? p.pieces (c :: r) = some (n + 1) := by
  rw [← scan_ne_nil_iff hl true, occursIn, occurrences]
  simp

theorem width?_withReturns_ne_succ (h : p.keepsEnds = true) {b : Bool}
    (hs : ∀ n, p.width? b s ≠ some (n + 1)) (m : Nat) :
    p.width? b (withReturns s) ≠ some (m + 1) := by
  rw [width?_withReturns h]
  intro hm
  obtain ⟨n, hn, hlen⟩ := Option.map_eq_some_iff.mp hm
  cases n with
  | zero => simp [withReturns] at hlen
  | succ n => exact hs n hn

theorem scan_withReturns (h : p.keepsEnds = true) (b : Bool) (skip : Nat) (s : Text) :
    p.scan b (withReturns (s.take skip)).length (withReturns s) =
      (p.scan b skip s).map withReturns := by
  induction s generalizing b skip with
  | nil => simp [scan, withReturns]
  | cons c s ih =>
    have hwidth := width?_withReturns h b (c :: s)
    have hnone := width?_withReturns_ne_succ h (b := b) (s := c :: s)
    by_cases hc : c = '\n'
    · subst hc
      rw [withReturns_newline] at hwidth hnone ⊢
      cases skip with
      | succ skip =>
        rw [length_withReturns_take_succ_newline]
        exact ih true skip
      | zero =>
        by_cases hs : ∀ n, p.width? b ('\n' :: s) ≠ some (n + 1)
        · rw [scan_of_width?_ne_succ hs]
          refine (scan_of_width?_ne_succ (hnone hs)).trans ?_
          rw [scan_of_width?_ne_succ (fun n => by simp [width?_newline h])]
          exact ih true 0
        · obtain ⟨n, hn⟩ := not_forall_not.mp hs
          rw [hn, Option.map_some, length_withReturns_take_succ_newline] at hwidth
          rw [scan_of_width?_succ hn, List.map_cons, ← ih]
          refine (scan_of_width?_succ hwidth).trans ?_
          rw [List.take_succ_cons, take_withReturns]
          rfl
    · rw [withReturns_cons hc] at hwidth hnone ⊢
      cases skip with
      | succ skip =>
        rw [length_withReturns_take_succ_of_ne hc]
        exact ih _ skip
      | zero =>
        by_cases hs : ∀ n, p.width? b (c :: s) ≠ some (n + 1)
        · rw [scan_of_width?_ne_succ hs, ← ih]
          exact scan_of_width?_ne_succ (hnone hs)
        · obtain ⟨n, hn⟩ := not_forall_not.mp hs
          rw [hn, Option.map_some, length_withReturns_take_succ_of_ne hc] at hwidth
          rw [scan_of_width?_succ hn, List.map_cons, ← ih]
          refine (scan_of_width?_succ hwidth).trans ?_
          rw [take_withReturns, withReturns_cons hc]

theorem occurrences_withReturns (h : p.keepsEnds = true) (s : Text) :
    p.occurrences (withReturns s) = (p.occurrences s).map withReturns :=
  scan_withReturns h true 0 s

theorem count_withReturns (h : p.keepsEnds = true) (s : Text) :
    p.count (withReturns s) = p.count s := by
  rw [count, count, occurrences_withReturns h, List.length_map]

end DiagramReview.Text
