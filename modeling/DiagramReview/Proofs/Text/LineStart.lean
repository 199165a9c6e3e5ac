import DiagramReview.Proofs.Text.Separator

/-!
Patterns tied to the start of a line, counted line by line. The blanks that such a pattern takes may
cross line ends, so a match may begin on one line and go on below it: the line is left open. The
number of matches in a text differs from the number of lines that match alone by at most the number
of lines left open.
-/

namespace DiagramReview.Text

open Piece Pattern

variable {p : Pattern} {ps : List Piece} {l b s t : Text} {ls : List Text} {n m k : Nat}

namespace Pattern

/-- Does a match that begins on the first line go on below it? A blank line is left open only if no
match begins below it: otherwise that match has just taken the blank line too. -/
def leavesOpen (p : Pattern) : List Text → Bool
  | [] => false
  | l :: ls => (p.width? true (unlines (l :: ls))).any (l.length < ·) &&
      (!(trim l).isEmpty || (p.width? true (unlines ls)).isNone)

def closed (p : Pattern) : List Text → Bool
  | [] => false
  | l :: ls => p.occursIn l && !p.leavesOpen (l :: ls)

def openLines (p : Pattern) (s : Text) : Nat := (lines s).tails.countP p.leavesOpen

/-- A match begins with a line and with any blank lines above it, stays when lines are added, and
ends no earlier than one that begins before it. -/
structure LineLed (p : Pattern) : Prop where
  lineStart : p.lineStart = true
  solid : ∀ {s}, (∀ c ∈ s, isBlank c = true) → p.width? true s = none
  below : ∀ {l b n}, (∀ c ∈ l, isBlank c = true) → p.width? true b = some n →
    p.width? true (l ++ '\n' :: b) = some (l.length + 1 + n)
  kept : ∀ {s}, p.width? true s ≠ none → ∀ b, p.width? true (s ++ '\n' :: b) ≠ none
  ordered : ∀ {s t n m}, t <:+ s → p.width? true s = some n → p.width? true t = some m →
    t.length + n ≤ s.length + m

end Pattern

theorem width?_true (p : Pattern) (s : Text) : p.width? true s = widthOf? p.pieces s := by
  simp [Pattern.width?]

theorem newline_notMem_cons {c : Char} (hn : '\n' ∉ c :: l) : (c == '\n') = false ∧ '\n' ∉ l := by
  rw [List.mem_cons, not_or] at hn
  exact ⟨beq_eq_false_iff_ne.mpr (Ne.symm hn.1), hn.2⟩

/-! ### Reading on -/

theorem scan_inside (hl : p.lineStart = true) (hn : '\n' ∉ l) {start : Bool}
    (hstart : start = false ∨ 0 < k) (hk : k ≤ l.length) (r : Text) :
    p.scan start k (l ++ r) = p.scan false 0 r := by
  induction l generalizing start k with
  | nil =>
    obtain rfl : k = 0 := Nat.le_zero.mp hk
    obtain rfl : start = false := by simpa using hstart
    rfl
  | cons c l ih =>
    obtain ⟨hc, hrest⟩ := newline_notMem_cons hn
    cases k with
    | succ k =>
      rw [List.cons_append, scan, hc]
      exact ih hrest (.inl rfl) (by simpa using hk)
    | zero =>
      obtain rfl : start = false := by simpa using hstart
      have hnone : p.width? false (c :: (l ++ r)) = none := by simp [Pattern.width?, hl]
      rw [List.cons_append, scan_of_width?_ne_succ (by simp [hnone]), hc]
      exact ih hrest (.inl rfl) (Nat.zero_le _)

theorem scan_newline (hl : p.lineStart = true) (b : Text) :
    p.scan false 0 ('\n' :: b) = p.scan true 0 b := by
  have hnone : p.width? false ('\n' :: b) = none := by simp [Pattern.width?, hl]
  rw [scan_of_width?_ne_succ (by simp [hnone])]
  rfl

theorem scan_within (hl : p.lineStart = true) (hn : '\n' ∉ l) (hpos : 0 < k) (hk : k ≤ l.length)
    (b : Text) : p.scan true k (l ++ '\n' :: b) = p.scan true 0 b := by
  rw [scan_inside hl hn (.inr hpos) hk, scan_newline hl]

theorem scan_beyond (p : Pattern) (start : Bool) (l b : Text) (k : Nat) :
    p.scan start (l.length + 1 + k) (l ++ '\n' :: b) = p.scan true k b := by
  induction l generalizing start with
  | nil =>
    rw [List.nil_append, List.length_nil, Nat.zero_add, Nat.add_comm, scan]
    rfl
  | cons c l ih =>
    have hlen : (c :: l).length + 1 + k = (l.length + 1 + k) + 1 := by
      rw [List.length_cons]
      omega
    rw [hlen, List.cons_append, scan]
    exact ih _

theorem scan_last (hl : p.lineStart = true) (hn : '\n' ∉ l) {start : Bool}
    (hstart : start = false ∨ 0 < k) : p.scan start k l = [] := by
  rcases Nat.le_total k l.length with hk | hk
  · have hend := scan_inside hl hn hstart hk []
    rw [List.append_nil] at hend
    rw [hend, scan]
  · exact scan_of_length_le hk

theorem scan_of_width?_none (hl : p.lineStart = true) (hn : '\n' ∉ l)
    (h : p.width? true (l ++ '\n' :: b) = none) :
    p.scan true 0 (l ++ '\n' :: b) = p.scan true 0 b := by
  cases l with
  | nil =>
    rw [List.nil_append] at h ⊢
    rw [scan_of_width?_ne_succ (by simp [h])]
    rfl
  | cons c l =>
    obtain ⟨hc, hrest⟩ := newline_notMem_cons hn
    rw [List.cons_append] at h ⊢
    rw [scan_of_width?_ne_succ (by simp [h]), hc,
      scan_inside hl hrest (.inl rfl) (Nat.zero_le _), scan_newline hl]

theorem length_scan_of_width? (h : p.width? true s = some n) (hpos : 0 < n) :
    (p.scan true 0 s).length = (p.scan true n s).length + 1 := by
  obtain ⟨n, rfl⟩ := Nat.exists_eq_succ_of_ne_zero (Nat.ne_of_gt hpos)
  cases s with
  | nil =>
    rw [width?_true] at h
    exact absurd (widthOf?_le h) (by simp)
  | cons c s => rw [scan_of_width?_succ h, List.length_cons, scan]

theorem exists_of_leavesOpen (h : p.leavesOpen (l :: ls) = true) : ls ≠ [] ∧
    (∃ n, p.width? true (l ++ '\n' :: unlines ls) = some n ∧ l.length < n) ∧
    (trim l ≠ [] ∨ p.width? true (unlines ls) = none) := by
  rw [leavesOpen, Bool.and_eq_true] at h
  obtain ⟨hany, hrest⟩ := h
  cases hw : p.width? true (unlines (l :: ls)) with
  | none =>
    rw [hw] at hany
    cases hany
  | some n =>
    have hlen : l.length < n := by simpa [hw] using hany
    have hne : ls ≠ [] := by
      rintro rfl
      rw [unlines_singleton, width?_true] at hw
      have hle : n ≤ l.length := widthOf?_le hw
      omega
    rw [unlines_cons l hne] at hw
    exact ⟨hne, ⟨n, hw, hlen⟩, by simpa using hrest⟩

theorem leavesOpen_of_not_blank (hne : ls ≠ []) (hl : trim l ≠ [])
    (hw : p.width? true (l ++ '\n' :: unlines ls) = some n) (hlen : l.length < n) :
    p.leavesOpen (l :: ls) = true := by
  rw [leavesOpen, unlines_cons l hne, hw]
  simp [hlen, hl]

theorem countP_le_countP_closed (p : Pattern) (ls : List Text) :
    ls.countP p.occursIn ≤ ls.tails.countP p.closed + ls.tails.countP p.leavesOpen := by
  induction ls with
  | nil => exact Nat.zero_le _
  | cons l ls ih =>
    rw [List.tails_cons, List.countP_cons, List.countP_cons, List.countP_cons, Pattern.closed]
    cases p.occursIn l <;> cases p.leavesOpen (l :: ls) <;> simp <;> omega

theorem exists_beyond (h : l.length < n) : ∃ k, n = l.length + 1 + k := ⟨n - (l.length + 1), by omega⟩

namespace Pattern.LineLed

variable (h : p.LineLed)
include h

theorem width?_pos (hw : p.width? true s = some n) : 0 < n := by
  apply Nat.pos_of_ne_zero
  rintro rfl
  have hnil : p.width? true [] = none := h.solid (by simp)
  rw [width?_true] at hw hnil
  rw [widthOf?_front (a := []) hw (Nat.le_refl 0)] at hnil
  cases hnil

/-! ### One line -/

theorem length_scan_below (hl : ∀ c ∈ l, isBlank c = true) (hw : p.width? true b = some n) :
    (p.scan true 0 (l ++ '\n' :: b)).length = (p.scan true 0 b).length := by
  rw [length_scan_of_width? (h.below hl hw) (by omega), scan_beyond,
    length_scan_of_width? hw (h.width?_pos hw)]

theorem length_scan_single (hn : '\n' ∉ l) :
    (p.scan true 0 l).length = if (p.width? true l).isSome then 1 else 0 := by
  cases hw : p.width? true l with
  | none =>
    rcases l with - | ⟨c, l⟩
    · simp [scan]
    · obtain ⟨hc, hrest⟩ := newline_notMem_cons hn
      rw [scan_of_width?_ne_succ (by simp [hw]), hc, scan_last h.lineStart hrest (.inl rfl)]
      rfl
  | some n =>
    have hpos := h.width?_pos hw
    rw [length_scan_of_width? hw hpos, scan_last h.lineStart hn (.inr hpos)]
    rfl

theorem occursIn_eq (hn : '\n' ∉ l) : p.occursIn l = (p.width? true l).isSome := by
  have hlen := h.length_scan_single hn
  rw [Bool.eq_iff_iff, occursIn_iff_count_pos, count, occurrences, hlen]
  split_ifs with hw
  · simp [hw]
  · simp [hw]

theorem trim_ne_nil_of_width? (hw : p.width? true l ≠ none) : trim l ≠ [] :=
  fun hl => hw (h.solid (trim_eq_nil_iff.mp hl))

theorem first_line_cases (hn : '\n' ∉ l) (hne : ls ≠ []) :
    (p.width? true l = none ∧ (p.scan true 0 (l ++ '\n' :: unlines ls)).length =
      (p.scan true 0 (unlines ls)).length) ∨
    (p.width? true l ≠ none ∧ (p.scan true 0 (l ++ '\n' :: unlines ls)).length =
      (p.scan true 0 (unlines ls)).length + 1) ∨
    ∃ k, p.leavesOpen (l :: ls) = true ∧
      p.width? true (l ++ '\n' :: unlines ls) = some (l.length + 1 + k) ∧
      (p.scan true 0 (l ++ '\n' :: unlines ls)).length =
        (p.scan true k (unlines ls)).length + 1 := by
  cases hw : p.width? true (l ++ '\n' :: unlines ls) with
  | none =>
    refine .inl ⟨?_, by rw [scan_of_width?_none h.lineStart hn hw]⟩
    by_contra hfits
    exact h.kept hfits _ hw
  | some n =>
    have hpos := h.width?_pos hw
    rcases Nat.lt_or_ge l.length n with hlen | hlen
    · obtain ⟨k, rfl⟩ := exists_beyond hlen
      by_cases hopen : p.leavesOpen (l :: ls) = true
      · refine .inr (.inr ⟨k, hopen, rfl, ?_⟩)
        rw [length_scan_of_width? hw (by omega), scan_beyond]
      · -- a match that begins below has taken the blank line too
        have hblank : trim l = [] := by
          by_contra hl
          exact hopen (leavesOpen_of_not_blank hne hl hw (by omega))
        have hl := trim_eq_nil_iff.mp hblank
        rw [leavesOpen, unlines_cons l hne, hw, hblank] at hopen
        obtain ⟨m, hm⟩ : ∃ m, p.width? true (unlines ls) = some m := by
          apply Option.ne_none_iff_exists'.mp
          simpa [hlen] using hopen
        exact .inl ⟨h.solid hl, h.length_scan_below hl hm⟩
    · refine .inr (.inl ⟨?_, ?_⟩)
      · rw [width?_true] at hw ⊢
        rw [widthOf?_front hw hlen]
        exact Option.some_ne_none n
      · rw [length_scan_of_width? hw hpos, scan_within h.lineStart hn hpos hlen]

/-! ### All lines -/

theorem length_scan_le (hls : ∀ l ∈ ls, '\n' ∉ l) (k : Nat) :
    (p.scan true k (unlines ls)).length ≤
      ls.countP p.occursIn + ls.tails.countP p.leavesOpen := by
  -- the first `k` characters belong to a match that began above
  induction ls generalizing k with
  | nil =>
    have hnil : p.scan true k (unlines []) = [] := scan_of_length_le (Nat.zero_le _)
    rw [hnil]
    exact Nat.zero_le _
  | cons l ls ih =>
    have hn := hls l List.mem_cons_self
    have ih := ih fun m hm => hls m (List.mem_cons_of_mem _ hm)
    rw [List.countP_cons, List.tails_cons, List.countP_cons, h.occursIn_eq hn]
    by_cases hne : ls = []
    · subst hne
      have hsingle := h.length_scan_single hn
      rcases Nat.eq_zero_or_pos k with rfl | hk
      · rw [unlines_singleton, hsingle]
        omega
      · rw [unlines_singleton, scan_last h.lineStart hn (.inr hk)]
        exact Nat.zero_le _
    rw [unlines_cons l hne]
    rcases Nat.eq_zero_or_pos k with rfl | hk
    · rcases h.first_line_cases hn hne with ⟨-, hlen⟩ | ⟨hfits, hlen⟩ | ⟨k, hopen, -, hlen⟩
      · have hrest := ih 0
        omega
      · have hrest := ih 0
        rw [if_pos (Option.isSome_iff_ne_none.mpr hfits)]
        omega
      · have hrest := ih k
        rw [if_pos hopen]
        omega
    · rcases Nat.lt_or_ge l.length k with hlen | hlen
      · obtain ⟨k, rfl⟩ := exists_beyond hlen
        have hrest := ih k
        rw [scan_beyond]
        omega
      · have hrest := ih 0
        rw [scan_within h.lineStart hn hk hlen]
        omega

theorem width?_of_closed (hne : ls ≠ []) (hfits : p.width? true l ≠ none)
    (hclosed : p.leavesOpen (l :: ls) = false) :
    ∃ m, p.width? true (l ++ '\n' :: unlines ls) = some m ∧ m ≤ l.length := by
  obtain ⟨m, hm⟩ := Option.ne_none_iff_exists'.mp (h.kept hfits (unlines ls))
  refine ⟨m, hm, ?_⟩
  by_contra hlen
  have hopen := leavesOpen_of_not_blank hne (h.trim_ne_nil_of_width? hfits) hm (by omega)
  rw [hclosed] at hopen
  cases hopen

theorem countP_closed_single (hn : '\n' ∉ l) (k : Nat) :
    [l].tails.countP p.closed ≤ (p.scan true k l).length + min k 1 := by
  have hclosed : [l].tails.countP p.closed ≤ if (p.width? true l).isSome then 1 else 0 := by
    rw [List.tails_cons, List.countP_cons, Pattern.closed, h.occursIn_eq hn]
    cases (p.width? true l).isSome with
    | false => exact Nat.le_refl 0
    | true =>
      change 0 + _ ≤ 1
      split_ifs <;> omega
  have hsingle := h.length_scan_single hn
  rcases Nat.eq_zero_or_pos k with rfl | hpos
  · omega
  · split_ifs at hclosed <;> omega

theorem countP_closed_le (hls : ∀ l ∈ ls, '\n' ∉ l) (k : Nat)
    (hk : ∀ t m, t <:+ unlines ls → p.width? true t = some m →
      t.length + k ≤ (unlines ls).length + m) :
    ls.tails.countP p.closed ≤ (p.scan true k (unlines ls)).length + min k 1 := by
  induction ls generalizing k with
  | nil => exact Nat.zero_le _
  | cons l ls ih =>
    have hn := hls l List.mem_cons_self
    have ih := ih fun m hm => hls m (List.mem_cons_of_mem _ hm)
    by_cases hne : ls = []
    · subst hne
      rw [unlines_singleton]
      exact h.countP_closed_single hn k
    have hsuffix : unlines ls <:+ unlines (l :: ls) := by
      rw [unlines_cons l hne]
      exact (List.suffix_cons _ _).trans (List.suffix_append _ _)
    have hlength : (unlines (l :: ls)).length = l.length + 1 + (unlines ls).length := by
      rw [unlines_cons l hne, List.length_append, List.length_cons]
      omega
    have hfresh := ih 0 fun t m ht _ => by
      have hle := ht.length_le
      omega
    rw [List.tails_cons, List.countP_cons, Pattern.closed, h.occursIn_eq hn]
    rcases Nat.eq_zero_or_pos k with rfl | hpos
    · rw [unlines_cons l hne]
      rcases h.first_line_cases hn hne with ⟨hnone, hlen⟩ | ⟨-, hlen⟩ | ⟨k, hopen, hw, hlen⟩
      · rw [hnone, hlen]
        exact hfresh
      · rw [hlen]
        split_ifs <;> omega
      · rw [← unlines_cons l hne] at hw
        have hrest := ih k fun t m ht hm => by
          have hle := h.ordered (ht.trans hsuffix) hw hm
          omega
        rw [hopen, hlen]
        simp only [Bool.not_true, Bool.and_false, Bool.false_eq_true, if_false]
        omega
    · rcases Nat.lt_or_ge l.length k with hlen | hlen
      · obtain ⟨k, rfl⟩ := exists_beyond hlen
        have hrest := ih k fun t m ht hm => by
          have hle := hk t m (ht.trans hsuffix) hm
          omega
        -- a match of the first line alone would end before the one under way
        have hfirst : ((p.width? true l).isSome && !p.leavesOpen (l :: ls)) = false := by
          by_contra hx
          simp only [Bool.not_eq_false, Bool.and_eq_true, Bool.not_eq_true',
            Option.isSome_iff_ne_none] at hx
          obtain ⟨m, hm, hle⟩ := h.width?_of_closed hne hx.1 hx.2
          rw [← unlines_cons l hne] at hm
          have hend := hk _ m List.suffix_rfl hm
          omega
        rw [hfirst, unlines_cons l hne, scan_beyond]
        simp only [Bool.false_eq_true, if_false]
        omega
      · rw [unlines_cons l hne, scan_within h.lineStart hn hpos hlen]
        split_ifs <;> omega

theorem count_le (s : Text) : p.count s ≤ (lines s).countP p.occursIn + p.openLines s := by
  have hls : ∀ l ∈ lines s, '\n' ∉ l := fun _ hl => newline_notMem_of_mem_lines hl
  have hle := h.length_scan_le hls 0
  rwa [unlines_lines] at hle

theorem countP_closed_le_count (s : Text) : (lines s).tails.countP p.closed ≤ p.count s := by
  have hls : ∀ l ∈ lines s, '\n' ∉ l := fun _ hl => newline_notMem_of_mem_lines hl
  have hle := h.countP_closed_le hls 0 fun t m ht _ => by
    have hle := ht.length_le
    omega
  rwa [unlines_lines] at hle

theorem countP_lines_le (s : Text) : (lines s).countP p.occursIn ≤ p.count s + p.openLines s := by
  have hclosed := h.countP_closed_le_count s
  have hle := countP_le_countP_closed p (lines s)
  rw [openLines]
  omega

theorem countP_lines_le_count (hwhole : ∀ {s n}, p.width? true s = some n →
    ∀ b, p.width? true (s ++ '\n' :: b) = some n) (s : Text) :
    (lines s).countP p.occursIn ≤ p.count s := by
  have hall (ls : List Text) (hls : ∀ l ∈ ls, '\n' ∉ l) :
      ls.countP p.occursIn ≤ ls.tails.countP p.closed := by
    induction ls with
    | nil => exact Nat.zero_le _
    | cons l ls ih =>
      have ih := ih fun m hm => hls m (List.mem_cons_of_mem _ hm)
      have hfirst : p.occursIn l = true → p.leavesOpen (l :: ls) = false := by
        intro hl
        rw [h.occursIn_eq (hls l List.mem_cons_self)] at hl
        obtain ⟨n, hn⟩ := Option.isSome_iff_exists.mp hl
        have hle : n ≤ l.length := by
          rw [width?_true] at hn
          exact widthOf?_le hn
        have hsame : p.width? true (unlines (l :: ls)) = some n := by
          by_cases hne : ls = []
          · subst hne
            rwa [unlines_singleton]
          · rw [unlines_cons l hne]
            exact hwhole hn _
        rw [leavesOpen, hsame]
        simp [Nat.not_lt.mpr hle]
      rw [List.tails_cons, List.countP_cons, List.countP_cons, Pattern.closed]
      cases hl : p.occursIn l with
      | false => simpa using ih
      | true => simpa [hfirst hl] using ih
  have hlines := hall (lines s) fun _ hl => newline_notMem_of_mem_lines hl
  exact hlines.trans (h.countP_closed_le_count s)

end Pattern.LineLed

/-! ### Pieces -/

theorem widthOf?_blank_append {a : Text} (ha : ∀ c ∈ a, isBlank c = true) (ps : List Piece)
    (b : Text) : widthOf? (many isBlank :: ps) (a ++ b) =
      (widthOf? (many isBlank :: ps) b).map (a.length + ·) := by
  rw [widthOf?_many, widthOf?_many, List.takeWhile_append_of_pos ha,
    List.dropWhile_append_of_pos ha, Option.map_map, List.length_append]
  congr 1
  funext k
  exact Nat.add_assoc _ _ _

theorem widthOf?_of_blank (hs : ∀ c ∈ s, isBlank c = true) (h : widthOf? ps [] = none) :
    widthOf? (many isBlank :: ps) s = none := by
  have happend := widthOf?_blank_append hs ps []
  rw [List.append_nil] at happend
  rw [happend, widthOf?_many, List.dropWhile_nil, h]
  rfl

theorem isBlank_of_mem_concat_newline (hl : ∀ c ∈ l, isBlank c = true) :
    ∀ c ∈ l ++ ['\n'], isBlank c = true :=
  List.forall_mem_append.mpr ⟨hl, List.forall_mem_singleton.mpr isBlank_newline⟩

theorem length_le_of_drop_suffix (hs : widthOf? ps s = some n) (ht : widthOf? ps t = some m)
    (h : t.drop m <:+ s.drop n) : t.length + n ≤ s.length + m := by
  have hle := h.length_le
  have hn := widthOf?_le hs
  have hm := widthOf?_le ht
  rw [List.length_drop, List.length_drop] at hle
  omega

theorem drop_suffix_of_evenWords (heven : evenWords ps = true) (h : t <:+ s)
    (hs : widthOf? ps s = some n) (ht : widthOf? ps t = some m) : t.drop m <:+ s.drop n := by
  induction ps generalizing s t n m with
  | nil =>
    cases hs
    cases ht
    exact h
  | cons q ps ih =>
    rw [widthOf?_cons] at hs ht
    obtain ⟨i, hi, hs⟩ := Option.bind_eq_some_iff.mp hs
    obtain ⟨j, hj, ht⟩ := Option.bind_eq_some_iff.mp ht
    obtain ⟨n, hn, rfl⟩ := Option.map_eq_some_iff.mp hs
    obtain ⟨m, hm, rfl⟩ := Option.map_eq_some_iff.mp ht
    rw [← List.drop_drop, ← List.drop_drop]
    cases q with
    | one accepts =>
      have hone {r : Text} {x : Nat} (hx : (one accepts).width? r = some x) : x = 1 := by
        rcases r with - | ⟨c, r⟩
        · cases hx
        · rw [Piece.width?] at hx
          split_ifs at hx
          exact (Option.some.inj hx).symm
      obtain rfl := hone hi
      obtain rfl := hone hj
      exact ih heven (drop_suffix_drop h) hn hm
    | many accepts =>
      obtain rfl : (s.takeWhile accepts).length = i := Option.some.inj hi
      obtain rfl : (t.takeWhile accepts).length = j := Option.some.inj hj
      have hrest : t.drop (t.takeWhile accepts).length <:+ s.drop (s.takeWhile accepts).length := by
        rw [drop_length_takeWhile, drop_length_takeWhile]
        exact dropWhile_suffix_dropWhile h
      exact ih heven hrest hn hm
    | anyOf words =>
      rw [evenWords, Bool.and_eq_true] at heven
      obtain ⟨v, hv, rfl⟩ := Option.map_eq_some_iff.mp hi
      obtain ⟨w, hw, rfl⟩ := Option.map_eq_some_iff.mp hj
      have hall : ∀ v ∈ words, ∀ w ∈ words, v.length = w.length := by simpa using heven.1
      have hlen := hall v (List.mem_of_find?_eq_some hv) w (List.mem_of_find?_eq_some hw)
      rw [← hlen] at hm ⊢
      exact ih heven.2 (drop_suffix_drop h) hn hm

theorem notMem_take_of_shuns {c : Char} (h : ∀ q ∈ ps, q.shuns c = true)
    (hs : widthOf? ps s = some n) : c ∉ s.take n := by
  intro hc
  obtain ⟨a, b, hab⟩ := List.append_of_mem hc
  have hparts := List.take_append_drop n s
  rw [hab, List.append_assoc, List.cons_append] at hparts
  rw [← hparts, widthOf?_append_cons h] at hs
  have hle := widthOf?_le hs
  have hlen := congrArg List.length hab
  rw [List.length_take, List.length_append, List.length_cons] at hlen
  omega

theorem drop_of_shuns {c : Char} (h : ∀ q ∈ ps, q.shuns c = true)
    (hs : widthOf? (ps ++ [word [c]]) s = some n) :
    s.drop n = (s.dropWhile (· != c)).drop 1 := by
  rw [widthOf?_append] at hs
  obtain ⟨i, hi, hs⟩ := Option.bind_eq_some_iff.mp hs
  obtain ⟨k, hk, rfl⟩ := Option.map_eq_some_iff.mp hs
  rw [word, widthOf?_anyOf] at hk
  obtain ⟨w, hw, hk⟩ := Option.bind_eq_some_iff.mp hk
  obtain rfl := List.mem_singleton.mp (List.mem_of_find?_eq_some hw)
  obtain ⟨r, hr⟩ := prefix_of_find? hw
  obtain rfl : 1 = k := Option.some.inj hk
  have hparts : s.take i ++ c :: r = s := by
    rw [← List.singleton_append, hr, List.take_append_drop]
  conv => rhs; rw [← hparts, dropWhile_ne_append (notMem_take_of_shuns h hi)]
  rw [← List.drop_drop, ← hr]
  rfl

def endsInLine : List Piece → Bool
  | [] => true
  | many accepts :: ps => (!accepts '\n' || (widthOf? ps []).isNone) && endsInLine ps
  | _ :: ps => endsInLine ps

theorem widthOf?_whole (hlines : withinLines ps = true) (hends : endsInLine ps = true)
    (h : widthOf? ps s = some n) (b : Text) : widthOf? ps (s ++ '\n' :: b) = some n := by
  induction ps generalizing s n with
  | nil => exact h
  | cons q ps ih =>
    cases q with
    | one accepts =>
      rcases s with - | ⟨c, s⟩
      · cases h
      · rw [widthOf?_one_cons] at h
        rw [List.cons_append, widthOf?_one_cons]
        split_ifs at h ⊢
        obtain ⟨k, hk, rfl⟩ := Option.map_eq_some_iff.mp h
        rw [ih hlines hends hk]
        rfl
    | many accepts =>
      rw [endsInLine, Bool.and_eq_true] at hends
      rw [widthOf?_many] at h ⊢
      obtain ⟨k, hk, rfl⟩ := Option.map_eq_some_iff.mp h
      by_cases hrest : s.dropWhile accepts = []
      · rw [hrest] at hk
        have hn : accepts '\n' = false := by simpa [hk] using hends.1
        rw [takeWhile_append_cons hn, dropWhile_append_cons hn, hrest, ih hlines hends.2 hk]
        rfl
      · have hx := exists_false_of_dropWhile_ne_nil hrest
        rw [takeWhile_append_of_exists hx, dropWhile_append_of_exists hx, ih hlines hends.2 hk]
        rfl
    | anyOf words =>
      rw [withinLines, Bool.and_eq_true] at hlines
      have hwords : ∀ w ∈ words, '\n' ∉ w := by simpa using hlines.1
      rw [widthOf?_anyOf] at h
      obtain ⟨w, hw, h⟩ := Option.bind_eq_some_iff.mp h
      obtain ⟨k, hk, rfl⟩ := Option.map_eq_some_iff.mp h
      rw [widthOf?_anyOf, find?_isPrefixOf_append hwords, hw, Option.bind_some,
        List.drop_append_of_le_length (prefix_of_find? hw).length_le, ih hlines.2 hends hk]
      rfl

/-! ### Patterns that begin with blanks -/

theorem lineLed_of_blanks (hlines : withinLines ps = true) (hruns : runsEnd (many isBlank :: ps) = true)
    (hsolid : widthOf? ps [] = none)
    (hordered : ∀ {s t n m}, t <:+ s → widthOf? (many isBlank :: ps) s = some n →
      widthOf? (many isBlank :: ps) t = some m → t.drop m <:+ s.drop n) :
    (atLineStart (many isBlank :: ps)).LineLed where
  lineStart := rfl
  solid hs := widthOf?_of_blank hs hsolid
  below {l b n} hl hb := by
    rw [width?_true] at hb ⊢
    rw [List.append_cons, atLineStart, widthOf?_blank_append (isBlank_of_mem_concat_newline hl)]
    rw [atLineStart] at hb
    rw [hb, List.length_append]
    rfl
  kept {s} hs b := by
    rw [width?_true] at hs ⊢
    obtain ⟨n, hn⟩ := Option.ne_none_iff_exists'.mp hs
    have hwithin : withinLines (many isBlank :: ps) = true := hlines
    obtain ⟨m, hm, -⟩ := keeps_of_widthOf? hwithin hruns hn b
    exact Option.ne_none_iff_exists'.mpr ⟨m, hm⟩
  ordered {s t n m} h hs ht := by
    rw [width?_true] at hs ht
    exact length_le_of_drop_suffix hs ht (hordered h hs ht)

theorem lineLed_of_steady (h : steady (many isBlank :: ps) = true) :
    (atLineStart (many isBlank :: ps)).LineLed := by
  simp only [steady, Bool.and_eq_true, Option.isNone_iff_eq_none] at h
  obtain ⟨⟨⟨hlines, hruns⟩, heven⟩, hsolid⟩ := h
  rw [widthOf?_many, Option.map_eq_none_iff] at hsolid
  exact lineLed_of_blanks hlines hruns hsolid fun ht hs hm => drop_suffix_of_evenWords heven ht hs hm

theorem lineLed_of_indented (h : steady (one isBlank :: many isBlank :: ps) = true)
    (hsolid : widthOf? ps [] = none) : (atLineStart (one isBlank :: many isBlank :: ps)).LineLed := by
  simp only [steady, Bool.and_eq_true] at h
  obtain ⟨⟨⟨hlines, hruns⟩, heven⟩, -⟩ := h
  refine ⟨rfl, ?_, ?_, ?_, ?_⟩
  · intro s hs
    rw [width?_true, atLineStart]
    rcases s with - | ⟨c, s⟩
    · rfl
    · have hrest : ∀ x ∈ s, isBlank x = true := fun x hx => hs x (List.mem_cons_of_mem _ hx)
      rw [widthOf?_one_cons, widthOf?_of_blank hrest hsolid]
      split_ifs <;> rfl
  · intro l b n hl hb
    rw [width?_true, atLineStart] at hb ⊢
    rcases b with - | ⟨c, b⟩
    · cases hb
    · rw [widthOf?_one_cons] at hb
      split_ifs at hb with hc
      obtain ⟨k, hk, rfl⟩ := Option.map_eq_some_iff.mp hb
      obtain ⟨d, r, hend⟩ := List.exists_cons_of_ne_nil (List.concat_ne_nil '\n' l)
      have hblank := isBlank_of_mem_concat_newline hl
      rw [hend] at hblank
      have hlen := congrArg List.length hend
      obtain ⟨hd, hr⟩ := List.forall_mem_cons.mp hblank
      have hrest : ∀ x ∈ r ++ [c], isBlank x = true :=
        List.forall_mem_append.mpr ⟨hr, List.forall_mem_singleton.mpr hc⟩
      rw [List.append_cons, hend, List.cons_append, List.append_cons, widthOf?_one_cons,
        if_pos hd, widthOf?_blank_append hrest, hk]
      simp only [List.length_append, List.length_cons, List.length_nil] at hlen
      simp only [Option.map_some, Option.some.injEq, List.length_append, List.length_cons,
        List.length_nil]
      omega
  · intro s hs b
    rw [width?_true] at hs ⊢
    obtain ⟨n, hn⟩ := Option.ne_none_iff_exists'.mp hs
    obtain ⟨m, hm, -⟩ := keeps_of_widthOf? hlines hruns hn b
    exact Option.ne_none_iff_exists'.mpr ⟨m, hm⟩
  · intro s t n m ht hs hm
    rw [width?_true] at hs hm
    exact length_le_of_drop_suffix hs hm (drop_suffix_of_evenWords heven ht hs hm)

end DiagramReview.Text
