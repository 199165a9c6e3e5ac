import DiagramReview.Proofs.Text.Separator

/-!
Reading a text from its front: a match at the front is found before those in the rest, and where
none begins there, the first character is passed over. For patterns that spell out a few words, no
two of which overlap, the matches are then all the places where one of the words stands.
-/

namespace DiagramReview.Text

open Piece Pattern

variable {p : Pattern} {ps : List Piece} {words : List Text} {accepts : Char → Bool}
  {a b s t w : Text} {c d : Char}

theorem scan_append (hl : p.lineStart = false) (a b : Text) :
    p.scan true a.length (a ++ b) = p.occurrences b := by
  induction a with
  | nil => rfl
  | cons c a ih =>
    rw [List.length_cons, List.cons_append, scan, scan_eq_scan_true hl]
    exact ih

theorem occurrences_cons (hl : p.lineStart = false) (h : widthOf? p.pieces (c :: s) = none) :
    p.occurrences (c :: s) = p.occurrences s := by
  have hwidth : p.width? true (c :: s) = none := width?_eq_none_of_widthOf? h
  rw [occurrences, scan_of_width?_ne_succ (by simp [hwidth]), scan_eq_scan_true hl]
  rfl

theorem occurrences_append (hl : p.lineStart = false) (ha : a ≠ [])
    (h : widthOf? p.pieces (a ++ b) = some a.length) :
    p.occurrences (a ++ b) = a :: p.occurrences b := by
  obtain ⟨c, a, rfl⟩ := List.exists_cons_of_ne_nil ha
  have hwidth : p.width? true (c :: (a ++ b)) = some (a.length + 1) := by
    rw [width?_of_anywhere hl]
    exact h
  rw [List.cons_append, occurrences, scan_of_width?_succ hwidth, List.take_left,
    scan_eq_scan_true hl, scan_append hl]

theorem count_cons (hl : p.lineStart = false) (h : widthOf? p.pieces (c :: s) = none) :
    p.count (c :: s) = p.count s := by
  rw [count, occurrences_cons hl h, count]

theorem count_append (hl : p.lineStart = false) (ha : a ≠ [])
    (h : widthOf? p.pieces (a ++ b) = some a.length) : p.count (a ++ b) = p.count b + 1 := by
  rw [count, occurrences_append hl ha h, List.length_cons, count]

theorem widthOf?_word_append (w s : Text) (ps : List Piece) :
    widthOf? (word w :: ps) (w ++ s) = (widthOf? ps s).map (w.length + ·) := by
  have hfirst : [w].find? (·.isPrefixOf (w ++ s)) = some w := by simp
  rw [word, widthOf?_anyOf, hfirst, Option.bind_some, List.drop_left]

theorem widthOf?_run_cons (accepts : Char → Bool) (ps : List Piece) (d : Char) (s : Text) :
    widthOf? (run accepts ++ ps) (d :: s) = if accepts d then
      (widthOf? ps (s.dropWhile accepts)).map ((s.takeWhile accepts).length + 1 + ·) else none := by
  rw [run, List.cons_append, widthOf?_one_cons, List.cons_append, List.nil_append, widthOf?_many,
    Option.map_map]
  split_ifs
  · congr 1
    funext n
    rw [Function.comp_apply, Nat.add_comm _ 1, Nat.add_assoc]
  · rfl

theorem widthOf?_word_of_ne (hd : d ≠ c) (w s : Text) (ps : List Piece) :
    widthOf? (word (c :: w) :: ps) (d :: s) = none := by
  have hnone : [c :: w].find? (·.isPrefixOf (d :: s)) = none := by simp [hd.symm]
  rw [word, widthOf?_anyOf, hnone]
  rfl

theorem widthOf?_word_of_notMem (ha : c ∉ a) (hd : d ≠ c) (w s : Text) (ps : List Piece) :
    widthOf? (word (c :: w) :: ps) (a ++ d :: s) = none := by
  rcases a with - | ⟨x, a⟩
  · exact widthOf?_word_of_ne hd w s ps
  · rw [List.mem_cons, not_or] at ha
    exact widthOf?_word_of_ne (Ne.symm ha.1) w _ ps

theorem count_cons_of_ne (hl : p.lineStart = false) (hp : p.pieces = word (c :: w) :: ps)
    (hd : d ≠ c) (s : Text) : p.count (d :: s) = p.count s := by
  apply count_cons hl
  rw [hp]
  exact widthOf?_word_of_ne hd w s ps

theorem count_append_of_notMem (hl : p.lineStart = false) (hp : p.pieces = word (c :: w) :: ps)
    (ha : c ∉ a) (b : Text) : p.count (a ++ b) = p.count b := by
  induction a with
  | nil => rfl
  | cons d a ih =>
    rw [List.mem_cons, not_or] at ha
    rw [List.cons_append, count_cons_of_ne hl hp (Ne.symm ha.1), ih ha.2]

theorem count_of_notMem (hl : p.lineStart = false) (hp : p.pieces = word (c :: w) :: ps)
    (ha : c ∉ a) : p.count a = 0 := by
  have h := count_append_of_notMem hl hp ha []
  rwa [List.append_nil] at h

theorem occurrences_append_of_none (hl : p.lineStart = false) (hp : p.pieces = one accepts :: ps)
    (ha : ∀ c ∈ a, accepts c = false) (b : Text) : p.occurrences (a ++ b) = p.occurrences b := by
  induction a with
  | nil => rfl
  | cons d a ih =>
    obtain ⟨hd, ha⟩ := List.forall_mem_cons.mp ha
    have hnone : widthOf? p.pieces (d :: (a ++ b)) = none := by
      rw [hp, widthOf?_one_cons, hd, if_neg Bool.false_ne_true]
    rw [List.cons_append, occurrences_cons hl hnone, ih ha]

theorem takeWhile_of_head (ht : ∀ c ∈ t.head?, accepts c = false) : t.takeWhile accepts = [] := by
  cases t with
  | nil => rfl
  | cons c t => simp [ht c rfl]

theorem dropWhile_of_head (ht : ∀ c ∈ t.head?, accepts c = false) : t.dropWhile accepts = t := by
  cases t with
  | nil => rfl
  | cons c t => simp [ht c rfl]

theorem widthOf?_many_of_head (hs : ∀ c ∈ s.head?, accepts c = false) (ps : List Piece) :
    widthOf? (many accepts :: ps) s = widthOf? ps s := by
  rw [widthOf?_many, takeWhile_of_head hs, dropWhile_of_head hs]
  simp

def Spells (ps : List Piece) (words : List Text) : Prop :=
  ∀ s, widthOf? ps s = (words.find? (·.isPrefixOf s)).map List.length

theorem spells_nil : Spells [] [[]] := fun _ => rfl

namespace Spells

variable (h : Spells ps words)
include h

theorem word_cons (w : Text) : Spells (word w :: ps) (words.map (w ++ ·)) := by
  intro s
  rw [word, widthOf?_anyOf, List.find?_map]
  by_cases hw : w <+: s
  · obtain ⟨r, rfl⟩ := hw
    have hsame : ((·.isPrefixOf (w ++ r)) ∘ (w ++ ·) : Text → Bool) = (·.isPrefixOf r) := by
      funext v
      rw [Function.comp_apply, Bool.eq_iff_iff, List.isPrefixOf_iff_prefix,
        List.isPrefixOf_iff_prefix, List.prefix_append_right_inj]
    have hfirst : [w].find? (·.isPrefixOf (w ++ r)) = some w := by simp
    have hlength : (w.length + ·) ∘ List.length = (List.length ∘ (w ++ ·) : Text → Nat) := by
      funext v
      exact List.length_append.symm
    rw [hfirst, Option.bind_some, List.drop_left, h r, hsame, Option.map_map, Option.map_map, hlength]
  · have hnone : words.find? ((·.isPrefixOf s) ∘ (w ++ ·)) = none := by
      apply List.find?_eq_none.mpr
      intro v _ hv
      exact hw ((List.prefix_append w v).trans (List.isPrefixOf_iff_prefix.mp hv))
    have hfirst : [w].find? (·.isPrefixOf s) = none := by simpa using hw
    rw [hfirst, hnone]
    rfl

theorem charOf_cons (cs : Text) :
    Spells (charOf cs :: ps) (cs.flatMap fun c => words.map (c :: ·)) := by
  intro s
  rcases s with - | ⟨d, s⟩
  · have hnone : (cs.flatMap fun c => words.map (c :: ·)).find? (·.isPrefixOf []) = none := by
      simp [List.find?_eq_none]
    rw [hnone]
    rfl
  · have hfind (c : Char) : (words.map (c :: ·)).find? (·.isPrefixOf (d :: s)) =
        if c = d then (words.find? (·.isPrefixOf s)).map (d :: ·) else none := by
      rw [List.find?_map]
      split_ifs with hc
      · subst hc
        simp [Function.comp_def, List.isPrefixOf]
      · simp [Function.comp_def, List.isPrefixOf, hc]
    have hsome : cs.findSome? (fun c => (words.map (c :: ·)).find? (·.isPrefixOf (d :: s))) =
        if cs.contains d then (words.find? (·.isPrefixOf s)).map (d :: ·) else none := by
      simp only [hfind]
      induction cs with
      | nil => rfl
      | cons c cs ih =>
        rw [List.findSome?_cons, ih, List.contains_cons]
        by_cases hc : c = d
        · subst hc
          cases words.find? (·.isPrefixOf s) <;> simp
        · simp [hc, Ne.symm hc]
    rw [charOf, widthOf?_one_cons, List.find?_flatMap, hsome, h s]
    split_ifs
    · simp [Function.comp_def, Nat.add_comm]
    · rfl

end Spells

theorem Spells.count_eq_zero (h : Spells p.pieces words)
    (hwords : ∀ w ∈ words, c ∈ w) (hs : c ∉ s) : p.count s = 0 := by
  have hnone (t : Text) (ht : t <:+ s) : widthOf? p.pieces t = none := by
    rw [h, Option.map_eq_none_iff, List.find?_eq_none]
    intro w hw hprefix
    exact hs (ht.subset ((List.isPrefixOf_iff_prefix.mp hprefix).subset (hwords w hw)))
  rw [count, occurrences, scan_of_suffixes hnone, List.length_nil]

structure Pattern.Apart (p : Pattern) : Prop where
  lineStart : p.lineStart = false
  pos : ∀ {s n}, widthOf? p.pieces s = some n → 0 < n
  within : ∀ {s n k}, widthOf? p.pieces s = some n → k + 1 < n →
    widthOf? p.pieces (s.drop (k + 1)) = none

namespace Pattern.Apart

variable (h : p.Apart)
include h

theorem length_scan {k : Nat} (hk : ∀ j < k, widthOf? p.pieces (s.drop j) = none) :
    (p.scan true k s).length = s.tails.countP fun t => (widthOf? p.pieces t).isSome := by
  induction s generalizing k with
  | nil =>
    have hnil : widthOf? p.pieces [] = none := by
      rw [Option.eq_none_iff_forall_ne_some]
      intro n hn
      have hpos := h.pos hn
      have hle := widthOf?_le hn
      rw [List.length_nil] at hle
      omega
    simp [scan, hnil]
  | cons c s ih =>
    rw [List.tails_cons, List.countP_cons]
    cases k with
    | succ k =>
      have hnone := hk 0 (Nat.succ_pos k)
      rw [List.drop_zero] at hnone
      rw [scan, scan_eq_scan_true h.lineStart, ih fun j hj => hk (j + 1) (by omega), hnone]
      rfl
    | zero =>
      cases hw : widthOf? p.pieces (c :: s) with
      | none =>
        have hwidth : p.width? true (c :: s) = none := width?_eq_none_of_widthOf? hw
        rw [scan_of_width?_ne_succ (by simp [hwidth]), scan_eq_scan_true h.lineStart,
          ih (by simp)]
        rfl
      | some n =>
        obtain ⟨n, rfl⟩ := Nat.exists_eq_succ_of_ne_zero (Nat.ne_of_gt (h.pos hw))
        have hwidth := (width?_of_anywhere h.lineStart true (c :: s)).trans hw
        have hrest : ∀ j < n, widthOf? p.pieces (s.drop j) = none := fun j hj =>
          h.within hw (by omega)
        rw [scan_of_width?_succ hwidth, List.length_cons, scan_eq_scan_true h.lineStart, ih hrest]
        rfl

theorem count_eq (s : Text) :
    p.count s = s.tails.countP fun t => (widthOf? p.pieces t).isSome :=
  h.length_scan (by simp)

end Pattern.Apart

def places (words : List Text) (s : Text) : Nat :=
  s.tails.countP fun t => words.any (·.isPrefixOf t)

def apart (words : List Text) : Bool :=
  words.all fun w => !w.isEmpty && w.tail.tails.all fun t =>
    t.isEmpty || words.all fun v => !t.isPrefixOf v && !v.isPrefixOf t

theorem places_cons (words : List Text) (c : Char) (s : Text) : places words (c :: s) =
    (if words.any (·.isPrefixOf (c :: s)) then 1 else 0) + places words s := by
  rw [places, List.tails_cons, List.countP_cons, Nat.add_comm, places]

theorem not_prefix_of_apart (h : apart words = true) {v t : Text} (hw : c :: w ∈ words)
    (hv : v ∈ words) (ht : t <:+ w) (hne : t ≠ []) (b : Text) : ¬ v <+: t ++ b := by
  have hall := List.all_eq_true.mp h _ hw
  simp only [List.tail_cons, Bool.and_eq_true, List.all_eq_true, List.mem_tails, Bool.or_eq_true,
    List.isEmpty_iff, Bool.not_eq_true', ← Bool.not_eq_true, List.isPrefixOf_iff_prefix] at hall
  exact fun hp => not_prefix_of_prefix ((hall.2 t ht).resolve_left hne v hv) (List.prefix_append t b) hp

theorem ne_nil_of_apart (h : apart words = true) (hw : w ∈ words) : w ≠ [] := by
  rintro rfl
  exact absurd (List.all_eq_true.mp h _ hw) (by simp)

theorem Spells.isSome_widthOf? (h : Spells ps words) (s : Text) :
    (widthOf? ps s).isSome = words.any (·.isPrefixOf s) := by
  rw [h, Option.isSome_map, List.isSome_find?]

theorem Spells.apart (hl : p.lineStart = false) (h : Spells p.pieces words)
    (ha : apart words = true) : p.Apart := by
  have hword {s : Text} {n : Nat} (hn : widthOf? p.pieces s = some n) :
      ∃ c w b, c :: w ∈ words ∧ n = w.length + 1 ∧ s = c :: (w ++ b) := by
    rw [h] at hn
    obtain ⟨w, hw, rfl⟩ := Option.map_eq_some_iff.mp hn
    have hmem := List.mem_of_find?_eq_some hw
    obtain ⟨c, w, rfl⟩ := List.exists_cons_of_ne_nil (ne_nil_of_apart ha hmem)
    obtain ⟨b, rfl⟩ := prefix_of_find? hw
    exact ⟨c, w, b, hmem, rfl, rfl⟩
  refine ⟨hl, ?_, ?_⟩
  · intro s n hn
    obtain ⟨c, w, b, -, rfl, -⟩ := hword hn
    omega
  · intro s n k hn hk
    obtain ⟨c, w, b, hmem, rfl, rfl⟩ := hword hn
    have hne : w.drop k ≠ [] := by
      rw [Ne, List.drop_eq_nil_iff]
      omega
    have hnone : ∀ v ∈ words, ¬ v <+: w.drop k ++ b := fun v hv =>
      not_prefix_of_apart ha hmem hv (List.drop_suffix k w) hne b
    rw [List.drop_succ_cons, List.drop_append_of_le_length (by omega), h, Option.map_eq_none_iff]
    simpa using hnone

theorem count_eq_places (hl : p.lineStart = false) (h : Spells p.pieces words)
    (ha : apart words = true) (s : Text) : p.count s = places words s := by
  rw [(h.apart hl ha).count_eq]
  simp only [h.isSome_widthOf?]
  rfl

end DiagramReview.Text
