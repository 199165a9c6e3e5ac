import DiagramReview.Proofs.Text.Insertion
import DiagramReview.Proofs.Text.Match

/-!
Matches of a pattern in a text to which lines are added. A match that reaches the end of the text
may go on in the new lines, and a match that was broken off there may come about; neither costs a
match that was counted before, so the count does not go down.
-/

namespace DiagramReview.Text

open Piece Pattern

variable {ps : List Piece} {accepts : Char → Bool} {a b s t : Text}

/-! ### Pieces at the end of a text -/

theorem drop_length_takeWhile (accepts : Char → Bool) (s : Text) :
    s.drop (s.takeWhile accepts).length = s.dropWhile accepts := by
  have h : (s.takeWhile accepts ++ s.dropWhile accepts).drop (s.takeWhile accepts).length =
      s.dropWhile accepts := List.drop_left
  rwa [List.takeWhile_append_dropWhile] at h

theorem length_takeWhile_add_length_dropWhile (accepts : Char → Bool) (s : Text) :
    (s.takeWhile accepts).length + (s.dropWhile accepts).length = s.length := by
  rw [← List.length_append, List.takeWhile_append_dropWhile]

theorem widthOf?_many (accepts : Char → Bool) (ps : List Piece) (s : Text) :
    widthOf? (many accepts :: ps) s =
      (widthOf? ps (s.dropWhile accepts)).map ((s.takeWhile accepts).length + ·) := by
  rw [widthOf?_cons, Piece.width?, Option.bind_some, drop_length_takeWhile]

theorem widthOf?_one_cons (accepts : Char → Bool) (ps : List Piece) (c : Char) (s : Text) :
    widthOf? (one accepts :: ps) (c :: s) =
      if accepts c then (widthOf? ps s).map (1 + ·) else none := by
  rw [widthOf?_cons, Piece.width?]
  split_ifs <;> rfl

theorem widthOf?_anyOf (words : List Text) (ps : List Piece) (s : Text) :
    widthOf? (anyOf words :: ps) s = (words.find? (·.isPrefixOf s)).bind fun w =>
      (widthOf? ps (s.drop w.length)).map (w.length + ·) := by
  rw [widthOf?_cons, Piece.width?, Option.bind_map]
  rfl

theorem find?_isPrefixOf_append {words : List Text} {c : Char} (h : ∀ w ∈ words, c ∉ w)
    (s b : Text) : words.find? (·.isPrefixOf (s ++ c :: b)) = words.find? (·.isPrefixOf s) := by
  induction words with
  | nil => rfl
  | cons w words ih =>
    have hw : w.isPrefixOf (s ++ c :: b) = w.isPrefixOf s := by
      rw [Bool.eq_iff_iff, List.isPrefixOf_iff_prefix, List.isPrefixOf_iff_prefix]
      exact prefix_append_cons_iff (h w List.mem_cons_self)
    rw [List.find?_cons, List.find?_cons, hw, ih fun v hv => h v (List.mem_cons_of_mem _ hv)]

theorem prefix_of_find? {words : List Text} {w : Text}
    (h : words.find? (·.isPrefixOf s) = some w) : w <+: s := by
  simpa using List.find?_some h

theorem exists_false_of_dropWhile_ne_nil {p : Char → Bool} (h : s.dropWhile p ≠ []) :
    ∃ x ∈ s, p x = false := by
  rw [Ne, List.dropWhile_eq_nil_iff] at h
  simpa using h

theorem takeWhile_append_of_exists {p : Char → Bool} (h : ∃ x ∈ s, p x = false) (b : Text) :
    (s ++ b).takeWhile p = s.takeWhile p := by
  have hs : (s ++ b).takeWhile p ++ (s ++ b).dropWhile p =
      s.takeWhile p ++ (s.dropWhile p ++ b) := by
    rw [List.takeWhile_append_dropWhile, ← List.append_assoc, List.takeWhile_append_dropWhile]
  rw [dropWhile_append_of_exists h] at hs
  exact List.append_cancel_right hs

theorem dropWhile_suffix_dropWhile {p : Char → Bool} (h : t <:+ s) :
    t.dropWhile p <:+ s.dropWhile p := by
  obtain ⟨a, rfl⟩ := h
  induction a with
  | nil => exact List.suffix_rfl
  | cons c a ih =>
    rw [List.cons_append, List.dropWhile_cons]
    split_ifs
    · exact ih
    · exact ((List.dropWhile_suffix p).trans (List.suffix_append a t)).trans (List.suffix_cons _ _)

theorem drop_suffix_drop {n : Nat} (h : t <:+ s) : t.drop n <:+ s.drop n := by
  obtain ⟨a, rfl⟩ := h
  induction a generalizing n with
  | nil => exact List.suffix_rfl
  | cons c a ih =>
    cases n with
    | zero => exact (List.suffix_append _ _)
    | succ n =>
      rw [List.cons_append, List.drop_succ_cons]
      exact (List.drop_suffix_drop_left t (Nat.le_succ n)).trans ih

/-! ### Conditions on pieces -/

def withinLines : List Piece → Bool
  | [] => true
  | anyOf words :: ps => words.all (fun w => !w.contains '\n') && withinLines ps
  | _ :: ps => withinLines ps

/-- Is a run either the last piece or one after which a character must follow? -/
def runsEnd : List Piece → Bool
  | [] => true
  | many _ :: ps => (ps.isEmpty || (widthOf? ps []).isNone) && runsEnd ps
  | _ :: ps => runsEnd ps

def evenWords : List Piece → Bool
  | [] => true
  | anyOf words :: ps =>
    words.all (fun v => words.all fun w => v.length == w.length) && evenWords ps
  | _ :: ps => evenWords ps

def Piece.shuns (c : Char) : Piece → Bool
  | one accepts => !accepts c
  | many accepts => !accepts c
  | anyOf words => words.all fun w => !w.contains c

/-! ### Matches that stay -/

def Keeps (ps : List Piece) (s b : Text) (n : Nat) : Prop :=
  ∃ m, widthOf? ps (s ++ '\n' :: b) = some m ∧ n ≤ m ∧ (n < s.length → m = n)

namespace Keeps

variable {k : Nat}

theorem of_one {c : Char} (hc : accepts c = true) (h : Keeps ps s b k) :
    Keeps (one accepts :: ps) (c :: s) b (1 + k) := by
  obtain ⟨m, hm, hle, heq⟩ := h
  refine ⟨1 + m, ?_, by omega, fun hlt => ?_⟩
  · rw [List.cons_append, widthOf?_one_cons, if_pos hc, hm]
    rfl
  · rw [List.length_cons] at hlt
    rw [heq (by omega)]

theorem of_many_of_all (h : s.dropWhile accepts = []) :
    Keeps [many accepts] s b (s.takeWhile accepts).length := by
  have htaken : ∀ c ∈ s, accepts c = true := List.dropWhile_eq_nil_iff.mp h
  have hall : s.takeWhile accepts = s := List.takeWhile_eq_self_iff.mpr htaken
  refine ⟨((s ++ '\n' :: b).takeWhile accepts).length, ?_, ?_, ?_⟩
  · rw [widthOf?_many]
    rfl
  · rw [List.takeWhile_append_of_pos htaken, hall, List.length_append]
    omega
  · rw [hall]
    omega

theorem of_many (hrest : s.dropWhile accepts ≠ []) (h : Keeps ps (s.dropWhile accepts) b k) :
    Keeps (many accepts :: ps) s b ((s.takeWhile accepts).length + k) := by
  have hx := exists_false_of_dropWhile_ne_nil hrest
  obtain ⟨m, hm, hle, heq⟩ := h
  refine ⟨(s.takeWhile accepts).length + m, ?_, by omega, fun hlt => ?_⟩
  · rw [widthOf?_many, dropWhile_append_of_exists hx, takeWhile_append_of_exists hx, hm]
    rfl
  · have hlen := length_takeWhile_add_length_dropWhile accepts s
    rw [heq (by omega)]

theorem of_anyOf {words : List Text} {w : Text} (hwords : ∀ w ∈ words, '\n' ∉ w)
    (hw : words.find? (·.isPrefixOf s) = some w) (h : Keeps ps (s.drop w.length) b k) :
    Keeps (anyOf words :: ps) s b (w.length + k) := by
  have hlen := (prefix_of_find? hw).length_le
  obtain ⟨m, hm, hle, heq⟩ := h
  refine ⟨w.length + m, ?_, by omega, fun hlt => ?_⟩
  · rw [widthOf?_anyOf, find?_isPrefixOf_append hwords, hw, Option.bind_some,
      List.drop_append_of_le_length hlen, hm]
    rfl
  · rw [heq (by rw [List.length_drop]; omega)]

end Keeps

theorem keeps_of_widthOf? (hlines : withinLines ps = true) (hruns : runsEnd ps = true) {n : Nat}
    (h : widthOf? ps s = some n) (b : Text) : Keeps ps s b n := by
  induction ps generalizing s n with
  | nil => exact ⟨n, h, Nat.le_refl n, fun _ => rfl⟩
  | cons q ps ih =>
    cases q with
    | one accepts =>
      rcases s with - | ⟨c, s⟩
      · cases h
      · rw [widthOf?_one_cons] at h
        split_ifs at h with hc
        obtain ⟨k, hk, rfl⟩ := Option.map_eq_some_iff.mp h
        exact (ih hlines hruns hk).of_one hc
    | many accepts =>
      rw [runsEnd, Bool.and_eq_true] at hruns
      rw [widthOf?_many] at h
      obtain ⟨k, hk, rfl⟩ := Option.map_eq_some_iff.mp h
      by_cases hrest : s.dropWhile accepts = []
      · rw [hrest] at hk
        obtain rfl : ps = [] := by simpa [hk] using hruns.1
        obtain rfl := Option.some.inj hk
        exact Keeps.of_many_of_all hrest
      · exact (ih hlines hruns.2 hk).of_many hrest
    | anyOf words =>
      rw [withinLines, Bool.and_eq_true] at hlines
      rw [widthOf?_anyOf] at h
      obtain ⟨w, hw, h⟩ := Option.bind_eq_some_iff.mp h
      obtain ⟨k, hk, rfl⟩ := Option.map_eq_some_iff.mp h
      exact (ih hlines.2 hruns hk).of_anyOf (by simpa using hlines.1) hw

/-! ### Matches that come about -/

/-- The pieces fit only with the lines added: a match is broken off at the end of the text. -/
def BrokenOff (ps : List Piece) (s b : Text) : Prop :=
  widthOf? ps s = none ∧ widthOf? ps (s ++ '\n' :: b) ≠ none

namespace BrokenOff

theorem of_one (h : BrokenOff (one accepts :: ps) s b) :
    s = [] ∨ ∃ c r, s = c :: r ∧ accepts c = true ∧ BrokenOff ps r b := by
  obtain ⟨hs, hb⟩ := h
  rcases s with - | ⟨c, r⟩
  · exact .inl rfl
  · rw [List.cons_append, widthOf?_one_cons] at hb
    rw [widthOf?_one_cons] at hs
    split_ifs at hs hb with hc
    · exact .inr ⟨c, r, rfl, hc, by simpa using hs, by simpa using hb⟩
    · exact absurd rfl hb

theorem of_many (h : BrokenOff (many accepts :: ps) s b) :
    widthOf? ps (s.dropWhile accepts) = none ∧
      (s.dropWhile accepts ≠ [] → BrokenOff ps (s.dropWhile accepts) b) := by
  obtain ⟨hs, hb⟩ := h
  rw [widthOf?_many] at hs hb
  rw [Option.map_eq_none_iff] at hs
  refine ⟨hs, fun hrest => ⟨hs, ?_⟩⟩
  rw [dropWhile_append_of_exists (exists_false_of_dropWhile_ne_nil hrest)] at hb
  simpa using hb

theorem of_anyOf {words : List Text} (hwords : ∀ w ∈ words, '\n' ∉ w)
    (h : BrokenOff (anyOf words :: ps) s b) :
    ∃ w r, w ∈ words ∧ s = w ++ r ∧ BrokenOff ps r b := by
  obtain ⟨hs, hb⟩ := h
  rw [widthOf?_anyOf] at hs hb
  rw [find?_isPrefixOf_append hwords] at hb
  cases hw : words.find? (·.isPrefixOf s) with
  | none =>
    rw [hw] at hb
    exact absurd rfl hb
  | some w =>
    obtain ⟨r, rfl⟩ := prefix_of_find? hw
    rw [hw, Option.bind_some] at hs hb
    rw [List.append_assoc, List.drop_left] at hb
    rw [List.drop_left] at hs
    exact ⟨w, r, List.mem_of_find?_eq_some hw, rfl, by simpa using hs, by simpa using hb⟩

end BrokenOff

/-- As words of one length never let a later start end earlier, pieces that are broken off at the
end of a text fit nowhere further on in it. -/
theorem widthOf?_of_brokenOff (hlines : withinLines ps = true) (heven : evenWords ps = true)
    (h : BrokenOff ps s b) (ht : t <:+ s) : widthOf? ps t = none := by
  induction ps generalizing s t with
  | nil => cases h.1
  | cons q ps ih =>
    cases q with
    | one accepts =>
      rcases t with - | ⟨d, t⟩
      · rfl
      · rcases h.of_one with rfl | ⟨c, r, rfl, -, hr⟩
        · cases List.suffix_nil.mp ht
        · have htail : t <:+ r := by simpa using drop_suffix_drop (n := 1) ht
          rw [widthOf?_one_cons, ih hlines heven hr htail]
          split_ifs <;> rfl
    | many accepts =>
      have hsuffix : t.dropWhile accepts <:+ s.dropWhile accepts := dropWhile_suffix_dropWhile ht
      obtain ⟨hs, hr⟩ := h.of_many
      rw [widthOf?_many, Option.map_eq_none_iff]
      by_cases hrest : s.dropWhile accepts = []
      · rw [hrest] at hs hsuffix
        rwa [List.suffix_nil.mp hsuffix]
      · exact ih hlines heven (hr hrest) hsuffix
    | anyOf words =>
      rw [withinLines, Bool.and_eq_true] at hlines
      rw [evenWords, Bool.and_eq_true] at heven
      obtain ⟨w, r, hw, rfl, hr⟩ := h.of_anyOf (by simpa using hlines.1)
      rw [widthOf?_anyOf]
      cases hv : words.find? (·.isPrefixOf t) with
      | none => rfl
      | some v =>
        have hall : ∀ v ∈ words, ∀ w ∈ words, v.length = w.length := by simpa using heven.1
        have hlen : v.length = w.length := hall v (List.mem_of_find?_eq_some hv) w hw
        have hdrop : t.drop w.length <:+ r := by
          simpa using drop_suffix_drop (n := w.length) ht
        rw [Option.bind_some, hlen, ih hlines.2 heven.2 hr hdrop]
        rfl

theorem mem_of_widthOf?_concat {c : Char} {n : Nat} (h : widthOf? (ps ++ [word [c]]) s = some n) :
    c ∈ s := by
  induction ps generalizing s n with
  | nil =>
    rw [List.nil_append, word, widthOf?_anyOf] at h
    obtain ⟨w, hw, -⟩ := Option.bind_eq_some_iff.mp h
    obtain rfl := List.mem_singleton.mp (List.mem_of_find?_eq_some hw)
    exact (prefix_of_find? hw).subset List.mem_cons_self
  | cons q ps ih =>
    rw [List.cons_append, widthOf?_cons] at h
    obtain ⟨k, -, h⟩ := Option.bind_eq_some_iff.mp h
    obtain ⟨m, hm, -⟩ := Option.map_eq_some_iff.mp h
    exact List.mem_of_mem_drop (ih hm)

theorem notMem_of_brokenOff {c : Char} (hc : c ≠ '\n') (hlines : withinLines ps = true)
    (hshuns : ∀ q ∈ ps, q.shuns c = true) (h : BrokenOff (ps ++ [word [c]]) s b) : c ∉ s := by
  induction ps generalizing s with
  | nil =>
    have hword : BrokenOff [anyOf [[c]]] s b := h
    obtain ⟨w, r, -, -, hr⟩ := hword.of_anyOf (by simpa using hc.symm)
    cases hr.1
  | cons q ps ih =>
    have hq := hshuns q List.mem_cons_self
    have hps := fun r hr => hshuns r (List.mem_cons_of_mem _ hr)
    cases q with
    | one accepts =>
      rcases h.of_one with rfl | ⟨d, r, rfl, hd, hr⟩
      · exact List.not_mem_nil
      · have hne : c ≠ d := by
          rintro rfl
          rw [Piece.shuns, hd] at hq
          cases hq
        simp [hne, ih hlines hps hr]
    | many accepts =>
      have hrun : c ∉ s.takeWhile accepts := by
        intro hm
        have ha := List.all_eq_true.mp (List.all_takeWhile (p := accepts)) c hm
        rw [Piece.shuns, ha] at hq
        cases hq
      have hrest : c ∉ s.dropWhile accepts := by
        by_cases hnil : s.dropWhile accepts = []
        · rw [hnil]
          exact List.not_mem_nil
        · exact ih hlines hps (h.of_many.2 hnil)
      rw [← List.takeWhile_append_dropWhile (p := accepts) (l := s), List.mem_append, not_or]
      exact ⟨hrun, hrest⟩
    | anyOf words =>
      rw [withinLines, Bool.and_eq_true] at hlines
      obtain ⟨w, r, hw, rfl, hr⟩ := h.of_anyOf (by simpa using hlines.1)
      have hall : ∀ w ∈ words, c ∉ w := by simpa [Piece.shuns] using hq
      simp [hall w hw, ih hlines.2 hps hr]

/-! ### Matches within a front of a text -/

theorem widthOf?_le {n : Nat} (h : widthOf? ps s = some n) : n ≤ s.length := by
  induction ps generalizing s n with
  | nil =>
    cases h
    exact Nat.zero_le _
  | cons q ps ih =>
    cases q with
    | one accepts =>
      rcases s with - | ⟨c, s⟩
      · cases h
      · rw [widthOf?_one_cons] at h
        split_ifs at h
        obtain ⟨k, hk, rfl⟩ := Option.map_eq_some_iff.mp h
        have hle := ih hk
        rw [List.length_cons]
        omega
    | many accepts =>
      rw [widthOf?_many] at h
      obtain ⟨k, hk, rfl⟩ := Option.map_eq_some_iff.mp h
      have hle := ih hk
      have hlen := length_takeWhile_add_length_dropWhile accepts s
      omega
    | anyOf words =>
      rw [widthOf?_anyOf] at h
      obtain ⟨w, hw, h⟩ := Option.bind_eq_some_iff.mp h
      obtain ⟨k, hk, rfl⟩ := Option.map_eq_some_iff.mp h
      have hle := ih hk
      have hlen := (prefix_of_find? hw).length_le
      rw [List.length_drop] at hle
      omega

section

variable {n : Nat}

theorem front_of_one (h : widthOf? (one accepts :: ps) (a ++ b) = some n) (hn : n ≤ a.length) :
    ∃ c r k, a = c :: r ∧ accepts c = true ∧ n = 1 + k ∧ widthOf? ps (r ++ b) = some k := by
  rcases a with - | ⟨c, r⟩
  · rcases b with - | ⟨d, b⟩
    · cases h
    · rw [List.nil_append, widthOf?_one_cons] at h
      split_ifs at h
      obtain ⟨k, -, rfl⟩ := Option.map_eq_some_iff.mp h
      rw [List.length_nil] at hn
      omega
  · rw [List.cons_append, widthOf?_one_cons] at h
    split_ifs at h with hc
    obtain ⟨k, hk, rfl⟩ := Option.map_eq_some_iff.mp h
    exact ⟨c, r, k, rfl, hc, rfl, hk⟩

theorem front_of_many (h : widthOf? (many accepts :: ps) (a ++ b) = some n) (hn : n ≤ a.length) :
    ∃ k b', n = (a.takeWhile accepts).length + k ∧
      widthOf? ps (a.dropWhile accepts ++ b') = some k := by
  rw [widthOf?_many] at h
  obtain ⟨k, hk, rfl⟩ := Option.map_eq_some_iff.mp h
  by_cases hrest : a.dropWhile accepts = []
  · have htaken : ∀ c ∈ a, accepts c = true := List.dropWhile_eq_nil_iff.mp hrest
    have hall : a.takeWhile accepts = a := List.takeWhile_eq_self_iff.mpr htaken
    rw [List.takeWhile_append_of_pos htaken, List.length_append] at hn ⊢
    rw [List.dropWhile_append_of_pos htaken] at hk
    exact ⟨k, b.dropWhile accepts, by rw [hall]; omega, by rwa [hrest]⟩
  · have hx := exists_false_of_dropWhile_ne_nil hrest
    rw [dropWhile_append_of_exists hx] at hk
    rw [takeWhile_append_of_exists hx]
    exact ⟨k, b, rfl, hk⟩

theorem front_of_anyOf {words : List Text} (h : widthOf? (anyOf words :: ps) (a ++ b) = some n)
    (hn : n ≤ a.length) : ∃ w k, words.find? (·.isPrefixOf a) = some w ∧ n = w.length + k ∧
      widthOf? ps (a.drop w.length ++ b) = some k := by
  rw [widthOf?_anyOf] at h
  obtain ⟨w, hw, h⟩ := Option.bind_eq_some_iff.mp h
  obtain ⟨k, hk, rfl⟩ := Option.map_eq_some_iff.mp h
  have hlen : w.length ≤ a.length := by omega
  refine ⟨w, k, ?_, rfl, by rwa [← List.drop_append_of_le_length hlen]⟩
  obtain ⟨hp, before, after, rfl, hbefore⟩ := List.find?_eq_some_iff_append.mp hw
  refine List.find?_eq_some_iff_append.mpr ⟨?_, before, after, rfl, ?_⟩
  · exact List.isPrefixOf_iff_prefix.mpr
      (List.prefix_of_prefix_length_le (List.isPrefixOf_iff_prefix.mp hp)
        (List.prefix_append a b) hlen)
  · intro v hv
    have hne := hbefore v hv
    rw [Bool.not_eq_true', ← Bool.not_eq_true, List.isPrefixOf_iff_prefix] at hne ⊢
    exact fun hva => hne (hva.trans (List.prefix_append a b))

theorem widthOf?_front (h : widthOf? ps (a ++ b) = some n) (hn : n ≤ a.length) :
    widthOf? ps a = some n := by
  induction ps generalizing a b n with
  | nil => exact h
  | cons q ps ih =>
    cases q with
    | one accepts =>
      obtain ⟨c, r, k, rfl, hc, rfl, hk⟩ := front_of_one h hn
      rw [List.length_cons] at hn
      rw [widthOf?_one_cons, if_pos hc, ih hk (by omega)]
      rfl
    | many accepts =>
      obtain ⟨k, b', rfl, hk⟩ := front_of_many h hn
      have hlen := length_takeWhile_add_length_dropWhile accepts a
      rw [widthOf?_many, ih hk (by omega)]
      rfl
    | anyOf words =>
      obtain ⟨w, k, hw, rfl, hk⟩ := front_of_anyOf h hn
      rw [widthOf?_anyOf, hw, Option.bind_some, ih hk (by rw [List.length_drop]; omega)]
      rfl

end

/-! ### Counts -/

structure Lasting (ps : List Piece) : Prop where
  solid : widthOf? ps [] = none
  kept : ∀ {s n}, widthOf? ps s = some n → ∀ b, Keeps ps s b n
  broken : ∀ {s t b}, BrokenOff ps s b → t <:+ s → widthOf? ps t = none

def steady (ps : List Piece) : Bool :=
  withinLines ps && runsEnd ps && evenWords ps && (widthOf? ps []).isNone

theorem lasting_of_steady (h : steady ps = true) : Lasting ps := by
  simp only [steady, Bool.and_eq_true, Option.isNone_iff_eq_none] at h
  obtain ⟨⟨⟨hlines, hruns⟩, heven⟩, hsolid⟩ := h
  exact ⟨hsolid, keeps_of_widthOf? hlines hruns, widthOf?_of_brokenOff hlines heven⟩

theorem withinLines_append (ps qs : List Piece) :
    withinLines (ps ++ qs) = (withinLines ps && withinLines qs) := by
  induction ps with
  | nil => rfl
  | cons q ps ih => cases q <;> simp [withinLines, ih, Bool.and_assoc]

theorem lasting_of_shuns {c : Char} (hc : c ≠ '\n') (hlines : withinLines ps = true)
    (hruns : runsEnd (ps ++ [word [c]]) = true) (hshuns : ∀ q ∈ ps, q.shuns c = true) :
    Lasting (ps ++ [word [c]]) := by
  have hword : withinLines [word [c]] = true := by simpa [withinLines, word] using hc.symm
  have hall : withinLines (ps ++ [word [c]]) = true := by
    rw [withinLines_append, hlines, hword]
    rfl
  refine ⟨?_, keeps_of_widthOf? hall hruns, ?_⟩
  · rw [Option.eq_none_iff_forall_ne_some]
    intro n hn
    exact List.not_mem_nil (mem_of_widthOf?_concat hn)
  · intro s t b h ht
    have hnot := notMem_of_brokenOff hc hlines hshuns h
    rw [Option.eq_none_iff_forall_ne_some]
    intro n hn
    exact hnot (ht.subset (mem_of_widthOf?_concat hn))

variable {p : Pattern}

theorem scan_of_length_le {start : Bool} {skip : Nat} (h : s.length ≤ skip) :
    p.scan start skip s = [] := by
  induction s generalizing start skip with
  | nil => rw [scan]
  | cons c s ih =>
    cases skip with
    | zero => cases h
    | succ skip =>
      rw [scan]
      exact ih (by simpa using h)

theorem width?_eq_none_of_widthOf? {start : Bool} (h : widthOf? p.pieces s = none) :
    p.width? start s = none := by
  rw [Pattern.width?, h, ite_self]

theorem scan_of_suffixes {start : Bool} (h : ∀ t, t <:+ s → widthOf? p.pieces t = none) :
    p.scan start 0 s = [] := by
  induction s generalizing start with
  | nil => rw [scan]
  | cons c s ih =>
    have hnone : p.width? start (c :: s) = none := width?_eq_none_of_widthOf? (h _ List.suffix_rfl)
    rw [scan_of_width?_ne_succ (by simp [hnone])]
    exact ih fun t ht => h t (ht.trans (List.suffix_cons _ _))

theorem length_scan_le (h : Lasting p.pieces) (b : Text) (start : Bool) (skip : Nat) (s : Text) :
    (p.scan start skip s).length ≤ (p.scan start skip (s ++ '\n' :: b)).length := by
  induction s generalizing start skip with
  | nil =>
    rw [scan_of_length_le (s := []) (by simp)]
    exact Nat.zero_le _
  | cons c s ih =>
    cases skip with
    | succ skip =>
      rw [List.cons_append, scan, scan]
      exact ih (c == '\n') skip
    | zero =>
      by_cases hstart : p.lineStart && !start
      · -- no line begins here, so no match does in either text
        have hnone (r : Text) : p.width? start r = none := if_pos hstart
        rw [List.cons_append, scan_of_width?_ne_succ (by simp [hnone]),
          scan_of_width?_ne_succ (by simp [hnone])]
        exact ih (c == '\n') 0
      · have hwidth (r : Text) : p.width? start r = widthOf? p.pieces r := if_neg hstart
        cases hw : widthOf? p.pieces (c :: s) with
        | none =>
          by_cases hb : widthOf? p.pieces (c :: s ++ '\n' :: b) = none
          · rw [List.cons_append] at hb ⊢
            rw [scan_of_width?_ne_succ (by simp [hwidth, hw]),
              scan_of_width?_ne_succ (by simp [hwidth, hb])]
            exact ih (c == '\n') 0
          · rw [scan_of_suffixes fun t ht => h.broken ⟨hw, hb⟩ ht]
            exact Nat.zero_le _
        | some n =>
          cases n with
          | zero =>
            have hnil := widthOf?_front (a := []) hw (Nat.zero_le _)
            exact absurd hnil (by simp [h.solid])
          | succ n =>
            obtain ⟨m, hm, hle, heq⟩ := h.kept hw b
            obtain ⟨k, rfl⟩ : ∃ k, m = k + 1 := ⟨m - 1, by omega⟩
            rw [List.cons_append] at hm ⊢
            rw [scan_of_width?_succ ((hwidth _).trans hw),
              scan_of_width?_succ ((hwidth _).trans hm),
              List.length_cons, List.length_cons]
            by_cases hlt : n + 1 < (c :: s).length
            · obtain rfl : k = n := by have := heq hlt; omega
              have hrest := ih (c == '\n') k
              omega
            · -- the match took all that was left, so none comes after it
              have hend : s.length ≤ n := by
                rw [List.length_cons] at hlt
                omega
              rw [scan_of_length_le hend]
              simp

theorem count_le_count_append (h : Lasting p.pieces) (a b : Text) :
    p.count a ≤ p.count (a ++ '\n' :: b) := length_scan_le h b true 0 a

end DiagramReview.Text
