import DiagramReview.Proofs.Text.Front
import DiagramReview.Proofs.Text.LineStart

namespace DiagramReview.Text

open Piece Pattern

variable {isToken : Text → Prop} {words : List Text} {ps : List Piece} {accepts : Char → Bool}
  {a b d e s v w : Text} {c : Char} {n : Nat}

/-- Two parts of the text that are tokens are one part, or one ends before the other begins. -/
def StandApart (isToken : Text → Prop) (s : Text) : Prop :=
  ∀ a v b c w d, a ++ v ++ b = s → c ++ w ++ d = s → isToken v → isToken w →
    a = c ∧ v = w ∨ a ++ v <+: c ∨ c ++ w <+: a

/-- An ending of a token begins like a token only if it is all of it and both are the same one. -/
def Separate (isToken : Text → Prop) : Prop :=
  ∀ v w t, isToken v → isToken w → t <:+ v → t ≠ [] → t <+: w ∨ w <+: t → t = v ∧ w = v

namespace Separate

variable (h : Separate isToken)
include h

theorem eq_or_precedes (hv : isToken v) (hw : isToken w) (hs : v ++ b = e ++ (w ++ d)) :
    e = [] ∧ v = w ∨ v <+: e := by
  rcases List.append_eq_append_iff.mp hs with ⟨r, rfl, -⟩ | ⟨t, rfl, ht⟩
  · exact .inr (List.prefix_append v r)
  · by_cases hne : t = []
    · subst hne
      rw [List.append_nil]
      exact .inr List.prefix_rfl
    · have hfront : t <+: w ++ d := by
        rw [ht]
        exact List.prefix_append t b
      have halike := List.prefix_or_prefix_of_prefix hfront (List.prefix_append w d)
      obtain ⟨htv, rfl⟩ := h _ w t hv hw (List.suffix_append e t) hne halike
      exact .inl ⟨List.append_left_eq_self.mp htv.symm, rfl⟩

theorem standApart (s : Text) : StandApart isToken s := by
  intro a v b c w d hv hw hvt hwt
  have ha : a <+: s := ⟨v ++ b, by rw [← List.append_assoc, hv]⟩
  have hc : c <+: s := ⟨w ++ d, by rw [← List.append_assoc, hw]⟩
  subst hv
  rcases List.prefix_or_prefix_of_prefix ha hc with ⟨e, rfl⟩ | ⟨e, rfl⟩
  · simp only [List.append_assoc, List.append_cancel_left_eq] at hw
    rcases h.eq_or_precedes hvt hwt hw.symm with ⟨rfl, rfl⟩ | hprefix
    · exact .inl ⟨(List.append_nil a).symm, rfl⟩
    · exact .inr (.inl ((List.prefix_append_right_inj a).mpr hprefix))
  · simp only [List.append_assoc, List.append_cancel_left_eq] at hw
    rcases h.eq_or_precedes hwt hvt hw with ⟨rfl, rfl⟩ | hprefix
    · exact .inl ⟨List.append_nil c, rfl⟩
    · exact .inr (.inr ((List.prefix_append_right_inj c).mpr hprefix))

end Separate

def prefixFree (words : List Text) : Bool :=
  words.all fun v => words.all fun w => !v.isPrefixOf w || v == w

theorem separate_of_apart (h : apart words = true) (hfree : prefixFree words = true) :
    Separate (· ∈ words) := by
  have hfront {v w : Text} (hv : v ∈ words) (hw : w ∈ words) (hvw : v <+: w) : v = w := by
    have hall := List.all_eq_true.mp (List.all_eq_true.mp hfree v hv) w hw
    simpa [List.isPrefixOf_iff_prefix.mpr hvw] using hall
  intro v w t hv hw ht hne halike
  obtain ⟨c, v, rfl⟩ := List.exists_cons_of_ne_nil (ne_nil_of_apart h hv)
  rcases List.suffix_cons_iff.mp ht with rfl | ht
  · refine ⟨rfl, ?_⟩
    rcases halike with hvw | hwv
    · exact (hfront hv hw hvw).symm
    · exact hfront hw hv hwv
  · have hapart := not_prefix_of_apart h hv hw ht hne
    rcases halike with ⟨r, rfl⟩ | hwt
    · exact absurd List.prefix_rfl (hapart r)
    · exact absurd (hwt.trans (List.prefix_append t [])) (hapart [])

theorem apart_of_shuns (h : ∀ c, accepts c = true → ∀ q ∈ ps, q.shuns c = true) :
    (anywhere (one accepts :: ps)).Apart := by
  refine ⟨rfl, ?_, ?_⟩
  · intro s n hn
    rcases s with - | ⟨c, s⟩
    · cases hn
    · rw [anywhere, widthOf?_one_cons] at hn
      split_ifs at hn
      obtain ⟨m, -, rfl⟩ := Option.map_eq_some_iff.mp hn
      omega
  · intro s n k hn hk
    rcases s with - | ⟨c, s⟩
    · cases hn
    · rw [anywhere, widthOf?_one_cons] at hn
      split_ifs at hn
      obtain ⟨m, hm, rfl⟩ := Option.map_eq_some_iff.mp hn
      rw [List.drop_succ_cons, anywhere]
      rcases hdrop : s.drop k with - | ⟨d, r⟩
      · rfl
      · have hget : (s.take m)[k]? = some d := by
          rw [List.getElem?_take_of_lt (by omega), ← List.head?_drop, hdrop]
          rfl
        have hmem := List.mem_of_getElem? hget
        have hd : ¬ accepts d = true := fun hd => notMem_take_of_shuns (h d hd) hm hmem
        rw [widthOf?_one_cons, if_neg hd]

theorem countP_or {q r : Text → Bool} (h : ∀ t, q t = true → r t = false) (ts : List Text) :
    (ts.countP fun t => q t || r t) = ts.countP q + ts.countP r := by
  induction ts with
  | nil => rfl
  | cons t ts ih =>
    rw [List.countP_cons, List.countP_cons, List.countP_cons, ih]
    cases hq : q t with
    | true =>
      simp only [h t hq, Bool.or_false, Bool.false_eq_true, if_true, if_false]
      omega
    | false =>
      simp only [Bool.false_or, Bool.false_eq_true, if_false]
      omega

theorem places_words_append {us vs : List Text}
    (h : us.all (fun v => vs.all fun w => !v.isPrefixOf w && !w.isPrefixOf v) = true) (s : Text) :
    places (us ++ vs) s = places us s + places vs s := by
  simp only [List.all_eq_true, Bool.and_eq_true, Bool.not_eq_true', ← Bool.not_eq_true,
    List.isPrefixOf_iff_prefix] at h
  simp only [places, List.any_append]
  apply countP_or
  intro t hu
  obtain ⟨v, hv, hvt⟩ := List.any_eq_true.mp hu
  simp only [List.any_eq_false, List.isPrefixOf_iff_prefix]
  exact fun w hw => not_prefix_of_prefix (h v hv w hw) (List.isPrefixOf_iff_prefix.mp hvt)

def endings (words : List Text) (s : Text) : Nat :=
  s.inits.countP fun a => words.any (·.isSuffixOf a)

theorem countP_inits_cons (p : Text → Bool) (c : Char) (s : Text) :
    (c :: s).inits.countP p = (if p [] then 1 else 0) + s.inits.countP fun a => p (c :: a) := by
  rw [List.inits_cons, List.countP_cons, List.countP_map, Nat.add_comm]
  rfl

theorem countP_inits_of_length {p : Text → Bool} (hp : ∀ a, p a = true → a.length = n) (s : Text) :
    s.inits.countP p = if n ≤ s.length ∧ p (s.take n) = true then 1 else 0 := by
  induction s generalizing n p with
  | nil =>
    have hnil : p [] = true → n = 0 := fun h => (hp [] h).symm
    by_cases h : p [] = true
    · simp [h, hnil h]
    · simp [h]
  | cons c s ih =>
    rw [countP_inits_cons]
    cases n with
    | zero =>
      have hcons : ∀ a ∈ s.inits, ¬ p (c :: a) = true := fun a _ h => by
        have hlen := hp _ h
        cases hlen
      rw [List.countP_eq_zero.mpr hcons]
      simp
    | succ n =>
      have hnil : ¬ p [] = true := fun h => by
        have hlen := hp _ h
        cases hlen
      rw [if_neg hnil, ih (n := n) fun a h => Nat.succ.inj (hp (c :: a) h)]
      simp

section Endings

variable (hlen : ∀ w ∈ words, w.length = n + 1)
include hlen

theorem any_prefix_iff (s : Text) : words.any (·.isPrefixOf s) = true ↔
    n + 1 ≤ s.length ∧ s.take (n + 1) ∈ words := by
  simp only [List.any_eq_true, List.isPrefixOf_iff_prefix]
  constructor
  · rintro ⟨w, hw, hws⟩
    have hle := hws.length_le
    rw [List.prefix_iff_eq_take, hlen w hw] at hws
    rw [hlen w hw] at hle
    exact ⟨hle, hws ▸ hw⟩
  · rintro ⟨-, hw⟩
    exact ⟨_, hw, List.take_prefix _ s⟩

theorem endings_cons (c : Char) (s : Text) : endings words (c :: s) =
    (if words.any (·.isPrefixOf (c :: s)) then 1 else 0) + endings words s := by
  have hempty : ¬ words.any (·.isSuffixOf []) = true := by
    simp only [List.any_eq_true, List.isSuffixOf_iff_suffix, List.suffix_nil]
    rintro ⟨w, hw, rfl⟩
    cases hlen _ hw
  have hends (a : Text) : words.any (·.isSuffixOf (c :: a)) =
      (words.contains (c :: a) || words.any (·.isSuffixOf a)) := by
    rw [Bool.eq_iff_iff]
    simp only [List.any_eq_true, List.isSuffixOf_iff_suffix, List.suffix_cons_iff, and_or_left,
      exists_or, exists_eq_right, Bool.or_eq_true, List.contains_iff_mem]
  -- a front that is a word is too short for a word to end behind its first character
  have hshort (a : Text) (ha : words.contains (c :: a) = true) :
      words.any (·.isSuffixOf a) = false := by
    have hlong := hlen _ (List.contains_iff_mem.mp ha)
    rw [List.length_cons] at hlong
    simp only [List.any_eq_false, List.isSuffixOf_iff_suffix]
    intro w hw hwa
    have hle := hwa.length_le
    rw [hlen w hw] at hle
    omega
  have hfront (a : Text) (ha : words.contains (c :: a) = true) : a.length = n :=
    Nat.succ.inj (hlen _ (List.contains_iff_mem.mp ha))
  rw [endings, countP_inits_cons, if_neg hempty, Nat.zero_add]
  simp only [hends]
  rw [countP_or hshort, countP_inits_of_length hfront, endings]
  simp [any_prefix_iff hlen]

theorem endings_eq_places (s : Text) : endings words s = places words s := by
  induction s with
  | nil => simp [endings, places]
  | cons c s ih => rw [endings_cons hlen, ih, places_cons]

end Endings

end DiagramReview.Text
