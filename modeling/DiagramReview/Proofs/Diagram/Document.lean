import DiagramReview.Proofs.Diagram.Additivity
import DiagramReview.Proofs.Text.Front
import DiagramReview.Text.Word
import Mathlib.Algebra.GroupWithZero.Nat

namespace DiagramReview

open Text

def blankPoints : List Nat :=
  List.range' 9 5 ++ [0x20, 0x85, 0xA0, 0x1680] ++ List.range' 0x2000 11 ++
    [0x2028, 0x2029, 0x202F, 0x205F, 0x3000]

theorem mem_blankPoints {c : Char} (h : isBlank c = true) : c.toNat ∈ blankPoints := by
  simp only [isBlank, Bool.or_eq_true, Bool.and_eq_true, decide_eq_true_eq, beq_iff_eq] at h
  simp only [blankPoints, List.mem_append, List.mem_range'_1, List.mem_cons, List.not_mem_nil,
    or_false]
  omega

theorem isWord_of_mem_blankPoints : ∀ n ∈ blankPoints, isWord (Char.ofNat n) = false := by
  decide +kernel

theorem isWord_of_isBlank {c : Char} (h : isBlank c = true) : isWord c = false := by
  have hword := isWord_of_mem_blankPoints _ (mem_blankPoints h)
  rwa [Char.ofNat_toNat] at hword

theorem isBlank_of_isWord {c : Char} (h : isWord c = true) : isBlank c = false := by
  by_contra hblank
  rw [isWord_of_isBlank (by simpa using hblank)] at h
  cases h

structure Name where
  text : Text
  ne_nil : text ≠ []
  word : ∀ c ∈ text, isWord c = true

namespace Name

variable {c : Char}

theorem notMem (x : Name) (hc : isWord c = false) : c ∉ x.text := by
  intro hmem
  rw [x.word c hmem] at hc
  cases hc

theorem exists_cons (x : Name) :
    ∃ d w, x.text = d :: w ∧ isWord d = true ∧ ∀ e ∈ w, isWord e = true := by
  obtain ⟨d, w, hx⟩ := List.exists_cons_of_ne_nil x.ne_nil
  have hword := x.word
  rw [hx] at hword
  exact ⟨d, w, hx, List.forall_mem_cons.mp hword⟩

theorem exists_concat (x : Name) : ∃ w d, x.text = w ++ [d] ∧ isWord d = true := by
  obtain hnil | ⟨w, d, hx⟩ := x.text.eq_nil_or_concat'
  · exact absurd hnil x.ne_nil
  · exact ⟨w, d, hx, x.word d (by simp [hx])⟩

theorem takeWhile_append (x : Name) (hc : isWord c = false) (b : Text) :
    (x.text ++ c :: b).takeWhile isWord = x.text := by
  rw [takeWhile_append_cons hc, List.takeWhile_eq_self_iff.mpr x.word]

theorem dropWhile_append (x : Name) (hc : isWord c = false) (b : Text) :
    (x.text ++ c :: b).dropWhile isWord = c :: b := by
  rw [dropWhile_append_cons hc, List.dropWhile_eq_nil_iff.mpr x.word, List.nil_append]

theorem head_append {accepts : Char → Bool} (h : ∀ d, isWord d = true → accepts d = false)
    (x : Name) (b : Text) : ∀ c ∈ (x.text ++ b).head?, accepts c = false := by
  obtain ⟨d, w, hx, hd, -⟩ := x.exists_cons
  rw [hx]
  rintro c ⟨⟩
  exact h d hd

theorem head_not_blank (x : Name) (b : Text) : ∀ c ∈ (x.text ++ b).head?, isBlank c = false :=
  x.head_append (fun _ => isBlank_of_isWord) b

theorem widthOf?_run (x : Name) (hc : isWord c = false) (ps : List Piece) (b : Text) :
    Pattern.widthOf? (Piece.run isWord ++ ps) (x.text ++ c :: b) =
      (Pattern.widthOf? ps (c :: b)).map (x.text.length + ·) := by
  obtain ⟨d, w, hx, hd, hw⟩ := x.exists_cons
  rw [hx, List.cons_append, widthOf?_run_cons, if_pos hd, takeWhile_append_cons hc,
    dropWhile_append_cons hc, List.takeWhile_eq_self_iff.mpr hw, List.dropWhile_eq_nil_iff.mpr hw]
  rfl

theorem widthOf?_keyword (x : Name) {w : Text} (hw : c ∉ w) (ps : List Piece)
    (b : Text) :
    Pattern.widthOf? (Piece.word w :: (Piece.run isBlank ++ ps)) (x.text ++ c :: b) =
      if x.text = w then (Pattern.widthOf? (Piece.run isBlank ++ ps) (c :: b)).map (w.length + ·)
      else none := by
  by_cases hkeyword : w <+: x.text ++ c :: b
  · obtain ⟨r, hr⟩ := (prefix_append_cons_iff hw).mp hkeyword
    rw [← hr, List.append_assoc, widthOf?_word_append]
    rcases r with - | ⟨d, r⟩
    · rw [List.append_nil, if_pos rfl, List.nil_append]
    · have hd : isBlank d = false := isBlank_of_isWord (x.word d (by simp [← hr]))
      rw [List.cons_append, widthOf?_run_cons, hd, if_neg Bool.false_ne_true, if_neg (by simp)]
      rfl
  · have hne : x.text ≠ w := by
      rintro rfl
      exact hkeyword (List.prefix_append _ _)
    have hnone : [w].find? (·.isPrefixOf (x.text ++ c :: b)) = none := by
      simpa [List.isPrefixOf_iff_prefix] using hkeyword
    rw [if_neg hne, Piece.word, widthOf?_anyOf, hnone]
    rfl

end Name

theorem isBlank_of_mem_indent {k : Nat} : ∀ c ∈ List.replicate k ' ', isBlank c = true := by
  intro c hc
  obtain rfl := List.eq_of_mem_replicate hc
  decide

variable {c : Char}

theorem trimLeft_indented_name (k : Nat) (x : Name) (b : Text) :
    trimLeft (List.replicate k ' ' ++ (x.text ++ b)) = x.text ++ b :=
  trimLeft_indented isBlank_of_mem_indent (x.head_not_blank b)

theorem trim_indented_name (k : Nat) (x : Name) (hc : isBlank c = false) (b : Text) :
    trim (List.replicate k ' ' ++ (x.text ++ c :: b)) = x.text ++ c :: trimRight b := by
  rw [trim_indented isBlank_of_mem_indent (x.head_not_blank _), trimRight_append_cons hc]

/-- A header and the lines below it; `ended` tells whether the last line has a newline at its end. -/
def document (header : Text) (ls : List Text) (ended : Bool) : Text :=
  unlines (header :: ls ++ if ended then [[]] else [])

variable {header : Text} {ls : List Text}

theorem lines_document (hls : ∀ l ∈ header :: ls, '\n' ∉ l) (ended : Bool) :
    lines (document header ls ended) = header :: ls ++ if ended then [[]] else [] := by
  apply lines_unlines (by simp)
  intro l hl
  rcases List.mem_append.mp hl with hl | hl
  · exact hls l hl
  · cases ended with
    | false => cases hl
    | true =>
      obtain rfl := List.mem_singleton.mp hl
      exact List.not_mem_nil

theorem mem_lines_document (hls : ∀ l ∈ header :: ls, '\n' ∉ l) {ended : Bool} {l : Text}
    (hl : l ∈ lines (document header ls ended)) : l = header ∨ l ∈ ls ∨ l = [] := by
  rw [lines_document hls, List.mem_append, List.mem_cons, or_assoc] at hl
  refine hl.imp_right (Or.imp_right fun hlast => ?_)
  cases ended with
  | false => cases hlast
  | true => exact List.mem_singleton.mp hlast

theorem unlines_eq_flatMap (l : Text) (ls : List Text) :
    unlines (l :: ls) = l ++ ls.flatMap ('\n' :: ·) := by
  induction ls generalizing l with
  | nil => simp
  | cons m ls ih =>
    rw [unlines_cons l (List.cons_ne_nil _ _), ih, List.flatMap_cons]
    rfl

theorem document_eq (header : Text) (ls : List Text) (ended : Bool) :
    document header ls ended =
      header ++ ls.flatMap ('\n' :: ·) ++ if ended then ['\n'] else [] := by
  rw [document, List.cons_append, unlines_eq_flatMap, List.flatMap_append, List.append_assoc]
  cases ended <;> rfl

theorem notMem_document {c : Char} (hc : c ≠ '\n') (hls : ∀ l ∈ header :: ls, c ∉ l)
    (ended : Bool) : c ∉ document header ls ended := by
  obtain ⟨hheader, hls⟩ := List.forall_mem_cons.mp hls
  have hlines : c ∉ ls.flatMap ('\n' :: ·) := by
    intro hmem
    obtain ⟨l, hl, hcl⟩ := List.mem_flatMap.mp hmem
    exact hls l hl ((List.mem_cons.mp hcl).resolve_left hc)
  rw [document_eq]
  cases ended <;> simp [hheader, hlines, hc]

theorem AddsUp.unlines {f : Text → Nat} (hf : AddsUp f) (l : Text) (ls : List Text) :
    f (unlines (l :: ls)) = ((l :: ls).map f).sum := by
  induction ls generalizing l with
  | nil => simp [Text.unlines]
  | cons m ls ih =>
    rw [unlines_cons l (List.cons_ne_nil _ _), hf, ih, ← List.sum_cons, ← List.map_cons]

theorem AddsUp.document {α : Type} {f : Text → Nat} (hf : AddsUp f) (hnil : f [] = 0)
    (header : Text) (line : α → Text) (xs : List α) (ended : Bool) :
    f (document header (xs.map line) ended) = f header + (xs.map fun x => f (line x)).sum := by
  rw [DiagramReview.document, List.cons_append, hf.unlines]
  cases ended <;> simp [hnil, Function.comp_def]

theorem count_document {α : Type} {p : Pattern} (hl : p.lineStart = false)
    (h : ∀ q ∈ p.pieces, q.shuns '\n' = true) (hheader : p.count header = 0) (line : α → Text)
    (xs : List α) (ended : Bool) :
    p.count (document header (xs.map line) ended) = (xs.map fun x => p.count (line x)).sum := by
  rw [(addsUp_count hl h).document rfl, hheader, Nat.zero_add]

theorem sum_map_ite {α : Type} (holds : α → Bool) (xs : List α) :
    (xs.map fun x => if holds x then 1 else 0).sum = xs.countP holds := by
  induction xs with
  | nil => rfl
  | cons x xs ih => rw [List.map_cons, List.sum_cons, ih, List.countP_cons, Nat.add_comm]

theorem detect_document {kind : Kind} (hls : ∀ l ∈ header :: ls, '\n' ∉ l)
    (hkind : Kind.ofLine? (trim header) = some kind) (ended : Bool) :
    Kind.detect (document header ls ended) = some kind := by
  have hnil : Kind.ofLine? [] = none := by decide
  rw [Kind.detect, findSome?_rows hnil, lines_document hls, List.cons_append,
    List.findSome?_cons, hkind]

end DiagramReview
