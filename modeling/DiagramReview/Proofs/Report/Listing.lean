import DiagramReview.Proofs.Report.Json
import DiagramReview.Proofs.Text.Numeral
import DiagramReview.Proofs.Text.Trim
import DiagramReview.Report.Plain
import Mathlib

/-!
Findings listed line by line can be read off the report: each line shows by how it opens what it
holds, so two listings that go on to the same text list the same.
-/

namespace DiagramReview

open Text

def Opens (mark line : String) : Prop := mark.toList <+: line.toList

def NotLed (mark : String) (x : List String) : Prop := ∀ l ∈ x.head?, ¬ Opens mark l

def Apart (a b : String) : Prop := ¬ a.toList <+: b.toList ∧ ¬ b.toList <+: a.toList

instance (a b : String) : Decidable (Opens a b) := inferInstanceAs (Decidable (_ <+: _))

instance (a b : String) : Decidable (Apart a b) := inferInstanceAs (Decidable (_ ∧ _))

variable {mark other l : String} {x y : List String}

theorem opens_append (mark l : String) : Opens mark (mark ++ l) := by
  rw [Opens, String.toList_append]
  exact List.prefix_append _ _

theorem Opens.trans (h : Opens mark other) (hl : Opens other l) : Opens mark l :=
  List.IsPrefix.trans h hl

theorem Opens.append (h : Opens mark other) (l : String) : Opens mark (other ++ l) :=
  h.trans (opens_append other l)

theorem Apart.not_opens (h : Apart mark other) (hl : Opens mark l) : ¬ Opens other l :=
  not_prefix_of_prefix h hl

theorem NotLed.mono (h : Opens mark other) (hx : NotLed mark x) : NotLed other x :=
  fun l hl hopens => hx l hl (h.trans hopens)

theorem notLed_cons (h : ¬ Opens mark l) (x : List String) : NotLed mark (l :: x) := by
  rintro _ ⟨⟩
  exact h

def marked (d : String × Option String) : List String := (d.2.map (d.1 ++ ·)).toList

theorem notLed_marked {d : String × Option String} (h : Apart d.1 mark) (hx : NotLed mark x) :
    NotLed mark (marked d ++ x) := by
  obtain ⟨other, - | t⟩ := d
  · exact hx
  · exact notLed_cons (h.not_opens (opens_append other t)) x

theorem marked_inj {o p : Option String} (hx : NotLed mark x) (hy : NotLed mark y)
    (h : marked (mark, o) ++ x = marked (mark, p) ++ y) : o = p ∧ x = y := by
  cases o with
  | none =>
    cases p with
    | none => exact ⟨rfl, h⟩
    | some u =>
      have hx' : x = (mark ++ u) :: y := h
      exact absurd (opens_append mark u) (hx _ (by rw [hx']; rfl))
  | some t =>
    cases p with
    | none =>
      have hy' : (mark ++ t) :: x = y := h
      exact absurd (opens_append mark t) (hy _ (by rw [← hy']; rfl))
    | some u =>
      obtain ⟨hline, hrest⟩ := List.cons.inj h
      rw [(String.append_right_inj mark).mp hline]
      exact ⟨rfl, hrest⟩

theorem notLed_flatMap_marked {ds : List (String × Option String)}
    (h : ∀ d ∈ ds, Apart d.1 mark) (hx : NotLed mark x) :
    NotLed mark (ds.flatMap marked ++ x) := by
  induction ds with
  | nil => exact hx
  | cons d ds ih =>
    obtain ⟨hd, hrest⟩ := List.forall_mem_cons.mp h
    rw [List.flatMap_cons, List.append_assoc]
    exact notLed_marked hd (ih hrest)

theorem flatMap_marked_inj {ds es : List (String × Option String)}
    (hmarks : ds.map Prod.fst = es.map Prod.fst) (hapart : ds.Pairwise fun d e => Apart e.1 d.1)
    (hx : ∀ d ∈ ds, NotLed d.1 x) (hy : ∀ d ∈ ds, NotLed d.1 y)
    (h : ds.flatMap marked ++ x = es.flatMap marked ++ y) : ds = es ∧ x = y := by
  induction ds generalizing es with
  | nil =>
    rw [List.map_eq_nil_iff.mp hmarks.symm] at h ⊢
    exact ⟨rfl, h⟩
  | cons d ds ih =>
    obtain ⟨mark, o⟩ := d
    rcases es with - | ⟨⟨mark', p⟩, es⟩
    · cases hmarks
    · rw [List.map_cons, List.map_cons, List.cons.injEq] at hmarks
      obtain ⟨rfl, hmarks⟩ := hmarks
      obtain ⟨hfirst, hapart⟩ := List.pairwise_cons.mp hapart
      obtain ⟨hxd, hx⟩ := List.forall_mem_cons.mp hx
      obtain ⟨hyd, hy⟩ := List.forall_mem_cons.mp hy
      have hfirst' : ∀ e ∈ es, Apart e.1 mark := by
        have hall : ∀ m ∈ ds.map Prod.fst, Apart m mark := List.forall_mem_map.mpr hfirst
        rw [hmarks] at hall
        exact List.forall_mem_map.mp hall
      rw [List.flatMap_cons, List.flatMap_cons, List.append_assoc, List.append_assoc] at h
      obtain ⟨htext, hrest⟩ := marked_inj (notLed_flatMap_marked hfirst hxd)
        (notLed_flatMap_marked hfirst' hyd) h
      obtain ⟨rfl, hxy⟩ := ih hmarks hapart hx hy hrest
      exact ⟨by rw [htext], hxy⟩

namespace Finding

variable {f g : Finding} {m n : Nat}

theorem bracket_notMem_name (c : Category) : ']' ∉ c.name.toList := by cases c <;> decide

theorem headLine_inj (h : f.headLine m = g.headLine n) :
    m = n ∧ f.category = g.category ∧ f.message = g.message := by
  have hchars := congrArg String.toList h
  simp only [headLine, String.toList_append, List.append_assoc, List.append_cancel_left_eq]
    at hchars
  -- a number holds no dot, and the name of a category no closing bracket
  obtain ⟨hnumber, hrest⟩ := append_cons_inj (notMem_toString (by decide) m)
    (notMem_toString (by decide) n) hchars
  obtain ⟨hcategory, hmessage⟩ := append_cons_inj (bracket_notMem_name _) (bracket_notMem_name _)
    (List.cons.inj (List.cons.inj hrest).2).2
  exact ⟨Nat.repr_injective (String.toList_inj.mp hnumber),
    Category.name_injective (String.toList_inj.mp hcategory),
    String.toList_inj.mp (List.cons.inj hmessage).2⟩

theorem headLine_not_opens (n : Nat) (f : Finding) : ¬ Opens "     " (f.headLine n) := by
  obtain ⟨d, ds, h⟩ := List.exists_cons_of_ne_nil (toList_toString_ne_nil n)
  have hdigit : d ≠ ' ' := by
    rintro rfl
    exact notMem_toString (by decide) n (h ▸ List.mem_cons_self)
  rw [Opens, headLine]
  simp only [String.toList_append, h]
  rintro ⟨rest, hrest⟩
  exact hdigit (List.cons.inj (List.cons.inj (List.cons.inj hrest).2).2).1.symm

def detailMarks : List String :=
  ["     Line: ", "     Content: ", "     Expected: ", "     Suggestion: "]

def details (f : Finding) : List (String × Option String) :=
  detailMarks.zip [f.line.map toString, f.content, f.expected, f.suggestion]

theorem map_fst_details (f : Finding) : f.details.map Prod.fst = detailMarks := rfl

theorem opens_of_mem_details (f : Finding) : ∀ d ∈ f.details, Opens "     " d.1 := by
  have hmarks : ∀ m ∈ detailMarks, Opens "     " m := by decide
  rw [← map_fst_details f] at hmarks
  exact List.forall_mem_map.mp hmarks

theorem details_apart (f : Finding) : f.details.Pairwise fun d e => Apart e.1 d.1 := by
  have hmarks : detailMarks.Pairwise fun m n => Apart n m := by decide
  rw [← map_fst_details f] at hmarks
  exact List.pairwise_map.mp hmarks

theorem detailLines_eq (f : Finding) : f.detailLines = f.details.flatMap marked := by
  simp only [detailLines, details, detailMarks, List.zip_cons_cons, marked, Option.map_map,
    List.flatMap_cons, List.zip_nil_left, List.flatMap_nil, List.append_assoc, List.append_nil]
  rfl

theorem mem_detailLines : l ∈ f.detailLines ↔ ∃ d ∈ f.details, ∃ t ∈ d.2, l = d.1 ++ t := by
  simp [detailLines_eq, marked, eq_comm]

theorem opens_of_mem_detailLines (h : l ∈ f.detailLines) : Opens "     " l := by
  obtain ⟨d, hd, t, -, rfl⟩ := mem_detailLines.mp h
  exact (opens_of_mem_details f d hd).append t

theorem detailLines_inj (hx : NotLed "     " x) (hy : NotLed "     " y)
    (h : f.detailLines ++ x = g.detailLines ++ y) : f.details = g.details ∧ x = y := by
  rw [detailLines_eq, detailLines_eq] at h
  exact flatMap_marked_inj rfl (details_apart f)
    (fun d hd => hx.mono (opens_of_mem_details f d hd))
    (fun d hd => hy.mono (opens_of_mem_details f d hd)) h

theorem eq_of_details_eq (hcategory : f.category = g.category) (hmessage : f.message = g.message)
    (h : f.details = g.details) : f = g := by
  cases f
  cases g
  simp only [details, detailMarks, List.zip_cons_cons, List.cons.injEq, Prod.mk.injEq, true_and,
    and_true] at h
  obtain ⟨hline, hcontent, hexpected, hsuggestion⟩ := h
  rw [mk.injEq]
  exact ⟨hcategory, hmessage, Option.map_injective (fun _ _ => Nat.repr_injective) hline, hcontent, hsuggestion,
    hexpected⟩

def brief (head : Category × String) : Finding := { category := head.1, message := head.2 }

theorem brief_injective : Function.Injective brief := by
  rintro ⟨c, m⟩ ⟨d, n⟩ h
  cases h
  rfl

def shown (detailed : Bool) (f : Finding) : Finding :=
  if detailed then f else brief (f.category, f.message)

def entry (detailed : Bool) (number : Nat) (f : Finding) : List String :=
  f.headLine number :: if detailed then f.detailLines else []

theorem mem_entry {detailed : Bool} : l ∈ f.entry detailed n ↔
    l = f.headLine n ∨ (detailed = true ∧ l ∈ f.detailLines) := by
  cases detailed <;> simp [entry]

def entriesFrom (detailed : Bool) : Nat → List Finding → List String
  | _, [] => []
  | k, f :: fs => f.entry detailed k ++ entriesFrom detailed (k + 1) fs

variable {detailed : Bool} {k : Nat} {fs gs : List Finding}

theorem entry_inj (hx : NotLed "     " x) (hy : NotLed "     " y)
    (h : f.entry detailed k ++ x = g.entry detailed k ++ y) :
    f.shown detailed = g.shown detailed ∧ x = y := by
  obtain ⟨hhead, h⟩ := List.cons.inj h
  obtain ⟨-, hcategory, hmessage⟩ := headLine_inj hhead
  cases detailed with
  | false => exact ⟨by simp [shown, hcategory, hmessage], h⟩
  | true =>
    obtain ⟨hdetails, hrest⟩ := detailLines_inj hx hy h
    exact ⟨eq_of_details_eq hcategory hmessage hdetails, hrest⟩

theorem notLed_entriesFrom (k : Nat) (fs : List Finding) (x : List String) :
    NotLed "     " (entriesFrom detailed k fs ++ "" :: x) := by
  cases fs with
  | nil => exact notLed_cons (by decide) x
  | cons f fs => exact notLed_cons (headLine_not_opens k f) _

theorem headLine_ne_empty (n : Nat) (f : Finding) : f.headLine n ≠ "" := by
  intro h
  have hchars := congrArg String.toList h
  simp [headLine] at hchars

theorem entriesFrom_inj
    (h : entriesFrom detailed k fs ++ "" :: x = entriesFrom detailed k gs ++ "" :: y) :
    fs.map (shown detailed) = gs.map (shown detailed) ∧ x = y := by
  induction fs generalizing k gs with
  | nil =>
    cases gs with
    | nil => exact ⟨rfl, (List.cons.inj h).2⟩
    | cons g gs => exact absurd (List.cons.inj h).1.symm (headLine_ne_empty k g)
  | cons f fs ih =>
    cases gs with
    | nil => exact absurd (List.cons.inj h).1 (headLine_ne_empty k f)
    | cons g gs =>
      rw [entriesFrom, entriesFrom, List.append_assoc, List.append_assoc] at h
      -- the details of the first entry end at the next head or at the empty line
      obtain ⟨hfirst, hrest⟩ :=
        entry_inj (notLed_entriesFrom _ _ _) (notLed_entriesFrom _ _ _) h
      obtain ⟨hshown, hxy⟩ := ih hrest
      exact ⟨by rw [List.map_cons, List.map_cons, hfirst, hshown], hxy⟩

theorem entriesFrom_eq (k : Nat) (fs : List Finding) :
    (fs.mapIdx fun i f => f.headLine (i + k) :: if detailed then f.detailLines else []).flatten =
      entriesFrom detailed k fs := by
  induction fs generalizing k with
  | nil => rfl
  | cons f fs ih =>
    have hshift : (fun i (f : Finding) => f.headLine (i + 1 + k) ::
        if detailed then f.detailLines else []) = fun i f => f.headLine (i + (k + 1)) ::
        if detailed then f.detailLines else [] := by
      funext i f
      rw [Nat.add_assoc, Nat.add_comm 1 k]
    rw [List.mapIdx_cons, List.flatten_cons, Nat.zero_add, hshift, ih]
    rfl

theorem entriesFrom_congr (h : fs.map (shown detailed) = gs.map (shown detailed)) :
    entriesFrom detailed k fs = entriesFrom detailed k gs := by
  have hentry (k : Nat) (f : Finding) : (f.shown detailed).entry detailed k = f.entry detailed k := by
    cases detailed <;> rfl
  induction fs generalizing k gs with
  | nil => rw [List.map_eq_nil_iff.mp h.symm]
  | cons f fs ih =>
    cases gs with
    | nil => cases h
    | cons g gs =>
      obtain ⟨hfirst, hrest⟩ := List.cons.inj h
      rw [entriesFrom, entriesFrom, ← hentry k f, hfirst, hentry k g, ih hrest]

theorem mem_entriesFrom {l : String} : l ∈ entriesFrom detailed k fs ↔
    ∃ (i : Nat) (f : Finding), fs[i]? = some f ∧ l ∈ f.entry detailed (k + i) := by
  induction fs generalizing k with
  | nil => simp [entriesFrom]
  | cons f fs ih =>
    rw [entriesFrom, List.mem_append, ih]
    constructor
    · rintro (hl | ⟨i, g, hg, hl⟩)
      · exact ⟨0, f, rfl, hl⟩
      · exact ⟨i + 1, g, hg, by rwa [Nat.add_right_comm] at hl⟩
    · rintro ⟨i, g, hg, hl⟩
      cases i with
      | zero =>
        cases hg
        exact .inl hl
      | succ i => exact .inr ⟨i, g, hg, by rwa [Nat.add_right_comm]⟩

end Finding

namespace Verdict

open Finding

variable {title next : String} {detailed : Bool} {fs gs : List Finding} {x y : List String}

theorem listing_eq (title : String) (detailed : Bool) (fs : List Finding) :
    listing title detailed fs =
      if fs = [] then [] else (title ++ ":") :: (entriesFrom detailed 1 fs ++ [""]) := by
  cases fs with
  | nil => rfl
  | cons f fs =>
    rw [if_neg (List.cons_ne_nil f fs), ← entriesFrom_eq, ← List.cons_append]
    rfl

theorem mem_listing {l : String} : l ∈ listing title detailed fs ↔
    fs ≠ [] ∧ (l = title ++ ":" ∨ l = "" ∨ l ∈ entriesFrom detailed 1 fs) := by
  rw [listing_eq]
  split
  · next hnil => simp [hnil]
  · next hne => simp [hne, or_comm]

theorem notLed_listing (h : Apart (title ++ ":") next) (hx : NotLed next x) (detailed : Bool)
    (fs : List Finding) : NotLed next (listing title detailed fs ++ x) := by
  rw [listing_eq]
  split
  · exact hx
  · exact notLed_cons (h.not_opens (List.prefix_refl _)) _

theorem listing_inj (hx : NotLed (title ++ ":") x) (hy : NotLed (title ++ ":") y)
    (h : listing title detailed fs ++ x = listing title detailed gs ++ y) :
    fs.map (shown detailed) = gs.map (shown detailed) ∧ x = y := by
  have hled (z : List String) : ¬ NotLed (title ++ ":") ((title ++ ":") :: z) :=
    fun hz => hz _ rfl (List.prefix_refl _)
  rw [listing_eq, listing_eq] at h
  split at h <;> split at h
  · next hfs hgs => exact ⟨by rw [hfs, hgs], h⟩
  · rw [List.nil_append, List.cons_append] at h
    exact absurd (h ▸ hx) (hled _)
  · rw [List.nil_append, List.cons_append] at h
    exact absurd (h ▸ hy) (hled _)
  · rw [List.cons_append, List.cons_append, List.append_assoc, List.append_assoc] at h
    exact entriesFrom_inj (List.cons.inj h).2

theorem listing_congr (h : fs.map (shown detailed) = gs.map (shown detailed)) (title : String) :
    listing title detailed fs = listing title detailed gs := by
  have hnil : fs = [] ↔ gs = [] := by
    rw [← List.map_eq_nil_iff (f := shown detailed), h, List.map_eq_nil_iff]
  rw [listing_eq, listing_eq, entriesFrom_congr h, if_congr hnil rfl rfl]

end Verdict

end DiagramReview
