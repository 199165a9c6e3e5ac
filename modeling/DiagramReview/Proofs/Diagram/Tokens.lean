import DiagramReview.Proofs.Diagram.ClassLines
import DiagramReview.Proofs.Text.Token

namespace DiagramReview

open Text Text.Piece Text.Pattern

variable {sign : Char}

def solidArrows : List Text := ["-->".toList, "--o".toList, "--*".toList, "--|".toList]

def dottedArrows : List Text := ["..>".toList, "..|".toList]

def barEnds : List Text := ["||-".toList, "|o-".toList]

def footEnds : List Text := ["\x7d|-".toList, "\x7do-".toList]

theorem spells_classDottedArrow : Spells classDottedArrow.pieces dottedArrows :=
  (spells_nil.charOf_cons ">|".toList).word_cons "..".toList

theorem spells_stateTransition : Spells stateTransition.pieces ["-->".toList] :=
  spells_nil.word_cons "-->".toList

theorem spells_barEnd : Spells barEnd.pieces barEnds :=
  ((spells_nil.word_cons "-".toList).charOf_cons "|o".toList).word_cons "|".toList

theorem spells_footEnd : Spells footEnd.pieces footEnds :=
  ((spells_nil.word_cons "-".toList).charOf_cons "|o".toList).word_cons "\x7d".toList

theorem count_classArrows (s : Text) : classArrow.count s + classDottedArrow.count s =
    places solidArrows s + places dottedArrows s := by
  rw [count_eq_places rfl spells_classArrow (by decide),
    count_eq_places rfl spells_classDottedArrow (by decide)]
  rfl

theorem count_stateTransition (s : Text) : stateTransition.count s = places ["-->".toList] s :=
  count_eq_places rfl spells_stateTransition (by decide) s

theorem count_relationshipEnds (s : Text) :
    barEnd.count s + footEnd.count s = endings (barEnds ++ footEnds) s := by
  have hlen : ∀ w ∈ barEnds ++ footEnds, w.length = 2 + 1 := by decide
  rw [count_eq_places rfl spells_barEnd (by decide), count_eq_places rfl spells_footEnd (by decide),
    endings_eq_places hlen, places_words_append (by decide)]

def opensMember (sign : Char) : Text → Bool
  | [] => false
  | c :: s => isVisibility c && !(s.takeWhile isWord).isEmpty &&
      (s.dropWhile isWord).head? == some sign

def IsMember (sign : Char) (v : Text) : Prop :=
  ∃ marker, ∃ x : Name, isVisibility marker = true ∧ v = marker :: (x.text ++ [sign])

theorem opensMember_iff (hsign : isWord sign = false) (t : Text) :
    opensMember sign t = true ↔ ∃ v, IsMember sign v ∧ v <+: t := by
  constructor
  · intro h
    rcases t with - | ⟨c, t⟩
    · cases h
    · simp only [opensMember, Bool.and_eq_true, Bool.not_eq_true', List.isEmpty_eq_false_iff,
        beq_iff_eq] at h
      obtain ⟨⟨hc, hne⟩, hhead⟩ := h
      obtain ⟨r, hr⟩ := List.head?_eq_some_iff.mp hhead
      let x : Name := ⟨t.takeWhile isWord, hne, fun _ => List.mem_takeWhile_imp⟩
      refine ⟨c :: (x.text ++ [sign]), ⟨c, x, hc, rfl⟩, r, ?_⟩
      have hparts := List.takeWhile_append_dropWhile (p := isWord) (l := t)
      rw [hr] at hparts
      simpa using hparts
  · rintro ⟨v, ⟨marker, x, hmarker, rfl⟩, r, rfl⟩
    have hshape : marker :: (x.text ++ [sign]) ++ r = marker :: (x.text ++ sign :: r) := by simp
    rw [hshape, opensMember, x.takeWhile_append hsign, x.dropWhile_append hsign, hmarker]
    simpa using x.ne_nil

theorem isSome_widthOf?_sign (sign : Char) (s : Text) :
    (widthOf? [word [sign]] s).isSome = (s.head? == some sign) := by
  rw [(spells_nil.word_cons [sign]).isSome_widthOf?]
  cases s with
  | nil => rfl
  | cons c s => simp [List.isPrefixOf, BEq.comm]

theorem isSome_widthOf?_memberPattern (sign : Char) (s : Text) :
    (widthOf? (memberPattern sign).pieces s).isSome = opensMember sign s := by
  rcases s with - | ⟨c, s⟩
  · rfl
  · rw [memberPattern, anywhere, List.cons_append, widthOf?_one_cons, opensMember]
    cases isVisibility c with
    | false => rfl
    | true =>
      rw [if_pos rfl, Option.isSome_map]
      rcases s with - | ⟨d, s⟩
      · rfl
      · rw [widthOf?_run_cons, List.takeWhile_cons, List.dropWhile_cons]
        cases isWord d with
        | false => rfl
        | true =>
          rw [if_pos rfl, if_pos rfl, if_pos rfl, Option.isSome_map, isSome_widthOf?_sign]
          rfl

theorem apart_memberPattern (hsign : isVisibility sign = false) : (memberPattern sign).Apart := by
  have hpieces : memberPattern sign =
      anywhere (one isVisibility :: (run isWord ++ [word [sign]])) := rfl
  rw [hpieces]
  apply apart_of_shuns
  intro c hc
  have hword : isWord c = false := accepts_marker (by decide) hc
  have hne : c ≠ sign := by
    rintro rfl
    rw [hsign] at hc
    cases hc
  simp [run, word, Piece.shuns, hword, hne]

theorem count_memberPattern (hsign : isVisibility sign = false) (s : Text) :
    (memberPattern sign).count s = s.tails.countP (opensMember sign) := by
  rw [(apart_memberPattern hsign).count_eq]
  simp only [isSome_widthOf?_memberPattern]

theorem eq_of_prefix_signed {x y : Name} {d e : Char} (hd : isWord d = false)
    (he : isWord e = false) (h : x.text ++ [d] <+: y.text ++ [e]) :
    x.text ++ [d] = y.text ++ [e] := by
  obtain ⟨r, hr⟩ := h
  rw [List.append_assoc, List.singleton_append] at hr
  have hname := congrArg (List.takeWhile isWord) hr
  rw [x.takeWhile_append hd, y.takeWhile_append he] at hname
  rw [hname, List.append_cancel_left_eq] at hr
  obtain ⟨rfl, -⟩ := List.cons.inj hr
  rw [hname]

theorem sign_plain {c : Char} (hc : c ∈ ":(".toList) : isWord c = false ∧ isVisibility c = false := by
  have hall : ":(".toList.all (fun c => !isWord c && !isVisibility c) = true := by decide
  simpa using List.all_eq_true.mp hall c hc

theorem separate_member : Separate fun v => ∃ sign ∈ ":(".toList, IsMember sign v := by
  rintro v w t ⟨d, hd, m, x, hm, rfl⟩ ⟨e, he, k, y, hk, rfl⟩ ht hne halike
  obtain ⟨g, t, rfl⟩ := List.exists_cons_of_ne_nil hne
  simp only [List.cons_prefix_cons] at halike
  have hg : g = k := by
    rcases halike with h | h
    · exact h.1
    · exact h.1.symm
  subst hg
  rcases List.suffix_cons_iff.mp ht with heq | ht
  · obtain ⟨rfl, rfl⟩ := List.cons.inj heq
    refine ⟨rfl, ?_⟩
    rcases halike with ⟨-, h⟩ | ⟨-, h⟩
    · rw [eq_of_prefix_signed (sign_plain hd).1 (sign_plain he).1 h]
    · rw [eq_of_prefix_signed (sign_plain he).1 (sign_plain hd).1 h]
  · -- behind the marker of a member no other marker stands
    exfalso
    have hmem := ht.subset List.mem_cons_self
    rcases List.mem_append.mp hmem with hname | hlast
    · rw [isVisibility_of_isWord (x.word g hname)] at hk
      cases hk
    · obtain rfl := List.mem_singleton.mp hlast
      rw [(sign_plain hd).2] at hk
      cases hk

theorem opensMember_unique (t : Text) : (opensMember ':' t && opensMember '(' t) = false := by
  rw [Bool.and_eq_false_imp, ← Bool.not_eq_true]
  intro hcolon hopen
  obtain ⟨v, hv, hvt⟩ := (opensMember_iff (by decide) t).mp hcolon
  obtain ⟨w, hw, hwt⟩ := (opensMember_iff (by decide) t).mp hopen
  have hne : v ≠ [] := by
    obtain ⟨m, x, -, rfl⟩ := hv
    exact List.cons_ne_nil _ _
  obtain ⟨-, rfl⟩ := separate_member v w v ⟨':', by decide, hv⟩ ⟨'(', by decide, hw⟩
    List.suffix_rfl hne (List.prefix_or_prefix_of_prefix hvt hwt)
  obtain ⟨m, x, -, rfl⟩ := hv
  obtain ⟨k, y, -, heq⟩ := hw
  have hlast : (m :: x.text ++ [':']).getLast? = (k :: y.text ++ ['(']).getLast? :=
    congrArg List.getLast? heq
  rw [List.getLast?_concat, List.getLast?_concat] at hlast
  cases hlast

namespace Metrics

/-- In class, state and entity diagrams tokens that are counted together share no character, so the
counters are the numbers of places where arrows and members stand, and of dashes that end a
relationship; no marker opens both an attribute and a method. -/
theorem tokens_counted_at_all_places (s : Text) :
    ((measure .classes s).relationships = places solidArrows s + places dottedArrows s ∧
      StandApart (· ∈ solidArrows ++ dottedArrows) s) ∧
    ((measure .state s).relationships = places ["-->".toList] s ∧
      (measure .oldState s).relationships = places ["-->".toList] s ∧
      StandApart (· ∈ ["-->".toList]) s) ∧
    ((measure .entities s).relationships = endings (barEnds ++ footEnds) s ∧
      StandApart (· ∈ barEnds ++ footEnds) s) ∧
    (measure .classes s).attributes = s.tails.countP (opensMember ':') ∧
    (measure .classes s).methods = s.tails.countP (opensMember '(') ∧
    StandApart (fun v => ∃ sign ∈ ":(".toList, IsMember sign v) s ∧
    ∀ t, (opensMember ':' t && opensMember '(' t) = false := by
  have hstate := count_stateTransition s
  refine ⟨⟨count_classArrows s, ?_⟩, ⟨hstate, hstate, ?_⟩, ⟨count_relationshipEnds s, ?_⟩,
    count_memberPattern (by decide) s, count_memberPattern (by decide) s,
    separate_member.standApart s, opensMember_unique⟩
  · exact (separate_of_apart (by decide) (by decide)).standApart s
  · exact (separate_of_apart (by decide) (by decide)).standApart s
  · exact (separate_of_apart (by decide) (by decide)).standApart s

theorem tokens_counted_at_all_places_in_a_row :
    let s := "-->--o..|..>~a(-b:-->".toList
    ((measure .classes s).relationships = places solidArrows s + places dottedArrows s ∧
      (measure .classes s).relationships = 5) ∧
    ((measure .classes s).attributes = s.tails.countP (opensMember ':') ∧
      (measure .classes s).attributes = 1) ∧
    ((measure .classes s).methods = s.tails.countP (opensMember '(') ∧
      (measure .classes s).methods = 1) ∧
    ("--o".toList ∈ solidArrows ++ dottedArrows ∧ "..|".toList ∈ solidArrows ++ dottedArrows) ∧
    ("-->".toList ++ "--o".toList ++ "..|..>~a(-b:-->".toList = s ∧
      "-->--o".toList ++ "..|".toList ++ "..>~a(-b:-->".toList = s) ∧
    StandApart (· ∈ solidArrows ++ dottedArrows) s := by
  intro s
  obtain ⟨⟨harrows, hapart⟩, -, -, hattributes, hmethods, -⟩ := tokens_counted_at_all_places s
  exact ⟨⟨harrows, by decide⟩, ⟨hattributes, by decide⟩, ⟨hmethods, by decide⟩, by decide, by decide,
    hapart⟩

-- The second dash of the arrow is the marker of the method.
example : measure .classes "--ob(c)".toList = { relationships := 1, methods := 1 } := by decide

end Metrics

end DiagramReview
