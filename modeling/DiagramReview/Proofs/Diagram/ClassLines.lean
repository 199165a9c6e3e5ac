import DiagramReview.Proofs.Diagram.Declarations
import DiagramReview.Proofs.Diagram.Document
import DiagramReview.Proofs.Diagram.Edges

namespace DiagramReview

open Text Text.Piece Text.Pattern

inductive Signature where
  | ofType (type : Name)
  | ofArgument (argument : Option Name)

structure Member where
  indent : Text
  marker : Char
  name : Name
  signature : Signature
  indent_blank : indent.all isBlank = true
  newline_notMem : '\n' ∉ indent
  marker_mem : marker ∈ "+-#~".toList

structure ClassBlock where
  name : Name
  members : List Member

structure Relation where
  source : Name
  target : Name

inductive ClassRow where
  | opening (name : Name)
  | member (m : Member)
  | closing
  | relation (r : Relation)

namespace Signature

def isType : Signature → Bool
  | ofType _ => true
  | ofArgument _ => false

def sign : Signature → Char
  | ofType _ => ':'
  | ofArgument _ => '('

def rest : Signature → Text
  | ofType type => ' ' :: type.text
  | ofArgument argument => argument.elim [] Name.text ++ ")".toList

end Signature

def Member.signed (m : Member) : Text := m.name.text ++ m.signature.sign :: m.signature.rest

def Member.text (m : Member) : Text := m.marker :: m.signed

def Relation.text (r : Relation) : Text := r.source.text ++ " --> ".toList ++ r.target.text

namespace ClassRow

def line : ClassRow → Text
  | opening name => "class ".toList ++ name.text ++ " \x7b".toList
  | member m => m.indent ++ m.text
  | closing => "\x7d".toList
  | relation r => r.text

def isOpening : ClassRow → Bool
  | opening _ => true
  | _ => false

def isSigned (sign : Char) : ClassRow → Bool
  | member m => m.signature.sign == sign
  | _ => false

def isRelation : ClassRow → Bool
  | relation _ => true
  | _ => false

end ClassRow

def ClassBlock.rows (x : ClassBlock) : List ClassRow :=
  .opening x.name :: x.members.map .member ++ [.closing]

def classRows (xs : List ClassBlock) (rs : List Relation) : List ClassRow :=
  xs.flatMap ClassBlock.rows ++ rs.map .relation

def classDocument (xs : List ClassBlock) (rs : List Relation) (ended : Bool) : Text :=
  document "classDiagram".toList ((classRows xs rs).map ClassRow.line) ended

variable {c d : Char} {a b : Text} {accepts : Char → Bool}

/-! ### Markers -/

def memberPattern (sign : Char) : Pattern :=
  anywhere (one isVisibility :: run isWord ++ [word [sign]])

theorem classAttribute_eq : classAttribute = memberPattern ':' := rfl

theorem classMethod_eq : classMethod = memberPattern '(' := rfl

theorem isVisibility_iff : isVisibility c = true ↔ c ∈ "+-#~".toList := List.contains_iff_mem

theorem accepts_marker (hmarkers : "+-#~".toList.all (!accepts ·) = true)
    (h : isVisibility c = true) : accepts c = false := by
  simpa using List.all_eq_true.mp hmarkers c (isVisibility_iff.mp h)

theorem isVisibility_eq_false (hmarkers : "+-#~".toList.all (!accepts ·) = true)
    (h : accepts c = true) : isVisibility c = false := by
  by_contra hc
  rw [accepts_marker hmarkers (by simpa using hc)] at h
  cases h

theorem isVisibility_of_isWord (h : isWord c = true) : isVisibility c = false :=
  isVisibility_eq_false (by decide) h

theorem isVisibility_of_isBlank (h : isBlank c = true) : isVisibility c = false :=
  isVisibility_eq_false (by decide) h

theorem count_memberPattern_append (ha : a.all (!isVisibility ·) = true) (b : Text) :
    (memberPattern d).count (a ++ b) = (memberPattern d).count b := by
  rw [count, occurrences_append_of_none rfl rfl (by simpa using ha), count]

theorem count_memberPattern_eq_zero (ha : a.all (!isVisibility ·) = true) :
    (memberPattern d).count a = 0 := by
  have h := count_memberPattern_append (d := d) ha []
  rwa [List.append_nil] at h

theorem count_memberPattern_cons (hd : isWord d = false) (sign : Char) :
    (memberPattern sign).count (c :: d :: b) = (memberPattern sign).count (d :: b) := by
  apply count_cons rfl
  rw [memberPattern, anywhere, List.cons_append, widthOf?_one_cons, widthOf?_run_cons, hd,
    if_neg Bool.false_ne_true]
  split_ifs <;> rfl

theorem widthOf?_memberPattern (hc : isVisibility c = true) (x : Name) {e : Char}
    (he : isWord e = false) (b : Text) :
    widthOf? (memberPattern d).pieces (c :: (x.text ++ e :: b)) =
      if e = d then some (x.text.length + 2) else none := by
  rw [memberPattern, anywhere, List.cons_append, widthOf?_one_cons, if_pos hc, x.widthOf?_run he]
  by_cases hed : e = d
  · subst hed
    have hword := widthOf?_word_append [e] b []
    rw [List.singleton_append] at hword
    rw [hword, if_pos rfl]
    simp only [widthOf?, Option.map_some, List.length_singleton, Option.some.injEq]
    omega
  · rw [widthOf?_word_of_ne hed, if_neg hed]
    rfl

/-! ### Members -/

theorem Name.all_text (x : Name) (hword : ∀ c, isWord c = true → accepts c = true) :
    x.text.all accepts = true := List.all_eq_true.mpr fun c hc => hword c (x.word c hc)

theorem not_isVisibility_of_isWord (c : Char) (h : isWord c = true) : (!isVisibility c) = true := by
  rw [isVisibility_of_isWord h]
  rfl

theorem ne_of_isWord (hd : isWord d = false) (c : Char) (hc : isWord c = true) :
    (c != d) = true := by
  rw [bne_iff_ne]
  rintro rfl
  rw [hd] at hc
  cases hc

theorem Signature.isWord_sign (t : Signature) : isWord t.sign = false := by
  cases t with
  | ofType type => exact (by decide : isWord ':' = false)
  | ofArgument argument => exact (by decide : isWord '(' = false)

theorem Signature.all_cons (t : Signature) (hword : ∀ c, isWord c = true → accepts c = true)
    (hmarks : " :()".toList.all accepts = true) : (t.sign :: t.rest).all accepts = true := by
  obtain ⟨hspace, hcolon, hopen, hclose⟩ :
      accepts ' ' = true ∧ accepts ':' = true ∧ accepts '(' = true ∧ accepts ')' = true := by
    simpa using hmarks
  rcases t with type | - | argument
  · simp [sign, rest, type.all_text hword, hcolon, hspace]
  · simp [sign, rest, hopen, hclose]
  · simp [sign, rest, argument.all_text hword, hopen, hclose]

namespace Member

variable (m : Member)

theorem isVisibility_marker : isVisibility m.marker = true := isVisibility_iff.mpr m.marker_mem

theorem isBlank_indent : ∀ c ∈ m.indent, isBlank c = true := List.all_eq_true.mp m.indent_blank

theorem isBlank_marker : isBlank m.marker = false :=
  accepts_marker (by decide) m.isVisibility_marker

theorem isWord_marker : isWord m.marker = false :=
  accepts_marker (by decide) m.isVisibility_marker

theorem all_signed (hword : ∀ c, isWord c = true → accepts c = true)
    (hmarks : " :()".toList.all accepts = true) : m.signed.all accepts = true := by
  rw [signed, List.all_append, m.name.all_text hword, m.signature.all_cons hword hmarks]
  rfl

theorem notMem_signed (hword : isWord c = false) (hc : " :()".toList.all (· != c) = true) :
    c ∉ m.signed := by
  intro hmem
  simpa using List.all_eq_true.mp (m.all_signed (ne_of_isWord hword) hc) c hmem

theorem count_memberPattern_text : (memberPattern d).count (m.indent ++ m.text) =
    if m.signature.sign = d then 1 else 0 := by
  have hindent : m.indent.all (!isVisibility ·) = true := by
    apply List.all_eq_true.mpr
    intro c hc
    rw [isVisibility_of_isBlank (m.isBlank_indent c hc)]
    rfl
  have hsigned := m.all_signed not_isVisibility_of_isWord (by decide)
  have hwidth := widthOf?_memberPattern (d := d) m.isVisibility_marker m.name
    m.signature.isWord_sign m.signature.rest
  rw [count_memberPattern_append hindent, text]
  by_cases hd : m.signature.sign = d
  · rw [if_pos hd] at hwidth ⊢
    have hparts : m.marker :: m.signed =
        (m.marker :: (m.name.text ++ [m.signature.sign])) ++ m.signature.rest := by simp [signed]
    have hrest : m.signature.rest.all (!isVisibility ·) = true := by
      have hcons := m.signature.all_cons not_isVisibility_of_isWord (by decide)
      rw [List.all_cons, Bool.and_eq_true] at hcons
      exact hcons.2
    rw [hparts, count_append rfl (List.cons_ne_nil _ _) (by simpa using hwidth),
      count_memberPattern_eq_zero hrest]
  · rw [if_neg hd] at hwidth ⊢
    rw [signed, count_cons rfl hwidth]
    exact count_memberPattern_eq_zero hsigned

end Member

/-! ### Rows -/

def rowMarks : Text := "class \x7b\x7d->:()+#~".toList

theorem spells_classArrow :
    Spells classArrow.pieces ["-->".toList, "--o".toList, "--*".toList, "--|".toList] :=
  (spells_nil.charOf_cons ">o*|".toList).word_cons "--".toList

namespace ClassRow

theorem line_opening (x : Name) :
    (opening x).line = "class ".toList ++ x.text ++ " \x7b".toList := rfl

theorem line_member (m : Member) : (member m).line = m.indent ++ m.text := rfl

theorem line_relation (r : Relation) : (relation r).line = r.text := rfl

theorem all_line (hword : ∀ c, isWord c = true → accepts c = true)
    (hmarks : rowMarks.all accepts = true) (r : ClassRow)
    (hindent : ∀ m, r = member m → m.indent.all accepts = true) :
    r.line.all accepts = true := by
  have hpart {t : Text} (ht : t.all rowMarks.contains = true) : t.all accepts = true := by
    rw [List.all_eq_true] at ht hmarks ⊢
    exact fun c hc => hmarks c (List.contains_iff_mem.mp (ht c hc))
  cases r with
  | opening name =>
    rw [line_opening, List.all_append, List.all_append, name.all_text hword, hpart (by decide),
      hpart (by decide)]
    rfl
  | member m =>
    have hmarkers : "+-#~".toList.all accepts = true := hpart (by decide)
    have hmarker := List.all_eq_true.mp hmarkers _ m.marker_mem
    rw [line_member, List.all_append, hindent m rfl, Member.text, List.all_cons, hmarker,
      m.all_signed hword (hpart (by decide))]
    rfl
  | closing => exact hpart (by decide)
  | relation r =>
    rw [line_relation, Relation.text, List.all_append, List.all_append, r.source.all_text hword,
      r.target.all_text hword, hpart (by decide)]
    rfl

theorem notMem_line (hword : isWord c = false) (hc : rowMarks.all (· != c) = true) (r : ClassRow)
    (hindent : ∀ m, r = member m → c ∉ m.indent) : c ∉ r.line := by
  intro hmem
  have hall := r.all_line (ne_of_isWord hword) hc fun m hm => by
    apply List.all_eq_true.mpr
    intro d hd
    rw [bne_iff_ne]
    rintro rfl
    exact hindent m hm hd
  simpa using List.all_eq_true.mp hall c hmem

theorem newline_notMem_line (r : ClassRow) : '\n' ∉ r.line :=
  r.notMem_line (by decide) (by decide) fun m _ => m.newline_notMem

theorem dot_notMem_line (r : ClassRow) : '.' ∉ r.line := by
  apply r.notMem_line (by decide) (by decide)
  intro m _ hmem
  exact absurd (m.isBlank_indent '.' hmem) (by decide)

theorem count_memberPattern_line (r : ClassRow) :
    (memberPattern d).count r.line = if r.isSigned d then 1 else 0 := by
  have hname (x : Name) : x.text.all (!isVisibility ·) = true :=
    x.all_text not_isVisibility_of_isWord
  cases r with
  | member m =>
    rw [line_member, m.count_memberPattern_text]
    simp [isSigned]
  | opening name =>
    apply count_memberPattern_eq_zero
    rw [line_opening, List.all_append, List.all_append, hname]
    decide
  | closing => exact count_memberPattern_eq_zero (by decide)
  | relation r =>
    have hparts : r.text = r.source.text ++
        (" ".toList ++ '-' :: '-' :: ('>' :: ' ' :: r.target.text)) := by
      simp [Relation.text]
    have hrest : ('>' :: ' ' :: r.target.text).all (!isVisibility ·) = true := by
      rw [List.all_cons, List.all_cons, hname]
      decide
    rw [line_relation, hparts, count_memberPattern_append (hname _),
      count_memberPattern_append (by decide), count_memberPattern_cons (by decide),
      count_memberPattern_cons (by decide), count_memberPattern_eq_zero hrest]
    rfl

theorem count_classArrow_line (r : ClassRow) :
    classArrow.count r.line = if r.isRelation then 1 else 0 := by
  have hname (x : Name) : '-' ∉ x.text := x.notMem (by decide)
  cases r with
  | opening name =>
    have hline : '-' ∉ (opening name).line := by simp [line_opening, hname]
    exact count_of_notMem rfl rfl hline
  | closing => exact count_of_notMem rfl rfl (by decide)
  | member m =>
    have hindent : '-' ∉ m.indent := fun hmem => absurd (m.isBlank_indent '-' hmem) (by decide)
    have hsigned : '-' ∉ m.signed := m.notMem_signed (by decide) (by decide)
    have hhead : ∀ c ∈ m.signed.head?, c ≠ '-' := by
      rintro c hc rfl
      exact hsigned (List.mem_of_mem_head? hc)
    have hmarker : classArrow.count (m.marker :: m.signed) = classArrow.count m.signed := by
      by_cases hdash : m.marker = '-'
      · rw [hdash, count_lone_dash rfl spells_classArrow (by decide) hhead]
      · exact count_cons_of_ne rfl rfl hdash _
    rw [line_member, count_append_of_notMem rfl rfl hindent, Member.text, hmarker]
    exact count_of_notMem rfl rfl hsigned
  | relation r =>
    have hparts : r.text =
        (r.source.text ++ " ".toList) ++ ("-->".toList ++ ' ' :: r.target.text) := by
      simp [Relation.text]
    have hsource : '-' ∉ r.source.text ++ " ".toList := by simp [hname]
    have htarget : '-' ∉ ' ' :: r.target.text := by simp [hname]
    rw [line_relation, hparts, count_append_of_notMem rfl rfl hsource,
      count_append rfl (by decide) (spells_classArrow _), count_of_notMem rfl rfl htarget]
    rfl

theorem count_classDottedArrow_line (r : ClassRow) : classDottedArrow.count r.line = 0 :=
  count_of_notMem rfl rfl r.dot_notMem_line

/-! ### Declarations -/

theorem exists_mark (r : ClassRow) : ∃ c ∈ r.line, isWord c = false ∧ isBlank c = false := by
  cases r with
  | opening name => exact ⟨'\x7b', by simp [line_opening], by decide, by decide⟩
  | member m =>
    exact ⟨m.marker, by simp [line_member, Member.text], m.isWord_marker, m.isBlank_marker⟩
  | closing => exact ⟨'\x7d', by decide, by decide, by decide⟩
  | relation r => exact ⟨'>', by simp [line_relation, Relation.text], by decide, by decide⟩

theorem trim_line_ne (r : ClassRow) : trim r.line ≠ "class".toList := by
  obtain ⟨c, hc, hword, hblank⟩ := r.exists_mark
  intro htrim
  have hmem := mem_trim hblank hc
  have hclass : "class".toList.all isWord = true := by decide
  rw [htrim] at hmem
  rw [List.all_eq_true.mp hclass c hmem] at hword
  cases hword

theorem occursIn_classDeclaration (r : ClassRow) :
    classDeclaration.occursIn r.line = r.isOpening := by
  have hpieces : classDeclaration.pieces =
      many isBlank :: word "class".toList :: (run isBlank ++ run isWord) := rfl
  rw [lineLed_classDeclaration.occursIn_eq r.newline_notMem_line, width?_true, hpieces,
    widthOf?_many, Option.isSome_map, ← trimLeft]
  cases r with
  | opening name =>
    have hblank := name.head_not_blank (' ' :: ['\x7b'])
    have hline : (opening name).line = "class".toList ++ ' ' :: (name.text ++ ' ' :: ['\x7b']) := by
      simp [line_opening]
    have hhead : ∀ c ∈ (opening name).line.head?, isBlank c = false := by
      rw [hline]
      rintro c ⟨⟩
      decide
    have htrim : trimLeft (opening name).line = (opening name).line := dropWhile_of_head hhead
    rw [htrim, hline, widthOf?_word_append, widthOf?_run_cons, if_pos (by decide),
      dropWhile_of_head hblank]
    have hname := name.widthOf?_run (c := ' ') (by decide) [] ['\x7b']
    rw [List.append_nil] at hname
    rw [hname]
    rfl
  | member m =>
    have hmarker : m.marker ≠ 'c' := by
      intro hc
      exact absurd (hc ▸ m.marker_mem) (by decide)
    have hhead : ∀ c ∈ m.text.head?, isBlank c = false := by
      rintro c ⟨⟩
      exact m.isBlank_marker
    rw [line_member, trimLeft_indented m.isBlank_indent hhead]
    exact congrArg Option.isSome (widthOf?_word_of_ne hmarker _ _ _)
  | closing => decide
  | relation r =>
    have hline : r.text = r.source.text ++ ' ' :: ("--> ".toList ++ r.target.text) := by
      simp [Relation.text]
    have hhead : ∀ c ∈ r.text.head?, isBlank c = false := by
      rw [hline]
      exact r.source.head_not_blank _
    have htrim : trimLeft r.text = r.text := dropWhile_of_head hhead
    have hdash : widthOf? (run isBlank ++ run isWord)
        (' ' :: ("--> ".toList ++ r.target.text)) = none := by
      rw [widthOf?_run_cons, if_pos (by decide)]
      rfl
    rw [line_relation, htrim, hline, r.source.widthOf?_keyword (by decide), hdash,
      Option.map_none, ite_self]
    rfl

end ClassRow

section Document

variable (xs : List ClassBlock) (rs : List Relation) (ended : Bool)

theorem countP_rows (x : ClassBlock) (p : ClassRow → Bool) : x.rows.countP p =
    (if p (.opening x.name) then 1 else 0) + (x.members.countP fun m => p (.member m)) +
      if p .closing then 1 else 0 := by
  rw [ClassBlock.rows, List.cons_append, List.countP_cons, List.countP_append, List.countP_map,
    List.countP_singleton, Function.comp_def]
  omega

theorem countP_classRows (p : ClassRow → Bool) : (classRows xs rs).countP p =
    (xs.map fun x => x.rows.countP p).sum + rs.countP fun r => p (.relation r) := by
  rw [classRows, List.countP_append, List.countP_flatMap, List.countP_map]
  rfl

theorem newline_notMem_rows (rows : List ClassRow) :
    ∀ l ∈ "classDiagram".toList :: rows.map ClassRow.line, '\n' ∉ l := by
  refine List.forall_mem_cons.mpr ⟨by decide, fun l hl => ?_⟩
  obtain ⟨r, -, rfl⟩ := List.mem_map.mp hl
  exact r.newline_notMem_line

theorem count_classDeclaration_document :
    classDeclaration.count (classDocument xs rs ended) = xs.length := by
  have hlines := newline_notMem_rows (classRows xs rs)
  have hclosed : ∀ l ∈ lines (classDocument xs rs ended), ∀ below,
      classDeclaration.leavesOpen (l :: below) ≠ true := by
    intro l hl below hopen
    have htrim := class_of_leavesOpen hopen
    rcases mem_lines_document hlines hl with rfl | hl | rfl
    · exact absurd htrim (by decide)
    · obtain ⟨r, -, rfl⟩ := List.mem_map.mp hl
      exact r.trim_line_ne htrim
    · exact absurd htrim (by decide)
  have hheader : classDeclaration.occursIn "classDiagram".toList = false := by decide
  have hlast : (if ended then [[]] else [] : List Text).countP classDeclaration.occursIn = 0 := by
    cases ended <;> decide
  have hoccurs : classDeclaration.occursIn ∘ ClassRow.line = ClassRow.isOpening :=
    funext ClassRow.occursIn_classDeclaration
  rw [lineLed_classDeclaration.count_eq_countP hclosed, classDocument, lines_document hlines,
    List.countP_append, List.countP_cons, List.countP_map, hheader, hlast, hoccurs,
    countP_classRows]
  simp [countP_rows, ClassRow.isOpening]

theorem count_memberPattern_document {sign : Char}
    (hshuns : ∀ q ∈ (memberPattern sign).pieces, q.shuns '\n' = true) :
    (memberPattern sign).count (classDocument xs rs ended) =
      (xs.map fun x => x.members.countP (·.signature.sign == sign)).sum := by
  have hheader : (memberPattern sign).count "classDiagram".toList = 0 :=
    count_memberPattern_eq_zero (by decide)
  rw [classDocument, count_document rfl hshuns hheader]
  simp only [ClassRow.count_memberPattern_line, sum_map_ite]
  rw [countP_classRows]
  simp [countP_rows, ClassRow.isSigned]

theorem count_arrows_document : classArrow.count (classDocument xs rs ended) +
    classDottedArrow.count (classDocument xs rs ended) = rs.length := by
  have harrow : classArrow.count (classDocument xs rs ended) = rs.length := by
    rw [classDocument, count_document rfl (by decide) (by decide)]
    simp only [ClassRow.count_classArrow_line, sum_map_ite]
    rw [countP_classRows]
    simp [countP_rows, ClassRow.isRelation]
  have hdotted : classDottedArrow.count (classDocument xs rs ended) = 0 := by
    rw [classDocument, count_document rfl (by decide) (by decide)]
    simp [ClassRow.count_classDottedArrow_line]
  rw [harrow, hdotted]
  rfl

end Document

namespace Metrics

/-! ### The counters -/

/-- A class diagram written from classes and relations is detected as one, and shows the classes,
the attributes and the methods of them all and the relations, and nothing else. -/
theorem written_classes_counted (xs : List ClassBlock) (rs : List Relation) (ended : Bool) :
    let s := classDocument xs rs ended
    Kind.detect s = some .classes ∧
    measure .classes s =
      { elements := xs.length
        attributes := (xs.map fun x => x.members.countP (·.signature.isType)).sum
        methods := (xs.map fun x => x.members.countP (!·.signature.isType)).sum
        relationships := rs.length } := by
  intro s
  refine ⟨detect_document (newline_notMem_rows _) (by decide) ended, ?_⟩
  have hcolon : (fun m : Member => m.signature.sign == ':') = (·.signature.isType) := by
    funext m
    cases m.signature <;> rfl
  have hopen : (fun m : Member => m.signature.sign == '(') = (!·.signature.isType) := by
    funext m
    cases m.signature <;> rfl
  rw [measure, count_classDeclaration_document, classAttribute_eq, classMethod_eq,
    count_memberPattern_document _ _ _ (by decide), count_memberPattern_document _ _ _ (by decide),
    count_arrows_document, hcolon, hopen]

example : let name : Name := ⟨"class".toList, by decide, List.all_eq_true.mp (by decide)⟩
    let field : Member :=
      ⟨"  ".toList, '-', name, .ofType name, by decide, by decide, by decide⟩
    let method : Member :=
      ⟨"\t".toList, '~', name, .ofArgument none, by decide, by decide, by decide⟩
    (classRows [⟨name, [field, method]⟩] [⟨name, name⟩]).map ClassRow.line =
      ["class class \x7b".toList, "  -class: class".toList, "\t~class()".toList, "\x7d".toList,
        "class --> class".toList] := by
  decide

end Metrics

end DiagramReview
