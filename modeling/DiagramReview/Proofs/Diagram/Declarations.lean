import DiagramReview.Diagram.Metrics
import DiagramReview.Proofs.Text.OpenLine

namespace DiagramReview

open Text Text.Piece Text.Pattern

variable {l : Text} {below : List Text}

/-- The count is the number of lines that the pattern matches alone, up to the lines left open. -/
structure CountsLines (p : Pattern) (count : Nat) (s : Text) : Prop where
  le : count ≤ (lines s).countP p.occursIn + p.openLines s
  ge : (lines s).countP p.occursIn ≤ count + p.openLines s

theorem countsLines {p : Pattern} (h : p.LineLed) (s : Text) : CountsLines p (p.count s) s :=
  ⟨h.count_le s, h.countP_lines_le s⟩

theorem Text.Pattern.LineLed.count_eq_countP {p : Pattern} (h : p.LineLed) {s : Text}
    (hclosed : ∀ l ∈ lines s, ∀ below, p.leavesOpen (l :: below) ≠ true) :
    p.count s = (lines s).countP p.occursIn := by
  have hopen : p.openLines s = 0 := by
    apply List.countP_eq_zero.mpr
    intro ls hls hleaves
    rcases ls with - | ⟨l, below⟩
    · cases hleaves
    · have hl := ((List.mem_tails _ _).mp hls).subset List.mem_cons_self
      exact hclosed l hl below hleaves
  have hle := h.count_le s
  have hge := h.countP_lines_le s
  omega

theorem lineLed_classDeclaration : classDeclaration.LineLed := lineLed_of_steady (by decide)

theorem lineLed_participant : participant.LineLed := lineLed_of_steady (by decide)

theorem lineLed_entityBlock : entityBlock.LineLed := lineLed_of_steady (by decide)

theorem lineLed_entityAttribute : entityAttribute.LineLed :=
  lineLed_of_indented (by decide) (by decide)

theorem drop_of_stateDeclaration {s : Text} {n : Nat}
    (h : widthOf? stateDeclaration.pieces s = some n) :
    s.drop n = (s.dropWhile (· != ':')).drop 1 := by
  let front : List Piece := [many isBlank, anyOf ["[*]".toList, []], many isBlank, one isWord,
    many fun c => isWord c || isBlank c]
  have hshuns : ∀ q ∈ front, q.shuns ':' = true := by decide
  exact drop_of_shuns hshuns h

theorem lineLed_stateDeclaration : stateDeclaration.LineLed := by
  apply lineLed_of_blanks (by decide) (by decide) (by decide)
  intro s t n m ht hs hm
  rw [drop_of_stateDeclaration hs, drop_of_stateDeclaration hm]
  exact drop_suffix_drop (dropWhile_suffix_dropWhile ht)

theorem countP_lines_le_count {p : Pattern} (h : p.LineLed) (hlines : withinLines p.pieces = true)
    (hends : endsInLine p.pieces = true) (s : Text) : (lines s).countP p.occursIn ≤ p.count s := by
  apply h.countP_lines_le_count
  intro s n hs b
  rw [width?_true] at hs ⊢
  exact widthOf?_whole hlines hends hs b

theorem class_of_leavesOpen (h : classDeclaration.leavesOpen (l :: below) = true) :
    trim l = "class".toList :=
  trim_of_keyword_open (run isWord) (by decide) (by decide) (by decide) h

theorem participant_of_leavesOpen (h : participant.leavesOpen (l :: below) = true) :
    trim l = "participant".toList :=
  trim_of_keyword_open [] (by decide) (by decide) (by decide) h

theorem word_of_entityBlock_open (h : entityBlock.leavesOpen (l :: below) = true) :
    trim l ≠ [] ∧ ∀ c ∈ trim l, isWord c = true := by
  obtain ⟨hne, hover⟩ := runsOver_of_leavesOpen_blanks (by decide) h
  have hblank (r : Text) (hr : runsOver [many isBlank, word "\x7b".toList] r) :
      ∀ c ∈ r, isBlank c = true := (runsOver_many hr).resolve_right (not_runsOver (by decide))
  have hword := accepts_of_run_open hblank hover
  rw [← trimLeft, trim_trimLeft] at hword
  exact ⟨hne, hword⟩

theorem word_of_entityAttribute_open (h : entityAttribute.leavesOpen (l :: below) = true) :
    ∀ c ∈ trim l, isWord c = true := by
  have hover := runsOver_of_leavesOpen (p := entityAttribute) (by decide) h
  have hblank (r : Text) (hr : runsOver (run isBlank ++ run isWord) r) :
      ∀ c ∈ r, isBlank c = true := isBlank_of_runsOver hr (by decide)
  have hnil (hl : ∀ c ∈ l, isBlank c = true) : ∀ c ∈ trim l, isWord c = true := by
    rw [trim_eq_nil_iff.mpr hl]
    simp
  rcases runsOver_one hover with hl | ⟨d, r, rfl, hd, hr⟩
  · exact hnil hl
  · rcases runsOver_many hr with hr | hr
    · exact hnil (List.forall_mem_cons.mpr ⟨hd, hr⟩)
    · have hword := accepts_of_run_open hblank hr
      have htrim := trim_blank_append (List.forall_mem_singleton.mpr hd) r
      rw [← trimLeft, trim_trimLeft, ← htrim] at hword
      exact hword

theorem colon_of_leavesOpen (h : stateDeclaration.leavesOpen (l :: below) = true) : ':' ∉ l := by
  intro hc
  obtain ⟨-, ⟨n, hn, hlen⟩, -⟩ := exists_of_leavesOpen h
  obtain ⟨u, v, rfl, hu⟩ := List.eq_append_cons_of_mem hc
  rw [width?_true] at hn
  have hle := widthOf?_le hn
  have hdrop := congrArg List.length (drop_of_stateDeclaration hn)
  rw [List.append_assoc, List.cons_append, dropWhile_ne_append hu] at hdrop
  simp at hdrop hlen hle
  omega

namespace Metrics

/-- An entity has the attributes that lines show by themselves, and beyond these at most one for
each line left open, which holds one word or nothing. -/
theorem attributes_counted_by_line (s : Text) :
    CountsLines entityAttribute (measure .entities s).attributes s ∧
    (lines s).countP entityAttribute.occursIn ≤ (measure .entities s).attributes ∧
    ∀ l below, entityAttribute.leavesOpen (l :: below) = true → ∀ c ∈ trim l, isWord c = true :=
  ⟨countsLines lineLed_entityAttribute s,
    countP_lines_le_count lineLed_entityAttribute (by decide) (by decide) s,
    fun _ _ h => word_of_entityAttribute_open h⟩

theorem attributes_counted_below_word :
    let s := "erDiagram\n  CUSTOMER\n  ORDER \x7b\n    string name\n  \x7d".toList
    let l := "  CUSTOMER".toList
    let below := ["  ORDER \x7b".toList, "    string name".toList, "  \x7d".toList]
    entityAttribute.leavesOpen (l :: below) = true ∧
    CountsLines entityAttribute (measure .entities s).attributes s ∧
    (lines s).countP entityAttribute.occursIn ≤ (measure .entities s).attributes ∧
    ∀ c ∈ trim l, isWord c = true := by
  intro s l below
  have hopen : entityAttribute.leavesOpen (l :: below) = true := by decide
  obtain ⟨hcounts, hle, hword⟩ := attributes_counted_by_line s
  exact ⟨hopen, hcounts, hle, hword l below hopen⟩

theorem header_below_word_is_attribute :
    let s := "erDiagram\n  CUSTOMER\n  ORDER \x7b\n    string name\n  \x7d".toList
    (measure .entities s).attributes = 2 ∧ (lines s).countP entityAttribute.occursIn = 1 := by
  decide

/-- Declarations are the lines that show one by themselves, up to the lines left open: a bare keyword,
a single word where an entity may open, a line without a colon where a state may be described. Only
participants may also be fewer: a bare keyword hides an indented declaration below it. -/
theorem declarations_counted_by_line (s : Text) :
    CountsLines classDeclaration (measure .classes s).elements s ∧
    CountsLines stateDeclaration (measure .state s).elements s ∧
    CountsLines stateDeclaration (measure .oldState s).elements s ∧
    CountsLines entityBlock (measure .entities s).elements s ∧
    CountsLines participant (participant.count s) s ∧
    (lines s).countP classDeclaration.occursIn ≤ (measure .classes s).elements ∧
    (lines s).countP stateDeclaration.occursIn ≤ (measure .state s).elements ∧
    (lines s).countP entityBlock.occursIn ≤ (measure .entities s).elements ∧
    ∀ l below,
      (classDeclaration.leavesOpen (l :: below) = true → trim l = "class".toList) ∧
      (stateDeclaration.leavesOpen (l :: below) = true → ':' ∉ l) ∧
      (entityBlock.leavesOpen (l :: below) = true →
        trim l ≠ [] ∧ ∀ c ∈ trim l, isWord c = true) ∧
      (participant.leavesOpen (l :: below) = true → trim l = "participant".toList) := by
  have hstate := countsLines lineLed_stateDeclaration s
  refine ⟨countsLines lineLed_classDeclaration s, hstate, hstate, countsLines lineLed_entityBlock s,
    countsLines lineLed_participant s, ?_, ?_, ?_, ?_⟩
  · exact countP_lines_le_count lineLed_classDeclaration (by decide) (by decide) s
  · exact countP_lines_le_count lineLed_stateDeclaration (by decide) (by decide) s
  · exact countP_lines_le_count lineLed_entityBlock (by decide) (by decide) s
  · intro l below
    exact ⟨class_of_leavesOpen, colon_of_leavesOpen, word_of_entityBlock_open,
      participant_of_leavesOpen⟩

theorem declarations_counted_below_keywords :
    let class' := "class ".toList
    let state := "Idle".toList
    let entity := "  ORDER".toList
    let participant' := "participant".toList
    CountsLines classDeclaration (measure .classes (unlines [class', "Dog".toList])).elements
      (unlines [class', "Dog".toList]) ∧
    (classDeclaration.leavesOpen [class', "Dog".toList] = true ∧ trim class' = "class".toList) ∧
    (stateDeclaration.leavesOpen [state, ": waits".toList] = true ∧ ':' ∉ state) ∧
    (entityBlock.leavesOpen [entity, "\x7b".toList] = true ∧
      ∀ c ∈ trim entity, isWord c = true) ∧
    (participant.leavesOpen [participant', "Bob".toList] = true ∧
      trim participant' = "participant".toList) := by
  intro class' state entity participant'
  have hclass : classDeclaration.leavesOpen [class', "Dog".toList] = true := by decide
  have hstate : stateDeclaration.leavesOpen [state, ": waits".toList] = true := by decide
  have hentity : entityBlock.leavesOpen [entity, "\x7b".toList] = true := by decide
  have hparticipant : participant.leavesOpen [participant', "Bob".toList] = true := by decide
  obtain ⟨hcounts, -, -, -, -, -, -, -, hopen⟩ :=
    declarations_counted_by_line (unlines [class', "Dog".toList])
  exact ⟨hcounts, ⟨hclass, (hopen class' _).1 hclass⟩, ⟨hstate, (hopen state _).2.1 hstate⟩,
    ⟨hentity, ((hopen entity _).2.2.1 hentity).2⟩,
    ⟨hparticipant, (hopen participant' _).2.2.2 hparticipant⟩⟩

theorem declarations_cross_lines :
    let s := "classDiagram\nclass\nDog".toList
    let t := "sequenceDiagram\nparticipant \n  participant Bob".toList
    ((measure .classes s).elements = 1 ∧ (lines s).countP classDeclaration.occursIn = 0) ∧
    ((measure .sequence t).elements = 1 ∧ (lines t).countP participant.occursIn = 2) := by
  decide

end Metrics

end DiagramReview
