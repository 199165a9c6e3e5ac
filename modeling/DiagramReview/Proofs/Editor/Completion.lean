import DiagramReview.Editor.Completion
import DiagramReview.Proofs.Diagram.Detection
import DiagramReview.Proofs.Text.Retype
import DiagramReview.Proofs.Text.Units
import DiagramReview.Proofs.Validation.Declaration

namespace DiagramReview

open Text

variable {s indent t row : Text} {p : Position} {d : String}

namespace Completion

theorem declarations_of_undeclared (h : Kind.detect s = none) :
    declarations s p = Check.declarations.filter ((typed s p).isPrefixOf ·.toList) := by
  rw [declarations, h]
  rfl

theorem declarations_of_declared {kind : Kind} (h : Kind.detect s = some kind) :
    declarations s p = [] := by
  rw [declarations, h]
  rfl

structure EndsLine (s : Text) (p : Position) (indent t : Text) : Prop where
  row : (rows s)[p.line]?.getD [] = indent ++ t
  length_le : (indent ++ t).length ≤ p.column
  indent_blank : ∀ c ∈ indent, isBlank c = true
  head_not_blank : ∀ c ∈ t.head?, isBlank c = false
  others : ∀ i l, (rows s)[i]? = some l → i ≠ p.line →
    ∀ kind : Kind, ¬ kind.keyword.toList <+: trim l

namespace EndsLine

theorem typed_eq (h : EndsLine s p indent t) : typed s p = t := by
  rw [typed, h.row, List.take_of_length_le h.length_le,
    trimLeft_indented h.indent_blank h.head_not_blank]

theorem detect_eq_none_iff (h : EndsLine s p indent t) :
    Kind.detect s = none ↔ ∀ kind : Kind, ¬ kind.keyword.toList <+: t := by
  have hline : Kind.ofLine? (trim (indent ++ t)) = none ↔ Kind.ofLine? t = none := by
    rw [trim_indented h.indent_blank h.head_not_blank, Kind.ofLine?_trimRight]
  rw [← Kind.ofLine?_eq_none_iff, ← hline, ← h.row, Kind.detect_eq_none_iff]
  constructor
  · intro hall
    cases hl : (rows s)[p.line]? with
    | none => rfl
    | some l => exact hall l (List.mem_of_getElem? hl)
  · intro hnone l hl
    obtain ⟨i, hi⟩ := List.mem_iff_getElem?.mp hl
    by_cases he : i = p.line
    · rw [← he, hi] at hnone
      exact hnone
    · exact Kind.ofLine?_eq_none_iff.mpr (h.others i l hi he)

end EndsLine

/-- At the end of a line the declarations that continue it are offered in their order, as long as
neither it nor another line opens with a keyword. A line that is a declaration only in part may
hold a whole keyword already: then it gives the document a kind and nothing is offered. -/
theorem partial_declaration_completed (h : EndsLine s p indent t) :
    ((∀ kind : Kind, ¬ kind.keyword.toList <+: t) →
      declarations s p = Check.declarations.filter (t.isPrefixOf ·.toList)) ∧
    ((∃ kind : Kind, kind.keyword.toList <+: t) → declarations s p = []) := by
  constructor
  · intro hnone
    rw [declarations_of_undeclared (h.detect_eq_none_iff.mpr hnone), h.typed_eq]
  · rintro ⟨kind, hk⟩
    cases hs : Kind.detect s with
    | none => exact absurd hk (h.detect_eq_none_iff.mp hs kind)
    | some found => exact declarations_of_declared hs

theorem partial_state_declaration_completed :
    let s := "%% graph\r\n\u3000\tstateDiagr\r\n".toList
    let t := "stateDiagr".toList
    let p : Position := ⟨1, 12⟩
    EndsLine s p "\u3000\t".toList t ∧
      ((∀ kind : Kind, ¬ kind.keyword.toList <+: t) →
        declarations s p = Check.declarations.filter (t.isPrefixOf ·.toList)) ∧
      ((∃ kind : Kind, kind.keyword.toList <+: t) → declarations s p = []) := by
  intro s t p
  have hrows : rows s = ["%% graph".toList, "\u3000\t".toList ++ t] := by decide
  have h : EndsLine s p "\u3000\t".toList t := by
    refine ⟨by decide, by decide, List.all_eq_true.mp (by decide), not_blank_of_all (by decide), ?_⟩
    intro i l hi hne kind
    rw [hrows] at hi
    match i with
    | 0 =>
      cases hi
      cases kind <;> decide
    | 1 => exact absurd rfl hne
    | _ + 2 => cases hi
  exact ⟨h, partial_declaration_completed h⟩

theorem missing_direction_not_completed :
    let t := "flowchart ".toList
    let p : Position := ⟨0, 10⟩
    EndsLine t p [] t ∧ t.length = p.column ∧
      (∃ d ∈ Check.declarations, t <+: d.toList ∧ t ≠ d.toList) ∧ declarations t p = [] ∧
      Check.declarations.filter (t.isPrefixOf ·.toList) =
        ["flowchart TB", "flowchart TD", "flowchart LR", "flowchart RL"] := by
  intro t p
  have hrows : rows t = [t] := by decide
  have h : EndsLine t p [] t := by
    refine ⟨by decide, by decide, List.forall_mem_nil _, not_blank_of_all (by decide), ?_⟩
    intro i l hi hne kind
    rw [hrows] at hi
    match i with
    | 0 => exact absurd rfl hne
    | _ + 1 => cases hi
  exact ⟨h, by decide, by decide, by decide, by decide⟩

theorem compact_of_mem (hd : d ∈ Check.declarations) : Compact d.toList := by
  have hall : ∀ d ∈ Check.declarations, d.toList ≠ [] ∧ '\n' ∉ d.toList ∧
      d.toList.head?.all (!isBlank ·) = true ∧ d.toList.getLast?.all (!isBlank ·) = true := by
    decide
  obtain ⟨hne, hnewline, hhead, hlast⟩ := hall d hd
  exact ⟨hne, hnewline, not_blank_of_all hhead, not_blank_of_all hlast⟩

theorem exists_named (hd : d ∈ Check.declarations) : ∃ kind, (d, kind) ∈ Check.named := by
  have hn : Check.declarations = Check.named.map (·.1) := rfl
  rw [hn] at hd
  obtain ⟨⟨_, kind⟩, hmem, rfl⟩ := List.mem_map.mp hd
  exact ⟨kind, hmem⟩

theorem ofLine?_retype {kind : Kind} (hd : (d, kind) ∈ Check.named) (hw : Compact d.toList)
    (n : Nat) (line : Text) : Kind.ofLine? (trim (retype d.toList n line)) = some kind := by
  have hindent : ∀ c ∈ (line.take n).takeWhile isBlank, isBlank c = true :=
    List.all_eq_true.mp List.all_takeWhile
  have hhead : ∀ c ∈ (d.toList ++ line.drop n).head?, isBlank c = false := by
    rw [List.head?_append_of_ne_nil _ hw.ne_nil]
    exact hw.head_not_blank
  rw [retype, trim_indented hindent hhead]
  apply Check.ofLine?_of_named hd
  exact (prefix_trimRight_iff hw.last_not_blank).mpr (List.prefix_append _ _)

/-- The document once a declaration is accepted: it replaces what is typed before the position. -/
def accept (s : Text) (p : Position) (d : String) : Text := retypeLine d.toList p.line p.column s

/-- A declaration that is offered on a line and accepted there changes this line alone. The document
then has the kind that the declaration names, and no further one is offered anywhere. -/
theorem accepted_declaration_declares (hrow : (rows s)[p.line]? = some row)
    (hd : d ∈ declarations s p) :
    rows (accept s p d) = (rows s).set p.line (retype d.toList p.column row) ∧
      (∃ kind, (d, kind) ∈ Check.named ∧ Kind.detect (accept s p d) = some kind) ∧
      ∀ q, declarations (accept s p d) q = [] := by
  have hs : Kind.detect s = none := by
    cases h : Kind.detect s with
    | none => rfl
    | some kind => simp [declarations_of_declared h] at hd
  have hmem : d ∈ Check.declarations := by
    rw [declarations_of_undeclared hs] at hd
    exact (List.mem_filter.mp hd).1
  have hcompact : Compact d.toList := compact_of_mem hmem
  have hrows : rows (accept s p d) = (rows s).set p.line (retype d.toList p.column row) :=
    rows_retypeLine hcompact hrow
  obtain ⟨kind, hnamed⟩ := exists_named hmem
  have hkind : Kind.detect (accept s p d) = some kind := by
    apply Kind.detect_of_rows_set hs hrows
    · exact (List.getElem?_eq_some_iff.mp hrow).1
    · exact ofLine?_retype hnamed hcompact p.column row
  exact ⟨hrows, ⟨kind, hnamed, hkind⟩, fun q => declarations_of_declared hkind⟩

theorem accepted_graph_declares :
    let s := "```mermaid\r\n \tgr-v2 😀\r\n```".toList
    let p : Position := ⟨1, 4⟩
    let row := " \tgr-v2 😀".toList
    let d := "graph LR"
    (rows s)[p.line]? = some row ∧ d ∈ declarations s p ∧
      rows (accept s p d) = (rows s).set p.line (retype d.toList p.column row) ∧
      (∃ kind, (d, kind) ∈ Check.named ∧ Kind.detect (accept s p d) = some kind) ∧
      ∀ q, declarations (accept s p d) q = [] := by
  intro s p row d
  have hrow : (rows s)[p.line]? = some row := by decide
  have hd : d ∈ declarations s p := by decide
  exact ⟨hrow, hd, accepted_declaration_declares hrow hd⟩

def typed16 (s : Text) (p : Position) : Text :=
  trimLeft (take16 p.column ((rows s)[p.line]?.getD []))

def declarations16 (s : Text) (p : Position) : List String :=
  if (Kind.detect s).isSome then []
  else Check.declarations.filter ((typed16 s p).isPrefixOf ·.toList)

theorem units16_of_isBlank {c : Char} (h : isBlank c = true) : units16 c = 1 := by
  apply if_pos
  simp only [isBlank, Bool.or_eq_true, Bool.and_eq_true, decide_eq_true_eq, beq_iff_eq] at h
  omega

theorem units16_of_mem_declaration (hd : d ∈ Check.declarations) :
    ∀ c ∈ d.toList, units16 c = 1 := by
  have hall : ∀ d ∈ Check.declarations, d.toList.all (units16 · == 1) = true := by decide
  intro c hc
  exact beq_iff_eq.mp (List.all_eq_true.mp (hall d hd) c hc)

theorem filter_eq_nil_of_wide (h : ∃ c ∈ t, units16 c = 2) :
    Check.declarations.filter ((trimLeft t).isPrefixOf ·.toList) = [] := by
  obtain ⟨c, hc, hwide⟩ := h
  have hblank : isBlank c = false := by
    rw [← Bool.not_eq_true]
    intro hb
    rw [units16_of_isBlank hb] at hwide
    cases hwide
  apply List.filter_eq_nil_iff.mpr
  intro d hd hp
  have hmem : c ∈ d.toList :=
    (List.isPrefixOf_iff_prefix.mp hp).subset (mem_dropWhile hblank hc)
  rw [units16_of_mem_declaration hd c hmem] at hwide
  cases hwide

/-- Counting the columns of an editor in characters offers the same as counting them in 16-bit
units, at every position that splits no character. -/
theorem completion_counts_either_unit (h : ¬ Splits p.column ((rows s)[p.line]?.getD [])) :
    declarations s p = declarations16 s p := by
  cases hs : Kind.detect s with
  | some kind =>
    rw [declarations_of_declared hs, declarations16, hs]
    rfl
  | none =>
    rw [declarations_of_undeclared hs, declarations16, hs, typed, typed16]
    rcases take16_eq_take h with heq | ⟨hunits, hchars⟩
    · rw [heq]
      rfl
    · rw [filter_eq_nil_of_wide hunits, filter_eq_nil_of_wide hchars]
      rfl

theorem completion_counts_either_unit_behind_pair :
    let s := "%%\n\u3000😀fl\n".toList
    let p : Position := ⟨1, 3⟩
    ¬ Splits p.column ((rows s)[p.line]?.getD []) ∧ declarations s p = declarations16 s p := by
  intro s p
  have h : ¬ Splits p.column ((rows s)[p.line]?.getD []) := by decide
  exact ⟨h, completion_counts_either_unit h⟩

end Completion

end DiagramReview
