import DiagramReview.Complexity.Analysis
import DiagramReview.Proofs.Validation.Findings

namespace DiagramReview.Check

open Text

def Significant (line : Text) : Prop :=
  line ≠ [] ∧ ¬ "```".toList <+: line ∧ ¬ "%%".toList <+: line

def FirstSignificant (s : Text) (n : Nat) (line : Text) : Prop :=
  ∃ before l after, lines s = before ++ l :: after ∧ n = before.length + 1 ∧ line = trim l ∧
    Significant line ∧ ∀ b ∈ before, ¬ Significant (trim b)

def named : List (String × Kind) :=
  [("classDiagram", .classes), ("sequenceDiagram", .sequence), ("stateDiagram-v2", .state),
    ("erDiagram", .entities), ("flowchart TB", .flowchart), ("flowchart TD", .flowchart),
    ("flowchart LR", .flowchart), ("flowchart RL", .flowchart), ("graph TB", .graph),
    ("graph TD", .graph), ("graph LR", .graph), ("graph RL", .graph)]

theorem isSignificant_iff (line : Text) : isSignificant line = true ↔ Significant line := by
  simp only [isSignificant, Significant, fenceMark, commentMark, Bool.and_eq_true,
    Bool.not_eq_true', ← Bool.not_eq_true, List.isPrefixOf_iff_prefix, List.isEmpty_iff, and_assoc]

theorem find?_numbered (ls : List Text) (k n : Nat) (line : Text) :
    ((ls.mapIdx fun i l => (i + k, trim l)).find? fun x => isSignificant x.2) = some (n, line) ↔
      ∃ before l after, ls = before ++ l :: after ∧ n = before.length + k ∧ line = trim l ∧
        Significant line ∧ ∀ b ∈ before, ¬ Significant (trim b) := by
  -- the number of the first line varies: it is one more for the tail
  induction ls generalizing k with
  | nil => simp
  | cons m ms ih =>
    have hshift : (fun i l => ((i + 1) + k, trim l)) = fun i l => (i + (k + 1), trim l) := by
      funext i l
      rw [Nat.add_right_comm, Nat.add_assoc]
    rw [List.mapIdx_cons, hshift, List.find?_cons]
    by_cases hm : Significant (trim m)
    · simp only [(isSignificant_iff _).mpr hm, Option.some.injEq, Prod.mk.injEq, Nat.zero_add]
      constructor
      · rintro ⟨rfl, rfl⟩
        exact ⟨[], m, ms, rfl, (Nat.zero_add k).symm, rfl, hm, by simp⟩
      · rintro ⟨before, l, after, he, rfl, rfl, hl, hb⟩
        cases before with
        | nil =>
          obtain ⟨rfl, -⟩ := List.cons.inj he
          exact ⟨(Nat.zero_add k).symm, rfl⟩
        | cons b bs =>
          obtain ⟨rfl, -⟩ := List.cons.inj he
          exact absurd hm (hb _ List.mem_cons_self)
    · rw [Bool.eq_false_iff.mpr fun h => hm ((isSignificant_iff _).mp h)]
      rw [ih]
      constructor
      · rintro ⟨before, l, after, rfl, rfl, rfl, hl, hb⟩
        refine ⟨m :: before, l, after, rfl, ?_, rfl, hl, ?_⟩
        · rw [List.length_cons]
          omega
        · simpa [hm] using hb
      · rintro ⟨before, l, after, he, rfl, rfl, hl, hb⟩
        cases before with
        | nil =>
          obtain ⟨rfl, -⟩ := List.cons.inj he
          exact absurd hl hm
        | cons b bs =>
          obtain ⟨rfl, rfl⟩ := List.cons.inj he
          refine ⟨bs, l, after, rfl, ?_, rfl, hl, fun x hx => hb x (List.mem_cons_of_mem _ hx)⟩
          rw [List.length_cons]
          omega

theorem firstSignificant_eq_some_iff {s : Text} {n : Nat} {line : Text} :
    firstSignificant s = some (n, line) ↔ FirstSignificant s n line := by
  have hm : (numberedLines s).map (fun x => (x.1, trim x.2)) =
      (lines s).mapIdx fun i l => (i + 1, trim l) := by
    apply List.ext_getElem?
    simp [numberedLines, Function.comp_def]
  rw [FirstSignificant, ← find?_numbered (lines s) 1, ← hm]
  rfl

theorem isDeclaration_iff {line : Text} :
    isDeclaration line = true ↔ ∃ d kind, (d, kind) ∈ named ∧ d.toList <+: line := by
  have hn : declarations = named.map (·.1) := rfl
  simp [isDeclaration, hn]

theorem ofLine?_of_named {d : String} {kind : Kind} {line : Text} (hd : (d, kind) ∈ named)
    (h : d.toList <+: line) : Kind.ofLine? line = some kind := by
  obtain ⟨rest, rfl⟩ := h
  simp only [named, List.mem_cons, Prod.mk.injEq, List.not_mem_nil, or_false] at hd
  rcases hd with ⟨rfl, rfl⟩ | ⟨rfl, rfl⟩ | ⟨rfl, rfl⟩ | ⟨rfl, rfl⟩ | ⟨rfl, rfl⟩ | ⟨rfl, rfl⟩ |
    ⟨rfl, rfl⟩ | ⟨rfl, rfl⟩ | ⟨rfl, rfl⟩ | ⟨rfl, rfl⟩ | ⟨rfl, rfl⟩ | ⟨rfl, rfl⟩
  all_goals rfl

theorem ofLine?_of_not_significant {line : Text} (h : ¬ Significant line) :
    Kind.ofLine? line = none := by
  by_cases he : line = []
  · subst he
    rfl
  · by_cases hf : "```".toList <+: line
    · obtain ⟨rest, rfl⟩ := hf
      rfl
    · have hc : "%%".toList <+: line := by
        by_contra hc
        exact h ⟨he, hf, hc⟩
      obtain ⟨rest, rfl⟩ := hc
      rfl

theorem detect_of_firstSignificant {s : Text} {n : Nat} {line : Text} {kind : Kind}
    (h : FirstSignificant s n line) (hk : Kind.ofLine? line = some kind) :
    Kind.detect s = some kind := by
  obtain ⟨before, l, after, hs, -, rfl, -, hb⟩ := h
  -- detection skips nothing, but no fence, comment or empty line opens with a keyword
  have hnone : before.findSome? (fun l => Kind.ofLine? (trim l)) = none :=
    List.findSome?_eq_none_iff.mpr fun b hm => ofLine?_of_not_significant (hb b hm)
  rw [Kind.detect, findSome?_rows (f := Kind.ofLine?) rfl, hs, List.findSome?_append, hnone,
    Option.none_or, List.findSome?_cons, hk]

theorem errors_declaration_eq_nil {s : Text} : (declaration s).errors = [] ↔
    ∃ n line, FirstSignificant s n line ∧ isDeclaration line = true := by
  change (declaration s).bucket .error = [] ↔ _
  unfold declaration
  cases h : firstSignificant s with
  | none =>
    simp only [Findings.bucket_error, ↓reduceIte, List.cons_ne_nil, false_iff, not_exists, not_and]
    intro n line hl
    rw [firstSignificant_eq_some_iff.mpr hl] at h
    cases h
  | some entry =>
    obtain ⟨n, line⟩ := entry
    have hl := firstSignificant_eq_some_iff.mp h
    simp only [Findings.bucket_append, Findings.bucket_ensure, Findings.bucket_error,
      Findings.bucket_warning, ↓reduceIte, reduceCtorEq, ite_self, List.append_nil,
      ite_eq_left_iff, List.cons_ne_nil, imp_false, Bool.not_eq_true, Bool.not_eq_false]
    constructor
    · intro hd
      exact ⟨n, line, hl, hd⟩
    · rintro ⟨n', line', hl', hd⟩
      rw [firstSignificant_eq_some_iff.mpr hl'] at h
      cases h
      exact hd

theorem warnings_declaration {s : Text} {n : Nat} {line : Text} (h : FirstSignificant s n line) :
    (declaration s).warnings =
      if "graph ".toList <+: line then [deprecatedGraph n] else [] := by
  change (declaration s).bucket .warning = _
  rw [declaration, firstSignificant_eq_some_iff.mpr h]
  have hg : "graph ".toList <+: line ↔ "graph ".toList.isPrefixOf line = true :=
    List.isPrefixOf_iff_prefix.symm
  rw [if_congr hg rfl rfl]
  dsimp only
  cases "graph ".toList.isPrefixOf line <;> simp

theorem exists_kind_of_errors_nil {s : Text} (h : (declaration s).errors = []) :
    ∃ n line d kind, FirstSignificant s n line ∧ (d, kind) ∈ named ∧ d.toList <+: line ∧
      Kind.detect s = some kind := by
  obtain ⟨n, line, hl, hd⟩ := errors_declaration_eq_nil.mp h
  obtain ⟨d, kind, hn, hp⟩ := isDeclaration_iff.mp hd
  exact ⟨n, line, d, kind, hl, hn, hp, detect_of_firstSignificant hl (ofLine?_of_named hn hp)⟩

theorem declaration_of_state {d : String} (h : (d, Kind.state) ∈ named) :
    d = "stateDiagram-v2" := by
  simpa [named] using h

theorem oldState_not_named (d : String) : (d, Kind.oldState) ∉ named := by simp [named]

theorem infix_of_firstSignificant {s : Text} {n : Nat} {line : Text}
    (h : FirstSignificant s n line) : line <:+: s := by
  obtain ⟨before, l, after, hs, -, rfl, -⟩ := h
  have hl : l ∈ lines s := by rw [hs]; simp
  exact (trim_isInfix l).trans (infix_of_mem_lines hl)

theorem version_of_errors_nil {s : Text} {kind : Kind} (h : (declaration s).errors = [])
    (hk : Kind.detect s = some kind) : version kind s = .empty := by
  obtain ⟨n, line, d, other, hl, hd, hp, hdetect⟩ := exists_kind_of_errors_nil h
  obtain rfl : kind = other := Option.some.inj (hk.symm.trans hdetect)
  cases kind with
  | state =>
    -- the declaration itself is a part of the document that names the notation
    obtain rfl := declaration_of_state hd
    have hi : "stateDiagram-v2".toList <:+: s := hp.isInfix.trans (infix_of_firstSignificant hl)
    rw [version, (hasPart_iff _ _).mpr hi]
    rfl
  | oldState => exact absurd hd (oldState_not_named d)
  | classes | sequence | entities | flowchart | graph => rfl

theorem errors_specific_of_errors_nil {s : Text} (h : (declaration s).errors = []) (m : Metrics) :
    (specific (Kind.detect s) m s).bucket .error = [] := by
  obtain ⟨n, line, d, kind, -, -, -, hk⟩ := exists_kind_of_errors_nil h
  rw [hk, errors_specific, version_of_errors_nil h hk, Findings.bucket_empty]

theorem graph_prefix_iff {d : String} {kind : Kind} {line : Text} (hd : (d, kind) ∈ named)
    (hp : d.toList <+: line) : "graph ".toList <+: line ↔ kind = .graph := by
  constructor
  · rintro ⟨rest, rfl⟩
    have h : Kind.ofLine? ("graph ".toList ++ rest) = some .graph := rfl
    exact Option.some.inj ((ofLine?_of_named hd hp).symm.trans h)
  · rintro rfl
    simp only [named, List.mem_cons, Prod.mk.injEq, reduceCtorEq, and_false, and_true, false_or,
      List.not_mem_nil, or_false] at hd
    refine List.IsPrefix.trans ?_ hp
    rcases hd with rfl | rfl | rfl | rfl
    all_goals decide

/-- Where the check of the declaration finds no error, the detected kind is the one that the first
significant line names, the analysis takes place, a graph and nothing else is deprecated, and the
version of a state diagram is right. -/
theorem declaration_agrees_with_detection (s : Text) (h : (declaration s).errors = []) :
    ∃ n line kind, FirstSignificant s n line ∧ Kind.detect s = some kind ∧
      (∃ d, (d, kind) ∈ named ∧ d.toList <+: line) ∧
      (∀ d other, (d, other) ∈ named → d.toList <+: line → other = kind) ∧
      kind ≠ .oldState ∧
      (∀ m, (specific (Kind.detect s) m s).errors = []) ∧
      (∀ t, ∃ a, Analysis.ofText? t s = some a ∧ a.kind = some kind) ∧
      ((∃ w ∈ (declaration s).warnings, w.category = .deprecated) ↔ kind = .graph) := by
  obtain ⟨n, line, d, kind, hl, hd, hp, hk⟩ := exists_kind_of_errors_nil h
  refine ⟨n, line, kind, hl, hk, ⟨d, hd, hp⟩, ?_, ?_, ?_, ?_, ?_⟩
  · intro d' other hd' hp'
    exact Option.some.inj ((ofLine?_of_named hd' hp').symm.trans (ofLine?_of_named hd hp))
  · rintro rfl
    exact oldState_not_named d hd
  · exact errors_specific_of_errors_nil h
  · intro t
    exact ⟨.ofKind t kind s, by rw [Analysis.ofText?, hk]; rfl, rfl⟩
  · rw [warnings_declaration hl, ← graph_prefix_iff hd hp]
    by_cases hg : "graph ".toList <+: line
    · rw [if_pos hg]
      exact ⟨fun _ => hg, fun _ => ⟨_, List.mem_singleton_self _, rfl⟩⟩
    · rw [if_neg hg]
      exact ⟨fun ⟨_, hw, _⟩ => (List.not_mem_nil hw).elim, fun hp => absurd hp hg⟩

theorem declaration_agrees_on_graph :
    let s := "```mermaid\n%% note\n\n  graph TD\nstateDiagram\n```".toList
    (declaration s).errors = [] ∧ ∃ n line kind, FirstSignificant s n line ∧
      Kind.detect s = some kind ∧ (∃ d, (d, kind) ∈ named ∧ d.toList <+: line) ∧
      (∀ d other, (d, other) ∈ named → d.toList <+: line → other = kind) ∧
      kind ≠ .oldState ∧
      (∀ m, (specific (Kind.detect s) m s).errors = []) ∧
      (∀ t, ∃ a, Analysis.ofText? t s = some a ∧ a.kind = some kind) ∧
      ((∃ w ∈ (declaration s).warnings, w.category = .deprecated) ↔ kind = .graph) := by
  intro s
  have h : (declaration s).errors = [] := by decide
  exact ⟨h, declaration_agrees_with_detection s h⟩

end DiagramReview.Check
