import DiagramReview.Complexity.Advice
import Mathlib.Data.List.Infix

namespace DiagramReview

def Kind.bounded : Kind → List (Counter × String × Nat)
  | classes => [(.elements, "classes", 12)]
  | sequence => [(.elements, "participants", 7), (.relationships, "messages", 15)]
  | state | oldState => [(.elements, "states", 10)]
  | entities => [(.elements, "entities", 10)]
  | flowchart | graph => [(.elements, "nodes", 15)]

def adviceText (noun : String) (n limit : Nat) : String :=
  "Reduce " ++ noun ++ " (current: " ++ toString n ++ ", recommended: " ++ toString limit ++
    " or fewer)"

namespace Cap

theorem bound_of_total {c : Cap} (h : c.perElement = false) (m : Metrics) :
    c.bound m = c.limit := by
  simp [bound, h]

theorem exceeded_iff_of_total {c : Cap} (h : c.perElement = false) (m : Metrics) :
    c.exceeded m = true ↔ c.limit < m.get c.counter := by
  rw [exceeded, bound_of_total h, decide_eq_true_iff]

def adviceLead (c : Cap) : String :=
  (if c.perElement then "Too many " else "Reduce ") ++ c.noun ++ " (current: "

theorem adviceLead_isPrefix (c : Cap) (m : Metrics) :
    c.adviceLead.toList <+: (c.suggestion m).message.toList := by
  have h : (c.suggestion m).message = c.adviceLead ++ (toString (m.get c.counter) ++ c.measure ++
      ", recommended: " ++ toString (c.bound m) ++ " or fewer)") := by
    simp only [suggestion, adviceLead, String.append_assoc]
  rw [h, String.toList_append]
  exact List.prefix_append _ _

theorem eq_of_text_eq {kind : Kind} {lead : Cap → String} {c d : Cap} {s : String}
    (hl : ∀ c ∈ kind.caps, ∀ d ∈ kind.caps, (lead c).toList <+: (lead d).toList → c = d)
    (hc : c ∈ kind.caps) (hd : d ∈ kind.caps) (hcs : (lead c).toList <+: s.toList)
    (hds : (lead d).toList <+: s.toList) : c = d := by
  rcases List.prefix_or_prefix_of_prefix hcs hds with h | h
  · exact hl c hc d hd h
  · exact (hl d hd c hc h).symm

theorem eq_of_adviceLead (kind : Kind) : ∀ c ∈ kind.caps, ∀ d ∈ kind.caps,
    c.adviceLead.toList <+: d.adviceLead.toList → c = d := by
  cases kind <;> simp [Kind.caps, adviceLead]

end Cap

theorem Kind.exists_cap_of_bounded {kind : Kind} : ∀ x ∈ kind.bounded, ∃ c ∈ kind.caps,
    c.counter = x.1 ∧ c.noun = x.2.1 ∧ c.limit = x.2.2 ∧ c.perElement = false ∧
      c.measure = "" ∧ c.remedy.isSome := by
  cases kind <;> decide

theorem Metrics.exists_suggestion_iff {kind : Kind} {c : Counter} {noun : String} {limit : Nat}
    (m : Metrics) (h : (c, noun, limit) ∈ kind.bounded) :
    (∃ r ∈ m.suggestions kind, r.message = adviceText noun (m.get c) limit) ↔ limit < m.get c := by
  obtain ⟨cap, hcap, rfl, rfl, rfl, hp, hm, -⟩ := Kind.exists_cap_of_bounded _ h
  have htext : (cap.suggestion m).message = adviceText cap.noun (m.get cap.counter) cap.limit := by
    simp [Cap.suggestion, adviceText, Cap.bound_of_total hp, hp, hm]
  have hexceeded := Cap.exceeded_iff_of_total hp m
  constructor
  · rintro ⟨r, hr, he⟩
    obtain ⟨d, hd, rfl⟩ := List.mem_map.mp hr
    obtain ⟨hd, hdm⟩ := List.mem_filter.mp hd
    have hl := cap.adviceLead_isPrefix m
    rw [htext, ← he] at hl
    obtain rfl := Cap.eq_of_text_eq (Cap.eq_of_adviceLead kind) hd hcap (d.adviceLead_isPrefix m) hl
    exact hexceeded.mp hdm
  · intro hn
    have hmem : cap ∈ (Kind.capsOf kind).filter (·.exceeded m) :=
      List.mem_filter.mpr ⟨hcap, hexceeded.mpr hn⟩
    exact ⟨cap.suggestion m, List.mem_map_of_mem hmem, htext⟩

theorem Metrics.tone_of_mem_suggestions {m : Metrics} {kind : Option Kind} {r : Recommendation}
    (h : r ∈ m.suggestions kind) : r.tone = .suggestion := by
  obtain ⟨c, -, rfl⟩ := List.mem_map.mp h
  rfl

theorem Level.tone_recommendation (l : Level) : l.recommendation.tone ≠ .suggestion := by
  cases l <;> decide

theorem Metrics.exists_advice_iff {kind : Option Kind} {t : Thresholds} {m : Metrics}
    {raw : Binary64} (hl : t.classify raw ≠ .simple) (message : String) :
    (∃ r ∈ m.advice kind t raw, r.tone = .suggestion ∧ r.message = message) ↔
      ∃ r ∈ m.suggestions kind, r.message = message := by
  have hadvice : m.advice kind t raw =
      (t.classify raw).recommendation :: m.suggestions kind := by
    simp [advice, hl]
  rw [hadvice]
  constructor
  · rintro ⟨r, hr, htone, hm⟩
    rcases List.mem_cons.mp hr with rfl | hr
    · exact absurd htone (Level.tone_recommendation _)
    · exact ⟨r, hr, hm⟩
  · rintro ⟨r, hr, hm⟩
    exact ⟨r, List.mem_cons_of_mem _ hr, tone_of_mem_suggestions hr, hm⟩

end DiagramReview
