import DiagramReview.Complexity.Advice
import Mathlib.Data.List.Basic

namespace DiagramReview

structure Limit where
  lead : String
  count : Nat
  measure : String := ""
  bound : Nat
  deriving DecidableEq, Repr

namespace Limit

def exceeded (x : Limit) : Bool := x.bound < x.count

def text (x : Limit) : String :=
  x.lead ++ " (current: " ++ toString x.count ++ x.measure ++ ", recommended: " ++
    toString x.bound ++ " or fewer)"

/-- The limit that 64 bits hold. -/
def wrapped (x : Limit) : Limit := { x with bound := x.bound % Bits.values 64 }

def Misread (x : Limit) : Prop := Bits.values 64 ≤ x.bound ∧ x.wrapped.exceeded = true

def told (limits : List Limit) : List (Tone × String) :=
  (limits.filter exceeded).map fun x => (.suggestion, x.text)

end Limit

def Metrics.limits (m : Metrics) : Option Kind → List Limit
  | none => []
  | some .classes =>
    [{ lead := "Reduce classes", count := m.elements, bound := 12 },
     { lead := "Too many attributes", count := m.attributes, bound := m.elements * 5 },
     { lead := "Reduce relationships", count := m.relationships, bound := 15 }]
  | some .sequence =>
    [{ lead := "Reduce participants", count := m.elements, bound := 7 },
     { lead := "Reduce nesting", count := m.nesting, measure := " levels", bound := 2 },
     { lead := "Reduce messages", count := m.relationships, bound := 15 }]
  | some .state | some .oldState =>
    [{ lead := "Reduce states", count := m.elements, bound := 10 },
     { lead := "Reduce nesting", count := m.nesting, measure := " levels", bound := 1 }]
  | some .entities =>
    [{ lead := "Reduce entities", count := m.elements, bound := 10 },
     { lead := "Too many attributes", count := m.attributes, bound := m.elements * 8 }]
  | some .flowchart | some .graph =>
    [{ lead := "Reduce nodes", count := m.elements, bound := 15 },
     { lead := "Reduce subgraphs", count := m.subgraphs, bound := 3 }]

namespace Limit

variable {x : Limit} {limits : List Limit}

theorem wrapped_of_lt (h : x.bound < Bits.values 64) : x.wrapped = x := by
  rw [wrapped, Nat.mod_eq_of_lt h]

theorem wrapped_of_exceeded (hcount : x.count < Bits.values 64) (h : x.exceeded = true) :
    x.wrapped = x := by
  have hlt : x.bound < x.count := of_decide_eq_true h
  exact wrapped_of_lt (Nat.lt_trans hlt hcount)

theorem exceeded_iff_of_not_misread (hcount : x.count < Bits.values 64) (h : ¬ x.Misread) :
    x.wrapped.exceeded = true ↔ x.exceeded = true := by
  constructor
  · intro hwrapped
    have hlt : x.bound < Bits.values 64 := by
      by_contra hle
      exact h ⟨Nat.le_of_not_lt hle, hwrapped⟩
    rwa [wrapped_of_lt hlt] at hwrapped
  · intro hexceeded
    rwa [wrapped_of_exceeded hcount hexceeded]

theorem told_map_wrapped (limits : List Limit) :
    told (limits.map wrapped) =
      (limits.filter (exceeded ∘ wrapped)).map fun x => (.suggestion, x.wrapped.text) := by
  rw [told, List.filter_map, List.map_map]
  rfl

theorem told_eq_map_wrapped (h : ∀ x ∈ limits, x.count < Bits.values 64) :
    told limits = (limits.filter exceeded).map fun x => (.suggestion, x.wrapped.text) := by
  apply List.map_congr_left
  intro x hx
  obtain ⟨hmem, hexceeded⟩ := List.mem_filter.mp hx
  rw [wrapped_of_exceeded (h x hmem) hexceeded]

theorem filter_exceeded_sublist (h : ∀ x ∈ limits, x.count < Bits.values 64) :
    (limits.filter exceeded).Sublist (limits.filter (exceeded ∘ wrapped)) := by
  have hfilter : limits.filter exceeded =
      (limits.filter (exceeded ∘ wrapped)).filter exceeded := by
    rw [List.filter_filter]
    apply List.filter_congr
    intro x hx
    cases hexceeded : x.exceeded with
    | false => rfl
    | true => rw [Function.comp, wrapped_of_exceeded (h x hx) hexceeded, hexceeded, Bool.and_self]
  rw [hfilter]
  exact List.filter_sublist

theorem told_sublist (h : ∀ x ∈ limits, x.count < Bits.values 64) :
    (told limits).Sublist (told (limits.map wrapped)) := by
  rw [told_map_wrapped, told_eq_map_wrapped h]
  exact (filter_exceeded_sublist h).map _

theorem told_wrapped_eq_iff (h : ∀ x ∈ limits, x.count < Bits.values 64) :
    told (limits.map wrapped) = told limits ↔ ∀ x ∈ limits, ¬ x.Misread := by
  rw [told_map_wrapped, told_eq_map_wrapped h]
  constructor
  · intro htold x hx hmisread
    have hlength := congrArg List.length htold
    rw [List.length_map, List.length_map] at hlength
    have heq := (filter_exceeded_sublist h).eq_of_length hlength.symm
    have hmem : x ∈ limits.filter exceeded := by
      rw [heq]
      exact List.mem_filter.mpr ⟨hx, hmisread.2⟩
    have hlt : x.bound < x.count := of_decide_eq_true (List.mem_filter.mp hmem).2
    have hcount := h x hx
    have hbound := hmisread.1
    omega
  · intro hread
    congr 1
    apply List.filter_congr
    intro x hx
    rw [Bool.eq_iff_iff]
    exact exceeded_iff_of_not_misread (h x hx) (hread x hx)

end Limit

namespace Cap

def limitOf (cap : Cap) (m : Metrics) : Limit :=
  { lead := (if cap.perElement then "Too many " else "Reduce ") ++ cap.noun
    count := m.get cap.counter
    measure := cap.measure
    bound := if cap.perElement then m.elements * cap.limit else cap.limit }

theorem limit_lt : ∀ kind : Option Kind, ∀ cap ∈ Kind.capsOf kind, cap.limit < Bits.values 64 := by
  intro kind
  rcases kind with _ | kind
  · decide
  · cases kind <;> decide

variable {cap : Cap}

theorem bound_eq_wrapped (h : cap.limit < Bits.values 64) (m : Metrics) :
    cap.bound m = (cap.limitOf m).wrapped.bound := by
  unfold bound Limit.wrapped limitOf
  split_ifs
  · rfl
  · exact (Nat.mod_eq_of_lt h).symm

theorem exceeded_eq_wrapped (h : cap.limit < Bits.values 64) (m : Metrics) :
    cap.exceeded m = (cap.limitOf m).wrapped.exceeded := by
  rw [exceeded, bound_eq_wrapped h]
  rfl

theorem message_eq_wrapped (h : cap.limit < Bits.values 64) (m : Metrics) :
    (cap.suggestion m).message = (cap.limitOf m).wrapped.text := by
  rw [suggestion, bound_eq_wrapped h]
  rfl

end Cap

namespace Metrics

theorem limits_eq (m : Metrics) (kind : Option Kind) :
    m.limits kind = (Kind.capsOf kind).map (·.limitOf m) := by
  rcases kind with _ | kind
  · rfl
  · cases kind <;> rfl

theorem count_lt {m : Metrics} (hm : ∀ c, m.get c < Bits.values 64) (kind : Option Kind) :
    ∀ x ∈ m.limits kind, x.count < Bits.values 64 := by
  rw [limits_eq]
  intro x hx
  obtain ⟨cap, -, rfl⟩ := List.mem_map.mp hx
  exact hm cap.counter

theorem told_suggestions (m : Metrics) (kind : Option Kind) :
    (m.suggestions kind).map (fun r => (r.tone, r.message)) =
      Limit.told ((m.limits kind).map Limit.wrapped) := by
  have hcaps := Cap.limit_lt kind
  rw [limits_eq, List.map_map, Limit.told, List.filter_map, List.map_map, suggestions,
    List.map_map]
  have hfilter : (Kind.capsOf kind).filter (·.exceeded m) =
      (Kind.capsOf kind).filter (Limit.exceeded ∘ Limit.wrapped ∘ (·.limitOf m)) := by
    apply List.filter_congr
    intro cap hcap
    exact Cap.exceeded_eq_wrapped (hcaps cap hcap) m
  rw [hfilter]
  apply List.map_congr_left
  intro cap hcap
  exact congrArg (Prod.mk Tone.suggestion)
    (Cap.message_eq_wrapped (hcaps cap (List.mem_of_mem_filter hcap)) m)

theorem action_of_mem_suggestions {m : Metrics} {kind : Option Kind} :
    ∀ r ∈ m.suggestions kind, r.action.isSome := by
  intro r hr
  obtain ⟨cap, -, rfl⟩ := List.mem_map.mp hr
  rfl

/-- A simple diagram gets one entry. Any other gets one for its level and then one for each limit
that its counts exceed, with both numbers, in the order of the limits; it gets more than that just
if a limit for each element exceeds 64 bits and the count exceeds what is left of it. -/
theorem advice_follows_limits {m : Metrics} (hm : ∀ c, m.get c < Bits.values 64)
    (kind : Option Kind) (t : Thresholds) (score : Binary64) :
    (t.classify score = .simple → m.advice kind t score = [Level.simple.recommendation]) ∧
      (t.classify score ≠ .simple → ∃ found,
        m.advice kind t score = (t.classify score).recommendation :: found ∧
        (∀ r ∈ found, r.action.isSome) ∧
        found.map (fun r => (r.tone, r.message)) =
          Limit.told ((m.limits kind).map Limit.wrapped) ∧
        (Limit.told (m.limits kind)).Sublist (found.map fun r => (r.tone, r.message)) ∧
        (found.map (fun r => (r.tone, r.message)) = Limit.told (m.limits kind) ↔
          ∀ x ∈ m.limits kind, ¬ x.Misread)) := by
  have hcount := count_lt hm kind
  constructor
  · intro hsimple
    rw [advice]
    simp only [hsimple, ↓reduceIte]
  · intro hlevel
    refine ⟨m.suggestions kind, ?_, action_of_mem_suggestions, told_suggestions m kind, ?_, ?_⟩
    · rw [advice]
      simp only [hlevel, ↓reduceIte]
    · rw [told_suggestions]
      exact Limit.told_sublist hcount
    · rw [told_suggestions]
      exact Limit.told_wrapped_eq_iff hcount

theorem advice_follows_limits_of_classes :
    let m : Metrics := { elements := 13, attributes := 66, methods := 9, relationships := 15 }
    let score := m.score (some .classes)
    (∀ c, m.get c < Bits.values 64) ∧ Thresholds.classify {} score = .complex ∧ ∃ found,
      m.advice (some .classes) {} score = Level.complex.recommendation :: found ∧
      found.map (fun r => (r.tone, r.message)) =
        [(.suggestion, "Reduce classes (current: 13, recommended: 12 or fewer)"),
         (.suggestion, "Too many attributes (current: 66, recommended: 65 or fewer)")] := by
  intro m score
  have hm : ∀ c, m.get c < Bits.values 64 := by
    intro c
    cases c <;> decide
  have hlevel : Thresholds.classify {} score = .complex := by decide +kernel
  have hread : ∀ x ∈ m.limits (some .classes), ¬ x.Misread := by
    unfold Limit.Misread
    decide +kernel
  have hcomplex : Thresholds.classify {} score ≠ .simple := by simp [hlevel]
  obtain ⟨found, hadvice, -, -, -, htold⟩ :=
    (advice_follows_limits hm (some .classes) {} score).2 hcomplex
  rw [hlevel] at hadvice
  refine ⟨hm, hlevel, found, hadvice, ?_⟩
  rw [htold.mpr hread]
  decide +kernel

theorem wrapped_limit_misread :
    let m : Metrics := { elements := 3689348814741910324, attributes := 5 }
    let score := Binary64.finite false (60 * Binary64.one)
    (∀ c, m.get c < Bits.values 64) ∧
      Limit.told (m.limits (some .classes)) = [(.suggestion,
        "Reduce classes (current: 3689348814741910324, recommended: 12 or fewer)")] ∧
      (m.advice (some .classes) {} score).map (fun r => (r.tone, r.message)) =
        [(.error, Level.complex.recommendation.message),
         (.suggestion, "Reduce classes (current: 3689348814741910324, recommended: 12 or fewer)"),
         (.suggestion, "Too many attributes (current: 5, recommended: 4 or fewer)")] := by
  intro m score
  have hm : ∀ c, m.get c < Bits.values 64 := by
    intro c
    cases c <;> decide
  refine ⟨hm, ?_, ?_⟩
  · decide +kernel
  · decide +kernel

end Metrics

end DiagramReview
