import DiagramReview.Proofs.Json.RoundTrip
import DiagramReview.Report.Json
import Mathlib.Data.Option.Basic

namespace DiagramReview

open Json

theorem injective_of_readBack {α β : Type} {f : α → β} {read : β → Option α}
    (h : ∀ a, read (f a) = some a) : Function.Injective f := by
  intro a b heq
  have hread := h a
  rw [heq, h b] at hread
  exact (Option.some.inj hread).symm

theorem Category.ofName?_name (c : Category) : ofName? c.name = some c := by cases c <;> decide

theorem Category.name_injective : Function.Injective name := injective_of_readBack ofName?_name

theorem Tone.ofName?_name (t : Tone) : ofName? t.name = some t := by cases t <;> decide

theorem Tone.name_injective : Function.Injective name := injective_of_readBack ofName?_name

theorem Level.name_injective : Function.Injective name := by
  intro a b h
  cases a <;> cases b <;> first | rfl | exact absurd h (by decide)

theorem Kind.ofName?_nameOf (kind : Option Kind) : ofName? (nameOf kind) = kind := by
  cases kind with
  | none => decide
  | some kind => cases kind <;> decide

theorem Kind.nameOf_injective : Function.Injective nameOf := by
  intro k l h
  rw [← ofName?_nameOf k, h, ofName?_nameOf]

namespace Json

theorem nat_injective : Function.Injective nat := by
  intro m n h
  injection h with h
  exact Int.ofNat.inj h

theorem string_injective : Function.Injective string := by
  intro s t h
  injection h

@[simp] theorem lookup_member (key other : String) (value : Json) (members : List (String × Json)) :
    ((key, value) :: members).lookup other =
      if other = key then some value else members.lookup other := by
  by_cases h : other = key
  · rw [h, List.lookup_cons_self, if_pos rfl]
  · rw [List.lookup_cons, beq_false_of_ne h, if_neg h]

@[simp] theorem lookup_optional (key other : String) (value : Option Json) :
    (optional key value).lookup other = if other = key then value else none := by
  cases value with
  | none => simp [optional]
  | some v => by_cases h : other = key <;> simp [optional, h]

theorem legibleItems_iff {items : List Json} :
    LegibleItems items ↔ ∀ v ∈ items, v.Legible := by
  induction items with
  | nil => simp [LegibleItems]
  | cons v items ih => simp [LegibleItems, ih]

theorem legibleMembers_iff {members : List (String × Json)} :
    LegibleMembers members ↔ ∀ m ∈ members, m.2.Legible := by
  induction members with
  | nil => simp [LegibleMembers]
  | cons m members ih => simp [LegibleMembers, ih]

theorem legibleMembers_append {ms ns : List (String × Json)} :
    LegibleMembers (ms ++ ns) ↔ LegibleMembers ms ∧ LegibleMembers ns := by
  simp only [legibleMembers_iff, List.forall_mem_append]

theorem legibleMembers_optional {α : Type} {f : α → Json} (h : ∀ a, (f a).Legible) (key : String)
    (value : Option α) : LegibleMembers (optional key (value.map f)) := by
  cases value with
  | none => trivial
  | some a => exact ⟨h a, trivial⟩

theorem member?_eq {ms ns : List (String × Json)} (h : object ms = object ns) (key : String) :
    ms.lookup key = ns.lookup key := congrArg (member? key) h

end Json

namespace Finding

theorem legible_toJson (f : Finding) : f.toJson.Legible := by
  have hnat : ∀ n, (nat n).Legible := fun _ => trivial
  have hstring : ∀ s, (string s).Legible := fun _ => trivial
  simp only [toJson, Legible, legibleMembers_append]
  exact ⟨⟨⟨⟨⟨trivial, trivial, trivial⟩, legibleMembers_optional hnat _ _⟩,
    legibleMembers_optional hstring _ _⟩, legibleMembers_optional hstring _ _⟩,
    legibleMembers_optional hstring _ _⟩

theorem toJson_injective : Function.Injective toJson := by
  intro f g h
  have hkey := member?_eq h
  have hcategory : f.category.name = g.category.name := by simpa using hkey "type"
  have hmessage : f.message = g.message := by simpa using hkey "message"
  have hline : f.line.map nat = g.line.map nat := by
    simpa [List.lookup_append] using hkey "line"
  have hcontent : f.content.map string = g.content.map string := by
    simpa [List.lookup_append] using hkey "content"
  have hsuggestion : f.suggestion.map string = g.suggestion.map string := by
    simpa [List.lookup_append] using hkey "suggestion"
  have hexpected : f.expected.map string = g.expected.map string := by
    simpa [List.lookup_append] using hkey "expected"
  cases f
  cases g
  rw [mk.injEq]
  exact ⟨Category.name_injective hcategory, hmessage, Option.map_injective nat_injective hline,
    Option.map_injective string_injective hcontent,
    Option.map_injective string_injective hsuggestion,
    Option.map_injective string_injective hexpected⟩

end Finding

namespace Recommendation

theorem legible_toJson (r : Recommendation) : r.toJson.Legible := by
  have hstring : ∀ s, (string s).Legible := fun _ => trivial
  simp only [toJson, Legible, legibleMembers_append]
  exact ⟨⟨trivial, trivial, trivial⟩, legibleMembers_optional hstring _ _⟩

theorem toJson_injective : Function.Injective toJson := by
  intro r q h
  have hkey := member?_eq h
  have htone : r.tone.name = q.tone.name := by simpa using hkey "type"
  have hmessage : r.message = q.message := by simpa using hkey "message"
  have haction : r.action.map string = q.action.map string := by
    simpa [List.lookup_append] using hkey "action"
  cases r
  cases q
  rw [mk.injEq]
  exact ⟨Tone.name_injective htone, hmessage, Option.map_injective string_injective haction⟩

end Recommendation

namespace Metrics

theorem legible_toJson (m : Metrics) : m.toJson.Legible := by
  rw [toJson, Legible, legibleMembers_iff, List.forall_mem_map]
  intro entry hentry
  trivial

theorem eq_of_get_eq {m n : Metrics} (h : ∀ c, m.get c = n.get c) : m = n := by
  cases m
  cases n
  rw [mk.injEq]
  exact ⟨h .elements, h .relationships, h .nesting, h .attributes, h .methods, h .branches,
    h .subgraphs⟩

theorem toJson_injective : Function.Injective toJson := by
  intro m n h
  have hmembers := Json.object.inj h
  rw [entries, entries, List.map_map, List.map_map, List.map_inj_left] at hmembers
  apply eq_of_get_eq
  intro c
  have hc : c ∈ Counter.all := by cases c <;> decide
  exact nat_injective (Prod.mk.inj (hmembers c hc)).2

end Metrics

namespace Thresholds

theorem legible_toJson (t : Thresholds) : t.toJson.Legible := ⟨trivial, trivial, trivial⟩

theorem toJson_injective : Function.Injective toJson := by
  intro t u h
  have hkey := member?_eq h
  have hsimple : nat t.simple.toNat = nat u.simple.toNat := by simpa using hkey "simple"
  have hmoderate : nat t.moderate.toNat = nat u.moderate.toNat := by simpa using hkey "moderate"
  cases t
  cases u
  rw [mk.injEq]
  exact ⟨UInt32.toNat_inj.mp (nat_injective hsimple), UInt32.toNat_inj.mp (nat_injective hmoderate)⟩

end Thresholds

theorem kindJson_injective : Function.Injective kindJson :=
  string_injective.comp Kind.nameOf_injective

theorem Json.array_map_injective {α : Type} {f : α → Json} (h : Function.Injective f) :
    Function.Injective fun items : List α => array (items.map f) := by
  intro as bs heq
  exact List.map_injective_iff.mpr h (Json.array.inj heq)

theorem Json.legible_array_map {α : Type} {f : α → Json} (h : ∀ a, (f a).Legible)
    (items : List α) : (array (items.map f)).Legible := by
  rw [Legible, legibleItems_iff, List.forall_mem_map]
  exact fun a _ => h a

def Rating.withRaw (raw : Binary64) (r : Rating) : Rating := { r with raw := raw }

theorem Rating.withRaw_eq {r q : Rating} (hscore : r.score = q.score) (hlevel : r.level = q.level)
    (raw : Binary64) : r.withRaw raw = q.withRaw raw := by
  rw [withRaw, withRaw, hscore, hlevel]

namespace Verdict

def withRaw (raw : Binary64) (v : Verdict) : Verdict :=
  { v with complexity := v.complexity.withRaw raw }

theorem legible_toJson (v : Verdict) : v.toJson.Legible :=
  ⟨trivial, trivial, ⟨trivial, trivial, trivial⟩, legible_array_map Finding.legible_toJson _,
    legible_array_map Finding.legible_toJson _, legible_array_map Finding.legible_toJson _, trivial⟩

theorem withRaw_eq_of_toJson_eq {v w : Verdict} (h : v.toJson = w.toJson) (raw : Binary64) :
    v.withRaw raw = w.withRaw raw := by
  have hkey := member?_eq h
  have hvalid : v.valid = w.valid := by simpa using hkey "valid"
  have hkind : kindJson v.kind = kindJson w.kind := by simpa using hkey "diagramType"
  have hrating : nat v.complexity.score = nat w.complexity.score ∧
      v.complexity.level.name = w.complexity.level.name := by simpa using hkey "complexity"
  have herrors : array (v.findings.errors.map Finding.toJson) =
      array (w.findings.errors.map Finding.toJson) := by simpa using hkey "errors"
  have hwarnings : array (v.findings.warnings.map Finding.toJson) =
      array (w.findings.warnings.map Finding.toJson) := by simpa using hkey "warnings"
  have hinfos : array (v.findings.infos.map Finding.toJson) =
      array (w.findings.infos.map Finding.toJson) := by simpa using hkey "info"
  have hlists := array_map_injective Finding.toJson_injective
  have hfindings : v.findings = w.findings :=
    Findings.ext_iff.mpr ⟨hlists herrors, hlists hwarnings, hlists hinfos⟩
  have hcomplexity :=
    Rating.withRaw_eq (nat_injective hrating.1) (Level.name_injective hrating.2) raw
  rw [withRaw, withRaw, hvalid, kindJson_injective hkind, hfindings, hcomplexity]

theorem toJson_withRaw (raw : Binary64) (v : Verdict) : (v.withRaw raw).toJson = v.toJson := rfl

theorem pretty_toJson_eq_iff {v w : Verdict} :
    v.toJson.pretty = w.toJson.pretty ↔ ∀ raw, v.withRaw raw = w.withRaw raw := by
  constructor
  · intro h
    exact withRaw_eq_of_toJson_eq (eq_of_pretty_eq v.legible_toJson w.legible_toJson h)
  · intro h
    rw [← toJson_withRaw .nan v, h .nan, toJson_withRaw]

end Verdict

namespace Analysis

def withRaw (raw : Binary64) (a : Analysis) : Analysis :=
  { a with complexity := a.complexity.withRaw raw }

theorem legible_members (a : Analysis) : LegibleMembers a.members :=
  ⟨trivial, a.metrics.legible_toJson, ⟨trivial, trivial, a.thresholds.legible_toJson, trivial⟩,
    legible_array_map Recommendation.legible_toJson _, trivial⟩

theorem withRaw_eq_of_lookup_eq {a b : Analysis}
    (hkey : ∀ key, a.members.lookup key = b.members.lookup key) (raw : Binary64) :
    a.withRaw raw = b.withRaw raw := by
  have hkind : kindJson a.kind = kindJson b.kind := by simpa [members] using hkey "diagramType"
  have hmetrics : a.metrics.toJson = b.metrics.toJson := by simpa [members] using hkey "metrics"
  have hrating : nat a.complexity.score = nat b.complexity.score ∧
      a.complexity.level.name = b.complexity.level.name ∧
      a.thresholds.toJson = b.thresholds.toJson := by simpa [members] using hkey "complexity"
  have hadvice : array (a.recommendations.map Recommendation.toJson) =
      array (b.recommendations.map Recommendation.toJson) := by
    simpa [members] using hkey "recommendations"
  have hcomplexity :=
    Rating.withRaw_eq (nat_injective hrating.1) (Level.name_injective hrating.2.1) raw
  rw [withRaw, withRaw, kindJson_injective hkind, Metrics.toJson_injective hmetrics,
    Thresholds.toJson_injective hrating.2.2,
    array_map_injective Recommendation.toJson_injective hadvice, hcomplexity]

end Analysis

namespace Report

def withRaw (raw : Binary64) : Report → Report
  | analysed valid found => analysed valid (found.withRaw raw)
  | undetected valid error => undetected valid error

theorem legible_toJson (r : Report) : r.toJson.Legible := by
  cases r with
  | analysed valid found => exact ⟨trivial, found.legible_members⟩
  | undetected valid error => exact ⟨trivial, trivial, trivial⟩

theorem withRaw_eq_of_toJson_eq {r q : Report} (h : r.toJson = q.toJson) (raw : Binary64) :
    r.withRaw raw = q.withRaw raw := by
  cases r with
  | analysed valid found =>
    cases q with
    | analysed valid' found' =>
      have hmembers := List.cons.inj (Json.object.inj h)
      have hvalid : valid = valid' := Json.bool.inj (Prod.mk.inj hmembers.1).2
      have hkey (key : String) := congrArg (List.lookup key) hmembers.2
      rw [withRaw, withRaw, hvalid, Analysis.withRaw_eq_of_lookup_eq hkey]
    | undetected valid' error' =>
      -- an analysis has no member with the key of the other shape
      have herror := member?_eq h "error"
      simp [Analysis.members] at herror
  | undetected valid error =>
    cases q with
    | analysed valid' found' =>
      have herror := member?_eq h "error"
      simp [Analysis.members] at herror
    | undetected valid' error' =>
      have hkey := member?_eq h
      have hvalid : valid = valid' := by simpa using hkey "valid"
      have herror : error = error' := by simpa using hkey "error"
      rw [hvalid, herror]

theorem toJson_withRaw (raw : Binary64) (r : Report) : (r.withRaw raw).toJson = r.toJson := by
  cases r <;> rfl

theorem pretty_toJson_eq_iff {r q : Report} :
    r.toJson.pretty = q.toJson.pretty ↔ ∀ raw, r.withRaw raw = q.withRaw raw := by
  constructor
  · intro h
    exact withRaw_eq_of_toJson_eq (eq_of_pretty_eq r.legible_toJson q.legible_toJson h)
  · intro h
    rw [← toJson_withRaw .nan r, h .nan, toJson_withRaw]

end Report

/-- What is written of a verdict or of a report on complexity is written of no other one: two that
have the same text are equal once their scores before rounding are made the same. -/
theorem written_reports_lose_nothing :
    (∀ v w : Verdict, v.toJson.pretty = w.toJson.pretty ↔
      ∀ raw, v.withRaw raw = w.withRaw raw) ∧
    ∀ r q : Report, r.toJson.pretty = q.toJson.pretty ↔ ∀ raw, r.withRaw raw = q.withRaw raw :=
  ⟨fun _ _ => Verdict.pretty_toJson_eq_iff, fun _ _ => Report.pretty_toJson_eq_iff⟩

end DiagramReview
