import DiagramReview.Server.Parameters
import Mathlib.Data.List.Forall2

namespace DiagramReview.Shape

variable {members : List (String × Presence × Shape)} {name : String} {shape : Shape}

theorem mapM_eq_some_iff {α β : Type} (f : α → Option β) (l : List α) (r : List β) :
    l.mapM f = some r ↔ List.Forall₂ (fun a b => f a = some b) l r := by
  induction l generalizing r with
  | nil => simp [eq_comm]
  | cons a l ih =>
    simp only [List.mapM_cons, Option.bind_eq_bind, Option.bind_eq_some_iff, ih,
      List.forall₂_cons_left_iff, Option.pure_def, Option.some.injEq]
    constructor
    · rintro ⟨b, hb, bs, hbs, rfl⟩
      exact ⟨b, bs, hb, hbs, rfl⟩
    · rintro ⟨b, bs, hb, hbs, rfl⟩
      exact ⟨b, hb, bs, hbs, rfl⟩

theorem exists_mapM {α β : Type} {f : α → Option β} {l : List α}
    (h : ∀ a ∈ l, ∃ b, f a = some b) : ∃ r, l.mapM f = some r := by
  induction l with
  | nil => exact ⟨[], rfl⟩
  | cons a l ih =>
    obtain ⟨b, hb⟩ := h a List.mem_cons_self
    obtain ⟨r, hr⟩ := ih fun x hx => h x (List.mem_cons_of_mem _ hx)
    exact ⟨b :: r, by simp [hb, hr]⟩

theorem getLast?_of_mapM {α β : Type} {f : α → Option β} {l : List α} {r : List β}
    (h : l.mapM f = some r) : r.getLast? = l.getLast?.bind f := by
  have hr := (mapM_eq_some_iff f l r).mp h
  induction hr with
  | nil => rfl
  | @cons a b l r hab hr ih =>
    have ih := ih ((mapM_eq_some_iff f l r).mpr hr)
    cases hr with
    | nil => simp [hab]
    | cons => simpa using ih

theorem lookup_cons_of_ne {other : String} (h : name ≠ other) (w : Json)
    (tail : List (String × Json)) : ((other, w) :: tail).lookup name = tail.lookup name := by
  rw [List.lookup_cons, beq_false_of_ne h]

theorem needed_cases {other : String} {presence : Presence} {inner : Shape}
    (hn : (((other, presence, inner) :: members).map (·.1)).Nodup)
    (hm : (name, Presence.needed, shape) ∈ (other, presence, inner) :: members) :
    (name = other ∧ presence = .needed ∧ shape = inner) ∨
      (name ≠ other ∧ (members.map (·.1)).Nodup ∧ (name, Presence.needed, shape) ∈ members) := by
  obtain ⟨hother, hrest⟩ := List.nodup_cons.mp hn
  rcases List.mem_cons.mp hm with he | hr
  · obtain ⟨rfl, rfl, rfl⟩ : name = other ∧ Presence.needed = presence ∧ shape = inner := by
      simpa using he
    exact .inl ⟨rfl, rfl, rfl⟩
  · refine .inr ⟨?_, hrest, hr⟩
    rintro rfl
    exact hother (List.mem_map.mpr ⟨_, hr, rfl⟩)

theorem lookup_readMembers {given out : List (String × Json)}
    (h : readMembers members given = some out) (hn : (members.map (·.1)).Nodup)
    (hm : (name, Presence.needed, shape) ∈ members) :
    ∃ v w, shape.read? v = some w ∧ out.lookup name = some w := by
  induction members generalizing out with
  | nil => cases hm
  | cons entry rest ih =>
    obtain ⟨other, presence, inner⟩ := entry
    rw [readMembers] at h
    obtain ⟨tail, ht, h⟩ := Option.bind_eq_some_iff.mp h
    rcases needed_cases hn hm with ⟨rfl, rfl, rfl⟩ | ⟨hne, hrest, hm⟩
    · cases hl : given.lookup name with
      | none => simp [hl] at h
      | some v =>
        obtain ⟨w, hw, h⟩ : ∃ w, shape.read? v = some w ∧ (name, w) :: tail = out := by
          simpa [hl, Option.bind_eq_some_iff] using h
        exact ⟨v, w, hw, by simp [← h]⟩
    · obtain ⟨v, w, hv, hw⟩ := ih ht hrest hm
      refine ⟨v, w, hv, ?_⟩
      cases hl : given.lookup other with
      | none =>
        obtain ⟨-, rfl⟩ : presence ≠ .needed ∧ tail = out := by simpa [hl] using h
        exact hw
      | some u =>
        obtain ⟨x, -, rfl⟩ : ∃ x, inner.read? u = some x ∧ (other, x) :: tail = out := by
          simpa [hl, Option.bind_eq_some_iff] using h
        rw [lookup_cons_of_ne hne]
        exact hw

theorem lookup_readItems {items : List Json} {out : List (String × Json)}
    (h : readItems members items = some out) (hn : (members.map (·.1)).Nodup)
    (hm : (name, Presence.needed, shape) ∈ members) :
    ∃ v w, shape.read? v = some w ∧ out.lookup name = some w := by
  induction members generalizing items out with
  | nil => cases hm
  | cons entry rest ih =>
    obtain ⟨other, presence, inner⟩ := entry
    cases items with
    | nil =>
      obtain ⟨rfl, h⟩ : presence = .trailing ∧ readItems rest [] = some out := by
        simpa [readItems] using h
      rcases needed_cases hn hm with ⟨-, hp, -⟩ | ⟨-, hrest, hm⟩
      · cases hp
      · exact ih h hrest hm
    | cons v vs =>
      obtain ⟨w, hw, tail, ht, rfl⟩ : ∃ w, inner.read? v = some w ∧
          ∃ tail, readItems rest vs = some tail ∧ (other, w) :: tail = out := by
        simpa [readItems, Option.bind_eq_some_iff] using h
      rcases needed_cases hn hm with ⟨rfl, -, rfl⟩ | ⟨hne, hrest, hm⟩
      · exact ⟨v, w, hw, by simp⟩
      · rw [lookup_cons_of_ne hne]
        exact ih ht hrest hm

theorem member_of_read_record {v r : Json} (h : (record members).read? v = some r)
    (hn : (members.map (·.1)).Nodup) (hm : (name, Presence.needed, shape) ∈ members) :
    ∃ u w, shape.read? u = some w ∧ r.member? name = some w := by
  cases v with
  | object given =>
    obtain ⟨out, ho, rfl⟩ : ∃ out, readMembers members given = some out ∧ .object out = r := by
      simpa [read?] using h
    exact lookup_readMembers ho hn hm
  | array items =>
    obtain ⟨out, ho, rfl⟩ : ∃ out, readItems members items = some out ∧ .object out = r := by
      simpa [read?] using h
    exact lookup_readItems ho hn hm
  | null | bool | integer | decimal | string => simp [read?] at h

theorem string_of_read_uri {v r : Json} (h : uri.read? v = some r) : ∃ s, r = .string s := by
  cases v with
  | string s =>
    obtain ⟨u, -, rfl⟩ : ∃ u, Uri.normal? s = some u ∧ .string u = r := by simpa [read?] using h
    exact ⟨u, rfl⟩
  | null | bool | integer | decimal | array | object => simp [read?] at h

theorem string_of_read_text {v r : Json} (h : text.read? v = some r) : ∃ s, r = .string s := by
  cases v with
  | string s => exact ⟨s, by simpa [read?] using h.symm⟩
  | null | bool | integer | decimal | array | object => simp [read?] at h

theorem array_of_read_listOf {item : Shape} {v r : Json} (h : (listOf item).read? v = some r) :
    ∃ rs, r = .array rs ∧ ∀ x ∈ rs, ∃ u, item.read? u = some x := by
  cases v with
  | array items =>
    obtain ⟨rs, hrs, rfl⟩ : ∃ rs, items.mapM item.read? = some rs ∧ .array rs = r := by
      simpa [read?] using h
    refine ⟨rs, rfl, fun x hx => ?_⟩
    have hall := (mapM_eq_some_iff _ _ _).mp hrs
    obtain ⟨i, hi, rfl⟩ := List.mem_iff_getElem.mp hx
    have hlen := hall.length_eq
    exact ⟨items[i], hall.get (by omega) hi⟩
  | null | bool | integer | decimal | string | object => simp [read?] at h

end DiagramReview.Shape
