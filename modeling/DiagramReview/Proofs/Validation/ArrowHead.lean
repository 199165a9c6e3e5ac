import DiagramReview.Validation.Check
import Mathlib.Data.List.Infix
import Mathlib.Data.List.TakeWhile

/-!
Loose heads of arrows: the scan over the bytes of a line ends, and it finds a loose head exactly if
a maximal run of `>` among the characters of the line stands at its start or behind a character that
is no part of an arrow's body. Bytes of longer characters are neither heads nor bodies.
-/

namespace DiagramReview.Check

open Text

section

variable {α : Type} [DecidableEq α] {head c : α} {isBody : α → Bool} {before : Option α}

def loose (head : α) (isBody : α → Bool) : Option α → List α → Bool
  | _, [] => false
  | before, c :: s =>
    (c == head && before != some head && !before.any isBody) || loose head isBody (some c) s

theorem loose_cons_of_ne (hc : c ≠ head) (before : Option α) (s : List α) :
    loose head isBody before (c :: s) = loose head isBody (some c) s := by
  simp [loose, hc]

theorem loose_cons_of_run (s : List α) :
    loose head isBody (some head) (head :: s) = loose head isBody (some head) s := by
  simp [loose]

theorem loose_cons_of_body (h : before.any isBody = true) (s : List α) :
    loose head isBody before (head :: s) = loose head isBody (some head) s := by
  simp [loose, h]

theorem loose_cons_of_start (hrun : before ≠ some head) (h : before.any isBody = false)
    (s : List α) : loose head isBody before (head :: s) = true := by
  simp [loose, hrun, h]

omit [DecidableEq α] in
theorem getLast?_cons_or (c : α) (a : List α) (before : Option α) :
    (c :: a).getLast?.or before = a.getLast?.or (some c) := by
  rw [List.getLast?_cons]
  cases a.getLast? <;> rfl

theorem loose_append_of_notMem {a : List α} (ha : head ∉ a) (before : Option α) (s : List α) :
    loose head isBody before (a ++ s) = loose head isBody (a.getLast?.or before) s := by
  induction a generalizing before with
  | nil => rfl
  | cons x a ih =>
    have hx : x ≠ head := fun heq => ha (heq ▸ List.mem_cons_self)
    rw [List.cons_append, loose_cons_of_ne hx, ih fun hmem => ha (List.mem_cons_of_mem x hmem),
      getLast?_cons_or]

theorem loose_iff {s : List α} : loose head isBody before s = true ↔
    ∃ a r, s = a ++ head :: r ∧ a.getLast?.or before ≠ some head ∧
      (a.getLast?.or before).any isBody = false := by
  induction s generalizing before with
  | nil => simp [loose]
  | cons c s ih =>
    rw [loose, Bool.or_eq_true, ih]
    constructor
    · rintro (h | ⟨a, r, rfl, hrun, hbody⟩)
      · simp only [Bool.and_eq_true, beq_iff_eq, bne_iff_ne, Bool.not_eq_true'] at h
        obtain ⟨⟨rfl, hrun⟩, hbody⟩ := h
        exact ⟨[], s, rfl, hrun, hbody⟩
      · exact ⟨c :: a, r, rfl, by rwa [getLast?_cons_or], by rwa [getLast?_cons_or]⟩
    · rintro ⟨a, r, hs, hrun, hbody⟩
      rcases a with - | ⟨x, a⟩
      · obtain ⟨rfl, rfl⟩ := List.cons.inj hs
        exact .inl (by simpa using ⟨hrun, hbody⟩)
      · obtain ⟨rfl, rfl⟩ := List.cons.inj hs
        rw [getLast?_cons_or] at hrun hbody
        exact .inr ⟨a, r, rfl, hrun, hbody⟩

end

theorem scanHeads_of_found {bytes : Array UInt8} {i : Nat} {found : Bool}
    (h : scanTurn bytes i = .inl found) : scanHeads bytes i = found := by
  rw [scanHeads]
  split
  · next found' h' => exact Sum.inl.inj (h'.symm.trans h)
  · next next' h' => cases h'.symm.trans h

theorem scanHeads_of_next {bytes : Array UInt8} {i next : Nat}
    (h : scanTurn bytes i = .inr next) : scanHeads bytes i = scanHeads bytes next := by
  rw [scanHeads]
  split
  · next found' h' => cases h'.symm.trans h
  · next next' h' => exact congrArg (scanHeads bytes) (Sum.inr.inj (h'.symm.trans h))

def scanStep (bytes : Array UInt8) : Bool ⊕ Nat → Bool ⊕ Nat := Sum.elim .inl (scanTurn bytes)

theorem exists_scanStep_eq (bytes : Array UInt8) (i : Nat) :
    ∃ turns ≤ bytes.size - i + 1,
      (scanStep bytes)^[turns] (.inr i) = .inl (scanHeads bytes i) := by
  induction h : bytes.size - i using Nat.strong_induction_on generalizing i with
  | _ left ih =>
    cases hturn : scanTurn bytes i with
    | inl found => exact ⟨1, by omega, by simpa [scanStep, scanHeads_of_found hturn] using hturn⟩
    | inr next =>
      have hlt := lt_of_scanTurn hturn
      obtain ⟨turns, hturns, hend⟩ := ih (bytes.size - next) (by omega) next rfl
      refine ⟨turns + 1, by omega, ?_⟩
      rw [Function.iterate_succ_apply, scanHeads_of_next hturn, ← hend, scanStep, Sum.elim_inr,
        hturn]

theorem getElem?_append_cons (a : List UInt8) (b : UInt8) (s : List UInt8) :
    (a ++ b :: s).toArray[a.length]? = some b := by
  simp

theorem any_getElem?_append (p : UInt8 → Bool) (a s : List UInt8) :
    (0 < a.length ∧ (a ++ s).toArray[a.length - 1]?.any p = true) ↔ a.getLast?.any p = true := by
  rcases a.eq_nil_or_concat' with rfl | ⟨a, x, rfl⟩
  · simp
  · simp

/-- Where a scan stands behind the bytes `a`: outside of a run it finds what is loose from there on,
and within a run it does so once the heads that are left are passed. -/
theorem scanHeads_append (a s : List UInt8) :
    (a.getLast? ≠ some headByte → scanHeads (a ++ s).toArray a.length =
      loose headByte isBodyByte a.getLast? s) ∧
    (a.getLast? = some headByte →
      scanHeads (a ++ s).toArray (passHeads (a ++ s).toArray a.length) =
        loose headByte isBodyByte a.getLast? s) := by
  induction s generalizing a with
  | nil =>
    have hend : (a ++ []).toArray[a.length]? = none := by simp
    have hscan : scanHeads (a ++ []).toArray a.length = false :=
      scanHeads_of_found (by rw [scanTurn, hend])
    refine ⟨fun _ => hscan, fun _ => ?_⟩
    rw [passHeads, dif_neg (by simp), hscan]
    rfl
  | cons b s ih =>
    have hb := getElem?_append_cons a b s
    have hnext := ih (a ++ [b])
    rw [List.append_assoc, List.singleton_append, List.length_append, List.length_singleton,
      List.getLast?_concat] at hnext
    by_cases hhead : b = headByte
    · subst hhead
      have hpass : passHeads (a ++ headByte :: s).toArray a.length =
          passHeads (a ++ headByte :: s).toArray (a.length + 1) := by
        rw [passHeads, dif_pos hb]
      have hrun := hnext.2 rfl
      rw [← hpass] at hrun
      refine ⟨fun hstart => ?_, fun hwithin => by rw [hrun, hwithin, loose_cons_of_run]⟩
      have hturn : scanTurn (a ++ headByte :: s).toArray a.length =
          if a.getLast?.any isBodyByte then
            .inr (passHeads (a ++ headByte :: s).toArray a.length)
          else .inl true := by
        rw [scanTurn, hb]
        simp only [ne_eq, not_true_eq_false, if_false, any_getElem?_append]
      cases hbody : a.getLast?.any isBodyByte with
      | true => rw [scanHeads_of_next (by rw [hturn, if_pos hbody]), hrun, loose_cons_of_body hbody]
      | false =>
        rw [scanHeads_of_found (by rw [hturn, if_neg (by simp [hbody])]),
          loose_cons_of_start hstart hbody]
    · have hturn : scanTurn (a ++ b :: s).toArray a.length = .inr (a.length + 1) := by
        rw [scanTurn, hb]
        exact if_pos hhead
      have hscan : scanHeads (a ++ b :: s).toArray a.length =
          loose headByte isBodyByte a.getLast? (b :: s) := by
        rw [scanHeads_of_next hturn, loose_cons_of_ne hhead]
        exact hnext.1 (by simpa using hhead)
      refine ⟨fun _ => hscan, fun _ => ?_⟩
      rw [passHeads, dif_neg (by rw [hb]; simpa using hhead), hscan]

theorem scanHeads_eq (bytes : List UInt8) :
    scanHeads bytes.toArray 0 = loose headByte isBodyByte none bytes :=
  (scanHeads_append [] bytes).1 (by simp)

def isArrowBody (c : Char) : Bool := "-=.|".toList.contains c

theorem utf8EncodeChar_of_ascii {c : Char} (hc : c.toNat ≤ 127) :
    String.utf8EncodeChar c = [UInt8.ofNat c.toNat] := if_pos hc

theorem le_of_mem_utf8EncodeChar {c : Char} (hc : 127 < c.toNat) :
    ∀ b ∈ String.utf8EncodeChar c, 128 ≤ b.toNat := by
  have hlead : ¬ c.val.toNat ≤ 127 := Nat.not_le.mpr hc
  simp only [String.utf8EncodeChar, hlead, if_false]
  split_ifs <;> simp only [List.forall_mem_cons, UInt8.toNat_ofNat'] <;> grind

theorem bytes_of_ascii : ∀ n < 128,
    (UInt8.ofNat n = headByte ↔ Char.ofNat n = '>') ∧
      isBodyByte (UInt8.ofNat n) = isArrowBody (Char.ofNat n) := by
  decide +kernel

theorem isBodyByte_of_le {b : UInt8} (hb : 128 ≤ b.toNat) : isBodyByte b = false := by
  by_contra h
  simp only [isBodyByte, Bool.not_eq_false, Bool.or_eq_true, beq_iff_eq] at h
  rcases h with ((rfl | rfl) | rfl) | rfl <;> exact absurd hb (by decide)

theorem isArrowBody_of_lt {c : Char} (hc : 127 < c.toNat) : isArrowBody c = false := by
  by_contra h
  simp only [isArrowBody, Bool.not_eq_false, List.contains_iff_mem] at h
  have hascii : ∀ d ∈ "-=.|".toList, d.toNat ≤ 127 := by simp
  exact absurd (hascii c h) (Nat.not_le.mpr hc)

structure Agree (b : Option UInt8) (c : Option Char) : Prop where
  head : b = some headByte ↔ c = some '>'
  body : b.any isBodyByte = c.any isArrowBody

theorem headByte_mem_utf8EncodeChar_iff (c : Char) :
    headByte ∈ String.utf8EncodeChar c ↔ c = '>' := by
  by_cases hc : c.toNat ≤ 127
  · have h := (bytes_of_ascii c.toNat (by omega)).1
    rw [Char.ofNat_toNat] at h
    rw [utf8EncodeChar_of_ascii hc, List.mem_singleton, eq_comm, h]
  · have hle := le_of_mem_utf8EncodeChar (Nat.not_le.mp hc)
    refine iff_of_false (fun hmem => absurd (hle headByte hmem) (by decide)) ?_
    rintro rfl
    exact hc (by decide)

theorem exists_getLast?_utf8EncodeChar (c : Char) :
    ∃ b, (String.utf8EncodeChar c).getLast? = some b ∧ Agree (some b) (some c) := by
  by_cases hc : c.toNat ≤ 127
  · have h := bytes_of_ascii c.toNat (by omega)
    rw [Char.ofNat_toNat] at h
    refine ⟨UInt8.ofNat c.toNat, by rw [utf8EncodeChar_of_ascii hc]; rfl, ?_, h.2⟩
    simpa only [Option.some.injEq] using h.1
  · have hlast := List.getLast?_eq_some_getLast (String.utf8EncodeChar_ne_nil (c := c))
    have hle := le_of_mem_utf8EncodeChar (Nat.not_le.mp hc) _ (List.mem_of_getLast? hlast)
    refine ⟨_, hlast, iff_of_false ?_ ?_, ?_⟩
    · intro hhead
      rw [Option.some.inj hhead] at hle
      exact absurd hle (by decide)
    · rintro ⟨⟩
      exact hc (by decide)
    · rw [Option.any_some, Option.any_some, isBodyByte_of_le hle,
        isArrowBody_of_lt (Nat.not_le.mp hc)]

theorem loose_utf8 {b : Option UInt8} {before : Option Char} (h : Agree b before) (s : Text) :
    loose headByte isBodyByte b (s.flatMap String.utf8EncodeChar) =
      loose '>' isArrowBody before s := by
  induction s generalizing b before with
  | nil => rfl
  | cons c s ih =>
    rw [List.flatMap_cons]
    by_cases hc : c = '>'
    · subst hc
      have hrest : loose headByte isBodyByte (some headByte) (s.flatMap String.utf8EncodeChar) =
          loose '>' isArrowBody (some '>') s := ih ⟨by simp, by decide⟩
      show loose headByte isBodyByte b (headByte :: s.flatMap String.utf8EncodeChar) = _
      by_cases hrun : before = some '>'
      · rw [hrun, h.head.mpr hrun, loose_cons_of_run, loose_cons_of_run, hrest]
      · cases hbody : before.any isArrowBody with
        | true =>
          rw [loose_cons_of_body hbody, loose_cons_of_body (h.body.trans hbody), hrest]
        | false =>
          rw [loose_cons_of_start hrun hbody,
            loose_cons_of_start (mt h.head.mp hrun) (h.body.trans hbody)]
    · obtain ⟨last, hlast, hagree⟩ := exists_getLast?_utf8EncodeChar c
      have hmem : headByte ∉ String.utf8EncodeChar c := by
        rwa [headByte_mem_utf8EncodeChar_iff]
      rw [loose_append_of_notMem hmem, hlast, Option.some_or, loose_cons_of_ne hc, ih hagree]

theorem hasLooseHead_eq (line : Text) : hasLooseHead line = loose '>' isArrowBody none line := by
  have hfront : Agree none none := ⟨by simp, rfl⟩
  rw [hasLooseHead, utf8, scanHeads_eq, loose_utf8 hfront]

/-- A maximal run of `>` stands at the start of the line or behind a character that is none of `-`,
`=`, `.` and `|`. -/
def HasLooseRun (line : Text) : Prop :=
  ∃ a n b, line = a ++ List.replicate (n + 1) '>' ++ b ∧
    a.getLast? ≠ some '>' ∧ b.head? ≠ some '>' ∧ ∀ c ∈ a.getLast?, c ∉ "-=.|".toList

theorem hasLooseHead_iff (line : Text) : hasLooseHead line = true ↔ HasLooseRun line := by
  have hbody (o : Option Char) :
      o.any isArrowBody = false ↔ ∀ c ∈ o, c ∉ "-=.|".toList := by
    cases o <;> simp [isArrowBody]
  simp only [hasLooseHead_eq, loose_iff, Option.or_none, hbody]
  constructor
  · rintro ⟨a, r, rfl, hrun, hbefore⟩
    -- the run goes on as far as it can
    have hheads : r.takeWhile (· == '>') = List.replicate (r.takeWhile (· == '>')).length '>' :=
      List.eq_replicate_iff.mpr ⟨rfl, fun c hc => by simpa using List.mem_takeWhile_imp hc⟩
    refine ⟨a, (r.takeWhile (· == '>')).length, r.dropWhile (· == '>'), ?_, hrun, ?_, hbefore⟩
    · rw [List.replicate_succ, ← hheads, List.append_assoc, List.cons_append,
        List.takeWhile_append_dropWhile]
    · intro hhead
      have hnot := List.head?_dropWhile_not (· == '>') r
      rw [hhead] at hnot
      simp at hnot
  · rintro ⟨a, n, b, rfl, hrun, -, hbefore⟩
    exact ⟨a, List.replicate n '>' ++ b, by simp [List.replicate_succ], hrun, hbefore⟩

instance (line : Text) : Decidable (HasLooseRun line) :=
  decidable_of_iff _ (hasLooseHead_iff line)

end DiagramReview.Check
