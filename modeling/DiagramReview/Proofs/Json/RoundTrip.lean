import DiagramReview.Json.Reader
import Mathlib.Data.List.Basic
import Mathlib.Data.List.TakeWhile
import Mathlib.Tactic.SplitIfs

/-!
Written values are read back: whatever follows a value on the page, the reader takes the value and
leaves the rest. Hence two values that are written alike are equal.
-/

namespace DiagramReview.Json

open Text

theorem skipSpace_cons {c : Char} (h : isSpace c = false) (s : Text) :
    skipSpace (c :: s) = c :: s := by
  rw [skipSpace, List.dropWhile_cons, h]
  rfl

theorem skipSpace_indent (level : Nat) (s : Text) :
    skipSpace (indent level ++ s) = skipSpace s := by
  have hblank : ∀ c ∈ indent level, isSpace c = true := by
    intro c hc
    rcases List.mem_cons.mp hc with rfl | hc
    · rfl
    · rw [(List.mem_replicate.mp hc).2]
      rfl
  exact List.dropWhile_append_of_pos hblank

theorem readValue_blank {c : Char} (h : isSpace c = true) (steps : Nat) (s : Text) :
    readValue steps (c :: s) = readValue steps s := by
  have hskip : skipSpace (c :: s) = skipSpace s := List.dropWhile_cons_of_pos h
  cases steps with
  | zero => rfl
  | succ steps => rw [readValue, readValue, hskip]

theorem readValue_indent (steps level : Nat) (s : Text) :
    readValue steps (indent level ++ s) = readValue steps s := by
  cases steps with
  | zero => rfl
  | succ steps => rw [readValue, readValue, skipSpace_indent]

theorem hexValue?_of_isDigit {c : Char} (h : c.isDigit = true) :
    hexValue? c = some (c.toNat - '0'.toNat) := by
  rw [hexValue?, if_pos]
  rw [Char.isDigit, Bool.and_eq_true, decide_eq_true_iff, decide_eq_true_iff] at h
  exact h

theorem inBase_ten {digits : Text} (h : ∀ c ∈ digits, c.isDigit = true) :
    inBase 10 digits = Nat.ofDigitChars 10 digits 0 := by
  apply List.foldl_ext
  intro n c hc
  rw [hexValue?_of_isDigit (h c hc), Option.getD_some]

theorem isDigit_of_mem {n : Nat} {c : Char} (h : c ∈ Nat.toDigits 10 n) : c.isDigit = true :=
  Nat.isDigit_of_mem_toDigits (by decide) (by decide) h

theorem inBase_toDigits (n : Nat) : inBase 10 (Nat.toDigits 10 n) = n := by
  rw [inBase_ten fun c hc => isDigit_of_mem hc, Nat.ofDigitChars_ten_toDigits]

theorem isWhole_of_head_ne {c : Char} {digits : Text} (hc : c ≠ '0')
    (h : ∀ d ∈ c :: digits, d.isDigit = true) : isWhole (c :: digits) = true := by
  unfold isWhole
  split
  case h_1 heq => cases heq
  case h_2 heq => exact absurd (List.cons.inj heq).1 hc
  case h_3 heq => exact absurd (List.cons.inj heq).1 hc
  case h_4 => exact List.all_eq_true.mpr h

theorem digitChar_ne_zero : ∀ n < 10, n ≠ 0 → n.digitChar ≠ '0' := by decide

theorem head_toDigits_ne {n : Nat} (hn : n ≠ 0) :
    ∃ c digits, Nat.toDigits 10 n = c :: digits ∧ c ≠ '0' := by
  induction n using Nat.strongRecOn with
  | ind n ih =>
    by_cases h : n < 10
    · exact ⟨n.digitChar, [], Nat.toDigits_of_lt_base h, digitChar_ne_zero n h hn⟩
    · obtain ⟨c, digits, hdigits, hc⟩ := ih (n / 10) (by omega) (by omega)
      refine ⟨c, digits ++ [(n % 10).digitChar], ?_, hc⟩
      rw [Nat.toDigits_of_base_le (by decide) (by omega), hdigits, List.cons_append]

theorem isWhole_toDigits (n : Nat) : isWhole (Nat.toDigits 10 n) = true := by
  by_cases hn : n = 0
  · subst hn
    decide
  · obtain ⟨c, digits, hdigits, hc⟩ := head_toDigits_ne hn
    rw [hdigits]
    apply isWhole_of_head_ne hc
    intro d hd
    rw [← hdigits] at hd
    exact isDigit_of_mem hd

variable {digits : Text}

theorem number?_of_isWhole (hdigits : ∀ c ∈ digits, c.isDigit = true)
    (hwhole : isWhole digits = true) : number? digits = some (integer (inBase 10 digits)) := by
  have htake : digits.takeWhile Char.isDigit = digits := List.takeWhile_eq_self_iff.mpr hdigits
  have hdrop : digits.dropWhile Char.isDigit = [] := List.dropWhile_eq_nil_iff.mpr hdigits
  have hsign : digits.head? ≠ some '-' := by
    intro h
    exact absurd (hdigits _ (List.mem_of_mem_head? h)) (by decide)
  have hminus : digits ≠ ['-', '0'] := by
    rintro rfl
    exact hsign rfl
  rw [number?]
  · simp [htake, hdrop, hwhole, hminus, hsign, isFraction, isExponent]
  · rintro rest rfl
    exact hsign rfl

theorem number?_of_isWhole_minus (hdigits : ∀ c ∈ digits, c.isDigit = true)
    (hwhole : isWhole digits = true) (hzero : digits ≠ ['0']) :
    number? ('-' :: digits) = some (integer (-(inBase 10 digits))) := by
  have htake : digits.takeWhile Char.isDigit = digits := List.takeWhile_eq_self_iff.mpr hdigits
  have hdrop : digits.dropWhile Char.isDigit = [] := List.dropWhile_eq_nil_iff.mpr hdigits
  rw [number?]
  simp [htake, hdrop, hwhole, hzero, isFraction, isExponent]

theorem number?_toString (n : Int) : number? (toString n).toList = some (integer n) := by
  rw [Int.toString_eq_repr, Int.repr_eq_if]
  split_ifs with hn
  · rw [Nat.toList_repr, number?_of_isWhole (fun c hc => isDigit_of_mem hc) (isWhole_toDigits _),
      inBase_toDigits, Int.toNat_of_nonneg hn]
  · have hzero : Nat.toDigits 10 (-n).toNat ≠ ['0'] := by
      intro h
      have hvalue := inBase_toDigits (-n).toNat
      rw [h] at hvalue
      have : inBase 10 ['0'] = 0 := rfl
      omega
    rw [String.toList_append, Nat.toList_repr]
    have hread := number?_of_isWhole_minus (fun c hc => isDigit_of_mem hc) (isWhole_toDigits _)
      hzero
    rw [inBase_toDigits, Int.toNat_of_nonneg (by omega), Int.neg_neg] at hread
    exact hread

theorem isNumeral_of_isDigit {c : Char} (h : c.isDigit = true) : isNumeral c = true := by
  rw [isNumeral, h, Bool.true_or]

theorem isNumeral_of_mem_toString {n : Int} {c : Char} (h : c ∈ (toString n).toList) :
    isNumeral c = true := by
  rw [Int.toString_eq_repr, Int.repr_eq_if] at h
  split_ifs at h with hn
  · rw [Nat.toList_repr] at h
    exact isNumeral_of_isDigit (isDigit_of_mem h)
  · rw [String.toList_append, Nat.toList_repr] at h
    rcases List.mem_append.mp h with h | h
    · rw [List.mem_singleton.mp h]
      rfl
    · exact isNumeral_of_isDigit (isDigit_of_mem h)

def Ends (rest : Text) : Prop := ∀ c ∈ rest.head?, isNumeral c = false

theorem ends_nil : Ends [] := by
  intro c hc
  cases hc

theorem ends_cons {c : Char} (h : isNumeral c = false) (rest : Text) : Ends (c :: rest) := by
  intro d hd
  rw [List.head?_cons, Option.mem_some_iff] at hd
  rwa [← hd]

theorem Ends.takeWhile {rest : Text} (h : Ends rest) : rest.takeWhile isNumeral = [] := by
  cases rest with
  | nil => rfl
  | cons c rest => rw [List.takeWhile_cons, h c rfl]; rfl

theorem Ends.dropWhile {rest : Text} (h : Ends rest) : rest.dropWhile isNumeral = rest := by
  cases rest with
  | nil => rfl
  | cons c rest => rw [List.dropWhile_cons, h c rfl]; rfl

theorem hexNumber?_control : ∀ n < 32,
    hexNumber? ['0', '0', hexDigit (n / 16), hexDigit (n % 16)] = some n := by decide

section strings

variable {t cs after : Text} (h : readString none t = some (cs, after))

include h

theorem readString_letter {letter c : Char} (hletter : letter ≠ 'u')
    (hc : unescape? letter = some c) :
    readString none ('\\' :: letter :: t) = some (c :: cs, after) := by
  rw [readString]
  · simp [hc, h]
  · intro a b c d rest hu
    exact absurd hu hletter

theorem readString_code {a b c d : Char} {n : Nat} {ch : Char}
    (hcode : hexNumber? [a, b, c, d] = some n) (hn : n < 0xD800) (hch : scalar? n = some ch) :
    readString none ('\\' :: 'u' :: a :: b :: c :: d :: t) = some (ch :: cs, after) := by
  have hlow : ¬ 0xD800 ≤ n := by omega
  rw [readString, hcode]
  simp [hlow, hch, h]

theorem readString_plain {c : Char} (hquote : c ≠ '"') (hslash : c ≠ '\\')
    (hcontrol : ¬ c.toNat < 32) : readString none (c :: t) = some (c :: cs, after) := by
  rw [readString]
  · simp [hcontrol, hslash, h]
  · intro a b d e rest hc
    exact absurd hc hslash
  · exact hquote
  · intro d rest hc
    exact absurd hc hslash

theorem readString_escape (c : Char) : readString none (escape c ++ t) = some (c :: cs, after) := by
  unfold escape
  split_ifs with hquote hslash hline hreturn htab hback hfeed hcontrol
  · exact readString_letter h (by decide) (by rw [hquote]; rfl)
  · exact readString_letter h (by decide) (by rw [hslash]; rfl)
  · exact readString_letter h (by decide) (by rw [hline]; rfl)
  · exact readString_letter h (by decide) (by rw [hreturn]; rfl)
  · exact readString_letter h (by decide) (by rw [htab]; rfl)
  · have hc : c = '\x08' := Char.toNat_inj.mp hback
    exact readString_letter h (by decide) (by rw [hc]; rfl)
  · have hc : c = '\x0c' := Char.toNat_inj.mp hfeed
    exact readString_letter h (by decide) (by rw [hc]; rfl)
  · have hcode := hexNumber?_control c.toNat hcontrol
    exact readString_code h hcode (by omega) (scalar?_toNat c)
  · exact readString_plain h hquote hslash hcontrol

end strings

theorem readString_quote (s rest : Text) :
    readString none (s.flatMap escape ++ '"' :: rest) = some (s, rest) := by
  induction s with
  | nil => rfl
  | cons c s ih =>
    rw [List.flatMap_cons, List.append_assoc]
    exact readString_escape ih c

section values

variable {steps : Nat} {rest : Text}

theorem readValue_numeral {numeral : Text} {v : Json} (hall : ∀ c ∈ numeral, isNumeral c = true)
    (hv : number? numeral = some v) (hrest : Ends rest) :
    readValue (steps + 1) (numeral ++ rest) = some (v, rest) := by
  cases numeral with
  | nil => cases hv
  | cons c numeral =>
    have hne : ∀ d, isNumeral d = false → c ≠ d := by
      rintro d hd rfl
      rw [hall c List.mem_cons_self] at hd
      cases hd
    have hspace : isSpace c = false := by
      simp only [isSpace, Bool.or_eq_false_iff, beq_eq_false_iff_ne]
      exact ⟨⟨⟨hne _ rfl, hne _ rfl⟩, hne _ rfl⟩, hne _ rfl⟩
    have htake : (c :: numeral ++ rest).takeWhile isNumeral = c :: numeral := by
      rw [List.takeWhile_append_of_pos hall, hrest.takeWhile, List.append_nil]
    have hdrop : (c :: numeral ++ rest).dropWhile isNumeral = rest := by
      rw [List.dropWhile_append_of_pos hall, hrest.dropWhile]
    rw [List.cons_append] at htake hdrop ⊢
    rw [readValue, skipSpace_cons hspace]
    split
    case h_1 heq | h_2 heq | h_3 heq | h_4 heq | h_5 heq | h_6 heq =>
      exact absurd (List.cons.inj heq).1 (hne _ rfl)
    case h_7 =>
      rw [htake, hdrop, hv]
      rfl

theorem readValue_quote (s : String) :
    readValue (steps + 1) (quote s ++ rest) = some (string s, rest) := by
  have hquote : quote s ++ rest = '"' :: (s.toList.flatMap escape ++ '"' :: rest) := by
    rw [quote, List.append_assoc]
    rfl
  rw [hquote, readValue, skipSpace_cons rfl]
  simp [readString_quote]

theorem readValue_eq_none {s after : Text} (h : skipSpace s = ']' :: after) :
    readValue steps s = none := by
  cases steps with
  | zero => rfl
  | succ steps => rw [readValue, h]; rfl

theorem readMember_eq_none {s after : Text} (h : skipSpace s = '\x7d' :: after) :
    readMember steps s = none := by
  cases steps with
  | zero => rfl
  | succ steps => rw [readMember, h]; rfl

variable {v : Json} {vs : List Json} {key : String} {m : String × Json}
  {ms : List (String × Json)} {s t : Text}

theorem readValue_array (hv : readValue steps s = some (v, t))
    (hvs : readItems steps t = some (vs, rest)) :
    readValue (steps + 1) ('[' :: s) = some (array (v :: vs), rest) := by
  rw [readValue, skipSpace_cons rfl]
  simp only
  split
  case h_1 heq =>
    -- an empty array would be taken here, but then there is no first item to read
    rw [readValue_eq_none heq] at hv
    cases hv
  case h_2 => simp [hv, hvs]

theorem readValue_object (hm : readMember steps s = some (m, t))
    (hms : readMembers steps t = some (ms, rest)) :
    readValue (steps + 1) ('\x7b' :: s) = some (object (m :: ms), rest) := by
  rw [readValue, skipSpace_cons rfl]
  simp only
  split
  case h_1 heq =>
    rw [readMember_eq_none heq] at hm
    cases hm
  case h_2 => simp [hm, hms]

theorem readItems_cons (hv : readValue steps s = some (v, t))
    (hvs : readItems steps t = some (vs, rest)) :
    readItems (steps + 1) (',' :: s) = some (v :: vs, rest) := by
  rw [readItems, skipSpace_cons rfl]
  simp [hv, hvs]

theorem readItems_nil (level : Nat) :
    readItems (steps + 1) (indent level ++ ']' :: rest) = some ([], rest) := by
  rw [readItems, skipSpace_indent, skipSpace_cons rfl]
  rfl

theorem readMember_indent (level : Nat) (hv : readValue steps s = some (v, t)) :
    readMember (steps + 1) (indent level ++ quote key ++ ": ".toList ++ s) =
      some ((key, v), t) := by
  have hquote : indent level ++ quote key ++ ": ".toList ++ s =
      indent level ++ '"' :: (key.toList.flatMap escape ++ '"' :: ':' :: ' ' :: s) := by
    simp [quote]
  have hcolon : skipSpace (':' :: ' ' :: s) = ':' :: ' ' :: s := skipSpace_cons rfl _
  have hblank : readValue steps (' ' :: s) = some (v, t) := by rw [readValue_blank rfl, hv]
  rw [hquote, readMember, skipSpace_indent, skipSpace_cons rfl]
  simp [readString_quote, hcolon, hblank]

theorem readMembers_cons (hm : readMember steps s = some (m, t))
    (hms : readMembers steps t = some (ms, rest)) :
    readMembers (steps + 1) (',' :: s) = some (m :: ms, rest) := by
  rw [readMembers, skipSpace_cons rfl]
  simp [hm, hms]

theorem readMembers_nil (level : Nat) :
    readMembers (steps + 1) (indent level ++ '\x7d' :: rest) = some ([], rest) := by
  rw [readMembers, skipSpace_indent, skipSpace_cons rfl]
  rfl

end values

mutual

def Legible : Json → Prop
  | decimal numeral => (∀ c ∈ numeral.toList, isNumeral c = true) ∧
      number? numeral.toList = some (decimal numeral)
  | array items => LegibleItems items
  | object members => LegibleMembers members
  | _ => True

def LegibleItems : List Json → Prop
  | [] => True
  | item :: items => Legible item ∧ LegibleItems items

def LegibleMembers : List (String × Json) → Prop
  | [] => True
  | (_, value) :: members => Legible value ∧ LegibleMembers members

end

theorem length_indent (level : Nat) : (indent level).length = 2 * level + 1 := by
  rw [indent, List.length_cons, List.length_replicate]

theorem ends_indent (level : Nat) (s : Text) : Ends (indent level ++ s) := ends_cons rfl _

theorem ends_prettyItems (level : Nat) (items : List Json) {s : Text} (h : Ends s) :
    Ends (prettyItems level items ++ s) := by
  cases items with
  | nil => rwa [prettyItems]
  | cons item items => exact ends_cons rfl _

theorem ends_prettyMembers (level : Nat) (members : List (String × Json)) {s : Text} (h : Ends s) :
    Ends (prettyMembers level members ++ s) := by
  cases members with
  | nil => rwa [prettyMembers]
  | cons member members => exact ends_cons rfl _

-- Each step of the reader takes a character, so steps for the length of the text do not run out.
mutual

theorem readValue_prettyAt : ∀ (v : Json), v.Legible → ∀ (level steps : Nat) (rest : Text),
    (prettyAt level v).length ≤ steps + 1 → Ends rest →
      readValue (steps + 1) (prettyAt level v ++ rest) = some (v, rest)
  | null, _, _, _, _, _, _ => rfl
  | bool true, _, _, _, _, _, _ => rfl
  | bool false, _, _, _, _, _, _ => rfl
  | integer n, _, _, _, _, _, hrest =>
    readValue_numeral (fun _ hc => isNumeral_of_mem_toString hc) (number?_toString n) hrest
  | decimal _, hv, _, _, _, _, hrest => readValue_numeral hv.1 hv.2 hrest
  | string s, _, _, _, _, _, _ => readValue_quote s
  | array [], _, _, _, _, _, _ => rfl
  | object [], _, _, _, _, _, _ => rfl
  | array (item :: items), hv, level, steps, rest, hsteps, _ => by
    have htext : prettyAt level (array (item :: items)) ++ rest =
        '[' :: (indent (level + 1) ++ (prettyAt (level + 1) item ++
          (prettyItems (level + 1) items ++ (indent level ++ ']' :: rest)))) := by
      simp [prettyAt]
    simp only [prettyAt, List.length_append, List.length_cons, length_indent] at hsteps
    obtain ⟨steps, rfl⟩ : ∃ k, steps = k + 1 := ⟨steps - 1, by omega⟩
    have hends := ends_prettyItems (level + 1) items (ends_indent level (']' :: rest))
    rw [htext]
    apply readValue_array
    · rw [readValue_indent]
      exact readValue_prettyAt item hv.1 (level + 1) steps _ (by omega) hends
    · exact readItems_prettyItems items hv.2 (level + 1) level steps rest (by omega)
  | object ((key, value) :: members), hv, level, steps, rest, hsteps, _ => by
    have htext : prettyAt level (object ((key, value) :: members)) ++ rest =
        '\x7b' :: (indent (level + 1) ++ quote key ++ ": ".toList ++ (prettyAt (level + 1) value ++
          (prettyMembers (level + 1) members ++ (indent level ++ '\x7d' :: rest)))) := by
      simp [prettyAt]
    simp only [prettyAt, List.length_append, List.length_cons, length_indent] at hsteps
    obtain ⟨steps, rfl⟩ : ∃ k, steps = k + 2 := ⟨steps - 2, by omega⟩
    have hends := ends_prettyMembers (level + 1) members (ends_indent level ('\x7d' :: rest))
    rw [htext]
    apply readValue_object
    · apply readMember_indent
      exact readValue_prettyAt value hv.1 (level + 1) steps _ (by omega) hends
    · exact readMembers_prettyMembers members hv.2 (level + 1) level (steps + 1) rest (by omega)

theorem readItems_prettyItems : ∀ (items : List Json), LegibleItems items →
    ∀ (level outer steps : Nat) (rest : Text), (prettyItems level items).length ≤ steps →
      readItems (steps + 1) (prettyItems level items ++ (indent outer ++ ']' :: rest)) =
        some (items, rest)
  | [], _, _, outer, _, _, _ => readItems_nil outer
  | item :: items, hv, level, outer, steps, rest, hsteps => by
    have htext : prettyItems level (item :: items) ++ (indent outer ++ ']' :: rest) =
        ',' :: (indent level ++ (prettyAt level item ++
          (prettyItems level items ++ (indent outer ++ ']' :: rest)))) := by
      simp [prettyItems]
    simp only [prettyItems, List.length_append, List.length_cons, length_indent] at hsteps
    obtain ⟨steps, rfl⟩ : ∃ k, steps = k + 1 := ⟨steps - 1, by omega⟩
    have hends := ends_prettyItems level items (ends_indent outer (']' :: rest))
    rw [htext]
    apply readItems_cons
    · rw [readValue_indent]
      exact readValue_prettyAt item hv.1 level steps _ (by omega) hends
    · exact readItems_prettyItems items hv.2 level outer steps rest (by omega)

theorem readMembers_prettyMembers : ∀ (members : List (String × Json)), LegibleMembers members →
    ∀ (level outer steps : Nat) (rest : Text), (prettyMembers level members).length ≤ steps →
      readMembers (steps + 1) (prettyMembers level members ++ (indent outer ++ '\x7d' :: rest)) =
        some (members, rest)
  | [], _, _, outer, _, _, _ => readMembers_nil outer
  | (key, value) :: members, hv, level, outer, steps, rest, hsteps => by
    have htext : prettyMembers level ((key, value) :: members) ++ (indent outer ++ '\x7d' :: rest) =
        ',' :: (indent level ++ quote key ++ ": ".toList ++ (prettyAt level value ++
          (prettyMembers level members ++ (indent outer ++ '\x7d' :: rest)))) := by
      simp [prettyMembers]
    simp only [prettyMembers, List.length_append, List.length_cons, length_indent] at hsteps
    obtain ⟨steps, rfl⟩ : ∃ k, steps = k + 2 := ⟨steps - 2, by omega⟩
    have hends := ends_prettyMembers level members (ends_indent outer ('\x7d' :: rest))
    rw [htext]
    apply readMembers_cons
    · apply readMember_indent
      exact readValue_prettyAt value hv.1 level steps _ (by omega) hends
    · exact readMembers_prettyMembers members hv.2 level outer (steps + 1) rest (by omega)

end

theorem parse?_pretty {v : Json} (hv : v.Legible) : parse? v.pretty.toList = some v := by
  have hread := readValue_prettyAt v hv 0 (3 * (prettyAt 0 v).length + 2) [] (by omega) ends_nil
  rw [List.append_nil] at hread
  rw [pretty, String.toList_ofList, parse?, hread]
  rfl

theorem eq_of_pretty_eq {v w : Json} (hv : v.Legible) (hw : w.Legible)
    (h : v.pretty = w.pretty) : v = w := by
  have hread := parse?_pretty hv
  rw [h, parse?_pretty hw] at hread
  exact (Option.some.inj hread).symm

end DiagramReview.Json
