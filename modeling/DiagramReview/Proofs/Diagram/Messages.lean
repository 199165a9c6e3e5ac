import DiagramReview.Diagram.Metrics
import DiagramReview.Proofs.Text.Separator

namespace DiagramReview

open Text Text.Piece Text.Pattern

variable {c d : Char} {s t : Text} {n : Nat}

theorem isArrowTail_iff : isArrowTail c = true ↔ c = '-' ∨ c = '>' := by
  simp [isArrowTail]

theorem widthOf?_messageArrow (hd : isArrowTail d = true) (t : Text) :
    widthOf? messageArrow.pieces ('-' :: d :: t) = some ((t.takeWhile isArrowTail).length + 2) := by
  have hpieces : messageArrow.pieces = [anyOf ["-".toList], one isArrowTail, many isArrowTail] := rfl
  have hdash : ["-".toList].find? (·.isPrefixOf ('-' :: d :: t)) = some ['-'] := by simp
  have hdrop : ('-' :: d :: t).drop ['-'].length = d :: t := rfl
  rw [hpieces, widthOf?_anyOf, hdash, Option.bind_some, hdrop, widthOf?_one_cons, if_pos hd,
    widthOf?_many]
  simp only [widthOf?, Option.map_some, Option.some.injEq, List.length_singleton]
  omega

theorem exists_of_widthOf?_messageArrow (h : widthOf? messageArrow.pieces s = some n) :
    ∃ d t, isArrowTail d = true ∧ s = '-' :: d :: t := by
  have hpieces : messageArrow.pieces = [anyOf ["-".toList], one isArrowTail, many isArrowTail] := rfl
  rw [hpieces, widthOf?_anyOf] at h
  obtain ⟨w, hw, h⟩ := Option.bind_eq_some_iff.mp h
  obtain rfl := List.mem_singleton.mp (List.mem_of_find?_eq_some hw)
  obtain ⟨r, rfl⟩ := prefix_of_find? hw
  obtain ⟨k, hk, -⟩ := Option.map_eq_some_iff.mp h
  rw [List.drop_left] at hk
  rcases r with - | ⟨d, t⟩
  · cases hk
  · rw [widthOf?_one_cons] at hk
    split_ifs at hk with hd
    exact ⟨d, t, hd, rfl⟩

theorem shuns_messageArrow (hc : isArrowTail c = false) :
    ∀ q ∈ messageArrow.pieces, q.shuns c = true := by
  have hdash : c ≠ '-' := by
    rintro rfl
    exact absurd hc (by decide)
  simp [messageArrow, anywhere, Piece.run, word, Piece.shuns, hc, hdash]

theorem count_messageArrow_append (hc : isArrowTail c = false) (a b : Text) :
    messageArrow.count (a ++ c :: b) = messageArrow.count a + messageArrow.count b :=
  count_append_cons rfl (shuns_messageArrow hc) a b

theorem count_messageArrow_pos (hd : isArrowTail d = true) (a b : Text) :
    0 < messageArrow.count (a ++ '-' :: d :: b) := by
  apply occursIn_iff_count_pos.mp
  apply (occursIn_iff rfl _).mpr
  exact ⟨'-', d :: b, List.suffix_append a _, _, widthOf?_messageArrow hd b⟩

def holdsArrow (r : Text) : Bool := hasPart "--".toList r || hasPart "->".toList r

theorem count_messageArrow_of_all (h : ∀ x ∈ s, isArrowTail x = true) :
    messageArrow.count s = if holdsArrow s then 1 else 0 := by
  induction s with
  | nil => rfl
  | cons c s ih =>
    have hs : ∀ x ∈ s, isArrowTail x = true := fun x hx => h x (List.mem_cons_of_mem _ hx)
    rcases isArrowTail_iff.mp (h c List.mem_cons_self) with rfl | rfl
    · rcases s with - | ⟨d, s⟩
      · decide
      · -- the first dash takes the rest of the run
        have hd := hs d List.mem_cons_self
        have hall : s.takeWhile isArrowTail = s :=
          List.takeWhile_eq_self_iff.mpr fun x hx => hs x (List.mem_cons_of_mem _ hx)
        have hwidth : messageArrow.width? true ('-' :: d :: s) = some (s.length + 1 + 1) := by
          rw [width?_of_anywhere rfl, widthOf?_messageArrow hd, hall]
        have hholds : holdsArrow ('-' :: d :: s) = true := by
          rcases isArrowTail_iff.mp hd with rfl | rfl <;> simp [holdsArrow, hasPart]
        rw [if_pos hholds, count, occurrences, scan_of_width?_succ hwidth,
          scan_of_length_le (by simp)]
        rfl
    · have hnone : messageArrow.width? true ('>' :: s) = none := by
        rw [Option.eq_none_iff_forall_ne_some]
        intro n hn
        obtain ⟨d, t, -, he⟩ := exists_of_widthOf?_messageArrow (s := '>' :: s) (n := n) hn
        cases he
      have hholds : holdsArrow ('>' :: s) = holdsArrow s := by
        simp [holdsArrow, hasPart, List.isPrefixOf]
      rw [hholds, ← ih hs, count, occurrences, scan_of_width?_ne_succ (by simp [hnone]),
        scan_eq_scan_true rfl]
      rfl

theorem count_messageArrow (s : Text) :
    messageArrow.count s = (runs isArrowTail s).countP holdsArrow := by
  induction s using runs_induction isArrowTail with
  | run s h =>
    rw [count_messageArrow_of_all h, runs_of_all h]
    cases s with
    | nil => rfl
    | cons c s => simp [List.countP_cons]
  | join a c b hc iha ihb =>
    rw [count_messageArrow_append hc, runs_append_cons hc, List.countP_append, iha, ihb]

theorem exists_last_of_widthOf?_run {ps : List Piece} {accepts : Char → Bool}
    (h : widthOf? (ps ++ run accepts) s = some n) :
    ∃ a w, accepts w = true ∧ s.take n = a ++ [w] := by
  rw [widthOf?_append] at h
  obtain ⟨i, -, h⟩ := Option.bind_eq_some_iff.mp h
  obtain ⟨k, hk, rfl⟩ := Option.map_eq_some_iff.mp h
  rw [List.take_add]
  cases hdrop : s.drop i with
  | nil =>
    rw [hdrop] at hk
    cases hk
  | cons c t =>
    rw [hdrop, Piece.run, widthOf?_one_cons] at hk
    split_ifs at hk with hc
    rw [widthOf?_many] at hk
    obtain rfl : 1 + ((t.takeWhile accepts).length + 0) = k := Option.some.inj hk
    have hrun : (c :: t).take (1 + ((t.takeWhile accepts).length + 0)) = c :: t.takeWhile accepts := by
      rw [Nat.add_zero, Nat.add_comm, List.take_succ_cons,
        ← List.prefix_iff_eq_take.mp (List.takeWhile_prefix accepts)]
    have hne : c :: t.takeWhile accepts ≠ [] := List.cons_ne_nil _ _
    have hall : ∀ x ∈ c :: t.takeWhile accepts, accepts x = true :=
      List.forall_mem_cons.mpr ⟨hc, fun _ => List.mem_takeWhile_imp⟩
    refine ⟨s.take i ++ (c :: t.takeWhile accepts).dropLast, _, hall _ (List.getLast_mem hne), ?_⟩
    rw [hrun, List.append_assoc, List.dropLast_concat_getLast]

theorem exists_arrow_of_message (h : widthOf? message.pieces s = some n) :
    ∃ a d b w, isArrowTail d = true ∧ isWord w = true ∧ s.take n = a ++ '-' :: d :: b ++ [w] := by
  have hpieces : message.pieces = (run isWord ++ [many isBlank]) ++
      (messageArrow.pieces ++ ([many isBlank] ++ run isWord)) := rfl
  rw [hpieces, widthOf?_append] at h
  obtain ⟨i, -, h⟩ := Option.bind_eq_some_iff.mp h
  rw [widthOf?_append] at h
  obtain ⟨k, hk, rfl⟩ := Option.map_eq_some_iff.mp h
  obtain ⟨j, hj, hk⟩ := Option.bind_eq_some_iff.mp hk
  obtain ⟨m, hm, rfl⟩ := Option.map_eq_some_iff.mp hk
  obtain ⟨a, w, hw, htake⟩ := exists_last_of_widthOf?_run hm
  obtain ⟨d, t, hd, hdrop⟩ := exists_of_widthOf?_messageArrow hj
  rw [hdrop, widthOf?_messageArrow hd] at hj
  obtain rfl : (t.takeWhile isArrowTail).length + 2 = j := Option.some.inj hj
  refine ⟨s.take i, d, t.take (t.takeWhile isArrowTail).length ++ a, w, hd, hw, ?_⟩
  rw [List.take_add, List.take_add, htake, hdrop]
  simp

theorem isArrowTail_of_isWord (h : isWord c = true) : isArrowTail c = false := by
  rw [Bool.eq_false_iff, Ne, isArrowTail_iff]
  rintro (rfl | rfl)
  · exact absurd h (by decide)
  · exact absurd h (by decide)

theorem length_scan_message_le (front : Text) (skip : Nat) (s : Text) :
    (message.scan true skip s).length ≤ messageArrow.count (front ++ s.drop skip) := by
  induction s generalizing front skip with
  | nil => simp [scan]
  | cons c s ih =>
    cases skip with
    | succ skip =>
      rw [scan, scan_eq_scan_true rfl]
      exact ih front skip
    | zero =>
      by_cases hs : ∀ n, message.width? true (c :: s) ≠ some (n + 1)
      · rw [scan_of_width?_ne_succ hs, scan_eq_scan_true rfl, List.drop_zero, List.append_cons]
        exact ih (front ++ [c]) 0
      · obtain ⟨n, hn⟩ := not_forall_not.mp hs
        obtain ⟨a, d, b, w, hd, hw, hmatch⟩ := exists_arrow_of_message (s := c :: s) hn
        -- the name at the end parts the arrow of this match from those of later ones
        have hsplit : front ++ c :: s = (front ++ a ++ '-' :: d :: b) ++ w :: s.drop n := by
          have hparts := List.take_append_drop (n + 1) (c :: s)
          rw [hmatch, List.drop_succ_cons] at hparts
          rw [← hparts]
          simp
        have hrest := ih [] n
        have hpos := count_messageArrow_pos hd (front ++ a) b
        rw [scan_of_width?_succ hn, List.length_cons, scan_eq_scan_true rfl, List.drop_zero, hsplit,
          count_messageArrow_append (isArrowTail_of_isWord hw)]
        rw [List.nil_append] at hrest
        omega

theorem count_message_le (s : Text) : message.count s ≤ messageArrow.count s :=
  length_scan_message_le [] 0 s

theorem length_eraseDups_le {α : Type} [BEq α] (l : List α) : l.eraseDups.length ≤ l.length := by
  induction hn : l.length using Nat.strongRecOn generalizing l with
  | ind n ih =>
    cases l with
    | nil => simp
    | cons a l =>
      have hfilter := List.length_filter_le (fun b => !b == a) l
      rw [List.length_cons] at hn
      have hle := ih _ (by omega) (l.filter fun b => !b == a) rfl
      rw [List.eraseDups_cons, List.length_cons]
      omega

theorem implicitParticipants_le (s : Text) : implicitParticipants s ≤ 2 * messageArrow.count s := by
  have hends : ((message.occurrences s).flatMap messageEnds).length = 2 * message.count s := by
    rw [List.length_flatMap, count, Nat.mul_comm]
    simp [messageEnds]
  have hdups := length_eraseDups_le ((message.occurrences s).flatMap messageEnds)
  have hle := count_message_le s
  rw [implicitParticipants]
  omega

/-- The messages of a sequence diagram are the maximal runs of dashes and angles that hold an arrow,
each counted once; participants that only messages imply are at most two to a message. -/
theorem messages_counted_once (s : Text) :
    (Metrics.measure .sequence s).relationships =
      (runs isArrowTail s).countP (fun r => hasPart "--".toList r || hasPart "->".toList r) ∧
    (participant.occursIn s = false →
      (Metrics.measure .sequence s).elements = implicitParticipants s ∧
      (Metrics.measure .sequence s).elements ≤
        2 * (Metrics.measure .sequence s).relationships) := by
  refine ⟨count_messageArrow s, fun h => ?_⟩
  have hzero : participant.count s = 0 := by
    by_contra hne
    have hoccurs := occursIn_iff_count_pos.mpr (Nat.pos_of_ne_zero hne)
    rw [h] at hoccurs
    cases hoccurs
  have helements : (Metrics.measure .sequence s).elements = implicitParticipants s := if_pos hzero
  refine ⟨helements, ?_⟩
  rw [helements]
  exact implicitParticipants_le s

theorem messages_counted_once_over_lines :
    let s := "sequenceDiagram\nAnn->>Bob: yes > no\nBob\n-->\n\tAnn - >> Cy ->".toList
    participant.occursIn s = false ∧
    (Metrics.measure .sequence s).relationships =
      (runs isArrowTail s).countP (fun r => hasPart "--".toList r || hasPart "->".toList r) ∧
    (Metrics.measure .sequence s).elements = implicitParticipants s ∧
    (Metrics.measure .sequence s).elements ≤
      2 * (Metrics.measure .sequence s).relationships := by
  intro s
  have hnamed : participant.occursIn s = false := by decide
  obtain ⟨hruns, hnames⟩ := messages_counted_once s
  exact ⟨hnamed, hruns, hnames hnamed⟩

end DiagramReview
