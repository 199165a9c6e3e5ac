import DiagramReview.Proofs.Diagram.Declarations
import DiagramReview.Proofs.Diagram.Document
import DiagramReview.Proofs.Diagram.Messages
import DiagramReview.Proofs.Text.Front
import Mathlib.Data.Finset.Card

namespace DiagramReview

open Text Text.Piece Text.Pattern

structure MessageLine where
  indent : Nat
  sender : Name
  receiver : Name
  text : Text
  dash_notMem : '-' ∉ text
  newline_notMem : '\n' ∉ text

namespace MessageLine

def arrow (m : MessageLine) : Text := m.sender.text ++ "->>".toList ++ m.receiver.text

def tail (m : MessageLine) : Text := ": ".toList ++ m.text

def line (m : MessageLine) : Text := List.replicate m.indent ' ' ++ m.arrow ++ m.tail

end MessageLine

def sequenceDocument (ms : List MessageLine) (ended : Bool) : Text :=
  document "sequenceDiagram".toList (ms.map MessageLine.line) ended

variable {c : Char} {s b p : Text}

theorem message_pieces : message.pieces = run isWord ++ (many isBlank :: word ['-'] ::
    (run isArrowTail ++ (many isBlank :: (run isWord ++ [])))) := rfl

namespace MessageLine

variable (m : MessageLine)

theorem newline_notMem_line : '\n' ∉ m.line := by
  have hsender := m.sender.notMem (c := '\n') (by decide)
  have hreceiver := m.receiver.notMem (c := '\n') (by decide)
  simp [line, arrow, tail, m.newline_notMem, hsender, hreceiver]

theorem newline_notMem_lines (ms : List MessageLine) :
    ∀ l ∈ "sequenceDiagram".toList :: ms.map line, '\n' ∉ l := by
  refine List.forall_mem_cons.mpr ⟨by decide, fun l hl => ?_⟩
  obtain ⟨m, -, rfl⟩ := List.mem_map.mp hl
  exact m.newline_notMem_line

theorem isArrowTail_angle (x : Name) (b : Text) :
    ('>' :: (x.text ++ b)).takeWhile isArrowTail = ['>'] ∧
      ('>' :: (x.text ++ b)).dropWhile isArrowTail = x.text ++ b := by
  have hangle : isArrowTail '>' = true := by decide
  have hhead := x.head_append (fun _ => isArrowTail_of_isWord) b
  rw [List.takeWhile_cons_of_pos hangle, List.dropWhile_cons_of_pos hangle,
    takeWhile_of_head hhead, dropWhile_of_head hhead]
  exact ⟨rfl, rfl⟩

theorem count_messageArrow_line : messageArrow.count m.line = 1 := by
  have hfront : '-' ∉ List.replicate m.indent ' ' ++ m.sender.text := by
    simp [m.sender.notMem (c := '-') (by decide)]
  have hrest : '-' ∉ m.receiver.text ++ m.tail := by
    simp [tail, m.dash_notMem, m.receiver.notMem (c := '-') (by decide)]
  have hline : m.line = (List.replicate m.indent ' ' ++ m.sender.text) ++
      ("->>".toList ++ (m.receiver.text ++ m.tail)) := by
    simp [line, arrow]
  have hwidth : widthOf? messageArrow.pieces ("->>".toList ++ (m.receiver.text ++ m.tail)) =
      some "->>".toList.length := by
    have harrow := widthOf?_messageArrow (d := '>') (by decide) ('>' :: (m.receiver.text ++ m.tail))
    rw [(isArrowTail_angle m.receiver m.tail).1] at harrow
    exact harrow
  rw [hline, count_append_of_notMem rfl rfl hfront, count_append rfl (by decide) hwidth,
    count_of_notMem rfl rfl hrest]

theorem widthOf?_message (b : Text) :
    widthOf? message.pieces (m.arrow ++ ':' :: b) = some m.arrow.length := by
  have hreceiver : widthOf? (many isBlank :: (run isWord ++ [])) (m.receiver.text ++ ':' :: b) =
      some m.receiver.text.length := by
    rw [widthOf?_many_of_head (m.receiver.head_not_blank _), m.receiver.widthOf?_run (by decide)]
    rfl
  have htail : widthOf? (run isArrowTail ++ (many isBlank :: (run isWord ++ [])))
      ('>' :: '>' :: (m.receiver.text ++ ':' :: b)) = some (m.receiver.text.length + 2) := by
    obtain ⟨htake, hdrop⟩ := isArrowTail_angle m.receiver (':' :: b)
    rw [widthOf?_run_cons, if_pos (by decide), htake, hdrop, hreceiver, Option.map_some]
    exact congrArg some (Nat.add_comm _ _)
  have hdash : widthOf? (many isBlank :: word ['-'] ::
      (run isArrowTail ++ (many isBlank :: (run isWord ++ []))))
      ('-' :: '>' :: '>' :: (m.receiver.text ++ ':' :: b)) = some (m.receiver.text.length + 3) := by
    have hword := widthOf?_word_append ['-'] ('>' :: '>' :: (m.receiver.text ++ ':' :: b))
      (run isArrowTail ++ (many isBlank :: (run isWord ++ [])))
    rw [htail, Option.map_some] at hword
    rw [widthOf?_many_of_head (by rintro c ⟨⟩; decide)]
    exact hword.trans (congrArg some (Nat.add_comm _ _))
  have harrow : m.arrow ++ ':' :: b =
      m.sender.text ++ '-' :: '>' :: '>' :: (m.receiver.text ++ ':' :: b) := by simp [arrow]
  rw [message_pieces, harrow, m.sender.widthOf?_run (by decide), hdash]
  simp [arrow]

theorem messageEnds_arrow : messageEnds m.arrow = [m.sender.text, m.receiver.text] := by
  have hsender : m.arrow.takeWhile isWord = m.sender.text := by
    have harrow : m.arrow = m.sender.text ++ '-' :: '>' :: '>' :: m.receiver.text := by simp [arrow]
    rw [harrow, m.sender.takeWhile_append (by decide)]
  have hreceiver : m.arrow.reverse.takeWhile isWord = m.receiver.text.reverse := by
    have harrow : m.arrow.reverse =
        m.receiver.text.reverse ++ '>' :: '>' :: '-' :: m.sender.text.reverse := by simp [arrow]
    have hword : ∀ c ∈ m.receiver.text.reverse, isWord c = true :=
      fun c hc => m.receiver.word c (List.mem_reverse.mp hc)
    rw [harrow, takeWhile_append_cons (by decide), List.takeWhile_eq_self_iff.mpr hword]
  rw [messageEnds, hsender, hreceiver, List.reverse_reverse]

end MessageLine

theorem occurrences_message_blank (hb : ∀ x ∈ b, isBlank x = true) (s : Text) :
    message.occurrences (b ++ s) = message.occurrences s := by
  induction b with
  | nil => rfl
  | cons d b ih =>
    obtain ⟨hd, hb⟩ := List.forall_mem_cons.mp hb
    have hnone : widthOf? message.pieces (d :: (b ++ s)) = none := by
      rw [message_pieces, widthOf?_run_cons, isWord_of_isBlank hd, if_neg Bool.false_ne_true]
    rw [List.cons_append, occurrences_cons rfl hnone, ih hb]

theorem occurrences_message_skip (hp : '-' ∉ p) (hb : b ≠ []) (hblank : ∀ x ∈ b, isBlank x = true)
    (x : Name) (s : Text) :
    message.occurrences (p ++ (b ++ (x.text ++ s))) = message.occurrences (x.text ++ s) := by
  obtain ⟨c, w, hx, hc, -⟩ := x.exists_cons
  obtain ⟨e, b, rfl⟩ := List.exists_cons_of_ne_nil hb
  rw [hx]
  have he := isWord_of_isBlank (hblank e List.mem_cons_self)
  have hdash : '-' ∉ e :: b := fun hm => absurd (hblank '-' hm) (by decide)
  have hc' : c ≠ '-' := by
    rintro rfl
    exact absurd hc (by decide)
  induction p with
  | nil => exact occurrences_message_blank hblank _
  | cons d p ih =>
    rw [List.mem_cons, not_or] at hp
    have hnone : widthOf? message.pieces (d :: (p ++ (e :: b ++ (c :: w ++ s)))) = none := by
      -- from any word on, blanks and the name come before the next dash
      have hrest : (p ++ (e :: b ++ (c :: w ++ s))).dropWhile isWord =
          (p.dropWhile isWord ++ e :: b) ++ c :: (w ++ s) := by
        rw [List.cons_append, dropWhile_append_cons he, List.append_assoc, List.cons_append,
          List.cons_append]
      have hfree : '-' ∉ (p.dropWhile isWord ++ e :: b).dropWhile isBlank := by
        intro hm
        rcases List.mem_append.mp ((List.dropWhile_suffix isBlank).subset hm) with hm | hm
        · exact hp.2 ((List.dropWhile_suffix isWord).subset hm)
        · exact hdash hm
      rw [message_pieces, widthOf?_run_cons, hrest, widthOf?_many,
        dropWhile_append_cons (isBlank_of_isWord hc), widthOf?_word_of_notMem hfree hc']
      simp
    rw [List.cons_append, occurrences_cons rfl hnone, ih hp.2]

theorem occurrences_message_of_notMem (hp : '-' ∉ p) : message.occurrences p = [] := by
  apply scan_of_suffixes
  intro t ht
  rw [Option.eq_none_iff_forall_ne_some]
  intro n hn
  obtain ⟨a, d, b, w, -, -, htake⟩ := exists_arrow_of_message hn
  have hdash : '-' ∈ t.take n := by
    rw [htake]
    simp
  exact hp (ht.subset (List.mem_of_mem_take hdash))

theorem occurrences_message_lines (ms : List MessageLine) (hp : '-' ∉ p) (hs : '-' ∉ s) :
    message.occurrences (p ++ ((ms.map MessageLine.line).flatMap ('\n' :: ·) ++ s)) =
      ms.map MessageLine.arrow := by
  induction ms generalizing p with
  | nil => exact occurrences_message_of_notMem (by simp [hp, hs])
  | cons m ms ih =>
    have hblank : ∀ x ∈ '\n' :: List.replicate m.indent ' ', isBlank x = true :=
      List.forall_mem_cons.mpr ⟨isBlank_newline, isBlank_of_mem_indent⟩
    have htail : '-' ∉ m.tail := by simp [MessageLine.tail, m.dash_notMem]
    let rest := (ms.map MessageLine.line).flatMap ('\n' :: ·) ++ s
    have hline : p ++ (((m :: ms).map MessageLine.line).flatMap ('\n' :: ·) ++ s) =
        p ++ (('\n' :: List.replicate m.indent ' ') ++ (m.sender.text ++
          ("->>".toList ++ m.receiver.text ++ (m.tail ++ rest)))) := by
      simp [MessageLine.line, MessageLine.arrow, rest]
    have harrow : m.sender.text ++ ("->>".toList ++ m.receiver.text ++ (m.tail ++ rest)) =
        m.arrow ++ ':' :: (' ' :: m.text ++ rest) := by
      simp [MessageLine.tail, MessageLine.arrow]
    have hne : m.arrow ≠ [] := by simp [MessageLine.arrow]
    rw [hline, occurrences_message_skip hp (List.cons_ne_nil _ _) hblank, harrow,
      occurrences_append rfl hne (m.widthOf?_message _)]
    exact congrArg (m.arrow :: ·) (ih htail)

theorem count_participant_eq_zero (h : ∀ l ∈ lines s,
    participant.occursIn l = false ∧ trim l ≠ "participant".toList) : participant.count s = 0 := by
  rw [lineLed_participant.count_eq_countP fun l hl _ hopen =>
    (h l hl).2 (participant_of_leavesOpen hopen)]
  exact List.countP_eq_zero.mpr fun l hl => Bool.eq_false_iff.mp (h l hl).1

theorem length_eraseDups (l : List Text) : l.eraseDups.length = l.toFinset.card := by
  induction hn : l.length using Nat.strongRecOn generalizing l with
  | ind n ih =>
    rcases l with - | ⟨a, l⟩
    · rfl
    · have hfilter := List.length_filter_le (fun b => !b == a) l
      have hinsert : (a :: l).toFinset = insert a (l.filter fun b => !b == a).toFinset := by
        ext x
        by_cases hx : x = a <;> simp [hx]
      rw [List.length_cons] at hn
      rw [List.eraseDups_cons, List.length_cons, ih _ (by omega) _ rfl, hinsert,
        Finset.card_insert_of_notMem (by simp)]

namespace MessageLine

variable (m : MessageLine)

theorem line_eq : m.line = List.replicate m.indent ' ' ++
    (m.sender.text ++ '-' :: ('>' :: '>' :: m.receiver.text ++ m.tail)) := by
  simp [line, arrow]

theorem widthOf?_participant (x : Name) (b : Text) :
    widthOf? (word "participant".toList :: run isBlank) (x.text ++ '-' :: b) = none := by
  have hdash : widthOf? (run isBlank ++ []) ('-' :: b) = none := by
    rw [widthOf?_run_cons, if_neg (by decide)]
  have hkeyword := x.widthOf?_keyword (c := '-') (w := "participant".toList) (by decide) [] b
  rwa [hdash, Option.map_none, ite_self, List.append_nil] at hkeyword

theorem no_participant_line :
    participant.occursIn m.line = false ∧ trim m.line ≠ "participant".toList := by
  have hpieces : participant.pieces = many isBlank :: word "participant".toList :: run isBlank := rfl
  constructor
  · have hwidth : participant.width? true m.line = none := by
      rw [width?_true, hpieces, widthOf?_many, ← trimLeft, line_eq, trimLeft_indented_name,
        widthOf?_participant]
      rfl
    rw [lineLed_participant.occursIn_eq m.newline_notMem_line, hwidth]
    rfl
  · rw [line_eq, trim_indented_name _ _ (by decide)]
    intro htrim
    have hdash : '-' ∈ "participant".toList := by
      rw [← htrim]
      simp
    exact absurd hdash (by decide)

end MessageLine

section Document

variable (ms : List MessageLine) (ended : Bool)

theorem count_messageArrow_document :
    messageArrow.count (sequenceDocument ms ended) = ms.length := by
  rw [sequenceDocument, count_document rfl (by decide) (by decide)]
  simp [MessageLine.count_messageArrow_line]

theorem occurrences_message_document :
    message.occurrences (sequenceDocument ms ended) = ms.map MessageLine.arrow := by
  have hend : '-' ∉ if ended then ['\n'] else [] := by cases ended <;> decide
  have hfound := occurrences_message_lines (p := "sequenceDiagram".toList) ms (by decide) hend
  rwa [← List.append_assoc, ← document_eq] at hfound

theorem count_participant_document : participant.count (sequenceDocument ms ended) = 0 := by
  apply count_participant_eq_zero
  intro l hl
  rcases mem_lines_document (MessageLine.newline_notMem_lines ms) hl with rfl | hl | rfl
  · decide
  · obtain ⟨m, -, rfl⟩ := List.mem_map.mp hl
    exact m.no_participant_line
  · decide

end Document

namespace Metrics

/-- A sequence diagram written from messages is detected as one, and shows as many messages as were
written and as many participants as there are different names at their ends. -/
theorem written_messages_counted (ms : List MessageLine) (ended : Bool) :
    let s := sequenceDocument ms ended
    Kind.detect s = some .sequence ∧
    (measure .sequence s).relationships = ms.length ∧
    (measure .sequence s).elements =
      (ms.flatMap fun m => [m.sender.text, m.receiver.text]).toFinset.card := by
  intro s
  refine ⟨detect_document (MessageLine.newline_notMem_lines ms) (by decide) ended,
    count_messageArrow_document ms ended, ?_⟩
  have helements : (measure .sequence s).elements = implicitParticipants s :=
    if_pos (count_participant_document ms ended)
  have hends : (message.occurrences s).flatMap messageEnds =
      ms.flatMap fun m => [m.sender.text, m.receiver.text] := by
    rw [occurrences_message_document, List.flatMap_map]
    exact List.flatMap_congr fun m _ => m.messageEnds_arrow
  rw [helements, implicitParticipants, hends, length_eraseDups]

example : let ann : Name := ⟨"Ann".toList, by decide, List.all_eq_true.mp (by decide)⟩
    (MessageLine.mk 2 ann ann "who is >> there?".toList (by decide) (by decide)).line =
      "  Ann->>Ann: who is >> there?".toList := by
  decide

end Metrics

end DiagramReview
