import DiagramReview.Text.Digit
import DiagramReview.Text.Line

/-!
Tables of characters, written in words between blanks. A word stands for a run of characters: the
code point of the first one, after a minus sign that of the last one, after a slash the step from
one to the next, and after a colon what belongs to them, texts of code points between plus signs
with commas between the texts. All numbers are hexadecimal, and the runs are in increasing order.
-/

namespace DiagramReview

structure CharRun where
  first : Nat
  last : Nat
  step : Nat
  texts : List (List Nat)

namespace CharRun

open Text

def ofWord (word : Text) : CharRun :=
  let (place, texts) := match word.splitOn ':' with
    | [place, texts] =>
      (place, (texts.splitOn ',').map fun t : Text => (t.splitOn '+').map (inBase 16))
    | _ => (word, [])
  let (ends, step) := match place.splitOn '/' with
    | [ends, step] => (ends, inBase 16 step)
    | _ => (place, 1)
  match ends.splitOn '-' with
  | [first, last] => ⟨inBase 16 first, inBase 16 last, step, texts⟩
  | _ => ⟨inBase 16 ends, inBase 16 ends + (texts.length - 1), step, texts⟩

def members (r : CharRun) : List Nat :=
  (List.range ((r.last - r.first) / r.step + 1)).map fun i => r.first + r.step * i

def own (r : CharRun) (n : Nat) : List Nat := r.texts.getD (n - r.first) []

def shared (r : CharRun) : List Nat := r.texts.headD []

end CharRun

structure CharTable where
  runs : Array CharRun

namespace CharTable

def ofRows (rows : List String) : CharTable :=
  ⟨(rows.flatMap fun row => (row.toList.splitOn ' ').map CharRun.ofWord).toArray⟩

/-- The run that holds a number, if one between the positions `lo` and `hi` does. Each step halves
the positions left, so as many steps as there are positions suffice. -/
def search (t : CharTable) (n : Nat) : Nat → Nat → Nat → Option CharRun
  | 0, _, _ => none
  | steps + 1, lo, hi =>
    if lo < hi then
      match t.runs[(lo + hi) / 2]? with
      | none => none
      | some r =>
        if n < r.first then search t n steps lo ((lo + hi) / 2)
        else if n ≤ r.last then if (n - r.first) % r.step = 0 then some r else none
        else search t n steps ((lo + hi) / 2 + 1) hi
    else none

def find? (t : CharTable) (c : Char) : Option CharRun := t.search c.toNat t.runs.size 0 t.runs.size

def holds (t : CharTable) (c : Char) : Bool := (t.find? c).isSome

end CharTable

end DiagramReview
