import DiagramReview.Text.Line

namespace DiagramReview

open Text

theorem toList_toString (n : Nat) : (toString n).toList = Nat.toDigits 10 n := Nat.toList_repr

theorem toList_toString_ne_nil (n : Nat) : (toString n).toList ≠ [] := by
  rw [toList_toString]
  exact Nat.toDigits_ne_nil

theorem isDigit_of_mem_toString {n : Nat} {c : Char} (h : c ∈ (toString n).toList) :
    c.isDigit = true := by
  rw [toList_toString] at h
  exact Nat.isDigit_of_mem_toDigits (by decide) (by decide) h

theorem notMem_toString {c : Char} (hc : c.isDigit = false) (n : Nat) :
    c ∉ (toString n).toList := by
  intro h
  rw [isDigit_of_mem_toString h] at hc
  cases hc

def InLine (t : String) : Prop := '\n' ∉ t.toList

instance (t : String) : Decidable (InLine t) := inferInstanceAs (Decidable ('\n' ∉ t.toList))

theorem inLine_ofList {cs : Text} (h : '\n' ∉ cs) : InLine (String.ofList cs) := by
  rwa [InLine, String.toList_ofList]

theorem InLine.append {a b : String} (ha : InLine a) (hb : InLine b) : InLine (a ++ b) := by
  rw [InLine, String.toList_append, List.mem_append]
  exact not_or.mpr ⟨ha, hb⟩

theorem inLine_toString (n : Nat) : InLine (toString n) := notMem_toString (by decide) n

theorem append_cons_inj {sep : Char} {a b s t : Text} (ha : sep ∉ a) (hb : sep ∉ b)
    (h : a ++ sep :: s = b ++ sep :: t) : a = b ∧ s = t := by
  have hsplit := congrArg (List.splitOn sep) h
  rw [List.splitOn_append_cons_self_of_not_mem ha,
    List.splitOn_append_cons_self_of_not_mem hb] at hsplit
  obtain ⟨rfl, -⟩ := List.cons.inj hsplit
  exact ⟨rfl, by simpa using h⟩

end DiagramReview
