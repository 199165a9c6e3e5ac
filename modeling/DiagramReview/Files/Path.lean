import DiagramReview.Text.Line

namespace DiagramReview.Path

open Text

def join (dir name : String) : String :=
  if name.toList.head? = some '/' then name
  else if dir.isEmpty || dir.toList.getLast? = some '/' then dir ++ name
  else dir ++ "/" ++ name

def isIdle (piece : Text) : Bool := piece.isEmpty || piece == ['.']

def dropIdle (pieces : List Text) : List Text := (pieces.reverse.dropWhile isIdle).reverse

/-- The path without its last name, unless there is none. A dot counts as a name where a path that
is not absolute opens with it. -/
def parent? (path : String) : Option String :=
  match path.toList.splitOn '/' with
  | [] => none
  | first :: rest =>
    let names := dropIdle rest
    if names.isEmpty then if first.isEmpty then none else some ""
    else
      let text := String.ofList (['/'].intercalate (first :: dropIdle names.dropLast))
      some (if text.isEmpty then "/" else text)

theorem dropIdle_isPrefix (pieces : List Text) : dropIdle pieces <+: pieces := by
  have h := List.reverse_prefix.mpr (List.dropWhile_suffix isIdle (l := pieces.reverse))
  rwa [List.reverse_reverse] at h

theorem isIdle_of_getLast?_dropIdle {pieces : List Text} {name : Text}
    (h : (dropIdle pieces).getLast? = some name) : isIdle name = false := by
  have hn := List.head?_dropWhile_not isIdle pieces.reverse
  rw [dropIdle, List.getLast?_reverse] at h
  rwa [h] at hn

theorem length_front_lt (first : Text) {rest : List Text} (h : dropIdle rest ≠ []) :
    (['/'].intercalate (first :: dropIdle (dropIdle rest).dropLast)).length + 1 <
      (['/'].intercalate (first :: rest)).length := by
  obtain ⟨names, name, hname⟩ : ∃ names name, dropIdle rest = names ++ [name] :=
    ⟨_, _, (List.dropLast_concat_getLast h).symm⟩
  have hpos : 0 < name.length := List.length_pos_iff.mpr fun he => by
    have hidle : isIdle name = false := isIdle_of_getLast?_dropIdle (by rw [hname]; simp)
    rw [he] at hidle
    cases hidle
  have hprefix := dropIdle_isPrefix rest
  rw [hname] at hprefix
  rw [hname, List.dropLast_concat]
  have hleft : (['/'].intercalate (first :: dropIdle names)).length ≤
      (['/'].intercalate (first :: names)).length :=
    (intercalate_isPrefix '/' ((List.prefix_cons_inj first).mpr (dropIdle_isPrefix names))).length_le
  have hwhole : (['/'].intercalate (first :: names ++ [name])).length =
      (['/'].intercalate (first :: names)).length + (name.length + 1) := by
    rw [intercalate_append '/' (by simp) (by simp), List.length_append, List.length_cons,
      List.intercalate_singleton]
  have hrest : (['/'].intercalate (first :: names ++ [name])).length ≤
      (['/'].intercalate (first :: rest)).length :=
    (intercalate_isPrefix '/' ((List.prefix_cons_inj first).mpr hprefix)).length_le
  omega

theorem length_lt_of_parent? {path up : String} (h : parent? path = some up) :
    up.length < path.length := by
  have hpath : path.length = (['/'].intercalate (path.toList.splitOn '/')).length := by
    rw [List.intercalate_splitOn, String.length_toList]
  rw [hpath]
  unfold parent? at h
  split at h
  · cases h
  · rename_i first rest hsplit
    rw [hsplit]
    dsimp only at h
    split at h
    · split at h
      · cases h
      · rename_i hempty
        obtain rfl := Option.some.inj h
        have hpos : 0 < first.length :=
          List.length_pos_iff.mpr fun he => hempty (List.isEmpty_iff.mpr he)
        have hfirst := (intercalate_isPrefix '/' (List.prefix_append [first] rest)).length_le
        rw [List.intercalate_singleton] at hfirst
        exact Nat.lt_of_lt_of_le hpos hfirst
    · rename_i hnames
      obtain rfl := Option.some.inj h
      have hfront := length_front_lt first fun he => hnames (List.isEmpty_iff.mpr he)
      split
      · exact Nat.lt_of_lt_of_le (show "/".length < 2 by decide) (by omega)
      · rw [String.length_ofList]
        omega

def ancestors (path : String) : List String :=
  path :: match _h : parent? path with
    | none => []
    | some up => ancestors up
termination_by path.length
decreasing_by exact length_lt_of_parent? _h

def isInput (path : String) : Bool :=
  match path.toList.splitOn '/' with
  | first :: rest => first == ['-'] && rest.all isIdle
  | [] => false

end DiagramReview.Path
