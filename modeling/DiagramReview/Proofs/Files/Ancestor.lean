import DiagramReview.Files.Path
import Mathlib.Data.List.DropRight
import Mathlib.Data.List.Induction

/-!
The directories above a path by the names in it: `getElem?_ancestors_iff` says which text each of
them has, whatever slashes and dots stand between the names.
-/

namespace DiagramReview.Path

open Text

def IsAbsolute (s : Text) : Prop := s.head? = some '/'

instance (s : Text) : Decidable (IsAbsolute s) := inferInstanceAs (Decidable (_ = _))

/-- Of the pieces between slashes, those that are names: a piece that is empty is none, nor is a dot
that is not the first piece. -/
def namesOf (pieces : List Text) : List Text :=
  (pieces.zipIdx.filter fun (piece, i) => piece ≠ [] ∧ (i = 0 ∨ piece ≠ ['.'])).map (·.1)

def names (s : Text) : List Text := namesOf (s.splitOn '/')

structure Lacks (n : Nat) (s front : Text) : Prop where
  isPrefix : front <+: s
  absolute : IsAbsolute front ↔ IsAbsolute s
  names : names front = (names s).rdrop n

/-- The directory so many names above a path is the path itself or the shortest front that lacks so
many names. -/
def IsAbove (n : Nat) (path dir : String) : Prop :=
  if n = 0 then dir = path
  else n ≤ (names path.toList).length ∧ Lacks n path.toList dir.toList ∧
    ∀ front, Lacks n path.toList front → dir.toList.length ≤ front.length

/-- A name in a directory, behind a slash unless the directory ends in one or is empty. -/
def entry (dir name : String) : String :=
  if dir = "" ∨ ['/'] <:+ dir.toList then dir ++ name else dir ++ "/" ++ name

variable {s t front first piece : Text} {rest pieces ps : List Text} {path up dir name : String}
  {n : Nat}

theorem join_eq_entry (h : ¬ IsAbsolute name.toList) : join dir name = entry dir name := by
  have hslash : dir.toList.getLast? = some '/' ↔ ['/'] <:+ dir.toList :=
    List.singleton_suffix_iff_getLast?_eq_some.symm
  simp only [join, entry, if_neg (show ¬ name.toList.head? = some '/' from h), Bool.or_eq_true,
    String.isEmpty_iff, decide_eq_true_eq, hslash]

theorem namesOf_concat (pieces : List Text) (piece : Text) : namesOf (pieces ++ [piece]) =
    namesOf pieces ++ if piece ≠ [] ∧ (pieces = [] ∨ piece ≠ ['.']) then [piece] else [] := by
  rw [namesOf, List.zipIdx_append, List.filter_append, List.map_append]
  congr 1
  simp only [List.zipIdx_singleton, List.filter_singleton, Nat.zero_add, List.length_eq_zero_iff]
  split_ifs with h <;> simp [h]

theorem isIdle_iff : isIdle piece = true ↔ piece = [] ∨ piece = ['.'] := by
  simp [isIdle]

theorem isIdle_eq_false_iff : isIdle piece = false ↔ piece ≠ [] ∧ piece ≠ ['.'] := by
  rw [← Bool.not_eq_true, isIdle_iff, not_or]

theorem namesOf_cons (first : Text) (rest : List Text) : namesOf (first :: rest) =
    (if first = [] then [] else [first]) ++ rest.filter (!isIdle ·) := by
  induction rest using List.reverseRecOn with
  | nil =>
    rw [← List.nil_append [first], namesOf_concat]
    by_cases h : first = [] <;> simp [h] <;> rfl
  | append_singleton rest piece ih =>
    rw [← List.cons_append, namesOf_concat, ih, List.filter_append, List.append_assoc]
    by_cases h : isIdle piece = true
    · rcases isIdle_iff.mp h with rfl | rfl <;> simp [isIdle]
    · have hpiece := isIdle_eq_false_iff.mp (Bool.eq_false_iff.mpr h)
      simp [h, hpiece]

theorem namesOf_append_of_idle (h : pieces ≠ []) (hps : ∀ piece ∈ ps, isIdle piece = true) :
    namesOf (pieces ++ ps) = namesOf pieces := by
  induction ps using List.reverseRecOn with
  | nil => rw [List.append_nil]
  | append_singleton ps piece ih =>
    have hpiece := isIdle_iff.mp (hps piece (by simp))
    rw [← List.append_assoc, namesOf_concat, ih fun p hp => hps p (by simp [hp])]
    rcases hpiece with rfl | rfl <;> simp [h]

theorem exists_dropIdle_append (pieces : List Text) :
    ∃ ps, pieces = dropIdle pieces ++ ps ∧ ∀ piece ∈ ps, isIdle piece = true := by
  refine ⟨(pieces.reverse.takeWhile isIdle).reverse, ?_, fun piece hp => ?_⟩
  · rw [dropIdle, ← List.reverse_append, List.takeWhile_append_dropWhile, List.reverse_reverse]
  · exact List.mem_takeWhile_imp (List.mem_reverse.mp hp)

theorem namesOf_dropIdle (first : Text) (rest : List Text) :
    namesOf (first :: dropIdle rest) = namesOf (first :: rest) := by
  obtain ⟨ps, hrest, hps⟩ := exists_dropIdle_append rest
  have hnames := namesOf_append_of_idle (List.cons_ne_nil first (dropIdle rest)) hps
  rw [← hnames, List.cons_append, ← hrest]

def size (s : Text) : Nat := (names s).flatten.length

def EndsInName (s : Text) : Prop :=
  ∃ pieces piece, s.splitOn '/' = pieces ++ [piece] ∧ piece ≠ [] ∧ (pieces = [] ∨ piece ≠ ['.'])

theorem splitOn_concat {c : Char} (hc : c ≠ '/') (h : s.splitOn '/' = pieces ++ [piece]) :
    (s ++ [c]).splitOn '/' = pieces ++ [piece ++ [c]] := by
  have hs : s ++ [c] = ['/'].intercalate (pieces ++ [piece ++ [c]]) := by
    have hparts : ['/'].intercalate (s.splitOn '/') = s := List.intercalate_splitOn '/'
    rw [← hparts, h]
    by_cases hp : pieces = []
    · simp [hp]
    · rw [intercalate_append '/' hp (by simp), intercalate_append '/' hp (by simp)]
      simp
  rw [hs]
  refine List.splitOn_intercalate '/' (fun l hl => ?_) (by simp)
  have hfree : ∀ l ∈ pieces ++ [piece], '/' ∉ l := fun l hl => notMem_of_mem_splitOn (h ▸ hl)
  rcases List.mem_append.mp hl with hl | hl
  · exact hfree l (List.mem_append_left _ hl)
  · rw [List.mem_singleton.mp hl]
    simpa [hc.symm] using hfree piece (by simp)

theorem size_of_splitOn (h : s.splitOn '/' = pieces ++ [piece]) :
    size s = (namesOf pieces).flatten.length +
      if piece ≠ [] ∧ (pieces = [] ∨ piece ≠ ['.']) then piece.length else 0 := by
  rw [size, names, h, namesOf_concat, List.flatten_append, List.length_append]
  split_ifs <;> simp

theorem size_concat (s : Text) (c : Char) :
    size s ≤ size (s ++ [c]) ∧ (EndsInName (s ++ [c]) → size s < size (s ++ [c])) := by
  obtain ⟨pieces, piece, h⟩ : ∃ pieces piece, s.splitOn '/' = pieces ++ [piece] :=
    ⟨_, _, (List.dropLast_concat_getLast (List.splitOn_ne_nil '/' s)).symm⟩
  by_cases hc : c = '/'
  · subst hc
    have hsplit : (s ++ ['/']).splitOn '/' = s.splitOn '/' ++ [[]] :=
      List.splitOn_append_cons_self s []
    have hsize : size (s ++ ['/']) = size s := by
      rw [size_of_splitOn hsplit, if_neg (by simp), Nat.add_zero]
      rfl
    refine ⟨hsize.ge, ?_⟩
    rintro ⟨ps, p, hp, hne, -⟩
    rw [hsplit] at hp
    exact absurd (List.append_inj' hp rfl).2 (by simpa using hne.symm)
  · have hsplit := splitOn_concat hc h
    rw [size_of_splitOn h, size_of_splitOn hsplit, List.length_append, List.length_singleton]
    constructor
    · split_ifs with hpiece hmore hmore
      · omega
      · -- only a dot is no name with its last character, and before it there was nothing
        obtain ⟨hne, -⟩ := hpiece
        have hlast : piece ++ [c] ≠ [] ++ ['.'] := fun he => hne (List.append_inj' he rfl).1
        exact absurd ⟨by simp, .inr hlast⟩ hmore
      · omega
      · exact Nat.le_refl _
    · rintro ⟨ps, p, hp, hname⟩
      rw [hsplit] at hp
      obtain ⟨rfl, hpiece⟩ := List.append_inj' hp rfl
      obtain rfl := List.singleton_inj.mp hpiece
      rw [if_pos hname]
      split_ifs <;> omega

theorem size_le (h : front <+: s) : size front ≤ size s := by
  obtain ⟨back, rfl⟩ := h
  induction back using List.reverseRecOn with
  | nil => rw [List.append_nil]
  | append_singleton back c ih =>
    rw [← List.append_assoc]
    exact ih.trans (size_concat _ c).1

theorem size_lt (h : front <+: s) (hne : front ≠ s) (hs : EndsInName s) : size front < size s := by
  obtain ⟨back, rfl⟩ := h
  rcases List.eq_nil_or_concat back with rfl | ⟨back, c, rfl⟩
  · exact absurd (List.append_nil front).symm hne
  · rw [List.concat_eq_append, ← List.append_assoc] at hs ⊢
    exact Nat.lt_of_le_of_lt (size_le (List.prefix_append front back)) ((size_concat _ c).2 hs)

theorem length_le_of_names_eq (hs : EndsInName s) (h : s <+: t) (hf : front <+: t)
    (hnames : names front = names s) : s.length ≤ front.length := by
  by_contra hlt
  have hfs : front <+: s := List.prefix_of_prefix_length_le hf h (Nat.le_of_not_le hlt)
  have hsize := size_lt hfs (by rintro rfl; exact hlt (Nat.le_refl _)) hs
  rw [size, size, hnames] at hsize
  exact Nat.lt_irrefl _ hsize

theorem isAbsolute_iff_of_front (h : front <+: s) (hne : front ≠ []) :
    IsAbsolute front ↔ IsAbsolute s := by
  obtain ⟨back, rfl⟩ := h
  rw [IsAbsolute, IsAbsolute, List.head?_append_of_ne_nil _ hne]

theorem names_eq_of_dropIdle (h : s.splitOn '/' = first :: rest) :
    names s = namesOf (first :: dropIdle rest) := by
  rw [namesOf_dropIdle, names, h]

theorem isAbove_one {name : Text} (hfront : up.toList <+: path.toList)
    (habsolute : IsAbsolute up.toList ↔ IsAbsolute path.toList)
    (hnames : names path.toList = names up.toList ++ [name])
    (hshort : ∀ front, front <+: path.toList → (IsAbsolute front ↔ IsAbsolute path.toList) →
      names front = names up.toList → up.toList.length ≤ front.length) : IsAbove 1 path up := by
  have hrest : (names path.toList).rdrop 1 = names up.toList := by
    rw [hnames, List.rdrop_concat_succ, List.rdrop_zero]
  refine ⟨by simp [hnames], ⟨hfront, habsolute, hrest.symm⟩, fun front hf => ?_⟩
  exact hshort front hf.isPrefix hf.absolute (hf.names.trans hrest)

theorem not_isAbsolute_of_splitOn (h : s.splitOn '/' = first :: rest) (hf : first ≠ []) :
    ¬ IsAbsolute s := by
  have hfront := intercalate_isPrefix '/' (List.prefix_append [first] rest)
  rw [List.intercalate_singleton, List.singleton_append, ← h, List.intercalate_splitOn] at hfront
  rw [← isAbsolute_iff_of_front hfront hf]
  intro habsolute
  have hfree : '/' ∉ first := notMem_of_mem_splitOn (h ▸ List.mem_cons_self)
  exact hfree (List.mem_of_head? habsolute)

theorem slash_isPrefix (h : s.splitOn '/' = [] :: rest) (hrest : rest ≠ []) : ['/'] <+: s := by
  have hs : ['/'].intercalate (s.splitOn '/') = s := List.intercalate_splitOn '/'
  rw [h, List.intercalate_cons_of_ne_nil hrest] at hs
  exact ⟨_, hs⟩

theorem isAbsolute_of_splitOn (h : s.splitOn '/' = [] :: rest) (hrest : rest ≠ []) :
    IsAbsolute s :=
  (isAbsolute_iff_of_front (slash_isPrefix h hrest) (List.cons_ne_nil _ _)).mp rfl

theorem parent?_of_splitOn (h : path.toList.splitOn '/' = first :: rest) : parent? path =
    if dropIdle rest = [] then if first = [] then none else some ""
    else
      let text := ['/'].intercalate (first :: dropIdle (dropIdle rest).dropLast)
      some (if text = [] then "/" else String.ofList text) := by
  simp only [parent?, h, List.isEmpty_iff, String.isEmpty_iff, String.ofList_eq_empty_iff]

theorem names_eq_nil_of_parent? (h : parent? path = none) : names path.toList = [] := by
  obtain ⟨first, rest, hsplit⟩ := List.exists_cons_of_ne_nil (List.splitOn_ne_nil '/' path.toList)
  rw [parent?_of_splitOn hsplit] at h
  rw [names_eq_of_dropIdle hsplit]
  split_ifs at h with hrest hfirst
  rw [hrest, hfirst]
  rfl

theorem endsInName_of_splitOn (h : s.splitOn '/' = first :: dropIdle rest) (hs : s ≠ []) :
    EndsInName s := by
  rcases List.eq_nil_or_concat (dropIdle rest) with hnil | ⟨init, name, hname⟩
  · rw [hnil] at h
    have hfirst : ['/'].intercalate (s.splitOn '/') = s := List.intercalate_splitOn '/'
    rw [h, List.intercalate_singleton] at hfirst
    exact ⟨[], first, h, hfirst ▸ hs, .inl rfl⟩
  · rw [List.concat_eq_append] at hname
    have hidle : isIdle name = false := isIdle_of_getLast?_dropIdle (by rw [hname]; simp)
    obtain ⟨hne, hdot⟩ := isIdle_eq_false_iff.mp hidle
    exact ⟨first :: init, name, by rw [h, hname, List.cons_append], hne, .inr hdot⟩

theorem isAbove_one_empty (h : path.toList.splitOn '/' = first :: rest) (hrest : dropIdle rest = [])
    (hfirst : first ≠ []) : IsAbove 1 path "" := by
  have hname : namesOf [first] = [first] := by
    rw [namesOf_cons, if_neg hfirst]
    rfl
  apply isAbove_one (show "".toList <+: path.toList from List.nil_prefix)
  · exact iff_of_false (by simp [IsAbsolute]) (not_isAbsolute_of_splitOn h hfirst)
  · rw [names_eq_of_dropIdle h, hrest, hname]
    rfl
  · exact fun front _ _ _ => Nat.zero_le _

theorem isAbove_one_root {name : Text} (h : path.toList.splitOn '/' = [] :: rest)
    (hrest : rest ≠ []) (hnames : names path.toList = [name]) : IsAbove 1 path "/" := by
  have habsolute := isAbsolute_of_splitOn h hrest
  apply isAbove_one (show "/".toList <+: path.toList from slash_isPrefix h hrest)
  · exact iff_of_true rfl habsolute
  · rw [hnames]
    rfl
  · intro front _ hf _
    have hopen : front.head? = some '/' := hf.mpr habsolute
    exact List.length_pos_of_mem (List.mem_of_head? hopen)

theorem isAbove_one_front {name front : Text} (hfront : front <+: path.toList) (hne : front ≠ [])
    (hends : EndsInName front) (hnames : names path.toList = names front ++ [name]) :
    IsAbove 1 path (String.ofList front) := by
  apply isAbove_one
  · rwa [String.toList_ofList]
  · rw [String.toList_ofList]
    exact isAbsolute_iff_of_front hfront hne
  · rw [hnames, String.toList_ofList]
  · rw [String.toList_ofList]
    exact fun other hother _ hsame => length_le_of_names_eq hends hfront hother hsame

theorem isAbove_one_of_named {init : List Text} {name : Text}
    (hsplit : path.toList.splitOn '/' = first :: rest) (hrest : dropIdle rest = init ++ [name])
    {text : Text} (htext : ['/'].intercalate (first :: dropIdle init) = text) :
    IsAbove 1 path (if text = [] then "/" else String.ofList text) := by
  have hname : isIdle name = false := isIdle_of_getLast?_dropIdle (by rw [hrest]; simp)
  have hlast : names path.toList = namesOf (first :: dropIdle init) ++ [name] := by
    obtain ⟨hne, hdot⟩ := isIdle_eq_false_iff.mp hname
    rw [names_eq_of_dropIdle hsplit, hrest, namesOf_dropIdle, ← List.cons_append,
      namesOf_concat, if_pos ⟨hne, .inr hdot⟩]
  have hleft : first :: dropIdle init <+: path.toList.splitOn '/' := by
    rw [hsplit, List.prefix_cons_inj]
    exact ((dropIdle_isPrefix init).trans ⟨[name], hrest.symm⟩).trans (dropIdle_isPrefix rest)
  have hpieces : text.splitOn '/' = first :: dropIdle init := by
    rw [← htext]
    exact List.splitOn_intercalate '/'
      (fun l hl => notMem_of_mem_splitOn (hleft.subset hl)) (List.cons_ne_nil _ _)
  have hfront : text <+: path.toList := by
    have hp := intercalate_isPrefix '/' hleft
    rwa [htext, List.intercalate_splitOn] at hp
  split_ifs with hempty
  · rw [hempty, List.splitOn_nil] at hpieces
    obtain ⟨rfl, hnil⟩ := List.cons.inj hpieces
    rw [← hnil] at hlast
    have hmore : rest ≠ [] := by
      rintro rfl
      simp [dropIdle] at hrest
    exact isAbove_one_root hsplit hmore hlast
  · exact isAbove_one_front hfront hempty (endsInName_of_splitOn hpieces hempty)
      (by rw [hlast, names, hpieces])

theorem isAbove_one_of_parent? (h : parent? path = some up) : IsAbove 1 path up := by
  obtain ⟨first, rest, hsplit⟩ := List.exists_cons_of_ne_nil (List.splitOn_ne_nil '/' path.toList)
  rw [parent?_of_splitOn hsplit] at h
  split_ifs at h with hrest hfirst
  · obtain rfl := Option.some.inj h
    exact isAbove_one_empty hsplit hrest hfirst
  · obtain ⟨init, name, hinit⟩ : ∃ init name, dropIdle rest = init ++ [name] :=
      ⟨_, _, (List.dropLast_concat_getLast hrest).symm⟩
    rw [hinit, List.dropLast_concat] at h
    obtain rfl := Option.some.inj h
    exact isAbove_one_of_named hsplit hinit rfl

theorem IsAbove.eq {dir' : String} (h : IsAbove n path dir) (h' : IsAbove n path dir') :
    dir = dir' := by
  unfold IsAbove at h h'
  split_ifs at h h'
  · exact h.trans h'.symm
  · obtain ⟨-, hdir, hleast⟩ := h
    obtain ⟨-, hdir', hleast'⟩ := h'
    have hfront := List.prefix_of_prefix_length_le hdir.isPrefix hdir'.isPrefix (hleast _ hdir')
    exact String.toList_inj.mp (hfront.eq_of_length_le (hleast' _ hdir))

theorem IsAbove.le (h : IsAbove n path dir) : n ≤ (names path.toList).length := by
  unfold IsAbove at h
  split_ifs at h with hn
  · exact hn ▸ Nat.zero_le _
  · exact h.1

theorem IsAbove.succ (hup : IsAbove 1 path up) (h : IsAbove n up dir) :
    IsAbove (n + 1) path dir := by
  obtain ⟨hpos, hup, hleast⟩ := hup
  unfold IsAbove at h
  split_ifs at h with hn
  · subst hn h
    exact ⟨hpos, hup, hleast⟩
  · obtain ⟨hle, hdir, hshort⟩ := h
    have hrest : (names up.toList).rdrop n = (names path.toList).rdrop (n + 1) := by
      rw [hup.names, List.rdrop_add, Nat.add_comm]
    have hlength : (names up.toList).length = (names path.toList).length - 1 := by
      rw [hup.names, List.rdrop, List.length_take]
      omega
    refine ⟨by omega, ⟨hdir.isPrefix.trans hup.isPrefix, hdir.absolute.trans hup.absolute,
      hdir.names.trans hrest⟩, fun front hf => ?_⟩
    rcases Nat.le_total front.length up.toList.length with hl | hl
    · have hfront := List.prefix_of_prefix_length_le hf.isPrefix hup.isPrefix hl
      exact hshort front ⟨hfront, hf.absolute.trans hup.absolute.symm, hf.names.trans hrest.symm⟩
    · exact hdir.isPrefix.length_le.trans hl

theorem ancestors_of_parent?_none (h : parent? path = none) : ancestors path = [path] := by
  rw [ancestors]
  split
  · rfl
  · rename_i up hup
    rw [h] at hup
    cases hup

theorem ancestors_of_parent?_some (h : parent? path = some up) :
    ancestors path = path :: ancestors up := by
  rw [ancestors]
  split
  · rename_i hnone
    rw [h] at hnone
    cases hnone
  · rename_i other hother
    obtain rfl := Option.some.inj (h.symm.trans hother)
    rfl

theorem length_ancestors (path : String) :
    (ancestors path).length = (names path.toList).length + 1 := by
  induction path using ancestors.induct with
  | case1 path ih =>
    cases h : parent? path with
    | none =>
      rw [ancestors_of_parent?_none h, names_eq_nil_of_parent? h, List.length_singleton]
      rfl
    | some up =>
      obtain ⟨hpos, hup, -⟩ := isAbove_one_of_parent? h
      rw [ancestors_of_parent?_some h, List.length_cons, ih up h, hup.names, List.rdrop,
        List.length_take]
      omega

theorem isAbove_of_getElem? (h : (ancestors path)[n]? = some dir) : IsAbove n path dir := by
  induction n generalizing path with
  | zero =>
    rw [ancestors] at h
    exact (Option.some.inj h).symm
  | succ n ih =>
    cases hup : parent? path with
    | none =>
      rw [ancestors_of_parent?_none hup] at h
      cases h
    | some up =>
      rw [ancestors_of_parent?_some hup, List.getElem?_cons_succ] at h
      exact (isAbove_one_of_parent? hup).succ (ih h)

theorem getElem?_ancestors_iff : (ancestors path)[n]? = some dir ↔ IsAbove n path dir := by
  refine ⟨isAbove_of_getElem?, fun h => ?_⟩
  have hn : n < (ancestors path).length := by
    rw [length_ancestors]
    exact Nat.lt_succ_of_le h.le
  have hsome := List.getElem?_eq_getElem hn
  rw [hsome, (isAbove_of_getElem? hsome).eq h]

theorem isInput_iff :
    isInput path = true ↔ ¬ IsAbsolute path.toList ∧ names path.toList = [['-']] := by
  obtain ⟨first, rest, hsplit⟩ := List.exists_cons_of_ne_nil (List.splitOn_ne_nil '/' path.toList)
  have hinput : isInput path = true ↔ first = ['-'] ∧ ∀ piece ∈ rest, isIdle piece = true := by
    simp [isInput, hsplit]
  rw [hinput, names, hsplit, namesOf_cons]
  by_cases hfirst : first = []
  · subst hfirst
    refine iff_of_false (by simp) ?_
    rintro ⟨hrelative, hnames⟩
    have hrest : rest ≠ [] := by
      rintro rfl
      cases hnames
    exact hrelative (isAbsolute_of_splitOn hsplit hrest)
  · have hrelative := not_isAbsolute_of_splitOn hsplit hfirst
    simp [hfirst, hrelative]

end DiagramReview.Path
