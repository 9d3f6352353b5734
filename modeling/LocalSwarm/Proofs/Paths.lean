import LocalSwarm.Files.Path

/-! Paths as texts. A path that goes on from a folder has the parts of both, and a plain name at its
end is one part, unless it ends in a slash or a dot of its own. -/
namespace LocalSwarm.Files.Path

theorem splitSlash_slash (cs : List Char) : splitSlash ('/' :: cs) = [] :: splitSlash cs := rfl

theorem splitSlash_of_ne {c : Char} (differs : c ≠ '/') {cs first : List Char}
    {rest : List (List Char)} (split : splitSlash cs = first :: rest) :
    splitSlash (c :: cs) = (c :: first) :: rest := by
  unfold splitSlash at split ⊢
  rw [List.foldr_cons, if_neg differs, split]

theorem splitSlash_eq_splitOn (text : List Char) : splitSlash text = text.splitOn '/' := by
  induction text with
  | nil => rfl
  | cons c cs ih =>
    rw [List.splitOn_cons_eq_if_modifyHead, ← ih]
    by_cases slash : c = '/'
    · rw [slash, splitSlash_slash, if_pos BEq.rfl]
    · rw [if_neg (by simpa using slash)]
      cases pieces : splitSlash cs with
      | nil => exact absurd (ih.symm.trans pieces) (List.splitOn_ne_nil _ _)
      | cons first rest =>
        rw [splitSlash_of_ne slash pieces]
        rfl

theorem splitSlash_append (xs ys : List Char) :
    splitSlash (xs ++ '/' :: ys) = splitSlash xs ++ splitSlash ys := by
  simp only [splitSlash_eq_splitOn]
  exact List.splitOn_append_cons_of_beq xs ys BEq.rfl

theorem splitSlash_of_not_mem {text : List Char} (none : '/' ∉ text) : splitSlash text = [text] :=
  (splitSlash_eq_splitOn text).trans (List.splitOn_eq_singleton none)

/-- The first piece of a text that does not begin with a slash begins as the text does. -/
theorem splitSlash_cons {c : Char} (differs : c ≠ '/') (cs : List Char) :
    ∃ first rest, splitSlash (c :: cs) = (c :: first) :: rest := by
  cases pieces : splitSlash cs with
  | nil =>
    rw [splitSlash_eq_splitOn] at pieces
    exact absurd pieces (List.splitOn_ne_nil _ _)
  | cons first rest => exact ⟨first, rest, splitSlash_of_ne differs pieces⟩

theorem pieces_slash (folder path : String) :
    pieces (folder ++ "/" ++ path) = pieces folder ++ pieces path := by
  have text : (folder ++ "/" ++ path).toList = folder.toList ++ '/' :: path.toList := by
    rw [String.toList_append, String.toList_append, List.append_assoc]
    rfl
  rw [pieces, text, splitSlash_append, List.map_append]
  rfl

theorem parts_slash (folder path : String) :
    parts (folder ++ "/" ++ path) = parts folder ++ parts path := by
  rw [parts, pieces_slash, List.filter_append]
  rfl

theorem parts_join (folder : String) {path : String} (relative : isAbsolute path = false) :
    parts (join folder path) = parts folder ++ parts path := by
  by_cases empty : folder = ""
  · rw [join, empty, if_pos (by simp)]
    rfl
  · rw [join, if_neg (by simpa [relative] using empty)]
    split
    · next slash =>
      obtain ⟨front, split⟩ := List.getLast?_eq_some_iff.1 slash
      have whole : folder = String.ofList front ++ "/" := by
        rw [← String.toList_inj, String.toList_append, String.toList_ofList]
        exact split
      have bare : parts folder = parts (String.ofList front) := by
        have ends := parts_slash (String.ofList front) ""
        rw [String.append_empty, ← whole] at ends
        rw [ends]
        exact List.append_nil _
      rw [bare, ← parts_slash, ← whole]
    · exact parts_slash folder path

theorem pieces_of_not_mem {text : String} (none : '/' ∉ text.toList) : pieces text = [text] := by
  rw [pieces, splitSlash_of_not_mem none, List.map_singleton, String.ofList_toList]

theorem parts_of_not_mem {name : String} (none : '/' ∉ name.toList) (some : name ≠ "") :
    parts name = [name] := by
  rw [parts, pieces_of_not_mem none]
  simp [some]

theorem isAbsolute_of_not_mem {path : String} (none : '/' ∉ path.toList) :
    isAbsolute path = false :=
  decide_eq_false fun slash => none (List.mem_of_mem_head? slash)

/-- All paths that go on from a folder are the same up to there. -/
theorem exists_base (folder : String) :
    ∃ base, ∀ path, isAbsolute path = false → join folder path = base ++ path := by
  by_cases empty : folder = ""
  · refine ⟨"", fun path _ => ?_⟩
    rw [join, if_pos (by simp [empty]), String.empty_append]
  · by_cases slash : folder.toList.getLast? = some '/'
    · refine ⟨folder, fun path relative => ?_⟩
      rw [join, if_neg (by simpa [relative] using empty), if_pos slash]
    · refine ⟨folder ++ "/", fun path relative => ?_⟩
      rw [join, if_neg (by simpa [relative] using empty), if_neg slash]

theorem component_ne_none {text : String} (empty : text ≠ "") (dot : text ≠ ".") :
    component? text ≠ none := by
  unfold component?
  split <;> first | contradiction | exact Option.some_ne_none _

theorem exists_last_slash {text : List Char} (slash : '/' ∈ text) :
    ∃ front last, text = front ++ '/' :: last ∧ '/' ∉ last := by
  obtain ⟨back, rest, split, none⟩ := List.eq_append_cons_of_mem (List.mem_reverse.2 slash)
  refine ⟨rest.reverse, back.reverse, ?_, by rwa [List.mem_reverse]⟩
  rw [← List.reverse_reverse text, split, List.reverse_append, List.reverse_cons,
    List.append_assoc]
  rfl

theorem component_of_ne {text : String} (empty : text ≠ "") (dot : text ≠ ".") (up : text ≠ "..") :
    component? text = some (.name text) := by
  unfold component?
  split <;> first | contradiction | rfl

theorem components_of_not_mem {name : String} (none : '/' ∉ name.toList) (some : name ≠ "")
    (dot : name ≠ ".") (up : name ≠ "..") : components name = [.name name] := by
  rw [components, isAbsolute_of_not_mem none, if_neg Bool.false_ne_true, pieces_of_not_mem none]
  split
  · next same => exact absurd (List.cons_eq_cons.1 same).1 dot
  · rw [List.filterMap_cons_some (component_of_ne some dot up), List.filterMap_nil]

theorem isPlain_of_not_mem {name : String} (none : '/' ∉ name.toList) (some : name ≠ "")
    (dot : name ≠ ".") (up : name ≠ "..") : isPlain name = true := by
  rw [isPlain, components_of_not_mem none some dot up]

/-- Of the pieces of a plain text one counts, and it is no dot if it is the first. -/
theorem components_of_isPlain {name : String} (plain : isPlain name = true) :
    isAbsolute name = false ∧ (∀ rest, pieces name ≠ "." :: rest) ∧
      ∃ text, (pieces name).filterMap component? = [.name text] := by
  unfold isPlain components at plain
  cases absolute : isAbsolute name with
  | true =>
    rw [absolute] at plain
    cases plain
  | false =>
    rw [absolute, if_neg Bool.false_ne_true] at plain
    split at plain
    · next text same =>
      split at same
      · cases same
      · next none => exact ⟨rfl, none, text, same⟩
    · cases plain

theorem first_counts {c : Char} (differs : c ≠ '/') {cs : List Char}
    (noDot : ∀ rest, (splitSlash (c :: cs)).map String.ofList ≠ "." :: rest) :
    ((splitSlash (c :: cs)).map String.ofList).filterMap component? ≠ [] := by
  obtain ⟨first, rest, begins⟩ := splitSlash_cons differs cs
  rw [begins, List.map_cons] at noDot ⊢
  have filled := mt String.ofList_eq_empty_iff.1 (List.cons_ne_nil c first)
  have dot : String.ofList (c :: first) ≠ "." := by
    intro dot
    rw [dot] at noDot
    exact noDot _ rfl
  obtain ⟨component, found⟩ := Option.ne_none_iff_exists'.1 (component_ne_none filled dot)
  rw [List.filterMap_cons, found]
  exact List.cons_ne_nil _ _

/-- A plain text has no slash, unless it ends in one or in a dot behind one. -/
theorem not_mem_of_isPlain {name : String} (plain : isPlain name = true)
    (noSlash : name.toList.getLast? ≠ some '/')
    (noDot : ∀ front, parts name ≠ front ++ ["."]) :
    '/' ∉ name.toList := by
  intro slash
  obtain ⟨relative, here, text, counted⟩ := components_of_isPlain plain
  obtain ⟨front, last, split, none⟩ := exists_last_slash slash
  have ends : pieces name = (splitSlash front).map String.ofList ++ [String.ofList last] := by
    rw [pieces, split, splitSlash_append, splitSlash_of_not_mem none, List.map_append]
    rfl
  -- The last piece counts, since it is neither empty nor a dot.
  have some : last ≠ [] := by
    rintro rfl
    exact noSlash (by rw [split, List.getLast?_concat])
  have filled := mt String.ofList_eq_empty_iff.1 some
  have dot : String.ofList last ≠ "." := by
    intro dot
    rw [dot] at ends
    refine noDot (((splitSlash front).map String.ofList).filter (· ≠ "")) ?_
    rw [parts, ends, List.filter_append]
    rfl
  obtain ⟨component, lastCounts⟩ := Option.ne_none_iff_exists'.1 (component_ne_none filled dot)
  -- So does the first one.
  have firstCounts : ((splitSlash front).map String.ofList).filterMap component? ≠ [] := by
    cases front with
    | nil =>
      rw [isAbsolute, split] at relative
      cases relative
    | cons c cs =>
      refine first_counts ?_ ?_
      · rintro rfl
        rw [isAbsolute, split] at relative
        cases relative
      · intro rest dot
        rw [dot] at ends
        exact here _ ends
  rw [ends, List.filterMap_append, List.filterMap_cons, lastCounts] at counted
  have only : _ ++ [component] = [] ++ [Component.name text] := counted
  exact firstCounts (List.append_inj' only rfl).1

end LocalSwarm.Files.Path
