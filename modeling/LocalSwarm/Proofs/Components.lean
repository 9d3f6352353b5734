import Mathlib.Data.List.Forall2
import LocalSwarm.Files.Shared
import LocalSwarm.Proofs.Paths

/-! What paths lead through. A path that goes on from a folder leads through all that the folder's
own path leads through; a plain text then adds just one name, even if it ends in slashes and dots. So
the path of a shared file stays inside the folder that is shared. Main statement:
`shared_paths_stay_inside`. -/
namespace LocalSwarm.Files
namespace Path

/-! ### Pieces -/

theorem pieces_ne_nil (path : String) : pieces path ≠ [] := by
  rw [pieces, splitSlash_eq_splitOn]
  exact mt List.map_eq_nil_iff.1 (List.splitOn_ne_nil _ _)

theorem not_mem_of_mem_splitSlash {text piece : List Char} (member : piece ∈ splitSlash text) :
    '/' ∉ piece := by
  induction text generalizing piece with
  | nil =>
    rw [List.mem_singleton.1 member]
    exact List.not_mem_nil
  | cons c cs ih =>
    by_cases slash : c = '/'
    · subst slash
      rcases List.mem_cons.1 member with rfl | behind
      · exact List.not_mem_nil
      · exact ih behind
    · cases pieces : splitSlash cs with
      | nil =>
        rw [splitSlash_eq_splitOn] at pieces
        exact absurd pieces (List.splitOn_ne_nil _ _)
      | cons first rest =>
        rw [splitSlash_of_ne slash pieces] at member
        rw [pieces] at ih
        rcases List.mem_cons.1 member with rfl | behind
        · exact List.not_mem_cons_of_ne_of_not_mem (Ne.symm slash) (ih List.mem_cons_self)
        · exact ih (List.mem_cons_of_mem first behind)

theorem not_mem_of_mem_pieces {path piece : String} (member : piece ∈ pieces path) :
    '/' ∉ piece.toList := by
  obtain ⟨text, inside, rfl⟩ := List.mem_map.1 member
  rw [String.toList_ofList]
  exact not_mem_of_mem_splitSlash inside

/-- A text without a slash comes to the last piece of what it is put behind. -/
theorem pieces_append (text : String) {ending : String} (none : '/' ∉ ending.toList) :
    ∃ front last, pieces text = front ++ [last] ∧
      pieces (text ++ ending) = front ++ [last ++ ending] := by
  by_cases slash : '/' ∈ text.toList
  · obtain ⟨front, last, split, whole⟩ := exists_last_slash slash
    have split : text = String.ofList front ++ "/" ++ String.ofList last := by
      rw [← String.toList_inj, split]
      simp
    have whole : '/' ∉ (String.ofList last).toList := by rwa [String.toList_ofList]
    have whole' : '/' ∉ (String.ofList last ++ ending).toList := by
      rw [String.toList_append, List.mem_append]
      exact not_or.2 ⟨whole, none⟩
    refine ⟨pieces (String.ofList front), String.ofList last, ?_, ?_⟩
    · rw [split, pieces_slash, pieces_of_not_mem whole]
    · rw [split, String.append_assoc, pieces_slash, pieces_of_not_mem whole']
  · have whole : '/' ∉ (text ++ ending).toList := by
      rw [String.toList_append, List.mem_append]
      exact not_or.2 ⟨slash, none⟩
    exact ⟨[], text, pieces_of_not_mem slash, pieces_of_not_mem whole⟩

/-! ### Names -/

/-- The name of something directly inside a folder: it leads neither further nor back. -/
structure IsName (text : String) : Prop where
  some : text ≠ ""
  whole : '/' ∉ text.toList
  notHere : text ≠ "."
  notUp : text ≠ ".."

theorem component_eq_name {piece text : String} (named : component? piece = some (.name text)) :
    piece = text ∧ text ≠ "" ∧ text ≠ "." ∧ text ≠ ".." := by
  unfold component? at named
  split at named
  · cases named
  · cases named
  · cases named
  · next empty dot up =>
    cases named
    exact ⟨rfl, empty, dot, up⟩

/-- Whatever a path leads through that is neither its start nor the way back is a name. -/
theorem isName_of_mem {path text : String} (member : .name text ∈ components path) :
    IsName text := by
  have inner : .name text ∈ (pieces path).filterMap component? := by
    unfold components at member
    split at member
    · exact (List.mem_cons.1 member).resolve_left nofun
    · split at member
      · next begins =>
        rw [begins]
        exact (List.mem_cons.1 member).resolve_left nofun
      · exact member
  obtain ⟨piece, inside, named⟩ := List.mem_filterMap.1 inner
  obtain ⟨rfl, some, dot, up⟩ := component_eq_name named
  exact ⟨some, not_mem_of_mem_pieces inside, dot, up⟩

theorem IsName.component {text : String} (name : IsName text) :
    component? text = Option.some (.name text) :=
  component_of_ne name.some name.notHere name.notUp

theorem IsName.components {text : String} (name : IsName text) : components text = [.name text] :=
  components_of_not_mem name.whole name.some name.notHere name.notUp

theorem components_of_relative {path : String} (relative : isAbsolute path = false)
    (noDot : ∀ rest, pieces path ≠ "." :: rest) :
    components path = (pieces path).filterMap component? := by
  rw [components, relative, if_neg Bool.false_ne_true]
  split
  · next same => exact absurd same (noDot _)
  · rfl

theorem isPlain_iff {text : String} : isPlain text = true ↔ ∃ name, components text = [.name name] := by
  unfold isPlain
  constructor
  · intro plain
    split at plain
    · next name same => exact ⟨name, same⟩
    · cases plain
  · rintro ⟨name, same⟩
    rw [same]

/-- A plain text with a slash in it begins with its name, and what comes behind that counts for
nothing. -/
theorem exists_name_slash {text : String} (plain : isPlain text = true) (slash : '/' ∈ text.toList) :
    ∃ name rest, text = name ++ "/" ++ rest ∧ components text = [.name name] ∧
      (pieces rest).filterMap component? = [] := by
  obtain ⟨relative, noDot, name, counted⟩ := components_of_isPlain plain
  obtain ⟨front, rest, split, whole⟩ := List.eq_append_cons_of_mem slash
  have split : text = String.ofList front ++ "/" ++ String.ofList rest := by
    rw [← String.toList_inj, split]
    simp
  have whole : '/' ∉ (String.ofList front).toList := by rwa [String.toList_ofList]
  have pieces_eq : pieces text = String.ofList front :: pieces (String.ofList rest) := by
    rw [split, pieces_slash, pieces_of_not_mem whole]
    rfl
  have some : String.ofList front ≠ "" := by
    intro empty
    rw [split, empty] at relative
    simp [isAbsolute] at relative
  have dot : String.ofList front ≠ "." := fun dot => noDot _ (dot ▸ pieces_eq)
  obtain ⟨component, first⟩ := Option.ne_none_iff_exists'.1 (component_ne_none some dot)
  have counted' := counted
  rw [pieces_eq, List.filterMap_cons_some first] at counted'
  obtain ⟨rfl, none⟩ := List.cons_eq_cons.1 counted'
  refine ⟨_, _, split, ?_, none⟩
  rw [components_of_relative relative noDot, counted, (component_eq_name first).1]

/-- A part of a path is a name unless it is a dot or leads back. -/
theorem isName_part_iff {path part : String} (member : part ∈ parts path) :
    IsName part ↔ ¬ (part = "." ∨ part = "..") := by
  obtain ⟨inside, some⟩ := List.mem_filter.1 member
  rw [not_or]
  exact ⟨fun name => ⟨name.notHere, name.notUp⟩,
    fun ⟨dot, up⟩ => ⟨by simpa using some, not_mem_of_mem_pieces inside, dot, up⟩⟩

theorem isPlain_part_iff {path part : String} (member : part ∈ parts path) :
    isPlain part = true ↔ IsName part := by
  rw [isPlain_iff]
  constructor
  · rintro ⟨name, named⟩
    rw [isName_part_iff member]
    rintro (rfl | rfl) <;> cases named
  · exact fun name => ⟨part, name.components⟩

/-! ### Going on from a folder -/

theorem join_cases (folder : String) : folder = "" ∨
    ∃ front, (folder = front ∧ front ≠ "" ∨ folder = front ++ "/") ∧
      ∀ path, isAbsolute path = false → join folder path = front ++ "/" ++ path := by
  by_cases empty : folder = ""
  · exact .inl empty
  refine .inr ?_
  by_cases slash : folder.toList.getLast? = some '/'
  · obtain ⟨front, split⟩ := List.getLast?_eq_some_iff.1 slash
    have whole : folder = String.ofList front ++ "/" := by
      rw [← String.toList_inj, String.toList_append, String.toList_ofList]
      exact split
    refine ⟨String.ofList front, .inr whole, fun path relative => ?_⟩
    rw [← whole, join, if_neg (by simpa [relative] using empty), if_pos slash]
  · refine ⟨folder, .inl ⟨rfl, empty⟩, fun path relative => ?_⟩
    rw [join, if_neg (by simpa [relative] using empty), if_neg slash]

theorem isAbsolute_append {front : String} (some : front ≠ "") (path : String) :
    isAbsolute (front ++ path) = isAbsolute front := by
  cases text : front.toList with
  | nil => exact absurd (String.toList_eq_nil_iff.1 text) some
  | cons c cs => rw [isAbsolute, isAbsolute, String.toList_append, text, List.cons_append,
      List.head?_cons, List.head?_cons]

/-- What comes after some first pieces counts without regard to them. -/
theorem exists_components (absolute : Bool) {base : List String} (some : base ≠ []) :
    ∃ front, ∀ path rest, isAbsolute path = absolute → pieces path = base ++ rest →
      components path = front ++ rest.filterMap component? := by
  cases absolute with
  | true =>
    refine ⟨.root :: base.filterMap component?, fun path rest absolute split => ?_⟩
    rw [components, if_pos absolute, split, List.filterMap_append]
    rfl
  | false =>
    obtain ⟨first, others, rfl⟩ := List.exists_cons_of_ne_nil some
    -- Only the first piece decides whether the path begins with a dot, and that is one of these.
    by_cases dot : first = "."
    · subst dot
      refine ⟨.here :: others.filterMap component?, fun path rest relative split => ?_⟩
      rw [components, relative, if_neg Bool.false_ne_true, split]
      exact congrArg (Component.here :: ·) List.filterMap_append
    · refine ⟨(first :: others).filterMap component?, fun path rest relative split => ?_⟩
      rw [components, relative, if_neg Bool.false_ne_true, split, ← List.filterMap_append]
      split
      · next same => exact absurd (List.cons_eq_cons.1 same).1 dot
      · rfl

theorem components_join (folder : String) {path : String} (relative : isAbsolute path = false)
    (noDot : ∀ rest, pieces path ≠ "." :: rest) :
    components (join folder path) = components folder ++ components path := by
  -- Apart from the empty one, a folder with a slash at its end leads through what it does without.
  rcases join_cases folder with rfl | ⟨front, folder_eq, joined⟩
  · rw [join, if_pos (by simp)]
    rfl
  have slash : front ++ "/" ≠ "" := by
    rw [ne_eq, ← String.toList_eq_nil_iff, String.toList_append]
    exact List.append_ne_nil_of_right_ne_nil _ (List.cons_ne_nil '/' [])
  obtain ⟨start, begins⟩ :=
    exists_components (isAbsolute (front ++ "/")) (pieces_ne_nil front)
  have start_eq : components folder = start := by
    rw [← List.append_nil start]
    rcases folder_eq with ⟨rfl, some⟩ | rfl
    · exact begins folder [] (isAbsolute_append some "/").symm (List.append_nil _).symm
    · refine begins _ [""] rfl ?_
      rw [← String.append_empty (s := front ++ "/"), pieces_slash]
      rfl
  rw [joined path relative, start_eq, components_of_relative relative noDot]
  exact begins _ _ (isAbsolute_append slash path) (pieces_slash front path)

/-- A path that goes on from a folder through these names, each inside the one before. -/
structure Inside (folder : String) (names : List String) (path : String) : Prop where
  components : components path = components folder ++ names.map .name
  names : ∀ text ∈ names, IsName text

theorem inside_foldl_join (folder : String) {paths names : List String}
    (each : List.Forall₂ (fun path name => Path.components path = [.name name]) paths names) :
    Inside folder names (paths.foldl join folder) := by
  induction each generalizing folder with
  | nil => exact ⟨(List.append_nil _).symm, nofun⟩
  | @cons path name paths names here _ ih =>
    obtain ⟨relative, noDot, -⟩ := components_of_isPlain (isPlain_iff.2 ⟨name, here⟩)
    obtain ⟨rest, later⟩ := ih (join folder path)
    rw [components_join folder relative noDot, here, List.append_assoc] at rest
    exact ⟨rest, List.forall_mem_cons.2 ⟨isName_of_mem (here ▸ List.mem_singleton_self _), later⟩⟩

end Path

namespace SharedFolders

theorem resolve_eq (root : String) (file : FileQuery) : resolve root file =
    if (∀ part ∈ Path.parts file.folder, Path.isPlain part = true) ∧ Path.isPlain file.name = true
    then some ((Path.parts file.folder ++ [file.name]).foldl Path.join root) else none := by
  simp only [resolve, List.all_append, List.all_cons, List.all_nil, Bool.and_true, Bool.and_eq_true,
    List.all_eq_true]

theorem inside_of_resolve {root path : String} {file : FileQuery}
    (found : resolve root file = some path) : ∃ name, Path.components file.name = [.name name] ∧
      Path.Inside root (Path.parts file.folder ++ [name]) path := by
  rw [resolve_eq] at found
  split at found
  · next plain =>
    obtain ⟨parts, last⟩ := plain
    obtain ⟨name, named⟩ := Path.isPlain_iff.1 last
    have each : ∀ part ∈ Path.parts file.folder, Path.components part = [.name part] :=
      fun part member => ((Path.isPlain_part_iff member).1 (parts part member)).components
    obtain rfl := Option.some.inj found
    refine ⟨name, named, Path.inside_foldl_join root ?_⟩
    exact List.rel_append (List.forall₂_same.2 each) (.cons named .nil)
  · cases found

theorem resolve_eq_none_iff {root : String} {file : FileQuery} : resolve root file = none ↔
    (∃ part ∈ Path.parts file.folder, part = "." ∨ part = "..") ∨
      ∀ name, Path.components file.name ≠ [.name name] := by
  have parts : (∀ part ∈ Path.parts file.folder, Path.isPlain part = true) ↔
      ¬ ∃ part ∈ Path.parts file.folder, part = "." ∨ part = ".." := by
    rw [not_exists]
    refine forall_congr' fun part => ?_
    rw [not_and]
    exact imp_congr_right fun member =>
      (Path.isPlain_part_iff member).trans (Path.isName_part_iff member)
  have name : Path.isPlain file.name = true ↔
      ¬ ∀ name, Path.components file.name ≠ [.name name] := by
    rw [Path.isPlain_iff]
    exact not_forall_not.symm
  rw [resolve_eq, ite_eq_right_iff, parts, name, ← not_or]
  exact ⟨fun refused => not_not.1 fun given => Option.some_ne_none _ (refused given),
    fun given plain => absurd given plain⟩

/-- Whatever others ask for, the path of a file leads from the shared folder through the parts of
its folder, and then through one name. There is none just if one of these parts is a dot or leads
back, or if the name of the file is no plain one. -/
theorem shared_paths_stay_inside (root : String) (file : FileQuery) :
    (∀ path, resolve root file = some path → ∃ name, Path.components file.name = [.name name] ∧
      Path.Inside root (Path.parts file.folder ++ [name]) path) ∧
    (resolve root file = none ↔ (∃ part ∈ Path.parts file.folder, part = "." ∨ part = "..") ∨
      ∀ name, Path.components file.name ≠ [.name name]) :=
  ⟨fun _ => inside_of_resolve, resolve_eq_none_iff⟩

/-- Slashes and dots at the end of a name stay, and lead nowhere else. -/
example : resolve "/srv/maps/." ⟨"maps", "/north//2023/", "coast/./"⟩ =
    some "/srv/maps/./north/2023/coast/./" := by decide +kernel

end SharedFolders
end LocalSwarm.Files
