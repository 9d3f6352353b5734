import LocalSwarm.Proofs.Components
import LocalSwarm.Proofs.Downloads.Cuts

/-! Where a download puts its files. The destination is always directly inside the folder of the
request, and so is the part file as long as there is no slash in the name of the file. A plain name
may end in slashes, though, and then the part file is put into a folder below, which may not be
there. Main statement: `downloads_stay_in_their_folder`; that a part file may need a folder of its
own is `trailing_slash_asks_for_a_folder`. -/
namespace LocalSwarm
open Files (Tree Location)
open Files.Path (IsName Inside components component? isAbsolute isPlain parts pieces)

/-- A name with a dot in front is hidden, and is a name all the same. -/
theorem Files.Path.IsName.hidden {name : String} (h : IsName name) : IsName ("." ++ name) := by
  have text : ("." ++ name).toList = '.' :: name.toList := String.toList_append
  refine ⟨?_, ?_, ?_, ?_⟩
  · rw [ne_eq, ← String.toList_eq_nil_iff, text]
    exact List.cons_ne_nil _ _
  · rw [text]
    exact List.not_mem_cons_of_ne_of_not_mem (by decide) h.whole
  · rw [ne_eq, ← String.toList_inj, text]
    exact fun same => h.some (String.toList_eq_nil_iff.1 (List.cons_eq_cons.1 same).2)
  · rw [ne_eq, ← String.toList_inj, text]
    exact fun same => h.notHere (String.toList_inj.1 (List.cons_eq_cons.1 same).2)

namespace Download

variable {d : Download} {t : Tree} {place : Location} {name : String}

/-! ### The name of the part file -/

theorem isName_ending {front : String} (whole : '/' ∉ front.toList) : IsName (front ++ d.partEnding) := by
  have long {text : String} (brief : text.utf8ByteSize ≤ 2) : front ++ d.partEnding ≠ text := by
    have dot : (".").utf8ByteSize = 1 := by decide
    have ending : (".part").utf8ByteSize = 5 := by decide
    rintro rfl
    rw [partEnding, String.utf8ByteSize_append, String.utf8ByteSize_append,
      String.utf8ByteSize_append, dot, ending] at brief
    omega
  refine ⟨long (by decide), ?_, long (by decide), long (by decide)⟩
  rw [String.toList_append, List.mem_append]
  exact not_or.2 ⟨whole, not_mem_partEnding (.inl rfl)⟩

theorem isName_partName (whole : '/' ∉ d.request.name.toList) : IsName d.partName := by
  rw [partName_eq]
  refine isName_ending ?_
  rw [String.toList_append, List.mem_append]
  exact not_or.2 ⟨by decide, whole⟩

theorem relative_partName (d : Download) : isAbsolute d.partName = false := by
  rw [partName_eq, String.append_assoc]
  exact Files.Path.isAbsolute_append (by decide) _

/-- Behind a slash in the name of the file begins a name of its own. -/
theorem exists_pieces_partName (plain : isPlain d.request.name = true)
    (slash : '/' ∈ d.request.name.toList) :
    ∃ name front last, components d.request.name = [.name name] ∧
      pieces d.partName = ("." ++ name) :: (front ++ [last]) ∧
      front.filterMap component? = [] ∧ IsName last := by
  obtain ⟨name, rest, split, named, none⟩ := Files.Path.exists_name_slash plain slash
  have hidden := (Files.Path.isName_of_mem (named ▸ List.mem_singleton_self _)).hidden
  obtain ⟨front, last, before, after⟩ :=
    Files.Path.pieces_append rest (d.not_mem_partEnding (.inl rfl))
  have longer : d.partName = "." ++ name ++ "/" ++ (rest ++ d.partEnding) := by
    rw [partName_eq, split]
    simp only [String.append_assoc]
  refine ⟨name, front, last ++ d.partEnding, named, ?_, ?_, ?_⟩
  · rw [longer, Files.Path.pieces_slash, Files.Path.pieces_of_not_mem hidden.whole, after]
    rfl
  · rw [before, List.filterMap_append, List.append_eq_nil_iff] at none
    exact none.1
  · have member : last ∈ pieces rest := by
      rw [before]
      exact List.mem_append_right _ List.mem_cons_self
    exact isName_ending (Files.Path.not_mem_of_mem_pieces member)

/-! ### Where the files are -/

theorem inside_destination (named : components d.request.name = [.name name]) :
    Inside d.request.folder [name] d.request.destination :=
  Files.Path.inside_foldl_join d.request.folder (.cons named .nil)

theorem inside_partPath (whole : '/' ∉ d.request.name.toList) :
    Inside d.request.folder [d.partName] d.partPath :=
  Files.Path.inside_foldl_join d.request.folder (.cons (isName_partName whole).components .nil)

/-- A part file that is made is made in the folder of the request. -/
theorem above_partPath (whole : '/' ∉ d.request.name.toList)
    (found : t.lookup d.request.folder = .ok (place, .folder))
    (checked : Tree.check d.partPath = .ok ()) : t.above d.partPath = .ok (place, some d.partName) := by
  obtain ⟨reach, isFolder⟩ := Tree.walk_of_folder found
  have name := isName_partName whole
  have split : parts d.partPath = parts d.request.folder ++ [d.partName] := by
    rw [partPath_eq, Files.Path.parts_join _ d.relative_partName,
      Files.Path.parts_of_not_mem name.whole name.some]
  exact Tree.above_of_parts checked split reach isFolder

theorem slashed_partPath (named : components d.request.name = [.name name])
    (slash : '/' ∈ d.request.name.toList) :
    ∃ last, Inside d.request.folder ["." ++ name, last] d.partPath := by
  obtain ⟨_, front, last, named', split, none, isName⟩ :=
    exists_pieces_partName (Files.Path.isPlain_iff.2 ⟨name, named⟩) slash
  obtain rfl : name = _ := by simpa using named.symm.trans named'
  have hidden := (Files.Path.isName_of_mem (named ▸ List.mem_singleton_self _)).hidden
  have noDot : ∀ rest, pieces d.partName ≠ "." :: rest := by
    rw [split]
    exact fun rest same => hidden.notHere (List.cons_eq_cons.1 same).1
  refine ⟨last, ?_, List.forall_mem_cons.2 ⟨hidden, List.forall_mem_singleton.2 isName⟩⟩
  rw [partPath_eq, Files.Path.components_join _ d.relative_partName noDot,
    Files.Path.components_of_relative d.relative_partName noDot, split,
    List.filterMap_cons_some hidden.component, List.filterMap_append, none,
    List.filterMap_cons_some isName.component]
  rfl

/-- Behind a slash the part file is made in a folder below, if that is there. -/
theorem folder_of_slashed (named : components d.request.name = [.name name])
    (slash : '/' ∈ d.request.name.toList)
    (found : t.lookup d.request.folder = .ok (place, .folder)) {e : Files.Entry} {t' : Tree}
    {part : Location} (made : t.create d.partPath e = .ok (t', part)) :
    t.entry? (place ++ ["." ++ name]) = some .folder := by
  obtain ⟨_, front, last, named', split, -, isName⟩ :=
    exists_pieces_partName (Files.Path.isPlain_iff.2 ⟨name, named⟩) slash
  obtain rfl : name = _ := by simpa using named.symm.trans named'
  have hidden := (Files.Path.isName_of_mem (named ▸ List.mem_singleton_self _)).hidden
  obtain ⟨reach, -⟩ := Tree.walk_of_folder found
  obtain ⟨⟨-, -, walked, folder, file, walk, -, there, -⟩, -, -⟩ := Tree.create_ok made
  have longer : parts d.partName = ("." ++ name) :: front.filter (· ≠ "") ++ [last] := by
    rw [parts, split, List.filter_cons_of_pos (by simp), List.filter_append,
      List.filter_cons_of_pos (by simpa using isName.some), List.filter_nil, List.cons_append]
  have through : walked = parts d.request.folder ++ ("." ++ name) :: front.filter (· ≠ "") := by
    rw [partPath_eq, Files.Path.parts_join _ d.relative_partName, longer, ← List.append_assoc] at walk
    exact (List.append_inj' walk rfl).1.symm
  -- The hidden name is followed by the file, so whoever got there went through it as a folder.
  rw [through, List.append_assoc, Tree.follow_append (fun _ h => h) reach] at there
  obtain ⟨next, -, step⟩ := Tree.follow_cons there (by simp)
  rcases step with ⟨dot, -⟩ | ⟨-, up, -⟩ | ⟨-, -, -, rfl, isFolder⟩
  · exact absurd dot hidden.notHere
  · exact absurd up hidden.notUp
  · exact isFolder

/-- Where a download that is in order puts its files, in the tree that it is begun in. -/
structure Placed (d : Download) (t : Tree) (name : String) (place : Location) : Prop where
  named : components d.request.name = [.name name]
  folder : t.lookup d.request.folder = .ok (place, .folder)
  destination : Inside d.request.folder [name] d.request.destination
  /-- Without a slash the part file is a neighbour of the destination, and no other folder has to be
  there for it. -/
  beside : '/' ∉ d.request.name.toList → Inside d.request.folder [d.partName] d.partPath ∧
    (Tree.check d.partPath = .ok () → t.above d.partPath = .ok (place, some d.partName))
  /-- With one it is in a folder below, which has to be there. -/
  below : '/' ∈ d.request.name.toList →
    (∃ last, Inside d.request.folder ["." ++ name, last] d.partPath) ∧
    ∀ e t' part, t.create d.partPath e = .ok (t', part) →
      t.entry? (place ++ ["." ++ name]) = some .folder

/-- A download that is in order puts its file directly inside the folder of the request, and the
part file too, unless the name ends in a slash, or in slashes and dots. -/
theorem downloads_stay_in_their_folder (d : Download) (t : Tree)
    (valid : d.request.validate t = .ok ()) : ∃ name place, d.Placed t name place := by
  obtain ⟨-, -, -, plain, there, -⟩ := DownloadRequest.validate_eq_ok_iff.1 valid
  obtain ⟨name, named⟩ := Files.Path.isPlain_iff.1 plain
  obtain ⟨place, found⟩ := Tree.exists_of_isFolder there
  exact ⟨name, place, named, found, inside_destination named,
    fun whole => ⟨inside_partPath whole, above_partPath whole found⟩,
    fun slash => ⟨slashed_partPath named slash,
      fun _ _ _ made => folder_of_slashed named slash found made⟩⟩

namespace Sample

theorem part_file_of_plain_name : (named "f" 1).request.validate site.files = .ok () ∧
    Inside "out" [".f.00000000.part"] (named "f" 1).partPath := by
  have valid : (named "f" 1).request.validate site.files = .ok () := by decide +kernel
  obtain ⟨name, place, placed⟩ := downloads_stay_in_their_folder (named "f" 1) site.files valid
  have partName : (named "f" 1).partName = ".f.00000000.part" := by decide +kernel
  exact ⟨valid, partName ▸ (placed.beside (by decide +kernel)).1⟩

/-- The part file of a name that ends in a slash is two names below the folder of the request, and
cannot be made until there is a folder for it. -/
theorem trailing_slash_asks_for_a_folder :
    (named "x/" 1).request.validate site.files = .ok () ∧
    components (named "x/" 1).partPath =
      components (named "x/" 1).request.folder ++ [.name ".x", .name ".00000000.part"] ∧
    (site.files.create (named "x/" 1).partPath .folder).map (·.2) = .error .notFound ∧
    ((site.files.set ["out", ".x"] .folder).create (named "x/" 1).partPath .folder).map (·.2) =
      .ok ["out", ".x", ".00000000.part"] := by
  decide +kernel

end Sample
end Download
end LocalSwarm
