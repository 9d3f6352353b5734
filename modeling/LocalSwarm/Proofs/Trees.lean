import Mathlib.Data.List.Induction
import LocalSwarm.Files.Tree
import LocalSwarm.Proofs.PartFiles
import LocalSwarm.Proofs.Paths

/-! Trees in which every entry stands in a folder, and a part file as a guest in such a tree: it can
be written, left behind by newcomers, taken away or turned into the destination, and all that others
have in the tree stays as it is. -/
namespace LocalSwarm.Files

theorem lookup_filter {β : Type} (keep : Location → Bool) (xs : List (Location × β))
    (place : Location) :
    (xs.filter fun e => keep e.1).lookup place = if keep place then xs.lookup place else none := by
  induction xs with
  | nil => simp
  | cons x xs ih =>
    obtain ⟨q, e⟩ := x
    by_cases same : place = q
    · subst same
      cases kept : keep place with
      | true => simp [kept]
      | false => simp [kept, ih]
    · have differs : (place == q) = false := beq_eq_false_iff_ne.2 same
      have skipped : ((q, e) :: xs).lookup place = xs.lookup place := by
        rw [List.lookup_cons, differs]
      rw [skipped, ← ih, List.filter_cons]
      split
      · rw [List.lookup_cons, differs]
      · rfl

theorem filter_eraseP {α : Type} {p q : α → Bool} (apart : ∀ x, p x = true → q x = false)
    (xs : List α) : (xs.eraseP p).filter q = xs.filter q := by
  induction xs with
  | nil => rfl
  | cons x xs ih =>
    rw [List.eraseP_cons]
    cases found : p x with
    | true => rw [cond_true, List.filter_cons_of_neg (by rw [apart x found]; exact Bool.false_ne_true)]
    | false => rw [cond_false, List.filter_cons, List.filter_cons, ih]

namespace Tree

theorem entryAt_of_ne {t : Tree} {place : Location} (ne : place ≠ []) :
    t.entry? place = t.entries.lookup place := by
  rw [Tree.entry?, if_neg (by simpa using ne)]

theorem entryAt_nil (t : Tree) : t.entry? [] = some .folder := rfl

theorem ne_nil_of_vacant {t : Tree} {place : Location} (vacant : t.entry? place = none) :
    place ≠ [] := by
  rintro rfl
  cases vacant

theorem not_mem_of_vacant {t : Tree} {place : Location} (vacant : t.entry? place = none)
    (e : Entry) : (place, e) ∉ t.entries := by
  rw [entryAt_of_ne (ne_nil_of_vacant vacant), List.lookup_eq_none_iff] at vacant
  intro member
  simpa using vacant _ member

theorem mem_of_entryAt {t : Tree} {place : Location} {e : Entry} (ne : place ≠ [])
    (h : t.entry? place = some e) : (place, e) ∈ t.entries := by
  rw [entryAt_of_ne ne, List.lookup_eq_some_iff] at h
  obtain ⟨before, behind, split, -⟩ := h
  rw [split]
  exact List.mem_append_right _ List.mem_cons_self

theorem entries_set {t : Tree} {place : Location} (vacant : t.entry? place = none) (e : Entry) :
    (t.set place e).entries = t.entries ++ [(place, e)] := by
  rw [set, List.eraseP_of_forall_not]
  rintro ⟨q, x⟩ member same
  obtain rfl : q = place := by simpa using same
  exact not_mem_of_vacant vacant x member

@[simp] theorem disk_set (t : Tree) (place : Location) (e : Entry) :
    (t.set place e).disk = t.disk := rfl

@[simp] theorem disk_erase (t : Tree) (place : Location) : (t.erase place).disk = t.disk := rfl

@[simp] theorem disk_writePart (t : Tree) (place : Location) (offset : Nat) (data : Bytes) :
    (t.writePart place offset data).disk = t.disk := by
  unfold writePart
  split <;> rfl

/-- All that must hold for a part file to become its destination. -/
theorem persist_ok {t t' : Tree} {place : Location} {destination : String}
    (done : t.persist place destination = .ok t') :
    t.disk.sync = none ∧ (t.lookup destination).isOk = false ∧
      ∃ target p, t.landing destination = .ok target ∧ t.entry? place = some (.part p) ∧
        t' = (t.erase place).set target (finished p.content) := by
  unfold persist at done
  cases synced : t.disk.sync with
  | some cause =>
    rw [synced] at done
    cases done
  | none =>
    rw [synced] at done
    dsimp only at done
    cases taken : (t.lookup destination).isOk with
    | true =>
      rw [if_pos taken] at done
      cases done
    | false =>
      rw [if_neg (by rw [taken]; exact Bool.false_ne_true)] at done
      cases land : t.landing destination with
      | error e =>
        rw [land] at done
        cases done
      | ok target =>
        rw [land] at done
        dsimp only [bind, Except.bind, pure, Except.pure] at done
        split at done
        · next p own =>
          cases done
          exact ⟨rfl, rfl, target, p, rfl, own, rfl⟩
        · cases done

theorem entryAt_set {t : Tree} {place : Location} (vacant : t.entry? place = none) (e : Entry)
    (q : Location) : Tree.entry? (t.set place e) q = if q = place then some e else t.entry? q := by
  by_cases root : q = []
  · subst root
    rw [if_neg (Ne.symm (ne_nil_of_vacant vacant)), entryAt_nil, entryAt_nil]
  · rw [entryAt_of_ne root, entryAt_of_ne root, entries_set vacant, List.lookup_append]
    by_cases same : q = place
    · subst same
      rw [entryAt_of_ne root] at vacant
      rw [vacant, List.lookup_cons_self, if_pos rfl]
      rfl
    · have differs : (q == place) = false := beq_eq_false_iff_ne.2 same
      rw [List.lookup_cons, differs, if_neg same, List.lookup_nil, Option.or_none]

/-- Whether all folders of a tree are folders of another one. -/
def KeepsFolders (t t' : Tree) : Prop :=
  ∀ q, t.entry? q = some .folder → t'.entry? q = some .folder

theorem keepsFolders_set {t : Tree} {place : Location} (vacant : t.entry? place = none)
    (e : Entry) : t.KeepsFolders (t.set place e) := by
  intro q folder
  rw [entryAt_set vacant, if_neg, folder]
  rintro rfl
  rw [vacant] at folder
  cases folder

/-- Every entry stands in a folder. -/
def Rooted (t : Tree) : Prop :=
  ∀ place e, (place, e) ∈ t.entries → t.entry? place.dropLast = some .folder

theorem rooted_empty : empty.Rooted := by
  intro place e member
  cases member

theorem Rooted.set {t : Tree} (r : t.Rooted) {place : Location} (vacant : t.entry? place = none)
    (within : t.entry? place.dropLast = some .folder) (e : Entry) : (t.set place e).Rooted := by
  intro q x member
  rw [entries_set vacant, List.mem_append, List.mem_singleton] at member
  apply keepsFolders_set vacant
  rcases member with old | new
  · exact r q x old
  · cases new
    exact within

theorem Rooted.parent {t : Tree} (r : t.Rooted) {place : Location} {e : Entry}
    (h : t.entry? place = some e) : t.entry? place.dropLast = some .folder := by
  by_cases root : place = []
  · subst root
    rfl
  · exact r place e (mem_of_entryAt root h)

/-- All that leads to an entry are folders. -/
theorem Rooted.above {t : Tree} (r : t.Rooted) {place rest : Location} {e : Entry}
    (h : t.entry? (place ++ rest) = some e) (below : rest ≠ []) :
    t.entry? place = some .folder := by
  induction rest using List.reverseRecOn generalizing e with
  | nil => exact absurd rfl below
  | append_singleton rest name ih =>
    have parent := r.parent h
    rw [← List.append_assoc, List.dropLast_concat] at parent
    by_cases last : rest = []
    · rwa [last, List.append_nil] at parent
    · exact ih parent last

/-- What a part does that others come after: nothing, back to the folder above, or on to a folder
below. -/
theorem follow_cons {t : Tree} {here place : Location} {part : String} {rest : List String}
    (h : t.follow here (part :: rest) = .ok place) (more : rest ≠ []) :
    ∃ next, t.follow next rest = .ok place ∧
      (part = "." ∧ next = here ∨ part ≠ "." ∧ part = ".." ∧ next = here.dropLast ∨
        part ≠ "." ∧ part ≠ ".." ∧ part.utf8ByteSize ≤ nameLimit ∧ next = here ++ [part] ∧
          t.entry? next = some .folder) := by
  unfold follow at h
  split at h
  · next dot => exact ⟨here, h, .inl ⟨dot, rfl⟩⟩
  · next dot =>
    split at h
    · next up => exact ⟨_, h, .inr (.inl ⟨dot, up, rfl⟩)⟩
    · next up =>
      split at h
      · cases h
      · next fits =>
        dsimp only at h
        split at h
        · next folder => exact ⟨_, h, .inr (.inr ⟨dot, up, Nat.not_lt.1 fits, rfl, folder⟩)⟩
        · exact absurd rfl more
        · cases h
        · cases h

theorem follow_dot (t : Tree) (here : Location) (rest : List String) :
    t.follow here ("." :: rest) = t.follow here rest := by
  rw [follow, if_pos rfl]

theorem follow_up (t : Tree) (here : Location) (rest : List String) :
    t.follow here (".." :: rest) = t.follow here.dropLast rest := by
  rw [follow, if_neg (by decide), if_pos rfl]

theorem follow_name {t : Tree} {here : Location} {part : String} (dot : part ≠ ".")
    (up : part ≠ "..") (fits : part.utf8ByteSize ≤ nameLimit)
    (folder : t.entry? (here ++ [part]) = some .folder) (rest : List String) :
    t.follow here (part :: rest) = t.follow (here ++ [part]) rest := by
  rw [follow, if_neg dot, if_neg up, if_neg (Nat.not_lt.2 fits)]
  simp only [folder]

/-- Where a path goes on from a folder does not depend on how the folder was reached, and a tree
that keeps the folders keeps the way. -/
theorem follow_append {t t' : Tree} (keeps : t.KeepsFolders t') {here folder : Location}
    {parts : List String} (h : t.follow here (parts ++ ["."]) = .ok folder) (rest : List String) :
    t'.follow here (parts ++ rest) = t'.follow folder rest := by
  induction parts generalizing here with
  | nil =>
    rw [List.nil_append, follow_dot] at h
    cases h
    rfl
  | cons part parts ih =>
    rw [List.cons_append] at h ⊢
    obtain ⟨next, on, step⟩ := follow_cons h (by simp)
    rcases step with ⟨rfl, rfl⟩ | ⟨-, rfl, rfl⟩ | ⟨dot, up, fits, rfl, isFolder⟩
    · rw [follow_dot, ih on]
    · rw [follow_up, ih on]
    · rw [follow_name dot up fits (keeps _ isFolder), ih on]

/-- A dot stands for the folder that was reached. -/
theorem follow_concat_dot {t : Tree} {here place : Location} {parts : List String}
    (h : t.follow here parts = .ok place) (folder : t.entry? place = some .folder) :
    t.follow here (parts ++ ["."]) = .ok place := by
  induction parts generalizing here with
  | nil => rwa [List.nil_append, follow_dot]
  | cons part rest ih =>
    by_cases more : rest = []
    · subst more
      rw [List.cons_append, List.nil_append]
      unfold follow at h
      split at h
      · next dot => rwa [dot, follow_dot, follow_dot]
      · next dot =>
        split at h
        · next up => rwa [up, follow_up, follow_dot]
        · next up =>
          split at h
          · cases h
          · next fits =>
            have reached : place = here ++ [part] := by
              dsimp only at h
              split at h
              · exact (Except.ok.inj h).symm
              · exact (Except.ok.inj h).symm
              · next none => cases none
              · next none => cases none
            subst reached
            rw [follow_name dot up (Nat.not_lt.1 fits) folder, follow_dot]
            rfl
    · rw [List.cons_append]
      obtain ⟨next, on, step⟩ := follow_cons h more
      rcases step with ⟨rfl, rfl⟩ | ⟨-, rfl, rfl⟩ | ⟨dot, up, fits, rfl, isFolder⟩
      · rw [follow_dot, ih on]
      · rw [follow_up, ih on]
      · rw [follow_name dot up fits isFolder, ih on]

theorem check_eq_ok_iff {path : String} :
    check path = .ok () ↔
      path ≠ "" ∧ '\x00' ∉ path.toList ∧ path.utf8ByteSize ≤ pathLimit := by
  unfold check
  split
  · next empty => simp [empty]
  · next some =>
    split
    · next zero => simp [List.contains_iff_mem.1 zero]
    · next noZero =>
      rw [List.contains_iff_mem] at noZero
      split
      · next long => simp [Nat.not_le.2 long]
      · next fits => simp [some, noZero, Nat.not_lt.1 fits]

theorem exists_of_isFolder {t : Tree} {path : String} (isFolder : t.isFolder path = true) :
    ∃ place, t.lookup path = .ok (place, .folder) := by
  unfold Tree.isFolder at isFolder
  split at isFolder
  · next place found => exact ⟨place, found⟩
  · cases isFolder

/-- How a path leads to a folder. -/
theorem walk_of_folder {t : Tree} {path : String} {place : Location}
    (found : t.lookup path = .ok (place, .folder)) :
    t.follow [] (Path.parts path ++ ["."]) = .ok place ∧ t.entry? place = some .folder := by
  unfold lookup at found
  cases checked : check path with
  | error e =>
    rw [checked] at found
    cases found
  | ok u =>
    rw [checked] at found
    change (t.follow [] (walkParts path) >>= _) = _ at found
    cases reach : t.follow [] (walkParts path) with
    | error e =>
      rw [reach] at found
      cases found
    | ok place' =>
      rw [reach] at found
      dsimp only [bind, Except.bind] at found
      split at found
      · next e entry =>
        obtain ⟨rfl, rfl⟩ := Prod.mk.inj (Except.ok.inj found)
        refine ⟨?_, entry⟩
        rw [walkParts] at reach
        split at reach
        · exact reach
        · rw [List.append_nil] at reach
          exact follow_concat_dot reach entry
      · cases found

/-- A path that names a place in a folder, by a name that is no dot. -/
structure Leads (t : Tree) (path : String) (place : Location) : Prop where
  checked : check path = .ok ()
  noSlash : endsWithSlash path = false
  walk : ∃ parts folder name, Path.parts path = parts ++ [name] ∧ place = folder ++ [name] ∧
    t.follow [] (parts ++ ["."]) = .ok folder ∧ t.entry? folder = some .folder ∧
    name ≠ "." ∧ name ≠ ".." ∧ name.utf8ByteSize ≤ nameLimit

theorem Leads.mono {t t' : Tree} {path : String} {place : Location} (l : t.Leads path place)
    (keeps : t.KeepsFolders t') : t'.Leads path place := by
  obtain ⟨checked, noSlash, parts, folder, name, split, here, reach, isFolder, dot, up, fits⟩ := l
  refine ⟨checked, noSlash, parts, folder, name, split, here, ?_, keeps _ isFolder, dot, up, fits⟩
  rw [follow_append keeps reach ["."], follow_dot]
  rfl

theorem Leads.parent {t : Tree} {path : String} {place : Location} (l : t.Leads path place) :
    t.entry? place.dropLast = some .folder := by
  obtain ⟨-, -, -, folder, name, -, rfl, -, isFolder, -⟩ := l
  rwa [List.dropLast_concat]

theorem Leads.lookup {t : Tree} {path : String} {place : Location} (l : t.Leads path place) :
    t.lookup path =
      match t.entry? place with
      | some e => .ok (place, e)
      | none => .error .notFound := by
  obtain ⟨checked, noSlash, parts, folder, name, split, rfl, reach, isFolder, dot, up, fits⟩ := l
  have walk : t.follow [] (walkParts path) = .ok (folder ++ [name]) := by
    rw [walkParts, noSlash, if_neg Bool.false_ne_true, List.append_nil, split,
      follow_append (fun _ h => h) reach [name], follow, if_neg dot, if_neg up,
      if_neg (Nat.not_lt.2 fits)]
    dsimp only
    split
    · rfl
    · rfl
    · next h => cases h
    · next h => cases h
  rw [Tree.lookup, checked]
  change (t.follow [] (walkParts path) >>= fun place => _) = _
  rw [walk]
  rfl

theorem Leads.of_lookup {t : Tree} {path : String} {place q : Location} {e : Entry}
    (l : t.Leads path place) (found : t.lookup path = .ok (q, e)) : q = place := by
  rw [l.lookup] at found
  split at found
  · exact (congrArg Prod.fst (Except.ok.inj found)).symm
  · cases found

/-- What is made where a path leads is found by the path. -/
theorem Leads.lookup_set {t : Tree} {path : String} {place : Location} (l : t.Leads path place)
    (vacant : t.entry? place = none) (e : Entry) :
    Tree.lookup (t.set place e) path = .ok (place, e) := by
  rw [(l.mono (keepsFolders_set vacant e)).lookup, entryAt_set vacant, if_pos rfl]

/-- The folder that a path leads into, and the name there. -/
theorem above_ok {t : Tree} {path name : String} {folder : Location}
    (h : t.above path = .ok (folder, some name)) :
    check path = .ok () ∧ t.entry? folder = some .folder ∧
      ∃ parts, Path.parts path = parts ++ [name] ∧ t.follow [] (parts ++ ["."]) = .ok folder := by
  unfold above at h
  cases checked : check path with
  | error e =>
    rw [checked] at h
    cases h
  | ok u =>
    rw [checked] at h
    change (t.follow [] ((Path.parts path).dropLast ++ ["."]) >>= _) = _ at h
    cases reach : t.follow [] ((Path.parts path).dropLast ++ ["."]) with
    | error e =>
      rw [reach] at h
      cases h
    | ok place =>
      rw [reach] at h
      dsimp only [bind, Except.bind] at h
      split at h
      · next isFolder =>
        have found := Except.ok.inj h
        obtain ⟨rfl, last⟩ := Prod.mk.inj found
        obtain ⟨parts, split⟩ := List.getLast?_eq_some_iff.1 last
        rw [split, List.dropLast_concat] at reach
        exact ⟨rfl, isFolder, parts, split, reach⟩
      · cases h
      · cases h

theorem leads_of_vacancy {t : Tree} {path : String} {place : Location}
    (h : t.vacancy path = .ok place) : t.Leads path place ∧ t.entry? place = none := by
  unfold vacancy at h
  cases into : t.above path with
  | error e =>
    rw [into] at h
    cases h
  | ok found =>
    obtain ⟨folder, name?⟩ := found
    rw [into] at h
    cases name? with
    | none => cases h
    | some name =>
      obtain ⟨checked, isFolder, parts, split, reach⟩ := above_ok into
      change (if _ then _ else _) = _ at h
      split at h
      · cases h
      · next noSlash =>
        split at h
        · cases h
        · next dots =>
          split at h
          · cases h
          · next fits =>
            split at h
            · cases h
            · next vacant =>
              cases h
              rw [Bool.or_eq_true, decide_eq_true_eq, decide_eq_true_eq, not_or] at dots
              refine ⟨⟨checked, Bool.eq_false_iff.2 noSlash, parts, folder, name, split, rfl, reach,
                isFolder, dots.1, dots.2, Nat.not_lt.1 fits⟩, ?_⟩
              simpa using vacant

/-- Where a file would land at a path that leads to nothing. -/
theorem leads_of_landing {t : Tree} (r : t.Rooted) {path : String} {place : Location}
    (h : t.landing path = .ok place) (nothing : (t.lookup path).isOk = false) :
    t.Leads path place ∧ t.entry? place = none := by
  unfold landing at h
  cases into : t.above path with
  | error e =>
    rw [into] at h
    cases h
  | ok found =>
    obtain ⟨folder, name?⟩ := found
    rw [into] at h
    cases name? with
    | none => cases h
    | some name =>
      obtain ⟨checked, isFolder, parts, split, reach⟩ := above_ok into
      change (if _ then _ else _) = _ at h
      split at h
      · cases h
      · next fits =>
        split at h
        · cases h
        · next noSlash =>
          cases h
          have walk : t.follow [] (walkParts path) = t.follow folder [name] := by
            rw [walkParts, if_neg noSlash, List.append_nil, split]
            exact follow_append (fun _ h => h) reach [name]
          have ends : ∀ place e, t.follow folder [name] = .ok place → t.entry? place ≠ some e := by
            intro place e reached entry
            rw [Tree.lookup, checked] at nothing
            change (t.follow [] (walkParts path) >>= fun place => _).isOk = false at nothing
            rw [walk, reached] at nothing
            dsimp only [bind, Except.bind] at nothing
            rw [entry] at nothing
            cases nothing
          -- A dot would lead to the folder itself or to the one above it, and both are there.
          have dot : name ≠ "." := by
            rintro rfl
            exact ends folder _ (by rw [follow_dot]; rfl) isFolder
          have up : name ≠ ".." := by
            rintro rfl
            exact ends folder.dropLast _ (by rw [follow_up]; rfl) (r.parent isFolder)
          have leads : t.Leads path (folder ++ [name]) :=
            ⟨checked, Bool.eq_false_iff.2 noSlash, parts, folder, name, split, rfl, reach, isFolder,
              dot, up, Nat.not_lt.1 fits⟩
          refine ⟨leads, ?_⟩
          cases entry : t.entry? (folder ++ [name]) with
          | none => rfl
          | some e =>
            rw [leads.lookup, entry] at nothing
            cases nothing

theorem create_ok {t t' : Tree} {path : String} {e : Entry} {place : Location}
    (h : t.create path e = .ok (t', place)) :
    t.Leads path place ∧ t.entry? place = none ∧ t.disk.make = none ∧ t' = t.set place e := by
  unfold create at h
  cases free : t.vacancy path with
  | error e =>
    rw [free] at h
    cases h
  | ok place =>
    rw [free] at h
    dsimp only [bind, Except.bind] at h
    cases made : t.disk.make with
    | some cause =>
      rw [made] at h
      cases h
    | none =>
      rw [made] at h
      cases h
      obtain ⟨leads, vacant⟩ := leads_of_vacancy free
      exact ⟨leads, vacant, rfl, rfl⟩

theorem disk_eq_of_create {t t' : Tree} {path : String} {e : Entry} {place : Location}
    (h : t.create path e = .ok (t', place)) : t'.disk = t.disk := by
  obtain ⟨-, -, -, rfl⟩ := create_ok h
  rfl

theorem above_of_parts {t : Tree} {path name : String} {parts : List String} {folder : Location}
    (checked : check path = .ok ()) (split : Path.parts path = parts ++ [name])
    (reach : t.follow [] (parts ++ ["."]) = .ok folder) (isFolder : t.entry? folder = some .folder) :
    t.above path = .ok (folder, some name) := by
  unfold Tree.above
  rw [checked, split]
  change (t.follow [] ((parts ++ [name]).dropLast ++ ["."]) >>= _) = _
  rw [List.dropLast_concat, reach]
  dsimp only [bind, Except.bind]
  rw [isFolder, List.getLast?_concat]
  rfl

theorem Leads.above {t : Tree} {path : String} {place : Location} (l : t.Leads path place) :
    ∃ folder name, place = folder ++ [name] ∧ t.above path = .ok (folder, some name) ∧
      name ≠ "." ∧ name ≠ ".." ∧ name.utf8ByteSize ≤ nameLimit := by
  obtain ⟨checked, -, parts, folder, name, split, here, reach, isFolder, dot, up, fits⟩ := l
  exact ⟨folder, name, here, above_of_parts checked split reach isFolder, dot, up, fits⟩

/-- An entry can be made wherever a path leads, as long as nothing is there and the disk lets it. -/
theorem Leads.create {t : Tree} {path : String} {place : Location} (l : t.Leads path place)
    (vacant : t.entry? place = none) (able : t.disk.make = none) (e : Entry) :
    t.create path e = .ok (t.set place e, place) := by
  obtain ⟨folder, name, rfl, into, dot, up, fits⟩ := l.above
  have free : t.vacancy path = .ok (folder ++ [name]) := by
    unfold vacancy
    rw [into]
    change (if _ then _ else _) = _
    rw [if_neg (by rw [l.noSlash]; exact Bool.false_ne_true), if_neg (by simp [dot, up]),
      if_neg (Nat.not_lt.2 fits), if_neg (by simp [vacant])]
    rfl
  rw [Tree.create, free]
  dsimp only [bind, Except.bind]
  rw [able]
  rfl

/-- No entry can be made under a name that is too long. -/
theorem create_of_long {t : Tree} {path name : String} {folder : Location}
    (into : t.above path = .ok (folder, some name)) (noSlash : endsWithSlash path = false)
    (long : nameLimit < name.utf8ByteSize) (e : Entry) : t.create path e = .error .nameTooLong := by
  have dots : ¬(name = "." ∨ name = "..") := by
    rintro (rfl | rfl)
    · exact absurd long (by decide)
    · exact absurd long (by decide)
  have refused : t.vacancy path = .error .nameTooLong := by
    unfold vacancy
    rw [into]
    change (if _ then _ else _) = _
    rw [if_neg (by rw [noSlash]; exact Bool.false_ne_true), if_neg (by simpa using dots),
      if_pos long]
  rw [Tree.create, refused]
  rfl

theorem Leads.landing {t : Tree} {path : String} {place : Location} (l : t.Leads path place) :
    t.landing path = .ok place := by
  obtain ⟨folder, name, rfl, into, -, -, fits⟩ := l.above
  unfold Tree.landing
  rw [into]
  change (if _ then _ else _) = _
  rw [if_neg (Nat.not_lt.2 fits), if_neg (by rw [l.noSlash]; exact Bool.false_ne_true)]
  rfl

theorem Leads.unique {t : Tree} {path : String} {place q : Location} (l : t.Leads path place)
    (l' : t.Leads path q) : q = place :=
  Except.ok.inj (l'.landing.symm.trans l.landing)

theorem endsWithSlash_join (directory : String) {name : String} (noSlash : '/' ∉ name.toList)
    (some : name ≠ "") : endsWithSlash (Path.join directory name) = false := by
  obtain ⟨base, joined⟩ := Path.exists_base directory
  rw [endsWithSlash, joined name (Path.isAbsolute_of_not_mem noSlash), String.toList_append]
  rcases List.eq_nil_or_concat name.toList with none | ⟨front, last, split⟩
  · exact absurd (String.toList_eq_nil_iff.1 none) some
  · rw [split, List.concat_eq_append, ← List.append_assoc, List.getLast?_concat]
    refine decide_eq_false fun slash => noSlash ?_
    rw [split, Option.some.inj slash, List.concat_eq_append]
    exact List.mem_append_right _ List.mem_cons_self

/-- Where the path to a name leads, the path to another name leads into the same folder. -/
theorem Leads.above_beside {t : Tree} {directory name other : String} {place : Location}
    (l : t.Leads (Path.join directory name) place) (noSlash : '/' ∉ name.toList) (some : name ≠ "")
    (noSlash' : '/' ∉ other.toList) (some' : other ≠ "")
    (checked : check (Path.join directory other) = .ok ()) :
    ∃ folder, place = folder ++ [name] ∧
      t.above (Path.join directory other) = .ok (folder, .some other) := by
  have named := Path.parts_join directory (Path.isAbsolute_of_not_mem noSlash)
  have named' := Path.parts_join directory (Path.isAbsolute_of_not_mem noSlash')
  rw [Path.parts_of_not_mem noSlash some] at named
  rw [Path.parts_of_not_mem noSlash' some'] at named'
  obtain ⟨-, -, front, folder, last, split, rfl, reach, isFolder, -⟩ := l
  rw [named] at split
  obtain ⟨rfl, same⟩ := List.append_inj' split rfl
  obtain rfl := List.singleton_inj.1 same
  exact ⟨folder, rfl, above_of_parts checked named' reach isFolder⟩

/-- So it leads to the place beside, if the name can stand there. -/
theorem Leads.beside {t : Tree} {directory name other : String} {place : Location}
    (l : t.Leads (Path.join directory name) place) (noSlash : '/' ∉ name.toList) (some : name ≠ "")
    (noSlash' : '/' ∉ other.toList) (some' : other ≠ "") (dot : other ≠ ".") (up : other ≠ "..")
    (fits : other.utf8ByteSize ≤ nameLimit)
    (checked : check (Path.join directory other) = .ok ()) :
    ∃ folder, place = folder ++ [name] ∧
      t.Leads (Path.join directory other) (folder ++ [other]) := by
  obtain ⟨folder, here, into⟩ := l.above_beside noSlash some noSlash' some' checked
  obtain ⟨-, isFolder, parts, split, reach⟩ := above_ok into
  exact ⟨folder, here, checked, endsWithSlash_join directory noSlash' some', parts, folder, other,
    split, rfl, reach, isFolder, dot, up, fits⟩

/-- What stands in a folder does not stand below a vacant place. -/
theorem Rooted.not_below {t : Tree} (r : t.Rooted) {place q : Location}
    (vacant : t.entry? place = none) (parent : t.entry? q.dropLast = some .folder)
    (differs : q ≠ place) : place.isPrefixOf q = false := by
  rw [Bool.eq_false_iff]
  intro below
  obtain ⟨rest, rfl⟩ := List.isPrefixOf_iff_prefix.1 below
  have more : rest ≠ [] := by
    rintro rfl
    exact differs (List.append_nil place)
  rw [List.dropLast_append_of_ne_nil more] at parent
  by_cases last : rest.dropLast = []
  · rw [last, List.append_nil, vacant] at parent
    cases parent
  · rw [r.above parent last] at vacant
    cases vacant

theorem Rooted.none_below {t : Tree} (r : t.Rooted) {place : Location}
    (vacant : t.entry? place = none) :
    ∀ e ∈ t.entries, place.isPrefixOf e.1 = false := by
  rintro ⟨q, e⟩ member
  refine r.not_below vacant (r q e member) ?_
  rintro rfl
  exact not_mem_of_vacant vacant e member

/-- A tree that holds, besides a part file of our own, what `others` holds. -/
structure Hosts (t others : Tree) (part : Location) (p : Part) : Prop where
  rooted : others.Rooted
  vacant : others.entry? part = none
  within : others.entry? part.dropLast = some .folder
  rest : t.erase part = others
  own : (t.entries.filter fun e => part.isPrefixOf e.1) = [(part, .part p)]

namespace Hosts

variable {t others : Tree} {part : Location} {p : Part}

theorem entries_eq (h : t.Hosts others part p) :
    (t.entries.filter fun e => !part.isPrefixOf e.1) = others.entries := congrArg entries h.rest

theorem disk_eq (h : t.Hosts others part p) : t.disk = others.disk := by
  rw [← h.rest, disk_erase]

/-- Whatever the disk comes to refuse, the part file stays a guest. -/
theorem disrupted (h : t.Hosts others part p) (disk : Disk) :
    { t with disk }.Hosts { others with disk } part p :=
  ⟨h.rooted, h.vacant, h.within, Tree.ext h.entries_eq rfl, h.own⟩

theorem entryAt (h : t.Hosts others part p) (q : Location) :
    t.entry? q = if q = part then some (.part p) else others.entry? q := by
  by_cases root : q = []
  · subst root
    rw [if_neg (Ne.symm (ne_nil_of_vacant h.vacant)), entryAt_nil, entryAt_nil]
  · have ours := lookup_filter (fun q => part.isPrefixOf q) t.entries q
    have theirs := lookup_filter (fun q => !part.isPrefixOf q) t.entries q
    rw [h.own] at ours
    rw [h.entries_eq] at theirs
    rw [entryAt_of_ne root, entryAt_of_ne root, theirs]
    by_cases here : q = part
    · subst here
      rw [if_pos (List.isPrefixOf_iff_prefix.2 (List.prefix_refl q)), List.lookup_cons_self] at ours
      rw [if_pos rfl, ours]
    · rw [List.lookup_cons, beq_eq_false_iff_ne.2 here] at ours
      rw [if_neg here]
      cases below : part.isPrefixOf q with
      | true =>
        rw [if_pos below, List.lookup_nil] at ours
        exact ours.symm
      | false => rfl

theorem entryAt_part (h : t.Hosts others part p) : t.entry? part = some (.part p) := by
  rw [h.entryAt, if_pos rfl]

/-- The part file is no folder, so both trees have the same folders. -/
theorem folder_iff (h : t.Hosts others part p) (q : Location) :
    t.entry? q = some .folder ↔ others.entry? q = some .folder := by
  rw [h.entryAt]
  by_cases here : q = part
  · subst here
    rw [if_pos rfl, h.vacant]
    constructor <;> intro folder <;> cases folder
  · rw [if_neg here]

theorem tree_rooted (h : t.Hosts others part p) : t.Rooted := by
  intro q e member
  rw [h.folder_iff]
  cases below : part.isPrefixOf q with
  | true =>
    have ours : (q, e) ∈ t.entries.filter fun e => part.isPrefixOf e.1 :=
      List.mem_filter.2 ⟨member, below⟩
    rw [h.own, List.mem_singleton] at ours
    cases ours
    exact h.within
  | false =>
    apply h.rooted q e
    rw [← h.rest]
    exact List.mem_filter.2 ⟨member, by simp [below]⟩

end Hosts

/-- A new entry that is taken away again leaves the tree as it was. -/
theorem Rooted.erase_set {t : Tree} (r : t.Rooted) {place : Location}
    (vacant : t.entry? place = none) (e : Entry) : (t.set place e).erase place = t := by
  have kept : (t.entries.filter fun e => !place.isPrefixOf e.1) = t.entries :=
    List.filter_eq_self.2 fun e member => by rw [r.none_below vacant e member]; rfl
  rw [erase, entries_set vacant, List.filter_append, kept]
  simp

/-- A new part file is a guest in the tree that it was made in. -/
theorem Rooted.hosts {t t' : Tree} (r : t.Rooted) {path : String} {part : Location} {p : Part}
    (made : t.create path (.part p) = .ok (t', part)) : t'.Hosts t part p := by
  obtain ⟨leads, vacant, -, rfl⟩ := create_ok made
  refine ⟨r, vacant, leads.parent, r.erase_set vacant _, ?_⟩
  have gone : (t.entries.filter fun e => part.isPrefixOf e.1) = [] :=
    List.filter_eq_nil_iff.2 fun e member => by
      rw [r.none_below vacant e member]
      exact Bool.false_ne_true
  rw [entries_set vacant, List.filter_append, gone]
  simp

namespace Hosts

variable {t others : Tree} {part : Location} {p : Part}

theorem writePart (h : t.Hosts others part p) (offset : Nat) (data : Bytes) :
    (t.writePart part offset data).Hosts others part (p.write offset data) := by
  have written : t.writePart part offset data = t.set part (.part (p.write offset data)) := by
    rw [Tree.writePart, h.entryAt_part]
  have self : part.isPrefixOf part = true := List.isPrefixOf_iff_prefix.2 (List.prefix_refl part)
  rw [written]
  refine ⟨h.rooted, h.vacant, h.within, ?_, ?_⟩
  · have kept := filter_eraseP (p := fun e => decide (e.1 = part))
      (q := fun e => !part.isPrefixOf e.1)
      (fun e same => by rw [of_decide_eq_true same, self]; rfl) t.entries
    rw [← h.rest, erase, erase, Tree.set, List.filter_append, kept]
    simp [self]
  · have single := List.eraseP_filter (p := fun e => decide (e.1 = part))
      (f := fun e => part.isPrefixOf e.1) (l := t.entries)
    have both : (fun e : Location × Entry => decide (e.1 = part) && part.isPrefixOf e.1) =
        fun e => decide (e.1 = part) := by
      funext e
      by_cases same : e.1 = part
      · rw [same, self, Bool.and_true]
      · rw [decide_eq_false same, Bool.false_and]
    rw [both, h.own] at single
    rw [Tree.set, List.filter_append, ← single]
    simp [self]

/-- Whoever makes a new entry beside the part file could do so without it. -/
theorem set (h : t.Hosts others part p) {place : Location} (vacant : t.entry? place = none)
    (within : t.entry? place.dropLast = some .folder) (e : Entry) :
    others.entry? place = none ∧ others.entry? place.dropLast = some .folder ∧
      (t.set place e).Hosts (others.set place e) part p := by
  have differs : place ≠ part := by
    rintro rfl
    rw [h.entryAt_part] at vacant
    cases vacant
  have free : others.entry? place = none := by rwa [h.entryAt, if_neg differs] at vacant
  have parent := (h.folder_iff _).1 within
  have aside := h.rooted.not_below h.vacant parent differs
  refine ⟨free, parent, h.rooted.set free parent e, ?_, keepsFolders_set free e _ h.within, ?_, ?_⟩
  · rw [entryAt_set free, if_neg differs.symm, h.vacant]
  · have new : others.set place e = { others with entries := others.entries ++ [(place, e)] } :=
      Tree.ext (entries_set free e) rfl
    rw [new, erase, entries_set vacant, List.filter_append, h.entries_eq, disk_set,
      h.disk_eq]
    simp [aside]
  · rw [entries_set vacant, List.filter_append, h.own]
    simp [aside]

/-- Synced, the part file becomes the destination just where the destination leads and nothing is. -/
theorem persist_eq_ok_iff (h : t.Hosts others part p) (synced : t.disk.sync = none)
    {destination : String} {t' : Tree} :
    t.persist part destination = .ok t' ↔
      ∃ target, others.Leads destination target ∧ others.entry? target = none ∧ target ≠ part ∧
        t' = others.set target (finished p.content) := by
  constructor
  · intro done
    obtain ⟨-, taken, target, p', land, own, rfl⟩ := persist_ok done
    obtain ⟨leads, vacant⟩ := leads_of_landing h.tree_rooted land taken
    have apart : target ≠ part := by
      rintro rfl
      rw [h.entryAt_part] at vacant
      cases vacant
    rw [h.entryAt, if_neg apart] at vacant
    rw [h.entryAt_part] at own
    cases own
    exact ⟨target, leads.mono fun q => (h.folder_iff q).1, vacant, apart, by rw [h.rest]⟩
  · rintro ⟨target, leads, vacant, apart, rfl⟩
    have here : t.Leads destination target := leads.mono fun q => (h.folder_iff q).2
    have free : t.entry? target = none := by rw [h.entryAt, if_neg apart, vacant]
    have taken : (t.lookup destination).isOk = false := by
      rw [here.lookup, free]
      rfl
    unfold Tree.persist
    rw [synced]
    dsimp only
    rw [if_neg (by rw [taken]; exact Bool.false_ne_true), here.landing]
    dsimp only [bind, Except.bind, pure, Except.pure]
    rw [h.entryAt_part, h.rest]

/-- The part file becomes the destination where nothing else is, or stays as it is. -/
theorem persist (h : t.Hosts others part p) {destination : String} {t' : Tree}
    (done : t.persist part destination = .ok t') :
    ∃ target, others.entry? target = none ∧ others.entry? target.dropLast = some .folder ∧
      t' = others.set target (finished p.content) ∧
      t'.lookup destination = .ok (target, finished p.content) := by
  obtain ⟨target, leads, vacant, -, rfl⟩ := (h.persist_eq_ok_iff (persist_ok done).1).1 done
  exact ⟨target, vacant, leads.parent, rfl, leads.lookup_set vacant _⟩

end Hosts
end Tree
end LocalSwarm.Files
