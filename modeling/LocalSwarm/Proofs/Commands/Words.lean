import Mathlib.Data.List.Basic
import LocalSwarm.Command

/-! The words of a line. A line lays out words if it consists of them in their order, with blanks
around them and at least one between two of them. Every line lays out just one list of words, and
that is what it is read as: `words_eq_iff`. -/
namespace LocalSwarm.Command

def Blank (gap : List Char) : Prop := ∀ c ∈ gap, isBlank c = true

/-- Some characters, none of them blank. -/
structure IsWord (word : String) : Prop where
  some : word ≠ ""
  whole : ∀ c ∈ word.toList, isBlank c = false

instance (word : String) : Decidable (IsWord word) :=
  decidable_of_iff ((!word.toList.isEmpty && word.toList.all fun c => !isBlank c) = true) <| by
    rw [Bool.and_eq_true, Bool.not_eq_true', List.isEmpty_eq_false_iff, List.all_eq_true]
    simp only [Bool.not_eq_true']
    exact ⟨fun both => ⟨mt String.toList_eq_nil_iff.2 both.1, both.2⟩,
      fun one => ⟨mt String.toList_eq_nil_iff.1 one.some, one.whole⟩⟩

/-- A text that lays out words. Behind a word it ends or goes on with a blank. -/
inductive Lays : List Char → List String → Prop
  | blank {gap : List Char} : Blank gap → Lays gap []
  | word {gap rest : List Char} {word : String} {words : List String} : Blank gap → IsWord word →
      (∀ c ∈ rest.head?, isBlank c = true) → Lays rest words →
      Lays (gap ++ word.toList ++ rest) (word :: words)

theorem Lays.isWord {text : List Char} {words : List String} (lays : Lays text words) :
    ∀ word ∈ words, IsWord word := by
  induction lays with
  | blank => nofun
  | word _ word _ _ ih => exact List.forall_mem_cons.2 ⟨word, ih⟩

theorem Lays.cons {c : Char} {text : List Char} {words : List String} (blank : isBlank c = true)
    (lays : Lays text words) : Lays (c :: text) words := by
  cases lays with
  | blank gap => exact .blank (List.forall_mem_cons.2 ⟨blank, gap⟩)
  | @word gap _ _ _ blanks word behind rest =>
    exact @Lays.word (c :: gap) _ _ _ (List.forall_mem_cons.2 ⟨blank, blanks⟩) word behind rest

theorem isWord_ofList {cs : List Char} (some : cs ≠ []) (whole : ∀ c ∈ cs, isBlank c = false) :
    IsWord (String.ofList cs) where
  some := fun none => some (String.ofList_eq_empty_iff.1 none)
  whole := by rwa [String.toList_ofList]

/-- Words with a single space between any two of them. -/
theorem lays_intercalate {words : List String} (whole : ∀ word ∈ words, IsWord word) :
    Lays (String.intercalate " " words).toList words := by
  induction words with
  | nil => exact .blank nofun
  | cons word words ih =>
    obtain ⟨one, others⟩ := List.forall_mem_cons.1 whole
    cases words with
    | nil =>
      have alone := @Lays.word [] [] _ _ nofun one nofun (.blank nofun)
      rwa [List.nil_append, List.append_nil] at alone
    | cons second words =>
      have spaced := (ih others).cons (c := ' ') rfl
      have behind := @Lays.word [] _ _ _ nofun one (by rintro _ ⟨⟩; rfl) spaced
      rw [String.intercalate_cons_cons, String.toList_append, String.toList_append,
        List.append_assoc]
      exact behind

/-- A word with nothing in front of it. -/
theorem Lays.front {word rest : List Char} {words : List String} (some : ¬ word.isEmpty = true)
    (whole : ∀ c ∈ word, isBlank c = false) (behind : ∀ c ∈ rest.head?, isBlank c = true)
    (lays : Lays rest words) : Lays (word ++ rest) (String.ofList word :: words) := by
  have one := isWord_ofList (mt List.isEmpty_iff.2 some) whole
  have lays' := @Lays.word [] _ _ _ nofun one behind lays
  rwa [String.toList_ofList] at lays'

/-! ### What a line is read as -/

/-- What is read is laid out, the word that is being read in front of the rest. -/
theorem lays_wordsFrom (text word : List Char) (whole : ∀ c ∈ word, isBlank c = false) :
    Lays (word.reverse ++ text) (wordsFrom text word) := by
  have nothing : Lays [] [] := .blank nofun
  have reversed : ∀ c ∈ word.reverse, isBlank c = false :=
    fun c member => whole c (List.mem_reverse.1 member)
  fun_induction wordsFrom text word with
  | case1 word none =>
    rw [List.isEmpty_iff.1 none]
    exact nothing
  | case2 word some => exact .front (by simpa using some) reversed nofun nothing
  | case3 c rest word blank none ih =>
    rw [List.isEmpty_iff.1 none]
    exact (ih nofun nofun).cons blank
  | case4 c rest word blank some ih =>
    refine .front (by simpa using some) reversed ?_ ((ih nofun nofun).cons blank)
    rintro _ ⟨⟩
    exact blank
  | case5 c rest word inside ih =>
    have whole' : ∀ d ∈ c :: word, isBlank d = false :=
      List.forall_mem_cons.2 ⟨Bool.eq_false_iff.2 inside, whole⟩
    have lays := ih whole' fun d member => whole' d (List.mem_reverse.1 member)
    rwa [List.reverse_cons, List.append_assoc] at lays

theorem wordsFrom_blank {gap : List Char} (blank : Blank gap) (rest : List Char) :
    wordsFrom (gap ++ rest) [] = wordsFrom rest [] := by
  induction gap with
  | nil => rfl
  | cons c gap ih =>
    obtain ⟨first, others⟩ := List.forall_mem_cons.1 blank
    rw [List.cons_append, wordsFrom, if_pos first]
    exact ih others

theorem wordsFrom_whole {cs : List Char} (whole : ∀ c ∈ cs, isBlank c = false)
    (rest word : List Char) : wordsFrom (cs ++ rest) word = wordsFrom rest (cs.reverse ++ word) := by
  induction cs generalizing word with
  | nil => rfl
  | cons c cs ih =>
    obtain ⟨first, others⟩ := List.forall_mem_cons.1 whole
    rw [List.cons_append, wordsFrom, first, if_neg Bool.false_ne_true, ih others,
      List.reverse_cons, List.append_assoc]
    rfl

/-- A word is over where the text is, or at a blank. -/
theorem wordsFrom_behind {word rest : List Char} (some : word ≠ [])
    (behind : ∀ c ∈ rest.head?, isBlank c = true) :
    wordsFrom rest word = String.ofList word.reverse :: wordsFrom rest [] := by
  have more : word.isEmpty = false := Bool.eq_false_iff.2 (mt List.isEmpty_iff.1 some)
  cases rest with
  | nil => rw [wordsFrom, wordsFrom, more]; rfl
  | cons c rest => rw [wordsFrom, wordsFrom, if_pos (behind c rfl), if_pos (behind c rfl), more]; rfl

theorem wordsFrom_eq {text : List Char} {words : List String} (lays : Lays text words) :
    wordsFrom text [] = words := by
  induction lays with
  | @blank gap blank =>
    rw [← List.append_nil gap, wordsFrom_blank blank]
    rfl
  | @word gap rest word words blank one behind _ ih =>
    have some : word.toList ≠ [] := fun none => one.some (String.toList_eq_nil_iff.1 none)
    rw [List.append_assoc, wordsFrom_blank blank, wordsFrom_whole one.whole, List.append_nil,
      wordsFrom_behind (mt List.reverse_eq_nil_iff.1 some) behind, List.reverse_reverse,
      String.ofList_toList, ih]

theorem words_eq_iff {line : String} {ws : List String} : words line = ws ↔ Lays line.toList ws := by
  constructor
  · rintro rfl
    exact lays_wordsFrom line.toList [] nofun
  · exact wordsFrom_eq

end LocalSwarm.Command
