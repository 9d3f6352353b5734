import Mathlib.Data.List.Nodup

/-! Records: lists of values under keys, of which the first one that is under a key counts. Where no
key occurs twice, to look up a value is to find it in the list. -/
namespace LocalSwarm

variable {κ α : Type} [DecidableEq κ] {xs : List (κ × α)} {key : κ} {x : α}

theorem isSome_lookup_iff : (xs.lookup key).isSome = true ↔ key ∈ xs.map Prod.fst := by
  rw [Option.isSome_iff_ne_none, ne_eq, List.lookup_eq_none_iff, List.mem_map]
  simp only [bne_iff_ne, ne_eq, not_forall, not_not, exists_prop]
  exact exists_congr fun x => and_congr_right fun _ => eq_comm

theorem mem_of_lookup_eq_some (found : xs.lookup key = some x) : (key, x) ∈ xs := by
  obtain ⟨front, back, split, -⟩ := List.lookup_eq_some_iff.1 found
  rw [split]
  exact List.mem_append_right _ List.mem_cons_self

theorem lookup_eq_some_iff_mem (distinct : (xs.map Prod.fst).Nodup) :
    xs.lookup key = some x ↔ (key, x) ∈ xs := by
  refine ⟨mem_of_lookup_eq_some, fun member => ?_⟩
  obtain ⟨y, found⟩ := Option.isSome_iff_exists.1
    (isSome_lookup_iff.2 (List.mem_map_of_mem (f := Prod.fst) member))
  rw [found, Option.some.injEq]
  have same := List.inj_on_of_nodup_map distinct (mem_of_lookup_eq_some found) member rfl
  exact congrArg Prod.snd same

/-- A record whose keys are the numbers below `n` is, up to order, what is found under them. -/
theorem perm_lookup_range {ys : List (Nat × α)} {n : Nat}
    (all : (ys.map Prod.fst).Perm (List.range n)) :
    ys.Perm ((List.range n).filterMap fun i => (ys.lookup i).map fun y => (i, y)) := by
  have distinct : (ys.map Prod.fst).Nodup := all.nodup_iff.2 List.nodup_range
  refine (List.perm_ext_iff_of_nodup (distinct.of_map _) ?_).2 ?_
  · refine List.nodup_range.filterMap ?_
    intro i j y fromI fromJ
    obtain ⟨_, -, rfl⟩ := Option.map_eq_some_iff.1 fromI
    obtain ⟨_, -, same⟩ := Option.map_eq_some_iff.1 fromJ
    exact (congrArg Prod.fst same).symm
  · rintro ⟨i, y⟩
    rw [List.mem_filterMap, ← lookup_eq_some_iff_mem distinct]
    constructor
    · intro found
      refine ⟨i, all.mem_iff.1 (isSome_lookup_iff.1 (by rw [found]; rfl)), ?_⟩
      rw [found]
      rfl
    · rintro ⟨j, -, found⟩
      obtain ⟨z, there, same⟩ := Option.map_eq_some_iff.1 found
      cases same
      exact there

end LocalSwarm
