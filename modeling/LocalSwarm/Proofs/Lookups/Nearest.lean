import Mathlib.Data.List.Sort
import LocalSwarm.Lookup

/-! Peers in order of their distance to a target. No two identifiers are at one distance, so an order
by distance is an order of identifiers. Main statement: the first of all peers in order are the
nearest ones (`nearest_take`). -/
namespace LocalSwarm

theorem Distance.toNat_inj {d e : Distance} : d.toNat = e.toNat ↔ d = e := by
  rw [Distance.toNat, Distance.toNat, BitVec.toNat_inj, Distance.mk.injEq]

namespace Identifier

theorem distance_inj {a b : Identifier} (target : Identifier) :
    a.distance target = b.distance target ↔ a = b := by
  rw [distance, distance, Distance.mk.injEq, BitVec.xor_left_inj, Identifier.mk.injEq]

theorem distance_trichotomy (target a b : Identifier) :
    a.distance target < b.distance target ∨ a = b ∨ b.distance target < a.distance target := by
  rcases Nat.lt_trichotomy (a.distance target).toNat (b.distance target).toNat with
    less | same | more
  · exact .inl less
  · exact .inr (.inl ((distance_inj target).1 (Distance.toNat_inj.1 same)))
  · exact .inr (.inr more)

end Identifier

namespace Lookup

/-- The one peer is closer to the target than the other. -/
def Closer (target : Identifier) (p q : Peer) : Prop := p.distanceTo target < q.distanceTo target

variable {target : Identifier} {p q r : Peer} {ps qs : List Peer}

instance : Decidable (Closer target p q) :=
  inferInstanceAs (Decidable (p.distanceTo target < q.distanceTo target))

theorem Closer.trans (first : Closer target p q) (second : Closer target q r) :
    Closer target p r := Nat.lt_trans first second

theorem Closer.id_ne (closer : Closer target p q) : p.id ≠ q.id := by
  intro same
  rw [Closer, Peer.distanceTo, Peer.distanceTo, same] at closer
  exact Nat.lt_irrefl _ closer

theorem closer_of_not (other : p.id ≠ q.id) (farther : ¬ Closer target q p) : Closer target p q := by
  rcases Identifier.distance_trichotomy target p.id q.id with less | same | more
  · exact less
  · exact absurd same other
  · exact absurd more farther

instance : Std.Irrefl (Closer target) := ⟨fun _ closer => closer.id_ne rfl⟩

instance : Std.Antisymm (Closer target) :=
  ⟨fun _ _ first second => absurd rfl (first.trans second).id_ne⟩

theorem nodup_ids (ordered : ps.Pairwise (Closer target)) : (ps.map Peer.id).Nodup :=
  List.pairwise_map.2 (ordered.imp Closer.id_ne)

theorem eq_of_id_eq (ordered : ps.Pairwise (Closer target)) (first : p ∈ ps) (second : q ∈ ps)
    (same : p.id = q.id) : p = q :=
  List.inj_on_of_nodup_map (nodup_ids ordered) first second same

/-! ### Insertion -/

theorem insertByDistance_nil : insertByDistance target p [] = [p] := rfl

theorem insertByDistance_cons : insertByDistance target p (q :: qs) =
    if q.distanceTo target < p.distanceTo target then q :: insertByDistance target p qs
    else p :: q :: qs := by
  by_cases closer : q.distanceTo target < p.distanceTo target <;> simp [insertByDistance, closer]

theorem mem_insertByDistance : r ∈ insertByDistance target p qs ↔ r = p ∨ r ∈ qs := by
  induction qs with
  | nil => rw [insertByDistance_nil, List.mem_singleton, or_iff_left List.not_mem_nil]
  | cons q qs ih =>
    rw [insertByDistance_cons]
    split
    · rw [List.mem_cons, ih, List.mem_cons, or_left_comm]
    · rw [List.mem_cons]

theorem ordered_insertByDistance (ordered : qs.Pairwise (Closer target))
    (new : ∀ q ∈ qs, q.id ≠ p.id) : (insertByDistance target p qs).Pairwise (Closer target) := by
  induction qs with
  | nil => exact List.pairwise_singleton _ p
  | cons q qs ih =>
    obtain ⟨first, rest⟩ := List.pairwise_cons.1 ordered
    obtain ⟨other, others⟩ := List.forall_mem_cons.1 new
    rw [insertByDistance_cons]
    split
    · next closer =>
      refine List.pairwise_cons.2 ⟨fun r member => ?_, ih rest others⟩
      rcases mem_insertByDistance.1 member with rfl | behind
      · exact closer
      · exact first r behind
    · next farther =>
      have closer : Closer target p q := closer_of_not other.symm farther
      exact List.pairwise_cons.2 ⟨List.forall_mem_cons.2 ⟨closer, fun r behind =>
        closer.trans (first r behind)⟩, ordered⟩

/-! ### The nearest -/

/-- Peers of which each is among some, closest first, so that none of those that are left out is
closer, and none is left out at all if there are fewer than wanted. -/
structure Nearest (target : Identifier) (count : Nat) (Among : Identifier → Prop)
    (ps : List Peer) : Prop where
  ordered : ps.Pairwise (Closer target)
  few : ps.length ≤ count
  among : ∀ p ∈ ps, Among p.id
  rest : ∀ id, Among id → (∃ p ∈ ps, p.id = id) ∨
    ps.length = count ∧ ∀ p ∈ ps, p.id.distance target < id.distance target

theorem nearest_take (ordered : ps.Pairwise (Closer target)) {Among : Identifier → Prop}
    (all : ∀ id, (∃ p ∈ ps, p.id = id) ↔ Among id) (count : Nat) :
    Nearest target count Among (ps.take count) where
  ordered := ordered.sublist (List.take_sublist count ps)
  few := List.length_take_le count ps
  among := fun p member => (all p.id).1 ⟨p, List.mem_of_mem_take member, rfl⟩
  rest := by
    intro id among
    obtain ⟨p, member, rfl⟩ := (all id).2 among
    rw [← List.take_append_drop count ps] at ordered member
    rcases List.mem_append.1 member with front | back
    · exact .inl ⟨p, front, rfl⟩
    · have long := List.length_pos_of_mem back
      rw [List.length_drop] at long
      refine .inr ⟨List.length_take_of_le (by omega), fun q front => ?_⟩
      exact (List.pairwise_append.1 ordered).2.2 q front p back

/-- Of a list whose first members all have a property, those that have it begin the same way. -/
theorem take_filter {α : Type} {f : α → Bool} {xs : List α} {count : Nat}
    (first : ∀ x ∈ xs.take count, f x = true) : (xs.filter f).take count = xs.take count := by
  have split := congrArg (List.filter f) (List.take_append_drop count xs)
  rw [List.filter_append, List.filter_eq_self.2 first] at split
  rw [← split]
  rcases Nat.lt_or_ge xs.length count with short | long
  · rw [List.drop_eq_nil_of_le (Nat.le_of_lt short), List.filter_nil, List.append_nil,
      List.take_take, Nat.min_self]
  · exact List.take_left' (List.length_take_of_le long)

end Lookup
end LocalSwarm
