import LocalSwarm.Node
import LocalSwarm.Proofs.Lookups.Nearest
import LocalSwarm.Proofs.Tables.Hearsay

/-! The online contacts that are closest to a target. No two contacts have one identifier, and no
two identifiers are at one distance, so the order by distance is strict, and what is cut off it is
farther away than what is kept. Main statements: `closest_contacts_are_exact` and
`nearest_is_the_plain_cut`. -/
namespace LocalSwarm
open Lookup (Closer)

/-- Peers in order of their distance to a target. -/
def nearestFirst (target : Identifier) (ps : List Peer) : List Peer :=
  ps.mergeSort fun p q => p.distanceTo target ≤ q.distanceTo target

section Order

variable {target : Identifier} {p : Peer} {ps : List Peer}

theorem mem_nearestFirst : p ∈ nearestFirst target ps ↔ p ∈ ps := List.mem_mergeSort

theorem length_nearestFirst (target : Identifier) (ps : List Peer) :
    (nearestFirst target ps).length = ps.length := List.length_mergeSort ps

theorem pairwise_nearestFirst (target : Identifier) (ps : List Peer) :
    (nearestFirst target ps).Pairwise fun p q => p.distanceTo target ≤ q.distanceTo target := by
  refine (List.pairwise_mergeSort ?_ ?_ ps).imp of_decide_eq_true
  · intro p q r first second
    exact decide_eq_true (Nat.le_trans (of_decide_eq_true first) (of_decide_eq_true second))
  · intro p q
    rw [Bool.or_eq_true, decide_eq_true_eq, decide_eq_true_eq]
    exact Nat.le_total (p.distanceTo target).toNat (q.distanceTo target).toNat

/-- Peers under identifiers of their own are at distances of their own. -/
theorem ordered_nearestFirst (distinct : (ps.map Peer.id).Nodup) (target : Identifier) :
    (nearestFirst target ps).Pairwise (Closer target) := by
  have same : (nearestFirst target ps).Perm ps := List.mergeSort_perm ps _
  have apart := List.pairwise_map.1 ((same.map Peer.id).nodup_iff.2 distinct)
  refine ((pairwise_nearestFirst target ps).and apart).imp ?_
  rintro p q ⟨close, other⟩
  exact Lookup.closer_of_not other (Nat.not_lt.2 close)

/-- The order of the peers that have a property is the order of all with the others left out. -/
theorem filter_nearestFirst (distinct : (ps.map Peer.id).Nodup) (target : Identifier)
    (f : Peer → Bool) :
    (nearestFirst target ps).filter f = nearestFirst target (ps.filter f) := by
  refine List.Pairwise.eq_of_mem_iff ((ordered_nearestFirst distinct target).filter f)
    (ordered_nearestFirst ((List.filter_sublist.map Peer.id).nodup distinct) target) fun p => ?_
  rw [List.mem_filter, mem_nearestFirst, mem_nearestFirst, List.mem_filter]

/-- Peers have one order, however they are listed. -/
theorem nearestFirst_congr {qs : List Peer} (distinct : (ps.map Peer.id).Nodup)
    (distinct' : (qs.map Peer.id).Nodup) (target : Identifier) (same : ∀ p, p ∈ ps ↔ p ∈ qs) :
    nearestFirst target ps = nearestFirst target qs := by
  refine List.Pairwise.eq_of_mem_iff (ordered_nearestFirst distinct target)
    (ordered_nearestFirst distinct' target) fun p => ?_
  rw [mem_nearestFirst, mem_nearestFirst, same]

/-- So have their identifiers, wherever the peers are reached. -/
theorem map_id_nearestFirst_congr {qs : List Peer} (distinct : (ps.map Peer.id).Nodup)
    (distinct' : (qs.map Peer.id).Nodup) (target : Identifier)
    (same : ∀ id, id ∈ ps.map Peer.id ↔ id ∈ qs.map Peer.id) :
    (nearestFirst target ps).map Peer.id = (nearestFirst target qs).map Peer.id := by
  let closer (a b : Identifier) : Prop := a.distance target < b.distance target
  have irrefl : Std.Irrefl closer := ⟨fun _ => Nat.lt_irrefl _⟩
  have antisymm : Std.Antisymm closer := ⟨fun _ _ first second => absurd second (Nat.lt_asymm first)⟩
  have ordered {rs : List Peer} (distinct : (rs.map Peer.id).Nodup) :
      ((nearestFirst target rs).map Peer.id).Pairwise closer :=
    List.pairwise_map.2 (ordered_nearestFirst distinct target)
  refine List.Pairwise.eq_of_mem_iff (ordered distinct) (ordered distinct') fun id => ?_
  simpa only [List.mem_map, mem_nearestFirst] using same id

end Order

/-- If at most one member of a list is dropped, it is enough to take one more before it is. -/
theorem take_filter_take {α : Type} {f : α → Bool} {xs : List α}
    (once : xs.countP (fun x => !f x) ≤ 1) (count : Nat) :
    ((xs.take (count + 1)).filter f).take count = (xs.filter f).take count := by
  induction xs generalizing count with
  | nil => rw [List.take_nil]
  | cons x xs ih =>
    cases count with
    | zero => rw [List.take_zero, List.take_zero]
    | succ count =>
      rw [List.take_succ_cons]
      cases kept : f x with
      | true =>
        rw [List.countP_cons_of_neg (by simp [kept])] at once
        rw [List.filter_cons_of_pos kept, List.filter_cons_of_pos kept, List.take_succ_cons,
          List.take_succ_cons, ih once]
      | false =>
        -- The one that is dropped was this one.
        rw [List.countP_cons_of_pos (by simp [kept])] at once
        have all : ∀ y ∈ xs, f y = true := by
          have none := List.countP_eq_zero.1 (Nat.le_zero.1 (Nat.le_of_succ_le_succ once))
          exact fun y member => by simpa using none y member
        have dropped : ¬ f x = true := Bool.eq_false_iff.1 kept
        rw [List.filter_cons_of_neg dropped, List.filter_cons_of_neg dropped,
          List.filter_eq_self.2 all,
          List.filter_eq_self.2 fun y member => all y (List.mem_of_mem_take member),
          List.take_take, Nat.min_self]

namespace RoutingTable

variable {t : RoutingTable} {localId target : Identifier} {slots : Nat} {now : Moment}

/-! ### Whoever is online -/

/-- The good and questionable contacts, in the order of the table. -/
theorem online_eq (t : RoutingTable) (now : Moment) :
    t.online now = (t.contacts.filter (·.isOnline now)).map (·.peer) := by
  rw [contacts, List.filter_flatMap, List.map_flatMap]
  rfl

theorem mem_online {i : Fin 160} {c : Contact} (member : c ∈ (t.bucket i).contacts)
    (online : c.isOnline now = true) : c.peer ∈ t.online now := by
  rw [online_eq]
  exact List.mem_map_of_mem (List.mem_filter.2 ⟨mem_contacts_iff.2 ⟨i, member⟩, online⟩)

theorem Sound.distinct_online (h : t.Sound localId slots) (now : Moment) :
    ((t.online now).map Peer.id).Nodup := by
  rw [online_eq, List.map_map]
  exact (List.filter_sublist.map Contact.id).nodup h.distinct

/-! ### The closest of them -/

/-- So many of some peers, closest to a target first, and nobody who is left out is closer. -/
structure ClosestOf (all : List Peer) (target : Identifier) (count : Nat) (ps : List Peer) :
    Prop where
  length : ps.length = min count all.length
  among : ∀ p ∈ ps, p ∈ all
  ordered : ps.Pairwise (Closer target)
  rest : ∀ p ∈ all, p ∉ ps → ∀ q ∈ ps, Closer target q p

theorem closest_eq (t : RoutingTable) (now : Moment) (target : Identifier) (count : Nat) :
    t.closest now target count = (nearestFirst target (t.online now)).take count := rfl

theorem closestOf_take {ps : List Peer} (distinct : (ps.map Peer.id).Nodup) (target : Identifier)
    (count : Nat) : ClosestOf ps target count ((nearestFirst target ps).take count) := by
  have ordered := ordered_nearestFirst distinct target
  refine ⟨?length, ?among, ordered.sublist (List.take_sublist count _), ?rest⟩
  case length => rw [List.length_take, length_nearestFirst]
  case among => exact fun p member => mem_nearestFirst.1 (List.mem_of_mem_take member)
  case rest =>
    intro p member absent q kept
    have listed : p ∈ nearestFirst target ps := mem_nearestFirst.2 member
    rw [← List.take_append_drop count (nearestFirst target ps)] at ordered listed
    exact (List.pairwise_append.1 ordered).2.2 q kept p
      ((List.mem_append.1 listed).resolve_left absent)

/-- Whatever the table, its contacts that are closest to a target are told by distance alone: they
are as many as there are online and wanted, strictly closest first, and who is online and left out
is farther away than all of them. Tables with the same contacts online name the same ones, even
where addresses differ. -/
theorem closest_contacts_are_exact {t : RoutingTable} (reached : t.Reachable) (now : Moment)
    (target : Identifier) (count : Nat) :
    t.online now = (t.contacts.filter fun c => c.status now ≠ .bad).map (·.peer) ∧
      ClosestOf (t.online now) target count (t.closest now target count) ∧
      ∀ (t' : RoutingTable) (now' : Moment), t'.Reachable →
        ((∀ p, p ∈ t.online now ↔ p ∈ t'.online now') →
          t.closest now target count = t'.closest now' target count) ∧
        ((∀ id, id ∈ (t.online now).map Peer.id ↔ id ∈ (t'.online now').map Peer.id) →
          (t.closest now target count).map Peer.id =
            (t'.closest now' target count).map Peer.id) := by
  obtain ⟨localId, slots, sound⟩ := reached.sound
  have distinct := sound.distinct_online now
  refine ⟨?online, closestOf_take distinct target count, fun t' now' reached' => ?alone⟩
  case online =>
    have worth (c : Contact) : c.isOnline now = decide (c.status now ≠ .bad) := by
      rw [Bool.eq_iff_iff, decide_eq_true_eq, Contact.isOnline_iff]
    rw [online_eq, funext worth]
  case alone =>
    obtain ⟨localId', slots', sound'⟩ := reached'.sound
    have distinct' := sound'.distinct_online now'
    constructor
    · intro same
      exact congrArg (List.take count) (nearestFirst_congr distinct distinct' target same)
    · intro same
      have ids := map_id_nearestFirst_congr distinct distinct' target same
      rw [closest_eq, closest_eq, List.map_take, List.map_take, ids]

/-! Two peers come to a table one after the other, or the other way round and after a third one that
turns out bad. -/

namespace Rumours

def newcomers : List Turn := [.elapse 3, .offer (.hearsay loft), .offer (.heard 3 studio)]

theorem closest_is_the_same_either_way :
    ∃ t t' : RoutingTable, t.Reachable ∧ t'.Reachable ∧ t.online 7 = [studio, loft] ∧
      t'.online 3 = [loft, studio] ∧ ClosestOf [studio, loft] cellar.id 1 (t.closest 7 cellar.id 1) ∧
      t.closest 7 cellar.id 1 = t'.closest 3 cellar.id 1 := by
  obtain ⟨s, done, reached⟩ := exists_reachable ⟨1⟩ 3 (by decide) 0 turns
  obtain ⟨s', done', reached'⟩ := exists_reachable ⟨1⟩ 3 (by decide) 0 newcomers
  have online : (Timed.run ⟨fresh ⟨1⟩ 3, 0⟩ turns).toOption.map (fun s => s.table.online 7) =
      some [studio, loft] := by decide +kernel
  have online' : (Timed.run ⟨fresh ⟨1⟩ 3, 0⟩ newcomers).toOption.map (fun s => s.table.online 3) =
      some [loft, studio] := by decide +kernel
  rw [done] at online
  rw [done'] at online'
  have here : s.table.online 7 = [studio, loft] := Option.some.inj online
  have here' : s'.table.online 3 = [loft, studio] := Option.some.inj online'
  obtain ⟨-, exact, alone⟩ := closest_contacts_are_exact reached 7 cellar.id 1
  refine ⟨s.table, s'.table, reached, reached', here, here', here ▸ exact, ?_⟩
  refine (alone s'.table 3 reached').1 fun p => ?_
  rw [here, here', List.mem_pair, List.mem_pair, or_comm]

end Rumours
end RoutingTable

namespace Node

open RoutingTable.Rumours

/-- All online contacts but the requester in order of their distance to the target, cut. -/
def nearestOfOthers (n : Node) (now : Moment) (target : Identifier) (count : UInt16)
    (requester : Peer) : List Peer :=
  (nearestFirst target ((n.table.online now).filter fun p => !p.same requester)).take
    (min count.toNat n.count)

/-- Naming the closest contacts to a requester, by taking one more than is wanted before it is left
out, comes to the same as leaving it out first: it is among the online contacts once at most. -/
theorem nearest_is_the_plain_cut {n : Node} (reached : n.table.Reachable) (now : Moment) (target : Identifier)
    (count : UInt16) (requester : Peer) :
    n.nearest now target count requester = n.nearestOfOthers now target count requester ∧
      RoutingTable.ClosestOf ((n.table.online now).filter fun p => !p.same requester) target
        (min count.toNat n.count) (n.nearest now target count requester) := by
  obtain ⟨localId, slots, sound⟩ := reached.sound
  have distinct := sound.distinct_online now
  have once : (nearestFirst target (n.table.online now)).countP (fun p => !!p.same requester) ≤ 1 := by
    have single := List.nodup_iff_count_le_one.1 distinct requester.id
    rw [List.count_eq_countP, List.countP_map] at single
    refine Nat.le_trans (Nat.le_of_eq ?_) single
    rw [nearestFirst, (List.mergeSort_perm _ _).countP_eq]
    refine List.countP_congr fun p _ => ?_
    simp [Peer.same]
  have same : n.nearest now target count requester =
      n.nearestOfOthers now target count requester := by
    rw [nearest, nearestOfOthers, RoutingTable.closest_eq, take_filter_take once,
      filter_nearestFirst distinct]
  refine ⟨same, same ▸ RoutingTable.closestOf_take ?_ target _⟩
  exact (List.filter_sublist.map Peer.id).nodup distinct

/-- A node that names one contact at a time. -/
def modest (table : RoutingTable) : Node :=
  ⟨⟨⟨1⟩, 4400, "attic"⟩, 0, 1, table, .initial, .standard, .nothing, 0⟩

/-- A node that knows two peers is asked by the closer one of them for the closest contact. -/
theorem closer_requester_is_left_out :
    ∃ t : RoutingTable, t.Reachable ∧ t.online 3 = [loft, studio] ∧ Closer loft.id loft studio ∧
      (modest t).nearest 3 loft.id 8 loft = (modest t).nearestOfOthers 3 loft.id 8 loft ∧
      (modest t).nearest 3 loft.id 8 loft = [studio] := by
  obtain ⟨s, done, reached⟩ := RoutingTable.exists_reachable ⟨1⟩ 3 (by decide) 0 newcomers
  have online : (RoutingTable.Timed.run ⟨RoutingTable.fresh ⟨1⟩ 3, 0⟩ newcomers).toOption.map
      (fun s => s.table.online 3) = some [loft, studio] := by decide +kernel
  rw [done] at online
  have here : s.table.online 3 = [loft, studio] := Option.some.inj online
  have plain := (nearest_is_the_plain_cut (n := modest s.table) reached 3 loft.id 8 loft).1
  have named : (modest s.table).nearestOfOthers 3 loft.id 8 loft = [studio] := by
    have others : ((modest s.table).table.online 3).filter (fun p => !p.same loft) = [studio] := by
      rw [modest, here]
      decide +kernel
    rw [nearestOfOthers, others, nearestFirst, List.mergeSort_singleton]
    rfl
  exact ⟨s.table, reached, here, by decide +kernel, plain, plain.trans named⟩

end Node
end LocalSwarm
