import Mathlib.Data.Nat.Bitwise
import LocalSwarm.Proofs.Lookups.Course
import LocalSwarm.Proofs.Tables.Closest

/-! Whom a lookup asks first that is to refresh a bucket. All who belong into the bucket are closer
to its target than all others, so as long as one of them is online, one of them is asked. Main
statements: `Sound.exists_seed` and `Quest.exists_asked`. -/
namespace LocalSwarm

namespace Identifier

variable {localId target a b : Identifier} {i j : Nat}

/-- Who differs from a target in a bit is farther from it than who agrees up to that bit. -/
theorem distance_lt_of_shares (far : Shares b target i) (near : ∀ j ≤ i, a.bit j = target.bit j) :
    a.distance target < b.distance target := by
  have inside := far.lt
  have nothing (id : Identifier) {j : Nat} (agrees : id.bit j = target.bit j) (within : j < 160) :
      (id.distance target).toNat.testBit (159 - j) = false := by
    rw [testBit_distance within, agrees, Bool.xor_self]
  apply Nat.lt_of_testBit (159 - i)
  · exact nothing a (near i (Nat.le_refl i)) inside
  · rw [testBit_distance inside, bne_iff_ne]
    exact far.differ
  · intro k above
    rcases Nat.lt_or_ge k 160 with within | beyond
    · obtain ⟨j, rfl⟩ : ∃ j, k = 159 - j := ⟨159 - k, by omega⟩
      rcases Nat.lt_or_ge j 160 with low | high
      · rw [nothing a (near j (by omega)) low, nothing b (far.agree j (by omega)) low]
      · omega
    · have zero (id : Identifier) : (id.distance target).toNat.testBit k = false :=
        Nat.testBit_lt_two_pow (Nat.lt_of_lt_of_le (id.distance target).bits.isLt
          (Nat.pow_le_pow_right Nat.two_pos beyond))
      rw [zero a, zero b]

/-- All who share so many bits with us are closer to a target that does so than all who do not. -/
theorem Shares.closer (towards : Shares localId target i) (inside : Shares localId a i)
    (outside : Shares localId b j) (other : j ≠ i) : a.distance target < b.distance target := by
  have opposite : a.bit i = target.bit i := by
    have first := inside.differ
    have second := towards.differ
    revert first second
    cases localId.bit i <;> cases a.bit i <;> cases target.bit i <;> decide
  rcases Nat.lt_or_gt_of_ne other with less | more
  · refine distance_lt_of_shares (i := j) ⟨fun k before => ?_, ?_⟩ fun k within => ?_
    · rw [← outside.agree k before, towards.agree k (Nat.lt_trans before less)]
    · rw [← towards.agree j less]
      exact outside.differ.symm
    · have before := Nat.lt_of_le_of_lt within less
      rw [← inside.agree k before, towards.agree k before]
  · refine distance_lt_of_shares (i := i) ⟨fun k before => ?_, ?_⟩ fun k within => ?_
    · rw [← outside.agree k (Nat.lt_trans before more), towards.agree k before]
    · rw [← outside.agree i more]
      exact towards.differ
    · rcases Nat.lt_or_eq_of_le within with before | rfl
      · rw [← inside.agree k before, towards.agree k before]
      · exact opposite

end Identifier

theorem mem_take_cons {α : Type} {n : Nat} (some : 1 ≤ n) (x : α) (xs : List α) :
    x ∈ (x :: xs).take n := by
  rw [← Nat.succ_pred_eq_of_pos some, List.take_succ_cons]
  exact List.mem_cons_self

namespace RoutingTable

variable {t : RoutingTable} {localId target : Identifier} {slots count : Nat} {now : Moment}

/-- Everyone who is online stands in the bucket of the bits that are shared. -/
theorem Sound.shares_of_online (h : t.Sound localId slots) {p : Peer} (member : p ∈ t.online now) :
    ∃ i : Fin 160, localId.Shares p.id i := by
  obtain ⟨c, listed, rfl⟩ := mem_contacts_of_online member
  obtain ⟨i, inside⟩ := mem_contacts_iff.1 listed
  exact ⟨i, (h.bucket i).admitted c inside⟩

/-- The contact closest to a target is of the bucket of the target, if anyone there is online. -/
theorem Sound.exists_seed (h : t.Sound localId slots) {i : Fin 160}
    (towards : localId.Shares target i)
    {c : Contact} (member : c ∈ (t.bucket i).contacts) (online : c.isOnline now = true)
    (wanted : 1 ≤ count) : ∃ p ∈ t.closest now target count, localId.Shares p.id i := by
  have listed : _ ∈ nearestFirst target _ := mem_nearestFirst.2 (mem_online member online)
  have sorted := pairwise_nearestFirst target (t.online now)
  have here (p : Peer) (inside : p ∈ nearestFirst target (t.online now)) : p ∈ t.online now :=
    mem_nearestFirst.1 inside
  rw [closest_eq]
  generalize nearestFirst target (t.online now) = order at listed sorted here ⊢
  cases order with
  | nil => cases listed
  | cons p ps =>
    refine ⟨p, mem_take_cons wanted p ps, ?_⟩
    obtain ⟨j, shares⟩ := h.shares_of_online (here p List.mem_cons_self)
    by_contra elsewhere
    have other : (j : Nat) ≠ i := fun same => elsewhere (same ▸ shares)
    have nearer : c.peer.distanceTo target < p.distanceTo target :=
      towards.closer ((h.bucket i).admitted c member) shares other
    rcases List.mem_cons.1 listed with same | behind
    · rw [same] at nearer
      exact Nat.lt_irrefl _ nearer
    · exact Nat.not_lt.2 (List.rel_of_pairwise_cons sorted behind) nearer

end RoutingTable

namespace Lookup

variable {q : Quest} {l : Lookup} {i : Nat}

/-- Of the seeds of a lookup the one closest to its target is the first candidate. -/
theorem Ready.first_candidate (r : Ready q [] l) (towards : q.localId.Shares q.target i) {p : Peer}
    (seed : p ∈ q.seeds) (near : q.localId.Shares p.id i) :
    ∃ first rest, l.candidates = first :: rest ∧ q.localId.Shares first.id i := by
  have told : ∃ c ∈ l.candidates, c.id = p.id := by
    rw [r.knows.keeps.candidates, r.knows.keeps.seen, r.localId]
    refine ⟨⟨near.ne.symm, p, List.mem_append_left _ seed, rfl⟩, ?_⟩
    rintro ⟨_, none, -⟩
    cases none
  obtain ⟨c, listed, same⟩ := told
  have ordered := r.knows.keeps.ordered
  have foreign : ∀ p ∈ l.candidates, p.id ≠ q.localId := fun p member =>
    r.localId ▸ r.knows.keeps.foreign member
  cases candidates : l.candidates with
  | nil =>
    rw [candidates] at listed
    cases listed
  | cons first rest =>
    rw [candidates] at listed ordered foreign
    have shares := Identifier.shares_commonPrefix (foreign first List.mem_cons_self).symm
    refine ⟨first, rest, rfl, ?_⟩
    by_contra elsewhere
    have nearer : c.distanceTo q.target < first.distanceTo q.target :=
      towards.closer (same ▸ near) shares fun here => elsewhere (here ▸ shares)
    rcases List.mem_cons.1 listed with rfl | behind
    · exact Nat.lt_irrefl _ nearer
    · have closer : Closer l.target first c := List.rel_of_pairwise_cons ordered behind
      rw [Closer, r.target] at closer
      exact Nat.lt_asymm closer nearer

theorem Ready.isAsked_eq_false (r : Ready q [] l) (p : Peer) : l.isAsked p = false := by
  rw [Bool.eq_false_iff, ne_eq, isAsked_iff, r.asked]
  rintro ⟨_, none, -⟩
  cases none

/-- A lookup for which a seed is of the bucket of its target asks somebody of that bucket. -/
theorem Quest.exists_asked (q : Quest) (towards : q.localId.Shares q.target i) {p : Peer}
    (seed : p ∈ q.seeds) (near : q.localId.Shares p.id i) (rounds : 1 ≤ q.limits.rounds)
    (wanted : 1 ≤ q.limits.count) :
    ∃ l batch, q.first = .asking l batch ∧ ∃ p ∈ batch, q.localId.Shares p.id i := by
  generalize stage : q.first = first
  have stands := stage ▸ stands_first q
  cases stands with
  | @asking l r =>
    obtain ⟨first, rest, candidates, shares⟩ := r.first_candidate towards seed near
    refine ⟨l.ask, l.batch, rfl, first, ?_, shares⟩
    rw [batch, candidates, List.filter_cons, r.isAsked_eq_false, Bool.not_false, if_pos rfl]
    exact mem_take_cons (Nat.le_max_right _ 1) first _
  | ended ended =>
    generalize none : ([] : List Round) = before at ended
    cases ended with
    | found split =>
      rw [split] at none
      exact absurd none.symm (List.append_ne_nil_of_right_ne_nil _ (List.cons_ne_nil _ []))
    | @listed l r all =>
      subst none
      obtain ⟨first, rest, candidates, -⟩ := r.first_candidate towards seed near
      have asked := all rounds first (candidates ▸ mem_take_cons wanted first rest)
      rw [r.isAsked_eq_false] at asked
      cases asked

end Lookup
end LocalSwarm
