import Mathlib.Data.List.Basic
import LocalSwarm.Bucket

/-! What each change of a bucket keeps. A bucket is sound if it has no more contacts than slots, all
of them under identifiers of their own that belong into it. -/
namespace LocalSwarm

namespace Contact

theorem id_learn {c other : Contact} (same : other.id = c.id) : (c.learn other).id = c.id := by
  unfold learn
  split
  · exact same
  · split <;> rfl

theorem id_touch (now : Moment) (address : SocketAddr) (c : Contact) :
    (c.touch now address).id = c.id := rfl

theorem id_fail (c : Contact) : c.fail.id = c.id := rfl

end Contact

namespace Bucket

/-- The identifiers in a bucket, in the order of its contacts. -/
def ids (b : Bucket) : List Identifier := b.contacts.map Contact.id

structure Sound (slots : Nat) (Admits : Identifier → Prop) (b : Bucket) : Prop where
  slots_eq : b.slots = slots
  few : b.contacts.length ≤ slots
  distinct : b.ids.Nodup
  admitted : ∀ c ∈ b.contacts, Admits c.id

variable {slots : Nat} {Admits : Identifier → Prop} {b b' : Bucket} {now : Moment} {id : Identifier}

theorem sound_empty : (empty slots).Sound slots Admits :=
  ⟨rfl, Nat.zero_le _, List.nodup_nil, nofun⟩

/-! ### Looking for a contact -/

theorem mem_of_find? {known : Contact} (found : b.find? id = some known) : known ∈ b.contacts :=
  List.mem_of_find?_eq_some found

theorem id_of_find? {known : Contact} (found : b.find? id = some known) : known.id = id := by
  simpa using List.find?_some found

theorem find?_eq_none_iff : b.find? id = none ↔ ∀ c ∈ b.contacts, c.id ≠ id := by
  simp [find?, List.find?_eq_none]

/-! ### The other contacts -/

theorem others_sublist (b : Bucket) (id : Identifier) : (b.others id).Sublist b.contacts :=
  List.eraseP_sublist

theorem map_id_others (b : Bucket) (id : Identifier) :
    (b.others id).map Contact.id = b.ids.erase id := by
  rw [ids, List.erase_eq_eraseP', List.eraseP_map]
  rfl

theorem Sound.id_ne_of_mem_others (h : b.Sound slots Admits) {c : Contact}
    (other : c ∈ b.others id) : c.id ≠ id := by
  have kept := List.mem_map_of_mem (f := Contact.id) other
  rw [map_id_others] at kept
  exact (h.distinct.mem_erase_iff.1 kept).1

theorem length_others {known : Contact} (member : known ∈ b.contacts) :
    (b.others known.id).length + 1 = b.contacts.length := by
  have := List.length_pos_of_mem member
  rw [others, List.length_eraseP_of_mem member (by simp)]
  omega

/-! ### What keeps a bucket sound -/

theorem Sound.drop (h : b.Sound slots Admits) {rest : List Contact}
    (sub : rest.Sublist b.contacts) : Sound slots Admits { b with contacts := rest } :=
  ⟨h.slots_eq, Nat.le_trans sub.length_le h.few, (sub.map Contact.id).nodup h.distinct,
    fun c member => h.admitted c (sub.subset member)⟩

/-- A contact under a new identifier comes to the end of some of the others. -/
theorem Sound.put (h : b.Sound slots Admits) {rest : List Contact} {newcomer : Contact}
    (sub : rest.Sublist b.contacts) (room : rest.length < slots)
    (new : ∀ c ∈ rest, c.id ≠ newcomer.id) (admitted : Admits newcomer.id) :
    Sound slots Admits { b with contacts := rest ++ [newcomer] } := by
  have kept := h.drop sub
  refine ⟨h.slots_eq, ?few, ?distinct, ?admitted⟩
  case few =>
    rw [List.length_append]
    exact room
  case distinct =>
    rw [ids, List.map_append]
    refine List.nodup_append.2 ⟨kept.distinct, List.pairwise_singleton _ _, ?_⟩
    intro one inRest other last
    obtain ⟨c, member, rfl⟩ := List.mem_map.1 inRest
    rw [List.mem_singleton.1 last]
    exact new c member
  case admitted =>
    intro c member
    rcases List.mem_append.1 member with old | last
    · exact kept.admitted c old
    · rw [List.mem_singleton.1 last]
      exact admitted

/-- A contact comes to the end that stands for one that was there. -/
theorem Sound.moved (h : b.Sound slots Admits) {known c : Contact} (member : known ∈ b.contacts)
    (same : c.id = known.id) :
    Sound slots Admits { b with contacts := b.others known.id ++ [c] } := by
  have size := length_others member
  have few := h.few
  refine h.put (others_sublist b known.id) (by omega) ?_ ?_
  · intro other inOthers
    rw [same]
    exact h.id_ne_of_mem_others inOthers
  · rw [same]
    exact h.admitted known member

theorem ids_modify {f : Contact → Contact} (keeps : ∀ c, c.id = id → (f c).id = id) :
    (b.modify id f).ids = b.ids := by
  refine List.ext_getElem (by simp [ids, modify]) fun i _ inside => ?_
  simp only [ids, modify, List.getElem_map, List.getElem_modify]
  rw [ids, List.length_map] at inside
  split
  · rename_i here
    subst here
    have here : (b.contacts[b.contacts.findIdx (·.id = id)]).id = id :=
      of_decide_eq_true (List.findIdx_getElem (p := fun c : Contact => decide (c.id = id)))
    rw [keeps _ here, here]
  · rfl

theorem Sound.modify (h : b.Sound slots Admits) {f : Contact → Contact}
    (keeps : ∀ c, c.id = id → (f c).id = id) : (b.modify id f).Sound slots Admits := by
  have same := ids_modify (b := b) keeps
  refine ⟨h.slots_eq, ?_, same ▸ h.distinct, fun c member => ?_⟩
  · simpa [Bucket.modify] using h.few
  · have known := List.mem_map_of_mem (f := Contact.id) member
    rw [← ids, same] at known
    obtain ⟨c', member', sameId⟩ := List.mem_map.1 known
    rw [← sameId]
    exact h.admitted c' member'

/-! ### The operations -/

/-- What an offer can make of a bucket. -/
inductive Offered (b : Bucket) (now : Moment) (newcomer : Contact) : Bucket → Offer → Prop
  | heard {known : Contact} : b.find? newcomer.id = some known →
      newcomer.lastActive.isSome = true → Offered b now newcomer
        { b with contacts := b.others known.id ++ [known.learn newcomer] } .updated
  | told {known : Contact} : b.find? newcomer.id = some known →
      newcomer.lastActive.isSome = false → Offered b now newcomer
        (b.modify known.id (·.learn newcomer)) .updated
  | free : b.find? newcomer.id = none → b.contacts.length < b.slots →
      Offered b now newcomer { b with contacts := b.contacts ++ [newcomer] } .inserted
  | instead {bad : Contact} : b.find? newcomer.id = none → ¬ b.contacts.length < b.slots →
      b.contacts.find? (·.status now = .bad) = some bad →
      Offered b now newcomer { b with contacts := b.others bad.id ++ [newcomer] } .inserted
  | full {oldest : Contact} {rest : List Contact} : b.find? newcomer.id = none →
      ¬ b.contacts.length < b.slots → b.contacts.find? (·.status now = .bad) = none →
      b.contacts = oldest :: rest → Offered b now newcomer b (.full oldest)

theorem offered_of_offer {newcomer : Contact} {outcome : Offer}
    (done : b.offer now newcomer = .ok (b', outcome)) : Offered b now newcomer b' outcome := by
  unfold offer at done
  split at done
  · rename_i known found
    cases talked : newcomer.lastActive.isSome <;> rw [talked] at done <;> cases done
    · exact .told found talked
    · exact .heard found talked
  · rename_i unknown
    split at done
    · rename_i room
      cases done
      exact .free unknown room
    · rename_i full
      split at done
      · rename_i bad found
        cases done
        exact .instead unknown full found
      · rename_i oldest rest noBad first
        cases done
        exact .full unknown full noBad first
      · cases done

/-- A bucket that has a slot at all has an answer to every offer. -/
theorem exists_offered (b : Bucket) (now : Moment) (newcomer : Contact) (usable : 1 ≤ b.slots) :
    ∃ b' outcome, b.offer now newcomer = .ok (b', outcome) ∧
      Offered b now newcomer b' outcome := by
  cases done : b.offer now newcomer with
  | ok result => exact ⟨result.1, result.2, rfl, offered_of_offer done⟩
  | error fault =>
    unfold offer at done
    split at done
    · cases done
    · split at done
      · cases done
      · rename_i full
        split at done
        · cases done
        · cases done
        · rename_i none
          rw [none] at full
          exact absurd usable full

theorem Sound.offered (h : b.Sound slots Admits) {newcomer : Contact} {outcome : Offer}
    (offered : Offered b now newcomer b' outcome) (admitted : Admits newcomer.id) :
    b'.Sound slots Admits := by
  cases offered with
  | heard found => exact h.moved (mem_of_find? found) (Contact.id_learn (id_of_find? found).symm)
  | told found =>
    have same := id_of_find? found
    exact h.modify fun c here => (Contact.id_learn (same.symm.trans here.symm)).trans here
  | free unknown room =>
    exact h.put (.refl _) (h.slots_eq ▸ room) (find?_eq_none_iff.1 unknown) admitted
  | @instead bad unknown _ found =>
    have size := length_others (List.mem_of_find?_eq_some found)
    have few := h.few
    have sub := others_sublist b bad.id
    refine h.put sub (by omega) ?_ admitted
    exact fun c other => find?_eq_none_iff.1 unknown c (sub.subset other)
  | full => exact h

theorem Sound.replace (h : b.Sound slots Admits) (oldest : Identifier) {newcomer : Contact}
    (admitted : Admits newcomer.id) : (b.replace oldest newcomer).1.Sound slots Admits := by
  unfold Bucket.replace
  split
  · exact h.modify fun c here => (Contact.id_learn here.symm).trans here
  · rename_i unknown
    have new := find?_eq_none_iff.1 (Option.not_isSome_iff_eq_none.1 unknown)
    have sub := others_sublist b oldest
    dsimp only
    split
    · rename_i room
      exact h.put sub (h.slots_eq ▸ room) (fun c other => new c (sub.subset other)) admitted
    · exact h.drop sub

theorem Sound.markSeen (h : b.Sound slots Admits) : (b.markSeen now id).Sound slots Admits := by
  unfold Bucket.markSeen
  split
  · rename_i known found
    have same := id_of_find? found
    subst same
    exact h.moved (mem_of_find? found) (Contact.id_touch now known.peer.address known)
  · exact h

end Bucket
end LocalSwarm
