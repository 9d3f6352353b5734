import Mathlib.Logic.Function.Basic
import LocalSwarm.Proofs.Tables.Turns

/-! What a turn does to the contacts of a table, seen as a function of their identifiers. A newcomer
that is known is learned from; another one enters, takes the slot of a contact that gives way, or is
refused; and a contact is seen or found silent. Main statement: `Sound.effect`. -/
namespace LocalSwarm

namespace Bucket

variable {slots : Nat} {Admits : Identifier → Prop} {b b' : Bucket} {id : Identifier}

/-! ### Looking for a contact in a bucket that has changed -/

theorem find?_eq_some_iff (distinct : b.ids.Nodup) {c : Contact} :
    b.find? id = some c ↔ c ∈ b.contacts ∧ c.id = id := by
  refine ⟨fun found => ⟨mem_of_find? found, id_of_find? found⟩, ?_⟩
  rintro ⟨member, rfl⟩
  cases found : b.find? c.id with
  | none => exact absurd rfl (find?_eq_none_iff.1 found c member)
  | some known =>
    rw [List.inj_on_of_nodup_map distinct (mem_of_find? found) member (id_of_find? found)]

theorem find?_modify {f : Contact → Contact} (keeps : ∀ c, c.id = id → (f c).id = id) :
    (b.modify id f).find? = Function.update b.find? id ((b.find? id).map f) := by
  funext k
  simp only [Function.update_apply, find?, modify]
  induction b.contacts with
  | nil => simp
  | cons c rest ih =>
    rw [List.findIdx_cons]
    by_cases here : c.id = id
    · subst here
      have same : (f c).id = c.id := keeps c rfl
      rw [decide_eq_true rfl, cond_true, List.modify_zero_cons]
      by_cases asked : k = c.id
      · simp [asked, same]
      · simp [asked, same, Ne.symm asked]
    · rw [decide_eq_false here, cond_false, List.modify_succ_cons, List.find?_cons, ih]
      by_cases asked : c.id = k
      · subst asked
        simp [here]
      · simp [here, asked]

theorem find?_modify_learn (b : Bucket) (newcomer : Contact) :
    (b.modify newcomer.id (·.learn newcomer)).find? = Function.update b.find? newcomer.id
      ((b.find? newcomer.id).map (·.learn newcomer)) :=
  find?_modify fun _ here => (Contact.id_learn here.symm).trans here

theorem find?_others (b : Bucket) {k : Identifier} (other : k ≠ id) :
    (b.others id).find? (·.id = k) = b.find? k := by
  rw [others, find?]
  induction b.contacts with
  | nil => rfl
  | cons c rest ih =>
    rw [List.eraseP_cons]
    by_cases here : c.id = id
    · simp [here, Ne.symm other]
    · rw [decide_eq_false here, cond_false, List.find?_cons, List.find?_cons, ih]

/-- A contact comes to the end of the others. -/
theorem Sound.find?_concat (h : b.Sound slots Admits) {c : Contact}
    (new : ∀ other ∈ b.others id, other.id ≠ c.id) :
    find? { b with contacts := b.others id ++ [c] } =
      Function.update (Function.update b.find? id none) c.id (some c) := by
  funext k
  simp only [Function.update_apply, find?, List.find?_append]
  by_cases last : k = c.id
  · have none : (b.others id).find? (·.id = k) = none := by
      simpa [last, List.find?_eq_none] using new
    rw [none, if_pos last]
    simp [last]
  · have other : ¬ c.id = k := Ne.symm last
    by_cases gone : k = id
    · have none : (b.others id).find? (·.id = k) = none := by
        simpa [gone, List.find?_eq_none] using fun c => h.id_ne_of_mem_others (c := c)
      rw [none, if_neg last, if_pos gone]
      simp [other]
    · rw [find?_others b gone, if_neg last, if_neg gone]
      simp [find?, other]

/-- A contact comes to the end that stands for one that was there. -/
theorem Sound.find?_moved (h : b.Sound slots Admits) {c : Contact} (same : c.id = id) :
    find? { b with contacts := b.others id ++ [c] } = Function.update b.find? id (some c) := by
  subst same
  rw [h.find?_concat fun other => h.id_ne_of_mem_others, Function.update_idem]

theorem Sound.find?_markSeen (h : b.Sound slots Admits) (now : Moment) (id : Identifier) :
    (b.markSeen now id).find? = Function.update b.find? id
      ((b.find? id).map fun c => c.touch now c.peer.address) := by
  rw [Bucket.markSeen]
  cases found : b.find? id with
  | none => exact (Function.update_eq_self_iff.2 found.symm).symm
  | some known =>
    exact h.find?_moved ((Contact.id_touch now known.peer.address known).trans (id_of_find? found))

theorem others_of_find?_eq_none (absent : b.find? id = none) : b.others id = b.contacts :=
  List.eraseP_of_forall_not fun c member => by simpa using find?_eq_none_iff.1 absent c member

/-- An unknown contact comes to the end of the others. -/
theorem Sound.find?_put (h : b.Sound slots Admits) {newcomer : Contact}
    (unknown : b.find? newcomer.id = none) (id : Identifier) :
    find? { b with contacts := b.others id ++ [newcomer] } =
      Function.update (Function.update b.find? id none) newcomer.id (some newcomer) :=
  h.find?_concat fun other member =>
    find?_eq_none_iff.1 unknown other ((others_sublist b id).subset member)

/-- Whether a bucket takes a peer at once: the peer is known there, or there is a slot for it, be it
free or that of a bad contact. -/
def Seats (b : Bucket) (now : Moment) (id : Identifier) : Prop :=
  (b.find? id).isSome = true ∨ b.contacts.length < b.slots ∨ ∃ c ∈ b.contacts, c.status now = .bad

/-! ### Replacing a contact -/

/-- What replacing a contact can make of a bucket. -/
inductive Replaced (b : Bucket) (oldest : Identifier) (newcomer : Contact) : Bucket → Bool → Prop
  | told {known : Contact} : b.find? newcomer.id = some known →
      Replaced b oldest newcomer (b.modify newcomer.id (·.learn newcomer)) true
  | instead : b.find? newcomer.id = none → (b.others oldest).length < b.slots →
      Replaced b oldest newcomer { b with contacts := b.others oldest ++ [newcomer] } true
  | full : b.find? newcomer.id = none → ¬ (b.others oldest).length < b.slots →
      Replaced b oldest newcomer { b with contacts := b.others oldest } false

theorem replaced_replace (b : Bucket) (oldest : Identifier) (newcomer : Contact) :
    Replaced b oldest newcomer (b.replace oldest newcomer).1 (b.replace oldest newcomer).2 := by
  unfold replace
  split
  · rename_i known
    exact .told (Option.eq_some_of_isSome known)
  · rename_i unknown
    rw [Option.not_isSome_iff_eq_none] at unknown
    dsimp only
    split
    · rename_i room
      exact .instead unknown room
    · rename_i full
      exact .full unknown full

/-- Whoever leaves a bucket leaves a slot, so from a bucket that stays full nobody has left. -/
theorem Sound.others_of_full (h : b.Sound slots Admits) (full : ¬ (b.others id).length < b.slots) :
    b.others id = b.contacts := by
  refine (others_sublist b id).eq_of_length_le ?_
  have few := h.few
  rw [h.slots_eq] at full
  omega

end Bucket

namespace RoutingTable

variable {t t' : RoutingTable} {localId : Identifier} {slots : Nat} {now : Moment}

/-! ### Looking for a contact in a table -/

theorem find?_of_index {id : Identifier} {i : Fin 160} (index : t.index? id = some i) :
    t.find? id = (t.bucket i).find? id := by
  rw [find?, index]
  rfl

theorem find?_ourselves {id : Identifier} (ourselves : t.index? id = none) : t.find? id = none := by
  rw [find?, ourselves]
  rfl

theorem find?_fresh (id : Identifier) : (fresh localId slots).find? id = none := by
  cases index : (fresh localId slots).index? id with
  | none => exact find?_ourselves index
  | some i =>
    rw [find?_of_index index, bucket, fresh, Fin.getElem_fin, Vector.getElem_replicate]
    rfl

theorem find?_setBucket (i : Fin 160) (b : Bucket) (id : Identifier) :
    (t.setBucket i b).find? id = if t.index? id = some i then b.find? id else t.find? id := by
  cases index : t.index? id with
  | none => rw [if_neg nofun, find?_ourselves index, find?_ourselves (t := t.setBucket i b) index]
  | some j =>
    rw [find?_of_index index, find?_of_index (t := t.setBucket i b) index, bucket_setBucket]
    by_cases same : i = j
    · rw [if_pos same, if_pos (congrArg some same.symm)]
    · rw [if_neg same, if_neg fun h => same (Option.some.inj h).symm]

theorem setBucket_bucket (i : Fin 160) : t.setBucket i (t.bucket i) = t := by
  rw [setBucket, bucket, Fin.getElem_fin, Vector.set_getElem_self]

theorem Sound.find?_eq_some_iff (h : t.Sound localId slots) {id : Identifier} {c : Contact} :
    t.find? id = some c ↔ c ∈ t.contacts ∧ c.id = id := by
  rw [mem_contacts_iff]
  constructor
  · intro found
    cases index : t.index? id with
    | none => cases (find?_ourselves index).symm.trans found
    | some i =>
      rw [find?_of_index index, Bucket.find?_eq_some_iff (h.bucket i).distinct] at found
      exact ⟨⟨i, found.1⟩, found.2⟩
  · rintro ⟨⟨i, member⟩, rfl⟩
    have index : t.index? c.id = some i :=
      index?_eq_some_iff.2 (h.ours.symm ▸ (h.bucket i).admitted c member)
    rw [find?_of_index index, Bucket.find?_eq_some_iff (h.bucket i).distinct]
    exact ⟨member, rfl⟩

/-- What changes under two identifiers of one bucket changes just so in the table. -/
theorem find?_setBucket_exchange {i : Fin 160} {b : Bucket} {id id' : Identifier}
    {c : Option Contact} (index : t.index? id = some i) (index' : t.index? id' = some i)
    (changed : b.find? = Function.update (Function.update (t.bucket i).find? id none) id' c) :
    (t.setBucket i b).find? = Function.update (Function.update t.find? id none) id' c := by
  funext k
  rw [find?_setBucket, changed]
  simp only [Function.update_apply]
  by_cases inside : t.index? k = some i
  · rw [if_pos inside, find?_of_index inside]
  · have other : k ≠ id := fun same => inside (same ▸ index)
    have other' : k ≠ id' := fun same => inside (same ▸ index')
    rw [if_neg inside, if_neg other', if_neg other]

theorem find?_setBucket_update {i : Fin 160} {b : Bucket} {id : Identifier} {c : Option Contact}
    (index : t.index? id = some i) (changed : b.find? = Function.update (t.bucket i).find? id c) :
    (t.setBucket i b).find? = Function.update t.find? id c := by
  rw [← Function.update_idem (f := t.find?) (a := id) none c]
  refine find?_setBucket_exchange index index ?_
  rw [changed, Function.update_idem]

/-- A change of one contact within its bucket, if it has one. -/
theorem find?_within {id : Identifier} {g : Bucket → Bucket} {f : Contact → Contact}
    (changed : ∀ i, t.index? id = some i → (g (t.bucket i)).find? =
      Function.update (t.bucket i).find? id (((t.bucket i).find? id).map f)) :
    (match t.index? id with
      | some i => t.setBucket i (g (t.bucket i))
      | none => t).find? = Function.update t.find? id ((t.find? id).map f) := by
  split
  · rename_i i index
    rw [find?_of_index index]
    exact find?_setBucket_update index (changed i index)
  · rename_i ourselves
    have absent := find?_ourselves ourselves
    rw [absent]
    exact (Function.update_eq_self_iff.2 absent.symm).symm

theorem Sound.find?_markSeen (h : t.Sound localId slots) (now : Moment) (id : Identifier) :
    (t.markSeen now id).find? = Function.update t.find? id
      ((t.find? id).map fun c => c.touch now c.peer.address) :=
  find?_within (g := fun b => b.markSeen now id) fun i _ => (h.bucket i).find?_markSeen now id

theorem find?_requestFailed (id : Identifier) : (t.requestFailed id).find? =
    Function.update t.find? id ((t.find? id).map Contact.fail) :=
  find?_within (g := fun b => b.modify id Contact.fail) fun _ _ =>
    Bucket.find?_modify fun c here => (Contact.id_fail c).trans here

/-! ### The effect of a turn -/

/-- Whom a turn offers to the table. -/
def Turn.newcomer? : Turn → Option Contact
  | .offer newcomer => some newcomer
  | .replace _ newcomer => some newcomer
  | .markSeen _ => none
  | .requestFailed _ => none
  | .elapse _ => none

/-- For whom a contact loses its slot: for a newcomer to its bucket, if it is bad and there is no
other slot, or if it is the one named to be replaced. -/
inductive GivesWay (s : Timed) (leaver : Contact) : Turn → Prop
  | bad {newcomer : Contact} {i : Fin 160} : s.table.index? newcomer.id = some i →
      leaver ∈ (s.table.bucket i).contacts → leaver.status s.now = .bad →
      (s.table.bucket i).slots ≤ (s.table.bucket i).contacts.length →
      GivesWay s leaver (.offer newcomer)
  | named {newcomer : Contact} {i : Fin 160} : s.table.index? newcomer.id = some i →
      leaver ∈ (s.table.bucket i).contacts → GivesWay s leaver (.replace leaver.id newcomer)

/-- What becomes of the contacts under their identifiers. -/
inductive Effect (s : Timed) : Turn → (Identifier → Option Contact) → Prop
  | learns {turn : Turn} {newcomer known : Contact} : turn.newcomer? = some newcomer →
      s.table.find? newcomer.id = some known → Effect s turn
        (Function.update s.table.find? newcomer.id (some (known.learn newcomer)))
  | enters {turn : Turn} {newcomer : Contact} : turn.newcomer? = some newcomer →
      s.table.find? newcomer.id = none → Effect s turn
        (Function.update s.table.find? newcomer.id (some newcomer))
  | exchanges {turn : Turn} {newcomer leaver : Contact} : turn.newcomer? = some newcomer →
      s.table.find? newcomer.id = none → s.table.find? leaver.id = some leaver →
      GivesWay s leaver turn → Effect s turn
        (Function.update (Function.update s.table.find? leaver.id none) newcomer.id (some newcomer))
  | refuses {turn : Turn} {newcomer : Contact} : turn.newcomer? = some newcomer →
      s.table.find? newcomer.id = none → Effect s turn s.table.find?
  | sees (id : Identifier) : Effect s (.markSeen id) (Function.update s.table.find? id
      ((s.table.find? id).map fun c => c.touch s.now c.peer.address))
  | fails (id : Identifier) : Effect s (.requestFailed id)
      (Function.update s.table.find? id ((s.table.find? id).map Contact.fail))
  | elapses (span : Span) : Effect s (.elapse span) s.table.find?

/-- An offer to a table is one to the bucket of the newcomer, unless that would be ourselves. -/
theorem offer_cases {newcomer : Contact} {outcome : Offer}
    (done : t.offer now newcomer = .ok (t', outcome)) :
    (t.index? newcomer.id = none ∧ t' = t ∧ outcome = .ourselves) ∨
      ∃ i b, t.index? newcomer.id = some i ∧ t' = t.setBucket i b ∧
        (t.bucket i).Offered now newcomer b outcome := by
  rw [offer] at done
  split at done
  · rename_i i index
    cases offered : (t.bucket i).offer now newcomer with
    | error fault =>
      rw [offered] at done
      cases done
    | ok result =>
      rw [offered] at done
      cases done
      exact .inr ⟨i, result.1, index, rfl, Bucket.offered_of_offer offered⟩
  · rename_i ourselves
    cases done
    exact .inl ⟨ourselves, rfl, rfl⟩

namespace Timed

variable {s s' : Timed}

theorem offer_of_turn {newcomer : Contact} (done : s.turn (.offer newcomer) = .ok s') :
    ∃ outcome, s.table.offer s.now newcomer = .ok (s'.table, outcome) ∧ s'.now = s.now := by
  rw [turn] at done
  cases offered : s.table.offer s.now newcomer with
  | error fault =>
    rw [offered] at done
    cases done
  | ok result =>
    rw [offered] at done
    cases done
    exact ⟨result.2, rfl, rfl⟩

theorem run_cons_eq_ok_iff {turn : Turn} {turns : List Turn} :
    s.run (turn :: turns) = .ok s' ↔ ∃ next, s.turn turn = .ok next ∧ next.run turns = .ok s' := by
  rw [run]
  constructor
  · intro done
    cases first : s.turn turn with
    | error fault =>
      rw [first] at done
      cases done
    | ok next =>
      rw [first] at done
      exact ⟨next, rfl, done⟩
  · rintro ⟨next, first, rest⟩
    rw [first]
    exact rest

end Timed

namespace Sound

variable {s s' : Timed} {newcomer : Contact} {outcome : Offer} {i : Fin 160} {b : Bucket}

theorem of_offer (h : t.Sound localId slots) (done : t.offer now newcomer = .ok (t', outcome)) :
    t'.Sound localId slots := by
  rcases offer_cases done with ⟨-, rfl, -⟩ | ⟨i, b, index, rfl, offered⟩
  · exact h
  · exact h.setBucket ((h.bucket i).offered offered (h.admitted index))

/-- A turn that comes to an end leaves a sound table, however many slots there are. -/
theorem of_turn (h : s.table.Sound localId slots) {turn : Turn} (done : s.turn turn = .ok s') :
    s'.table.Sound localId slots := by
  cases turn with
  | offer newcomer =>
    obtain ⟨outcome, offered, -⟩ := Timed.offer_of_turn done
    exact h.of_offer offered
  | replace oldest newcomer =>
    cases done
    exact h.replace oldest newcomer
  | markSeen id =>
    cases done
    exact h.markSeen s.now id
  | requestFailed id =>
    cases done
    exact h.requestFailed id
  | elapse span =>
    cases done
    exact h

theorem of_run (h : s.table.Sound localId slots) {turns : List Turn}
    (done : s.run turns = .ok s') : s'.table.Sound localId slots := by
  induction turns generalizing s with
  | nil =>
    cases done
    exact h
  | cons turn turns ih =>
    obtain ⟨next, first, rest⟩ := Timed.run_cons_eq_ok_iff.1 done
    exact ih (h.of_turn first) rest

theorem find?_of_mem (h : t.Sound localId slots) {c : Contact} (member : c ∈ (t.bucket i).contacts) :
    t.find? c.id = some c :=
  h.find?_eq_some_iff.2 ⟨mem_contacts_iff.2 ⟨i, member⟩, rfl⟩

/-- Tables of one node have the same bucket for an identifier. -/
theorem index?_eq (h : t.Sound localId slots) (h' : t'.Sound localId slots) (id : Identifier) :
    t'.index? id = t.index? id := by
  rw [index?, index?, h.ours, h'.ours]

theorem index_of_mem (h : t.Sound localId slots) {c : Contact}
    (member : c ∈ (t.bucket i).contacts) : t.index? c.id = some i :=
  index?_eq_some_iff.2 (h.ours.symm ▸ (h.bucket i).admitted c member)

theorem effect_offered (h : s.table.Sound localId slots)
    (index : s.table.index? newcomer.id = some i)
    (offered : (s.table.bucket i).Offered s.now newcomer b outcome) :
    Effect s (.offer newcomer) (s.table.setBucket i b).find? := by
  have sound := h.bucket i
  have look := find?_of_index index
  cases offered with
  | @heard known found =>
    have same := Bucket.id_of_find? found
    have learned : (known.learn newcomer).id = newcomer.id := (Contact.id_learn same.symm).trans same
    rw [same, find?_setBucket_update index (sound.find?_moved learned)]
    exact .learns rfl (look.trans found)
  | @told known found =>
    have learned := (s.table.bucket i).find?_modify_learn newcomer
    rw [Bucket.id_of_find? found, find?_setBucket_update index learned, found]
    exact .learns rfl (look.trans found)
  | free unknown =>
    have put := sound.find?_put unknown newcomer.id
    rw [Bucket.others_of_find?_eq_none unknown, Function.update_idem] at put
    rw [find?_setBucket_update index put]
    exact .enters rfl (look.trans unknown)
  | @instead bad unknown full found =>
    have member := List.mem_of_find?_eq_some found
    rw [find?_setBucket_exchange (h.index_of_mem member) index (sound.find?_put unknown bad.id)]
    exact .exchanges rfl (look.trans unknown) (h.find?_of_mem member)
      (.bad index member (by simpa using List.find?_some found) (Nat.le_of_not_lt full))
  | full unknown =>
    rw [setBucket_bucket]
    exact .refuses rfl (look.trans unknown)

theorem effect_replaced {oldest : Identifier} {done : Bool} (h : s.table.Sound localId slots)
    (index : s.table.index? newcomer.id = some i)
    (replaced : (s.table.bucket i).Replaced oldest newcomer b done) :
    Effect s (.replace oldest newcomer) (s.table.setBucket i b).find? := by
  have sound := h.bucket i
  have look := find?_of_index index
  cases replaced with
  | told found =>
    rw [find?_setBucket_update index ((s.table.bucket i).find?_modify_learn newcomer), found]
    exact .learns rfl (look.trans found)
  | instead unknown =>
    cases found : (s.table.bucket i).find? oldest with
    | none =>
      have put := sound.find?_put unknown oldest
      rw [← found, Function.update_eq_self] at put
      rw [find?_setBucket_update index put]
      exact .enters rfl (look.trans unknown)
    | some leaver =>
      have member := Bucket.mem_of_find? found
      rw [← Bucket.id_of_find? found, find?_setBucket_exchange (h.index_of_mem member) index
        (sound.find?_put unknown leaver.id)]
      exact .exchanges rfl (look.trans unknown) (h.find?_of_mem member) (.named index member)
  | full unknown full =>
    rw [sound.others_of_full full, setBucket_bucket]
    exact .refuses rfl (look.trans unknown)

theorem effect (h : s.table.Sound localId slots) {turn : Turn} (done : s.turn turn = .ok s') :
    Effect s turn s'.table.find? := by
  cases turn with
  | offer newcomer =>
    obtain ⟨outcome, offered, -⟩ := Timed.offer_of_turn done
    rcases offer_cases offered with ⟨ourselves, same, -⟩ | ⟨i, b, index, changed, offered⟩
    · rw [same]
      exact .refuses rfl (find?_ourselves ourselves)
    · rw [changed]
      exact h.effect_offered index offered
  | replace oldest newcomer =>
    cases done
    rw [RoutingTable.replace]
    split
    · rename_i i index
      exact h.effect_replaced index (Bucket.replaced_replace _ oldest newcomer)
    · rename_i ourselves
      exact .refuses rfl (find?_ourselves ourselves)
  | markSeen id =>
    cases done
    exact h.find?_markSeen s.now id ▸ .sees id
  | requestFailed id =>
    cases done
    exact find?_requestFailed id ▸ .fails id
  | elapse span =>
    cases done
    exact .elapses span

/-! ### Observing a peer -/

theorem eq_of_index?_eq_none (h : t.Sound localId slots) {id : Identifier}
    (ourselves : t.index? id = none) : id = localId := by
  by_contra other
  have shares := Identifier.shares_commonPrefix (a := localId) (b := id) (Ne.symm other)
  have index : t.index? id = some ⟨_, shares.lt⟩ := index?_eq_some_iff.2 (h.ours.symm ▸ shares)
  cases ourselves.symm.trans index

/-- A peer is in the table at once as it was heard, or the first contact of its bucket is challenged
for it. -/
theorem seated_or_full (h : t.Sound localId slots) (usable : 1 ≤ slots) (now : Moment) {p : Peer}
    (index : t.index? p.id = some i) :
    (∃ t', t.observe now p = .ok (t', none) ∧ (t.bucket i).Seats now p.id ∧
        t'.find? p.id = some (.heard now p)) ∨
      ∃ oldest rest, t.observe now p = .ok (t, some ⟨oldest, p⟩) ∧
        ¬ (t.bucket i).Seats now p.id ∧ (t.bucket i).contacts = oldest :: rest := by
  obtain ⟨t', outcome, done, sound⟩ := h.offer usable now (.heard now p)
  rcases offer_cases done with ⟨ourselves, -⟩ | ⟨j, b, index', rfl, offered⟩
  · cases ourselves.symm.trans index
  obtain rfl : j = i := Option.some.inj (index'.symm.trans index)
  -- Known or new, a peer that was heard comes to the end of its bucket, and nothing older is kept.
  have look {rest : List Contact} (last : b.contacts = rest ++ [.heard now p]) :
      (t.setBucket j b).find? p.id = some (.heard now p) := by
    refine sound.find?_of_mem (i := j) (c := .heard now p) ?_
    rw [bucket_setBucket, if_pos rfl, last]
    exact List.mem_append_right rest (List.mem_singleton_self _)
  rw [RoutingTable.observe, done]
  cases offered with
  | heard found => exact .inl ⟨_, rfl, .inl (Option.isSome_of_mem found), look rfl⟩
  | told _ silent => cases silent
  | free _ room => exact .inl ⟨_, rfl, .inr (.inl room), look rfl⟩
  | instead _ _ found =>
    have bad := List.find?_some found
    rw [decide_eq_true_eq] at bad
    exact .inl ⟨_, rfl, .inr (.inr ⟨_, List.mem_of_find?_eq_some found, bad⟩), look rfl⟩
  | full unknown full fine first =>
    refine .inr ⟨_, _, by rw [setBucket_bucket]; rfl, ?_, first⟩
    rintro (known | room | ⟨c, member, bad⟩)
    · cases known.symm.trans (congrArg Option.isSome unknown)
    · exact full room
    · exact List.find?_eq_none.1 fine c member (decide_eq_true bad)

end Sound

/-! ### Tables that can be come to -/

/-- A table that began without contacts and was turned any number of times. -/
def Reachable (t : RoutingTable) : Prop :=
  ∃ localId slots start s, Timed.Reaches ⟨fresh localId slots, start⟩ s ∧ s.table = t

theorem Reachable.sound (reached : t.Reachable) : ∃ localId slots, t.Sound localId slots := by
  obtain ⟨localId, slots, start, s, ⟨turns, done⟩, rfl⟩ := reached
  exact ⟨localId, slots, Sound.of_run (s := ⟨fresh localId slots, start⟩) sound_fresh done⟩

theorem exists_reachable (localId : Identifier) (slots : Nat) (usable : 1 ≤ slots) (start : Moment)
    (turns : List Turn) :
    ∃ s, Timed.run ⟨fresh localId slots, start⟩ turns = .ok s ∧ s.table.Reachable := by
  obtain ⟨s, done, -⟩ := Sound.run (s := ⟨fresh localId slots, start⟩) sound_fresh usable turns
  exact ⟨s, done, localId, slots, start, s, ⟨turns, done⟩, rfl⟩

end RoutingTable
end LocalSwarm
