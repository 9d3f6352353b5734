import Mathlib.Data.List.Nodup
import LocalSwarm.Call
import LocalSwarm.Proofs.Identifiers
import LocalSwarm.Proofs.Tables.Buckets

/-! Routing tables under everything that is done with them. Whatever the order, every contact
stands in them once, and in the bucket that its identifier belongs to. Conversations do nothing
else with a table, so this holds for any number of them at a time. Main statement:
`tables_stay_orderly`. -/
namespace LocalSwarm.RoutingTable

variable {t : RoutingTable} {localId : Identifier} {slots : Nat} {now : Moment}

/-! ### Buckets of a table -/

theorem index?_eq_some_iff {id : Identifier} {i : Fin 160} :
    t.index? id = some i ↔ t.localId.Shares id i := by
  rw [← Identifier.commonPrefix_eq_iff i.isLt, index?]
  split
  · exact ⟨fun same => by cases same; rfl, fun same => congrArg some (Fin.ext same)⟩
  · rename_i beyond
    exact iff_of_false nofun fun same => beyond (same ▸ i.isLt)

theorem bucket_setBucket (i j : Fin 160) (b : Bucket) :
    (t.setBucket i b).bucket j = if i = j then b else t.bucket j := by
  simp [bucket, setBucket, Vector.getElem_set, Fin.ext_iff]

theorem mem_buckets_iff {b : Bucket} : b ∈ t.buckets.toList ↔ ∃ i, t.bucket i = b := by
  rw [Vector.mem_toList_iff, Vector.mem_iff_getElem]
  exact ⟨fun ⟨i, less, same⟩ => ⟨⟨i, less⟩, same⟩, fun ⟨i, same⟩ => ⟨i, i.isLt, same⟩⟩

theorem mem_contacts_iff {c : Contact} : c ∈ t.contacts ↔ ∃ i, c ∈ (t.bucket i).contacts := by
  simp only [contacts, List.mem_flatMap, mem_buckets_iff, exists_exists_eq_and]

theorem mem_contacts_of_online {now : Moment} {p : Peer} (member : p ∈ t.online now) :
    ∃ c ∈ t.contacts, c.peer = p := by
  obtain ⟨b, inside, named⟩ := List.mem_flatMap.1 member
  obtain ⟨c, online, rfl⟩ := List.mem_map.1 named
  exact ⟨c, List.mem_flatMap.2 ⟨b, inside, (List.mem_filter.1 online).1⟩, rfl⟩

theorem mem_contacts_of_closest {now : Moment} {target : Identifier} {count : Nat} {p : Peer}
    (member : p ∈ t.closest now target count) : ∃ c ∈ t.contacts, c.peer = p :=
  mem_contacts_of_online (List.mem_mergeSort.1 (List.mem_of_mem_take member))

/-! ### Soundness -/

/-- Every bucket is sound, and is there for those who share just so many leading bits with us. -/
structure Sound (localId : Identifier) (slots : Nat) (t : RoutingTable) : Prop where
  ours : t.localId = localId
  bucket : ∀ i, (t.bucket i).Sound slots fun id => localId.Shares id i

/-- A table without contacts. -/
def fresh (localId : Identifier) (slots : Nat) : RoutingTable :=
  ⟨localId, Vector.replicate 160 (Bucket.empty slots)⟩

theorem sound_fresh : (fresh localId slots).Sound localId slots := by
  refine ⟨rfl, fun i => ?_⟩
  rw [bucket, fresh, Fin.getElem_fin, Vector.getElem_replicate]
  exact Bucket.sound_empty

theorem contacts_fresh (localId : Identifier) (slots : Nat) :
    (fresh localId slots).contacts = [] := by
  refine List.eq_nil_iff_forall_not_mem.2 fun c member => ?_
  obtain ⟨i, inside⟩ := mem_contacts_iff.1 member
  rw [fresh, bucket, Fin.getElem_fin, Vector.getElem_replicate] at inside
  cases inside

theorem Sound.admitted (h : t.Sound localId slots) {id : Identifier} {i : Fin 160}
    (index : t.index? id = some i) : localId.Shares id i :=
  h.ours ▸ index?_eq_some_iff.1 index

theorem Sound.setBucket (h : t.Sound localId slots) {i : Fin 160} {b : Bucket}
    (sound : b.Sound slots fun id => localId.Shares id i) :
    (t.setBucket i b).Sound localId slots := by
  refine ⟨h.ours, fun j => ?_⟩
  rw [bucket_setBucket]
  split
  · rename_i same
    subst same
    exact sound
  · exact h.bucket j

theorem Sound.offer (h : t.Sound localId slots) (usable : 1 ≤ slots) (now : Moment)
    (newcomer : Contact) :
    ∃ t' outcome, t.offer now newcomer = .ok (t', outcome) ∧ t'.Sound localId slots := by
  cases index : t.index? newcomer.id with
  | none => exact ⟨t, .ourselves, by rw [RoutingTable.offer, index], h⟩
  | some i =>
    have sound := h.bucket i
    obtain ⟨b, outcome, done, offered⟩ :=
      (t.bucket i).exists_offered now newcomer (sound.slots_eq ▸ usable)
    refine ⟨t.setBucket i b, outcome, ?_, h.setBucket (sound.offered offered (h.admitted index))⟩
    rw [RoutingTable.offer, index]
    dsimp only
    rw [done]
    rfl

theorem Sound.replace (h : t.Sound localId slots) (oldest : Identifier) (newcomer : Contact) :
    (t.replace oldest newcomer).1.Sound localId slots := by
  rw [RoutingTable.replace]
  split
  · rename_i i index
    exact h.setBucket ((h.bucket i).replace oldest (h.admitted index))
  · exact h

theorem Sound.markSeen (h : t.Sound localId slots) (now : Moment) (id : Identifier) :
    (t.markSeen now id).Sound localId slots := by
  rw [RoutingTable.markSeen]
  split
  · exact h.setBucket (h.bucket _).markSeen
  · exact h

theorem Sound.modify (h : t.Sound localId slots) {id : Identifier} {f : Contact → Contact}
    (keeps : ∀ c, c.id = id → (f c).id = id) : (t.modify id f).Sound localId slots := by
  rw [RoutingTable.modify]
  split
  · exact h.setBucket ((h.bucket _).modify keeps)
  · exact h

theorem Sound.requestFailed (h : t.Sound localId slots) (id : Identifier) :
    (t.requestFailed id).Sound localId slots :=
  h.modify fun c here => (Contact.id_fail c).trans here

/-! ### Turns -/

/-- A table and the time that it is. -/
structure Timed where
  table : RoutingTable
  now : Moment

/-- What is done with a table, or that time passes. -/
inductive Turn where
  | offer (newcomer : Contact)
  | replace (oldest : Identifier) (newcomer : Contact)
  | markSeen (id : Identifier)
  | requestFailed (id : Identifier)
  | elapse (span : Span)

namespace Timed

def turn (s : Timed) : Turn → Except Fault Timed
  | .offer newcomer => do
    let (table, _) ← s.table.offer s.now newcomer
    return { s with table }
  | .replace oldest newcomer => .ok { s with table := (s.table.replace oldest newcomer).1 }
  | .markSeen id => .ok { s with table := s.table.markSeen s.now id }
  | .requestFailed id => .ok { s with table := s.table.requestFailed id }
  | .elapse span => .ok { s with now := s.now + span }

def run (s : Timed) : List Turn → Except Fault Timed
  | [] => .ok s
  | turn :: turns => do
    let s ← s.turn turn
    s.run turns

/-- From one to the other by turns alone. -/
def Reaches (s s' : Timed) : Prop := ∃ turns, s.run turns = .ok s'

theorem run_append (s : Timed) (turns more : List Turn) :
    s.run (turns ++ more) = s.run turns >>= fun s => s.run more := by
  induction turns generalizing s with
  | nil => rfl
  | cons turn turns ih => simp only [List.cons_append, run, bind_assoc, ih]

theorem Reaches.refl (s : Timed) : s.Reaches s := ⟨[], rfl⟩

theorem Reaches.trans {s s' s'' : Timed} (first : s.Reaches s') (second : s'.Reaches s'') :
    s.Reaches s'' := by
  obtain ⟨turns, done⟩ := first
  obtain ⟨more, done'⟩ := second
  refine ⟨turns ++ more, ?_⟩
  rw [run_append, done]
  exact done'

theorem reaches_of_turn {s s' : Timed} (turn : Turn) (done : s.turn turn = .ok s') :
    s.Reaches s' := by
  refine ⟨[turn], ?_⟩
  rw [run, done]
  rfl

theorem reaches_of_offer {t' : RoutingTable} {newcomer : Contact} {outcome : Offer}
    (done : t.offer now newcomer = .ok (t', outcome)) : Reaches ⟨t, now⟩ ⟨t', now⟩ := by
  have offered : turn ⟨t, now⟩ (.offer newcomer) = .ok ⟨t', now⟩ := by
    rw [turn, done]
    rfl
  exact reaches_of_turn _ offered

end Timed

/-- No turn breaks a table, and none is without an answer. -/
theorem Sound.turn {s : Timed} (h : s.table.Sound localId slots) (usable : 1 ≤ slots)
    (turn : Turn) : ∃ s', s.turn turn = .ok s' ∧ s'.table.Sound localId slots := by
  cases turn with
  | offer newcomer =>
    obtain ⟨t, outcome, done, sound⟩ := h.offer usable s.now newcomer
    exact ⟨⟨t, s.now⟩, by rw [Timed.turn, done]; rfl, sound⟩
  | replace oldest newcomer => exact ⟨_, rfl, h.replace oldest newcomer⟩
  | markSeen id => exact ⟨_, rfl, h.markSeen s.now id⟩
  | requestFailed id => exact ⟨_, rfl, h.requestFailed id⟩
  | elapse span => exact ⟨_, rfl, h⟩

theorem Sound.run {s : Timed} (h : s.table.Sound localId slots) (usable : 1 ≤ slots)
    (turns : List Turn) : ∃ s', s.run turns = .ok s' ∧ s'.table.Sound localId slots := by
  induction turns generalizing s with
  | nil => exact ⟨s, rfl, h⟩
  | cons turn turns ih =>
    obtain ⟨next, done, sound⟩ := h.turn usable turn
    obtain ⟨last, rest, sound⟩ := ih sound
    exact ⟨last, by rw [Timed.run, done]; exact rest, sound⟩

theorem Sound.reached {s s' : Timed} (h : s.table.Sound localId slots) (usable : 1 ≤ slots)
    (reaches : s.Reaches s') : s'.table.Sound localId slots := by
  obtain ⟨turns, done⟩ := reaches
  obtain ⟨last, done', sound⟩ := h.run usable turns
  cases done.symm.trans done'
  exact sound

/-! ### Conversations -/

theorem Sound.addHearsay (h : t.Sound localId slots) (usable : 1 ≤ slots) (now : Moment)
    (ps : List Peer) :
    ∃ t', t.addHearsay now ps = .ok t' ∧ Timed.Reaches ⟨t, now⟩ ⟨t', now⟩ := by
  induction ps generalizing t with
  | nil => exact ⟨t, rfl, .refl _⟩
  | cons p ps ih =>
    obtain ⟨next, outcome, done, sound⟩ := h.offer usable now (.hearsay p)
    obtain ⟨last, rest, reaches⟩ := ih sound
    exact ⟨last, by rw [RoutingTable.addHearsay, done]; exact rest,
      (Timed.reaches_of_offer done).trans reaches⟩

theorem Sound.conclude (h : t.Sound localId slots) (usable : 1 ≤ slots) (now : Moment)
    (reply : Option Reply) :
    ∃ t' progress, Conversation.conclude t now reply = .ok (t', progress) ∧
      Timed.Reaches ⟨t, now⟩ ⟨t', now⟩ := by
  obtain ⟨t', done, reaches⟩ := h.addHearsay usable now ((reply.map Reply.told).getD [])
  exact ⟨t', _, by rw [Conversation.conclude, done]; rfl, reaches⟩

theorem Sound.observe (h : t.Sound localId slots) (usable : 1 ≤ slots) (now : Moment) (p : Peer) :
    ∃ t' challenge, t.observe now p = .ok (t', challenge) ∧
      Timed.Reaches ⟨t, now⟩ ⟨t', now⟩ ∧ t'.Sound localId slots := by
  obtain ⟨t', outcome, done, sound⟩ := h.offer usable now (.heard now p)
  have reaches := Timed.reaches_of_offer done
  cases outcome with
  | full oldest =>
    exact ⟨t', some ⟨oldest, p⟩, by rw [RoutingTable.observe, done]; rfl, reaches, sound⟩
  | ourselves | inserted | updated =>
    exact ⟨t', none, by rw [RoutingTable.observe, done]; rfl, reaches, sound⟩

/-- Conversations have an answer to everything, and all that they do with the table are turns. -/
structure Conversing (s : Timed) : Prop where
  observes : ∀ p reply, ∃ t progress,
    Conversation.observe s.table s.now p reply = .ok (t, progress) ∧ s.Reaches ⟨t, s.now⟩
  resumes : ∀ version answer (c : Conversation), ∃ t progress,
    c.resume version s.table s.now answer = .ok (t, progress) ∧ s.Reaches ⟨t, s.now⟩

theorem reaches_blame (t : RoutingTable) (now : Moment) (callee : Callee) :
    Timed.Reaches ⟨t, now⟩ ⟨Conversation.blame t callee, now⟩ := by
  cases callee with
  | contact peer => exact Timed.reaches_of_turn (.requestFailed peer.id) rfl
  | endpoint => exact .refl _

theorem reaches_settle (c : Challenge) (t : RoutingTable) (now : Moment) (met : Bool) :
    Timed.Reaches ⟨t, now⟩ ⟨c.settle t now met, now⟩ := by
  cases met with
  | true => exact Timed.reaches_of_turn (.markSeen c.oldest.id) rfl
  | false => exact Timed.reaches_of_turn (.replace c.oldest.id (.heard now c.newcomer)) rfl

theorem Sound.conversing {s : Timed} (h : s.table.Sound localId slots) (usable : 1 ≤ slots) :
    Conversing s := by
  have observes (p : Peer) (reply : Option Reply) : ∃ t progress,
      Conversation.observe s.table s.now p reply = .ok (t, progress) ∧ s.Reaches ⟨t, s.now⟩ := by
    obtain ⟨next, challenge, done, reaches, sound⟩ := h.observe usable s.now p
    cases challenge with
    | some challenge =>
      exact ⟨next, .waits (.challenging challenge reply),
        by rw [Conversation.observe, done], reaches⟩
    | none =>
      obtain ⟨last, progress, done', reaches'⟩ := sound.conclude usable s.now reply
      exact ⟨last, progress, by rw [Conversation.observe, done]; exact done',
        reaches.trans reaches'⟩
  refine ⟨observes, fun version answer c => ?_⟩
  cases c with
  | calling call =>
    rw [Conversation.resume]
    split
    · exact ⟨_, _, rfl, reaches_blame s.table s.now call.callee⟩
    · split
      · exact ⟨s.table, _, rfl, .refl s⟩
      · exact observes _ _
  | challenging challenge reply =>
    have settled := reaches_settle challenge s.table s.now (challenge.isMet answer)
    have sound := h.reached usable settled
    obtain ⟨last, progress, done, reaches⟩ := sound.conclude usable s.now reply
    exact ⟨last, progress, done, settled.trans reaches⟩

/-! ### What a sound table is like -/

/-- Everyone but ourselves, once, and in the bucket of the leading bits shared with us. -/
structure Orderly (localId : Identifier) (slots : Nat) (t : RoutingTable) : Prop where
  ours : t.localId = localId
  buckets : t.buckets.toList.length = 160
  placed : ∀ i, ∀ c ∈ (t.bucket i).contacts, localId.Shares c.id i
  distinct : (t.contacts.map Contact.id).Nodup
  few : ∀ i, (t.bucket i).contacts.length ≤ slots
  foreign : ∀ c ∈ t.contacts, c.id ≠ localId

theorem Sound.distinct (h : t.Sound localId slots) : (t.contacts.map Contact.id).Nodup := by
  rw [contacts, List.map_flatMap, List.nodup_flatMap]
  constructor
  · intro b member
    obtain ⟨i, rfl⟩ := mem_buckets_iff.1 member
    exact (h.bucket i).distinct
  -- A contact of two buckets would share two different numbers of leading bits with us.
  · rw [List.pairwise_iff_getElem]
    intro i j inside inside' before id first second
    rw [Vector.length_toList] at inside inside'
    obtain ⟨c, member, rfl⟩ := List.mem_map.1 first
    obtain ⟨c', member', same⟩ := List.mem_map.1 second
    have shares := (h.bucket ⟨i, inside⟩).admitted c member
    have shares' := (h.bucket ⟨j, inside'⟩).admitted c' member'
    rw [same] at shares'
    exact absurd (shares.unique shares') (Nat.ne_of_lt before)

theorem Sound.orderly (h : t.Sound localId slots) : t.Orderly localId slots := by
  refine ⟨h.ours, t.buckets.length_toList, fun i => (h.bucket i).admitted, h.distinct,
    fun i => (h.bucket i).few, ?_⟩
  intro c member
  obtain ⟨i, inside⟩ := mem_contacts_iff.1 member
  exact ((h.bucket i).admitted c inside).ne.symm

/-- Whatever is done with a table, and whenever, goes on without a fault and leaves it orderly. It
may have any number of slots but none; one that can be set aside is what tables are made with. -/
theorem tables_stay_orderly (localId : Identifier) (slots : Nat) (usable : 1 ≤ slots) :
    (slots ≤ slotLimit → create localId slots = .ok (fresh localId slots)) ∧
      ∀ now turns, ∃ s, Timed.run ⟨fresh localId slots, now⟩ turns = .ok s ∧
        s.table.Orderly localId slots ∧ Conversing s := by
  refine ⟨fun few => if_neg (Nat.not_lt.2 few), fun now turns => ?_⟩
  have start : (Timed.mk (fresh localId slots) now).table.Sound localId slots := sound_fresh
  obtain ⟨s, done, sound⟩ := start.run usable turns
  exact ⟨s, done, sound.orderly, sound.conversing usable⟩

/-! Two peers that contend for one slot, in which the second one turns out bad. -/

namespace Contention

def first : Peer := ⟨⟨3⟩, "studio", .v4 0x0a000003 4400⟩

def second : Peer := ⟨⟨2⟩, "loft", .v4 0x0a000002 4400⟩

def ourselves : Peer := ⟨⟨1⟩, "here", .v4 0x0a000001 4400⟩

def turns : List Turn :=
  [.offer (.heard 0 first), .offer (.heard 0 second), .replace first.id (.heard 0 second),
    .requestFailed second.id, .elapse 5, .requestFailed second.id, .offer (.hearsay first),
    .replace second.id (.silent second), .offer (.heard 5 ourselves), .markSeen first.id]

end Contention

theorem contention_stays_orderly :
    1 ≤ 1 ∧ ∃ s, Timed.run ⟨fresh Contention.ourselves.id 1, 0⟩ Contention.turns = .ok s ∧
      s.table.Orderly Contention.ourselves.id 1 ∧ Conversing s ∧
      s.table.contacts = [.heard 5 Contention.first] := by
  obtain ⟨-, stays⟩ := tables_stay_orderly Contention.ourselves.id 1 (by decide)
  obtain ⟨s, done, orderly, conversing⟩ := stays 0 Contention.turns
  refine ⟨by decide, s, done, orderly, conversing, ?_⟩
  have contacts : (Timed.run ⟨fresh Contention.ourselves.id 1, 0⟩ Contention.turns).toOption.map
      (fun s => s.table.contacts) = some [.heard 5 Contention.first] := by decide +kernel
  rw [done] at contacts
  exact Option.some.inj contacts

end LocalSwarm.RoutingTable
