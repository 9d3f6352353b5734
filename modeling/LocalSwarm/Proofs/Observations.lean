import LocalSwarm.Proofs.InTurn
import LocalSwarm.Proofs.Tables.Challenges
import LocalSwarm.Proofs.Tables.Company

/-! Observing a peer from the offer to the end of the challenge, whatever comes back for the one ping
that this takes at most. Main statement: `observing_seats_or_keeps`. -/
namespace LocalSwarm

/-! ### What a challenge leaves -/

theorem Challenge.isMet_iff {c : Challenge} {answer : Answer} : c.isMet answer = true ↔
    ∃ m, answer = .ok m ∧ m.body = .response .ping ∧ m.sender.id = c.oldest.id := by
  constructor
  · intro met
    unfold isMet at met
    split at met
    · next sender read =>
      obtain ⟨m, rfl, rfl, body, -⟩ := Answer.read_eq_ok_iff.1 read
      exact ⟨m, rfl, body, of_decide_eq_true met⟩
    · cases met
  · rintro ⟨m, rfl, body, same⟩
    have read : Answer.read .ping (.ok m) = .ok (m.sender, .ping) :=
      Answer.read_eq_ok_iff.2 ⟨m, rfl, rfl, body, rfl⟩
    rw [isMet, read]
    exact decide_eq_true same

namespace RoutingTable.Sound

variable {t : RoutingTable} {localId : Identifier} {slots : Nat} {now : Moment} {i : Fin 160}
  {oldest : Contact} {rest : List Contact} {p : Peer}

/-- A contact that was first in its bucket and has met a challenge is its last one, and the newcomer
is none. -/
theorem settle_met (h : t.Sound localId slots) (first : (t.bucket i).contacts = oldest :: rest)
    (absent : t.find? p.id = none) (later : Moment) :
    ((Challenge.mk oldest p).settle t later true).find? p.id = none ∧
      (((Challenge.mk oldest p).settle t later true).bucket i).contacts.getLast? =
        some (oldest.touch later oldest.peer.address) := by
  have member : oldest ∈ (t.bucket i).contacts := first ▸ List.mem_cons_self
  have index := h.index_of_mem member
  have found : (t.bucket i).find? oldest.id = some oldest :=
    (find?_of_index index).symm.trans (h.find?_of_mem member)
  rw [Challenge.settle, if_pos rfl]
  constructor
  · have other : p.id ≠ oldest.id := by
      intro same
      rw [same, h.find?_of_mem member] at absent
      cases absent
    rw [h.find?_markSeen, Function.update_of_ne other, absent]
  · rw [RoutingTable.markSeen, index]
    dsimp only
    rw [bucket_setBucket, if_pos rfl, Bucket.markSeen, found]
    exact List.getLast?_concat

/-- A contact that has not met a challenge has lost its slot to the newcomer. -/
theorem settle_unmet (h : t.Sound localId slots) (index : t.index? p.id = some i)
    (first : (t.bucket i).contacts = oldest :: rest) (absent : t.find? p.id = none)
    (later : Moment) :
    ((Challenge.mk oldest p).settle t later false).find? p.id = some (.heard later p) := by
  have member : oldest ∈ (t.bucket i).contacts := first ▸ List.mem_cons_self
  have index' : t.index? (Contact.heard later p).id = some i := index
  rw [Challenge.settle, if_neg Bool.false_ne_true]
  rcases h.replace_absent index' (h.index_of_mem member) absent with changed | ⟨gone, -⟩
  · rw [changed]
    exact Function.update_self ..
  · cases gone.symm.trans (h.find?_of_mem member)

end RoutingTable.Sound

namespace Simulation.World

/-- The requests that went out and the answers that came back, in their order. -/
structure Log where
  requests : List (SocketAddr × Message)
  answers : List Answer

def Log.empty : Log := ⟨[], []⟩

variable {ω : Type} {w : World ω} {s s' : ω} {p : Peer}

/-- A world in which all that is sent and received is written down. -/
def logged (w : World ω) : World (ω × Log) where
  site s := w.site s.1
  update s site := (w.update s.1 site, s.2)
  send s address message :=
    let (next, span) := w.send s.1 address message
    ((next, { s.2 with requests := s.2.requests ++ [(address, message)] }), span)
  receive s address message :=
    match w.receive s.1 address message with
    | .error fault => .error fault
    | .ok (next, answer) => .ok ((next, { s.2 with answers := s.2.answers ++ [answer] }), answer)

theorem receive_logged {address : SocketAddr} {message : Message} {answer : Answer}
    (received : w.receive s address message = .ok (s', answer)) (log : Log) :
    w.logged.receive (s, log) address message =
      .ok ((s', { log with answers := log.answers ++ [answer] }), answer) := by
  rw [World.logged]
  dsimp only
  rw [received]

/-! ### The course of an observation -/

/-- The node comes to another table. -/
def withTable (w : World ω) (s : ω) (t : RoutingTable) : ω :=
  w.update s { w.site s with node := { (w.site s).node with table := t } }

/-- The ping of a challenge goes out. -/
def challenge (w : World ω) (s : ω) (c : Challenge) : ω × Message × Span :=
  w.depart (w.withTable s (w.site s).node.table) (.challenging c none)

theorem Calm.table_withTable (calm : w.Calm) (s : ω) (t : RoutingTable) :
    (w.site (w.withTable s t)).node.table = t ∧ (w.site (w.withTable s t)).now = (w.site s).now := by
  rw [withTable, calm.update]
  exact ⟨rfl, rfl⟩

theorem Calm.table_challenge (calm : w.Calm) (s : ω) (c : Challenge) :
    (w.site (w.challenge s c).1).node.table = (w.site s).node.table := by
  rw [challenge, depart]
  dsimp only
  rw [calm.send, calm.update]
  exact (calm.table_withTable s _).1

theorem observe_of_seated {t : RoutingTable}
    (observed : (w.site s).node.table.observe (w.site s).now p = .ok (t, none)) :
    w.observe s p = .ok (w.withTable s t) := by
  rw [observe]
  dsimp only
  rw [Conversation.observe, observed]
  rfl

theorem observe_of_full {c : Challenge} {answer : Answer}
    (observed : (w.site s).node.table.observe (w.site s).now p =
      .ok ((w.site s).node.table, some c))
    (received : w.receive (w.challenge s c).1 c.oldest.peer.address (w.challenge s c).2.1 =
      .ok (s', answer)) :
    w.observe s p = .ok (w.withTable s'
      (c.settle (w.site s').node.table (w.site s').now (c.isMet answer))) := by
  have arrived : w.arrive (w.challenge s c).1 (.challenging c none) (w.challenge s c).2.1 =
      .ok (w.withTable s' (c.settle (w.site s').node.table (w.site s').now (c.isMet answer)),
        .ended none) := by
    rw [arrive, Conversation.request, received]
    rfl
  have conversed : w.converse (w.withTable s (w.site s).node.table) (.challenging c none) =
      .ok (w.withTable s' (c.settle (w.site s').node.table (w.site s').now (c.isMet answer)),
        none) := by
    rw [converse]
    dsimp only
    split
    · next failed => cases arrived.symm.trans failed
    · next ended =>
      cases arrived.symm.trans ended
      rfl
    · next waits => cases arrived.symm.trans waits
  rw [observe]
  dsimp only
  rw [Conversation.observe, observed]
  exact congrArg (Except.map Prod.fst) conversed

/-! ### What comes of it -/

/-- Whether there was just one answer, and a contact itself gave it to a ping. -/
def Log.Meets (log : Log) (oldest : Contact) : Prop :=
  ∃ m, log.answers = [.ok m] ∧ m.body = .response .ping ∧ m.sender.id = oldest.id

/-- Whether a peer has to get into a bucket: there was a slot for it, or the first contact did not
answer the ping. -/
def Log.Admits (log : Log) (b : Bucket) (now : Moment) (id : Identifier) : Prop :=
  b.Seats now id ∨ ∃ oldest, b.contacts.head? = some oldest ∧ ¬ log.Meets oldest

/-- An answer that can come back for a message. -/
def Gives (w : World ω) (address : SocketAddr) (message : Message) (answer : Answer) : Prop :=
  ∃ s s', w.receive s address message = .ok (s', answer)

/-- What has come of observing a peer that belongs into a bucket. -/
structure Concluded (w : World ω) (before after : Site) (i : Fin 160) (p : Peer) (log : Log) :
    Prop where
  seated : (∃ c, after.node.table.find? p.id = some c ∧ c.peer = p ∧ c.status after.now = .good) ↔
    log.Admits (before.node.table.bucket i) before.now p.id
  kept : ¬ log.Admits (before.node.table.bucket i) before.now p.id →
    after.node.table.find? p.id = none ∧
      ∃ oldest c, (before.node.table.bucket i).contacts.head? = some oldest ∧
        (after.node.table.bucket i).contacts.getLast? = some c ∧ c.id = oldest.id ∧
        c.status after.now = .good
  silent : (before.node.table.bucket i).Seats before.now p.id → log = .empty
  asked : ¬ (before.node.table.bucket i).Seats before.now p.id →
    ∃ oldest message answer, (before.node.table.bucket i).contacts.head? = some oldest ∧
      message.body = .request .ping ∧ w.Gives oldest.peer.address message answer ∧
      log = ⟨[(oldest.peer.address, message)], [answer]⟩

variable {before after : Site} {i : Fin 160}

theorem concluded_of_seated (seats : (before.node.table.bucket i).Seats before.now p.id)
    (now : after.now = before.now)
    (look : after.node.table.find? p.id = some (.heard before.now p)) :
    w.Concluded before after i p .empty where
  seated := iff_of_true
    ⟨_, look, rfl, Contact.good_of_heard (congrArg some now.symm) rfl⟩ (.inl seats)
  kept refused := absurd (.inl seats) refused
  silent _ := rfl
  asked full := absurd seats full

theorem concluded_of_full {localId : Identifier} {slots : Nat}
    (h : before.node.table.Sound localId slots) (index : before.node.table.index? p.id = some i)
    (full : ¬ (before.node.table.bucket i).Seats before.now p.id) {oldest : Contact}
    {rest : List Contact} (first : (before.node.table.bucket i).contacts = oldest :: rest)
    {message : Message} (ping : message.body = .request .ping) {answer : Answer}
    (gives : w.Gives oldest.peer.address message answer)
    (settled : after.node.table = (Challenge.mk oldest p).settle before.node.table after.now
      ((Challenge.mk oldest p).isMet answer)) :
    w.Concluded before after i p ⟨[(oldest.peer.address, message)], [answer]⟩ := by
  let log : Log := ⟨[(oldest.peer.address, message)], [answer]⟩
  have head : (before.node.table.bucket i).contacts.head? = some oldest := by
    rw [first, List.head?_cons]
  have absent : before.node.table.find? p.id = none := by
    rw [RoutingTable.find?_of_index index]
    by_contra known
    exact full (.inl (Option.isSome_iff_ne_none.2 known))
  -- What the log tells of the answer is all that the challenge looks at.
  have meets : log.Meets oldest ↔ (Challenge.mk oldest p).isMet answer = true := by
    rw [Challenge.isMet_iff]
    exact exists_congr fun m => and_congr_left' (by simp [log])
  have admits : log.Admits (before.node.table.bucket i) before.now p.id ↔
      ¬ (Challenge.mk oldest p).isMet answer = true := by
    rw [← meets, Log.Admits, or_iff_right full, head]
    exact ⟨fun ⟨_, same, refused⟩ => Option.some.inj same ▸ refused, fun refused => ⟨_, rfl, refused⟩⟩
  cases met : (Challenge.mk oldest p).isMet answer with
  | true =>
    obtain ⟨gone, last⟩ := h.settle_met first absent after.now
    rw [met] at settled
    rw [← settled] at gone last
    have refused : ¬ log.Admits _ _ _ := fun admitted => admits.1 admitted met
    refine ⟨iff_of_false ?_ refused, fun _ => ⟨gone, oldest, _, head, last, rfl, ?_⟩,
      fun seats => absurd seats full, fun _ => ⟨_, _, _, head, ping, gives, rfl⟩⟩
    · rintro ⟨c, look, -⟩
      cases gone.symm.trans look
    · exact Contact.good_of_heard rfl rfl
  | false =>
    have look := h.settle_unmet index first absent after.now
    rw [met] at settled
    rw [← settled] at look
    have admitted := admits.2 (Bool.not_eq_true _ ▸ met)
    exact ⟨iff_of_true ⟨_, look, rfl, Contact.good_of_heard rfl rfl⟩ admitted,
      fun refused => absurd admitted refused, fun seats => absurd seats full,
      fun _ => ⟨_, _, _, head, ping, gives, rfl⟩⟩

/-- A peer is observed in a world that does nothing else to the node, and that has some answer to
every request. Afterwards the peer is in the table and good if there was a slot for it, or if the
first contact of its bucket did not answer the ping; or else it is not in the table, and that
contact is the last one of the bucket and good. Nothing but this one ping is ever sent, and only if
there was no slot. -/
theorem observing_seats_or_keeps (calm : w.Calm)
    (answers : ∀ s address message, ∃ s' answer, w.receive s address message = .ok (s', answer))
    {localId : Identifier} {slots : Nat} (usable : 1 ≤ slots) {start : Moment}
    (reached : RoutingTable.Timed.Reaches ⟨RoutingTable.fresh localId slots, start⟩
      ⟨(w.site s).node.table, (w.site s).now⟩) (other : p.id ≠ localId) :
    ∃ i s' log, (w.site s).node.table.index? p.id = some i ∧ w.observe s p = .ok s' ∧
      w.logged.observe (s, .empty) p = .ok (s', log) ∧
      w.Concluded (w.site s) (w.site s') i p log := by
  have fresh : (RoutingTable.Timed.mk (RoutingTable.fresh localId slots) start).table.Sound localId
    slots := RoutingTable.sound_fresh
  have sound : (w.site s).node.table.Sound localId slots := fresh.reached usable reached
  obtain ⟨i, index⟩ := Option.ne_none_iff_exists'.1 (mt sound.eq_of_index?_eq_none other)
  refine ⟨i, ?_⟩
  rcases sound.seated_or_full usable (w.site s).now index with
    ⟨t, observed, seats, look⟩ | ⟨oldest, rest, observed, full, first⟩
  · obtain ⟨table, now⟩ := calm.table_withTable s t
    exact ⟨w.withTable s t, .empty, index, observe_of_seated observed,
      observe_of_seated (w := w.logged) (s := (s, .empty)) observed,
      concluded_of_seated seats now (table.symm ▸ look)⟩
  · let c : Challenge := ⟨oldest, p⟩
    -- Whoever is asked, the answer comes into the very table that the ping left from.
    obtain ⟨s', answer, received⟩ :=
      answers (w.challenge s c).1 oldest.peer.address (w.challenge s c).2.1
    obtain ⟨later, same⟩ := calm.receive _ _ _ _ _ received
    have before : (w.site s').node.table = (w.site s).node.table := by
      rw [same]
      exact calm.table_challenge s c
    let t := c.settle (w.site s').node.table (w.site s').now (c.isMet answer)
    let log : Log := ⟨[(oldest.peer.address, (w.challenge s c).2.1)], [answer]⟩
    obtain ⟨table, now⟩ := calm.table_withTable s' t
    have received' : w.logged.receive (w.logged.challenge (s, .empty) c).1 oldest.peer.address
        (w.logged.challenge (s, .empty) c).2.1 = .ok ((s', log), answer) := receive_logged received _
    refine ⟨w.withTable s' t, log, index, observe_of_full (c := c) observed received,
      observe_of_full (w := w.logged) (s := (s, .empty)) (c := c) observed received', ?_⟩
    refine concluded_of_full sound index full first rfl ⟨_, _, received⟩ ?_
    rw [table, now, ← before]

/-! The studio has the only slot of its bucket, and is silent. -/

section Sample

open RoutingTable.Rumours

theorem silent_contact_loses_its_slot :
    ∃ s : Site, RoutingTable.Timed.Reaches ⟨RoutingTable.fresh ⟨1⟩ 1, 0⟩ ⟨s.node.table, s.now⟩ ∧
      ∃ s' log, neighbours.logged.observe (s, .empty) loft = .ok (s', log) ∧
        log.requests.map Prod.fst = [studio.address] ∧
        ∃ c, s'.node.table.find? loft.id = some c ∧ c.peer = loft ∧ c.status s'.now = .good := by
  obtain ⟨s, done, -⟩ :=
    RoutingTable.exists_reachable ⟨1⟩ 1 (by decide) 0 [.offer (.heard 0 studio)]
  have there : (RoutingTable.Timed.run ⟨RoutingTable.fresh ⟨1⟩ 1, 0⟩
      [.offer (.heard 0 studio)]).toOption.map (fun s => ((s.table.index? loft.id).map fun i =>
        ((s.table.bucket i).contacts, (s.table.bucket i).slots), s.now)) =
      some (some ([.heard 0 studio], 1), 0) := by decide +kernel
  rw [done] at there
  obtain ⟨bucket, now⟩ := Prod.mk.inj (Option.some.inj there)
  let site : Site := ⟨Node.modest s.table, .empty, s.now⟩
  obtain ⟨i, s', log, index, -, observed, concluded⟩ := observing_seats_or_keeps calm_neighbours
    (fun s address message => ⟨_, _, rfl⟩) (by decide) (s := site) ⟨_, done⟩
    (p := loft) (by decide)
  have index' : s.table.index? loft.id = some i := index
  rw [index', Option.map_some, Option.some.injEq, Prod.mk.injEq] at bucket
  obtain ⟨contacts, slots⟩ := bucket
  have full : ¬ (s.table.bucket i).Seats s.now loft.id := by
    rw [Bucket.Seats, Bucket.find?, contacts, slots, now]
    decide
  obtain ⟨oldest, message, answer, head, -, ⟨_, _, gives⟩, rfl⟩ := concluded.asked full
  obtain rfl : Contact.heard 0 studio = oldest := by
    change (s.table.bucket i).contacts.head? = _ at head
    rw [contacts] at head
    exact Option.some.inj head
  cases gives
  have silent : ¬ Log.Meets ⟨[(studio.address, message)], [.error .timeout]⟩ (.heard 0 studio) := by
    rintro ⟨m, same, -⟩
    cases same
  exact ⟨site, ⟨_, done⟩, s', _, observed, rfl, concluded.seated.2 (.inr ⟨_, head, silent⟩)⟩

end Sample

end Simulation.World
end LocalSwarm
