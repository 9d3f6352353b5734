import LocalSwarm.Proofs.Activities.Blame
import LocalSwarm.Proofs.Lookups.Refreshing

/-! Conversations with residents: with peers that answer under their own identifiers and from the
ports at which they are called. Whoever is asked for contacts has answered after at most one
challenge, and nobody is harmed. Main statement: `Underway.resumes`. -/
namespace LocalSwarm
open RoutingTable

/-- Whom a conversation asks, if it is a contact. -/
def Conversation.asked? : Conversation → Option Peer
  | .calling ⟨.contact p, _⟩ => some p
  | .calling ⟨.endpoint _, _⟩ => none
  | .challenging challenge _ => some challenge.oldest.peer

/-- Whoever lives at an address answers pings and searches for contacts there, under its own
identifier and from the same port, and names none but residents. -/
def Surroundings.Faithful (surroundings : Surroundings) (lives : Identifier → SocketAddr → Prop)
    (localId : Identifier) : Prop :=
  ∀ c m p, c.asked? = some p → lives p.id p.address → m.body = .request c.request.2 →
    (c.request.2 = .ping ∨ ∃ target count, c.request.2 = .findNode target count) →
    ∃ body reply response, surroundings c m = .ok body ∧ Message.decode body = .ok reply ∧
      reply.sender.id = p.id ∧ reply.sender.port = p.address.port ∧
      reply.body = .response response ∧ response.operation = c.request.2.operation ∧
      ∀ q ∈ (Reply.mk p response).told, Resident lives localId q

/-- Whoever answers a call to a contact is observed. -/
theorem Conversation.resume_of_read {version : UInt16} {t : RoutingTable} {now : Moment}
    {answer : Answer} {p : Peer} {request : Request} {sender : Sender} {response : Response}
    (answered : answer.read request.operation = .ok (sender, response)) :
    resume version t now answer (.calling ⟨.contact p, request⟩) =
      observe t now (sender.peerAt p.address.ip) (some ⟨sender.peerAt p.address.ip, response⟩) := by
  rw [resume, answered]
  rfl

variable {lives : Identifier → SocketAddr → Prop} {localId : Identifier} {slots : Nat}

/-- How far a call to a resident has come: it has not been answered, or a contact of the same bucket
is challenged that is in the table still. -/
inductive Underway (lives : Identifier → SocketAddr → Prop) (localId : Identifier) (s : Site) :
    Call → Conversation → Prop
  | calling (call : Call) : Underway lives localId s call (.calling call)
  | challenging {p : Peer} {request : Request} {challenge : Challenge} {reply : Reply}
      {ps : List Peer} {i : Fin 160} {c : Contact} : localId.Shares p.id i →
      localId.Shares challenge.oldest.id i → s.node.table.find? challenge.oldest.id = some c →
      c.isOnline s.now = true → lives challenge.oldest.id challenge.oldest.peer.address →
      reply.response = .findNode ps → (∀ q ∈ ps, Resident lives localId q) →
      Underway lives localId s ⟨.contact p, request⟩ (.challenging challenge (some reply))

/-- The site with another table. -/
def Site.withTable (s : Site) (table : RoutingTable) : Site :=
  { s with node := { s.node with table } }

namespace Site.AtHome

variable {s : Site}

theorem withTable (home : s.AtHome lives localId slots) {table : RoutingTable}
    (settled : table.Settled lives localId slots) (prospers : s.node.table.Prospers s.now table) :
    s.Thrives lives localId slots (s.withTable table) :=
  ⟨home, ⟨home.ours, home.wanted, settled⟩, rfl, rfl, prospers⟩

theorem ask (home : s.AtHome lives localId slots) (request : Request) :
    s.Thrives lives localId slots { s with node := (s.node.ask request).1 } :=
  ⟨home, ⟨home.ours, home.wanted, home.settled⟩, rfl, rfl, .refl _ _⟩

theorem index (home : s.AtHome lives localId slots) {id : Identifier} {i : Fin 160}
    (shares : localId.Shares id i) : s.node.table.index? id = some i :=
  index?_eq_some_iff.2 (home.settled.sound.ours.symm ▸ shares)

end Site.AtHome

namespace Underway

variable {s s' : Site} {call : Call} {c : Conversation}

theorem later (underway : Underway lives localId s call c)
    (thrives : s.Thrives lives localId slots s') : Underway lives localId s' call c := by
  cases underway with
  | calling => exact .calling call
  | challenging near near' found online resides named residents =>
    obtain ⟨c', found', online', -⟩ := thrives.prospers _ _ found online
    exact .challenging near near' found' (thrives.now.symm ▸ online') resides named residents

/-- What a faithful answer is read as. -/
theorem read {surroundings : Surroundings} (faithful : surroundings.Faithful lives localId)
    {p : Peer} (asked : c.asked? = some p) (resides : lives p.id p.address) {m : Message}
    (asks : m.body = .request c.request.2)
    (searches : c.request.2 = .ping ∨ ∃ target count, c.request.2 = .findNode target count) :
    ∃ sender response,
      (surroundings.answer c m).read c.request.2.operation = .ok (sender, response) ∧
      sender.id = p.id ∧ sender.port = p.address.port ∧
      response.operation = c.request.2.operation ∧
      ∀ q ∈ (Reply.mk p response).told, Resident lives localId q := by
  obtain ⟨body, reply, response, brought, decoded, id, port, responds, same, residents⟩ :=
    faithful c m p asked resides asks searches
  have room : (Wire.body m.body).length ≤ Node.bodyRoom := by
    rw [asks]
    rcases searches with ping | ⟨target, count, search⟩
    · rw [ping]
      exact Nat.zero_le _
    · rw [search]
      exact Node.length_search_le target count
  have answered : surroundings.answer c m = .ok reply :=
    Surroundings.answer_eq_ok_iff.2 ⟨Node.short_of_body room, body, brought, decoded⟩
  exact ⟨reply.sender, response, Answer.read_eq_ok_iff.2 ⟨reply, answered, rfl, responds, same⟩,
    id, port, same, residents⟩

/-- What comes of an answer: the call has ended as promised, or a challenge is out. -/
inductive Resumes (lives : Identifier → SocketAddr → Prop) (localId : Identifier) (slots : Nat)
    (s : Site) (call : Call) : Except Fault (RoutingTable × Progress) → Prop
  | ended {table : RoutingTable} {outcome : Outcome} :
      s.Thrives lives localId slots (s.withTable table) →
      (Promise.residential lives localId slots).answers (s.withTable table) call outcome →
      Resumes lives localId slots s call (.ok (table, .ended (some outcome)))
  | waits {c : Conversation} : Underway lives localId s call c →
      Resumes lives localId slots s call (.ok (s.node.table, .waits c))

/-- In the bucket of whoever was called there is a good contact. -/
theorem answers_of_hasGood {p : Peer} {request : Request} {reply : Reply} {ps : List Peer}
    (named : reply.response = .findNode ps) (residents : ∀ q ∈ ps, Resident lives localId q)
    {i : Fin 160} (near : localId.Shares p.id i) (good : s.HasGood i) :
    (Promise.residential lives localId slots).answers s ⟨.contact p, request⟩ (.ok reply) := by
  refine ⟨reply, ps, rfl, named, residents, ?_⟩
  rintro _ _ ⟨⟩ j near'
  obtain rfl : i = j := Fin.ext (near.unique near')
  exact good

section Answers

variable (home : s.AtHome lives localId slots) (usable : 1 ≤ slots) {surroundings : Surroundings}
  (faithful : surroundings.Faithful lives localId) {m : Message} (version : UInt16)
include home usable faithful

/-- Whoever is called is observed, at the address that the answer came from. -/
theorem resumes_call
    (rebuilt : ∀ id address, lives id address → lives id (address.ip.atPort address.port))
    {p : Peer} {target : Identifier} {count : UInt16} (foreign : p.id ≠ localId)
    (resides : lives p.id p.address) (sent : m.body = .request (.findNode target count)) :
    Resumes lives localId slots s ⟨.contact p, .findNode target count⟩
      (Conversation.resume version s.node.table s.now
        (surroundings.answer (.calling ⟨.contact p, .findNode target count⟩) m)
        (.calling ⟨.contact p, .findNode target count⟩)) := by
  obtain ⟨sender, response, answered, id, port, same, residents⟩ :=
    read (c := .calling ⟨.contact p, .findNode target count⟩) faithful rfl resides sent
      (.inr ⟨target, count, rfl⟩)
  dsimp only [Conversation.request] at answered
  obtain ⟨ps, rfl⟩ : ∃ ps, response = .findNode ps := by
    cases response <;> cases same
    exact ⟨_, rfl⟩
  have shares := Identifier.shares_commonPrefix foreign.symm
  let i : Fin 160 := ⟨_, shares.lt⟩
  have near : localId.Shares p.id i := shares
  let p' := sender.peerAt p.address.ip
  have named : p'.id = p.id := id
  have known : Resident lives localId p' := by
    intro _
    change lives sender.id (p.address.ip.atPort sender.port)
    rw [id, port]
    exact rebuilt p.id p.address resides
  have index : s.node.table.index? p'.id = some i := home.index (named.symm ▸ near)
  let reply : Reply := ⟨p', .findNode ps⟩
  have told : ∀ q ∈ reply.told, Resident lives localId q := residents
  rw [Conversation.resume_of_read answered]
  rcases home.settled.observe usable s.now index known told with
    ⟨table, done, settled, prospers, good⟩ | ⟨oldest, member, online, done⟩
  · rw [done]
    exact .ended (home.withTable settled prospers) (answers_of_hasGood rfl residents near good)
  · rw [done]
    have sound := home.settled.sound
    have near' := (sound.bucket i).admitted oldest member
    have resides' := home.settled.residents oldest (mem_contacts_iff.2 ⟨i, member⟩) near'.ne.symm
    exact .waits (.challenging near near' (sound.find?_of_mem member) online resides' rfl residents)

/-- Whoever is challenged meets the challenge, and the call ends with what was replied to it. -/
theorem resumes_challenge {p : Peer} {request : Request} {challenge : Challenge} {reply : Reply}
    {ps : List Peer} {i : Fin 160} {c : Contact} (near : localId.Shares p.id i)
    (near' : localId.Shares challenge.oldest.id i)
    (found : s.node.table.find? challenge.oldest.id = some c)
    (resides : lives challenge.oldest.id challenge.oldest.peer.address)
    (named : reply.response = .findNode ps) (residents : ∀ q ∈ ps, Resident lives localId q)
    (sent : m.body = .request .ping) :
    Resumes lives localId slots s ⟨.contact p, request⟩
      (Conversation.resume version s.node.table s.now
        (surroundings.answer (.challenging challenge (some reply)) m)
        (.challenging challenge (some reply))) := by
  obtain ⟨sender, response, answered, id, -, same, -⟩ :=
    read (c := .challenging challenge (some reply)) faithful rfl resides sent (.inl rfl)
  obtain rfl : response = .ping := by
    cases response <;> cases same
    rfl
  have met : challenge.isMet
      (surroundings.answer (.challenging challenge (some reply)) m) = true := by
    have pong : (surroundings.answer (.challenging challenge (some reply)) m).read .ping =
        .ok (sender, .ping) := answered
    rw [Challenge.isMet, pong]
    exact decide_eq_true id
  have told : ∀ q ∈ reply.told, Resident lives localId q := by
    rw [Reply.told, named]
    exact residents
  obtain ⟨table, done, settled, prospers, good⟩ :=
    home.settled.meet usable (home.index near') found told
  rw [Conversation.resume, met, done]
  exact .ended (home.withTable settled prospers) (answers_of_hasGood named residents near good)

/-- An answer to a call that is under way ends it as promised, or leads to a challenge. -/
theorem resumes
    (rebuilt : ∀ id address, lives id address → lives id (address.ip.atPort address.port))
    (underway : Underway lives localId s call c)
    (asks : (Promise.residential lives localId slots).asks call)
    (sent : m.body = .request c.request.2) :
    Resumes lives localId slots s call
      (c.resume version s.node.table s.now (surroundings.answer c m)) := by
  cases underway with
  | calling =>
    obtain ⟨p, target, count, rfl, foreign, resides⟩ := asks
    exact resumes_call home usable faithful version rebuilt foreign resides sent
  | challenging near near' found _ resides named residents =>
    exact resumes_challenge home usable faithful version near near' found resides named residents
      sent

end Answers

end Underway
end LocalSwarm
