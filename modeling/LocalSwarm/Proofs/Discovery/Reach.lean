import LocalSwarm.Proofs.Activities.Safety
import LocalSwarm.Proofs.Activities.Wording
import LocalSwarm.Proofs.Discovery.Filters

/-! Where a peer is reached that has announced itself, from the datagram over the handshake to all
later calls. The host is the one that the datagram came from. Its scope gets as far as the handshake:
no contact that a node has learned of has one. Main statement: `greeted_contact_has_no_scope`. -/
namespace LocalSwarm

/-- The scope in which an address is meant, or zero. -/
def SocketAddr.scope : SocketAddr → UInt32
  | .v4 .. => 0
  | .v6 _ _ _ scope => scope

theorem SocketAddr.scope_withPort (address : SocketAddr) (port : UInt16) :
    (address.withPort port).scope = address.scope := by
  cases address <;> rfl

theorem SocketAddr.Unscoped.scope {address : SocketAddr} (unscoped : address.Unscoped) :
    address.scope = 0 := by
  cases address with
  | v4 => rfl
  | v6 => exact unscoped.2

theorem Sender.address_peerAt (s : Sender) (host : IpAddr) :
    (s.peerAt host).address.ip = host ∧ (s.peerAt host).address.port = s.port ∧
      (s.peerAt host).address.Unscoped := by
  cases host with
  | v4 => exact ⟨rfl, rfl, trivial⟩
  | v6 => exact ⟨rfl, rfl, rfl, rfl⟩

/-! ### Handshakes -/

namespace RoutingTable

variable {t t' : RoutingTable} {localId : Identifier} {slots : Nat} {now : Moment}

/-- What observing a peer comes to: it is ourselves, it is in the table as it was heard, or somebody
is challenged for it. -/
inductive Observed (localId : Identifier) (p : Peer) : RoutingTable → Option Challenge → Prop
  | ourselves {t : RoutingTable} : p.id = localId → Observed localId p t none
  | recorded {t : RoutingTable} {c : Contact} : t.find? p.id = some c → c.peer = p →
      Observed localId p t none
  | disputed {t : RoutingTable} {challenge : Challenge} : challenge.newcomer = p →
      Observed localId p t (some challenge)

theorem Sound.observed (h : t.Sound localId slots) (usable : 1 ≤ slots) (now : Moment) (p : Peer) :
    ∃ t' challenge, t.observe now p = .ok (t', challenge) ∧ Observed localId p t' challenge := by
  cases index : t.index? p.id with
  | none =>
    have offered : t.offer now (.heard now p) = .ok (t, .ourselves) := by
      have index' : t.index? (Contact.heard now p).id = none := index
      rw [RoutingTable.offer, index']
    exact ⟨t, none, by rw [RoutingTable.observe, offered]; rfl,
      .ourselves (h.eq_of_index?_eq_none index)⟩
  | some i =>
    rcases h.seated_or_full usable now index with
      ⟨t', done, -, look⟩ | ⟨oldest, rest, done, -, -⟩
    · exact ⟨t', none, done, .recorded look rfl⟩
    · exact ⟨t, _, done, .disputed rfl⟩

end RoutingTable

/-- What a handshake has come to: its contact is returned and recorded, unless it is ourselves, or
waits for somebody to be challenged for it. -/
inductive Greeted (localId : Identifier) (reply : Reply) : RoutingTable → Progress → Prop
  | ended {t : RoutingTable} : RoutingTable.Observed localId reply.peer t none →
      Greeted localId reply t (.ended (some (.ok reply)))
  | waits {t : RoutingTable} {challenge : Challenge} : challenge.newcomer = reply.peer →
      Greeted localId reply t (.waits (.challenging challenge (some reply)))

/-! ### Whatever a service does -/

/-- A regime under which nobody is told of in a scope. -/
def Regime.unscoped (start : Node) (began : Moment) : Regime where
  start
  began
  files _ := True
  welcome p := p.address.Unscoped
  blamed _ := True
  asks _ := True
  breaks _ := True

namespace Regime

variable {start : Node} {began : Moment}

theorem free_unscoped (start : Node) (began : Moment) : (unscoped start began).Free :=
  ⟨fun _ => trivial, fun _ => trivial, fun _ => trivial, fun _ => trivial⟩

theorem lawful_unscoped {localId : Identifier} {slots : Nat}
    (sound : start.table.Sound localId slots) : (unscoped start began).Lawful := by
  refine ⟨⟨localId, slots, sound, .inr fun _ => trivial⟩, fun body m decoded => ?_⟩
  have lawful : (clear start began).Lawful := lawful_clear sound
  have brings := lawful.brings body m decoded
  exact ⟨fun host => (brings.sender host).address,
    fun p response responds q told => (brings.told p response responds q told).address⟩

end Regime

/-- Whatever a service does and is answered, and whoever asks it: as long as it is not told of others
in a scope, no contact of its table gets one. -/
theorem Service.contacts_unscoped (s : Service) {localId : Identifier} {slots : Nat}
    (sound : s.node.table.Sound localId slots)
    (before : ∀ c ∈ s.node.table.contacts, c.peer.address.Unscoped) {files : Files.Tree}
    {now : Moment} {os : List Occurrence}
    (told : ∀ peers, .told peers ∈ os → ∀ p ∈ peers, p.address.Unscoped) {a : Activity}
    (done : Activity.run s (.idle ⟨s.node, files, now⟩) os = .ok a) :
    ∀ c ∈ a.site.node.table.contacts, c.peer.address.Unscoped := by
  have permitted (o : Occurrence) (member : o ∈ os) :
      (Regime.unscoped s.node now).Permits s o :=
    (Regime.free_unscoped s.node now).permits s fun peers same => told peers (same ▸ member)
  have kept := ((Regime.unscoped s.node now).kept_idle files).run
    (Regime.lawful_unscoped sound) s os permitted
  refine RoutingTable.Sound.kept_of_goes (s := ⟨s.node.table, now⟩) sound ?enters ?learns ?seen
    ?failed (kept.of_ok done).becomes.goes before
  case enters =>
    intro c fit _
    exact fit
  case learns =>
    intro known newcomer fit fit' _ _
    unfold Contact.learn
    split
    · exact fit'
    · split
      · exact fit'
      · exact fit
  case seen =>
    intro c _ fit
    exact fit
  case failed =>
    intro c fit _
    exact fit

namespace Discovery

/-- An announcement was accepted, and whoever is greeted where it points to greets back. The contact
is reached at the host that the announcement came from and the port of the header of the answer, but
never in a scope, even though the announcement came from one and was answered in it. Nor do later
calls go there in one: whatever the service does from then on, as long as it is not told of others in
a scope, no contact of its table has one. -/
theorem greeted_contact_has_no_scope (f : Filter) (arrival : Arrival) (found : DiscoveredPeer)
    (accepted : (f.accept arrival.moment arrival.datagram arrival.source).2 = some found)
    (t : RoutingTable) (localId : Identifier) (slots : Nat) (sound : t.Sound localId slots)
    (usable : 1 ≤ slots) (now : Moment) (greeting g : Greeting) (m : Message)
    (greets : m.body = .response (.acknowledge g)) (same : g.version = greeting.version) :
    let p := m.sender.peerAt arrival.source.ip
    found.address.ip = arrival.source.ip ∧ found.address.scope = arrival.source.scope ∧
      p.address.ip = arrival.source.ip ∧ p.address.port = m.sender.port ∧ p.address.scope = 0 ∧
      (∃ t' progress, Conversation.resume greeting.version t now (.ok m)
          (.calling ⟨.endpoint found.address, .acknowledge greeting⟩) = .ok (t', progress) ∧
        Greeted localId ⟨p, .acknowledge g⟩ t' progress) ∧
      ∀ (s : Service) (files : Files.Tree) (os : List Occurrence) (a : Activity),
        s.node.table = t → (∀ c ∈ t.contacts, c.peer.address.Unscoped) →
        (∀ peers, .told peers ∈ os → ∀ q ∈ peers, q.address.Unscoped) →
        Activity.run s (.idle ⟨s.node, files, now⟩) os = .ok a →
        ∀ c ∈ a.site.node.table.contacts, c.peer.address.scope = 0 := by
  intro p
  have handled := Filter.handled_accept f arrival
  rw [accepted] at handled
  obtain ⟨a, -, announces⟩ := handled.announces
  have address : found.address = arrival.source.withPort a.port :=
    congrArg DiscoveredPeer.address (announces_iff.1 announces)
  obtain ⟨host, port, unscoped⟩ := m.sender.address_peerAt arrival.source.ip
  refine ⟨announces.host, ?scope, host, port, unscoped.scope, ?handshake, ?later⟩
  case scope => rw [address, SocketAddr.scope_withPort]
  case later =>
    rintro s files os a rfl before told done c member
    exact (s.contacts_unscoped sound before told done c member).scope
  obtain ⟨t', challenge, observed, comes⟩ := sound.observed usable now p
  have read : Answer.read .acknowledge (.ok m) = .ok (m.sender, .acknowledge g) :=
    Answer.read_eq_ok_iff.2 ⟨m, rfl, rfl, greets, rfl⟩
  have resumed : Conversation.resume greeting.version t now (.ok m)
      (.calling ⟨.endpoint found.address, .acknowledge greeting⟩) =
        Conversation.observe t now p (some ⟨p, .acknowledge g⟩) := by
    simp only [Conversation.resume, Request.operation, read, Conversation.admits, same,
      Callee.address, announces.host]
    rfl
  rw [resumed, Conversation.observe, observed]
  cases challenge with
  | none => exact ⟨t', _, rfl, .ended comes⟩
  | some challenge =>
    cases comes with
    | disputed newcomer => exact ⟨t', _, rfl, .waits newcomer⟩

/-! A peer announces itself from a link-local address of the second interface, and greets back. -/

namespace LinkLocal

open Filter.Thrice (announcement hello peer)

def filter : Filter := .create "loft" 1 30

def greeting : Greeting := ⟨1, []⟩

def answer : Message := ⟨0, ⟨⟨3⟩, 4400, "studio"⟩, .response (.acknowledge greeting)⟩

def handshake : Except Fault (RoutingTable × Progress) :=
  Conversation.resume 1 (RoutingTable.fresh ⟨1⟩ 1) 0 (.ok answer)
    (.calling ⟨.endpoint peer.address, .acknowledge greeting⟩)

/-- Join whoever has announced itself: the handshake, and the first call after it. -/
def service : Service :=
  .allocated { Settings.standard with bucketSlots := 1, version := 1 } ⟨1⟩ 4400 .nothing none

def joining : List Occurrence :=
  [.began (.join peer.address), .departed 0 0,
    .answered 0 0 fun _ m => .ok { answer with correlation := m.correlation }.encode]

def joined : Except Fault Activity :=
  Activity.run service (.idle ⟨service.node, .empty, 0⟩) joining

def calledAt (a : Activity) : List SocketAddr :=
  a.undertakings.flatMap fun u => u.strands.map (·.conversation.request.1)

def returned : Progress → Option Peer
  | .ended (some (.ok reply)) => some reply.peer
  | _ => none

theorem accepted :
    (filter.accept (hello 0).moment (hello 0).datagram (hello 0).source).2 = some peer := by
  have fresh : (filter.window.insert 0 (announcement.machine, announcement.correlation)).2 = true :=
    ((DuplicateWindow.agrees_create 30 0).insert_iff _).2 nofun
  have concerned : filter.concerns announcement = true := by decide
  rw [Filter.accept, Filter.Thrice.read 0]
  dsimp only
  rw [if_pos concerned]
  exact congrArg Prod.snd (if_pos fresh)

theorem studio_is_greeted_in_its_scope :
    (filter.accept (hello 0).moment (hello 0).datagram (hello 0).source).2 = some peer ∧
      peer.address.scope = 2 ∧
      (∃ t progress, handshake = .ok (t, progress) ∧
        Greeted ⟨1⟩ ⟨answer.sender.peerAt peer.address.ip, .acknowledge greeting⟩ t progress) ∧
      ∃ a, joined = .ok a ∧
        a.site.node.table.contacts.map (·.peer.address) = [peer.address.ip.atPort 4400] ∧
        ∀ c ∈ a.site.node.table.contacts, c.peer.address.scope = 0 := by
  obtain ⟨-, -, -, -, -, greeted, later⟩ := greeted_contact_has_no_scope filter (hello 0) peer
    accepted (RoutingTable.fresh ⟨1⟩ 1) ⟨1⟩ 1 RoutingTable.sound_fresh (by decide) 0 greeting
    greeting answer rfl rfl
  have known : joined.toOption.map (·.site.node.table.contacts.map (·.peer.address)) =
      some [peer.address.ip.atPort 4400] := by decide +kernel
  obtain ⟨a, done, contacts⟩ := Option.map_eq_some_iff.1 known
  have ends : joined = .ok a := by
    cases joins : joined with
    | ok b =>
      rw [joins] at done
      exact congrArg Except.ok (Option.some.inj done)
    | error fault =>
      rw [joins] at done
      cases done
  exact ⟨accepted, rfl, greeted, a, ends, contacts,
    later service .empty joining a rfl (List.forall_mem_nil _) (by simp [joining]) ends⟩

/-- It is neither returned nor recorded nor called again in the scope that it answered in. -/
theorem studio_is_recorded_out_of_reach :
    (filter.accept (hello 0).moment (hello 0).datagram (hello 0).source).2 = some peer ∧
      handshake.toOption.map (fun (t, progress) =>
          (t.contacts.map (·.peer.address), (returned progress).map (·.address))) =
        some ([peer.address.ip.atPort 4400], some (peer.address.ip.atPort 4400)) ∧
      joined.toOption.map calledAt = some [peer.address.ip.atPort 4400] ∧
      peer.address.scope = 2 ∧ (peer.address.ip.atPort 4400).scope = 0 :=
  ⟨accepted, by decide +kernel, by decide +kernel, rfl, rfl⟩

end LinkLocal
end Discovery

end LocalSwarm
