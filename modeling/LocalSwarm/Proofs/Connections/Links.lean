import LocalSwarm.Connection.Serving
import LocalSwarm.Proofs.Connections.Frames

/-! One connection, with all that is on its way on it. As long as the exchanges on it are begun one
after the other, and each after the one before it was completed, whatever is on its way belongs to
the last one. -/
namespace LocalSwarm

/-- A message that a node took from a connection, and the node as it was then. -/
structure Handling where
  link : Nat
  address : SocketAddr
  host : IpAddr
  site : Site
  message : Message

namespace Handling

def reaction (h : Handling) : Node × Reaction :=
  h.site.node.react h.site.files h.site.now h.message h.host

/-- What was answered, if anything was. -/
def answer (h : Handling) : Option Message := h.reaction.2.reply

/-- The node afterwards. Whoever is to be observed is left for later. -/
def after (h : Handling) : Site := { h.site with node := h.reaction.1 }

end Handling

/-- What was asked on a connection to an address, in this order, and what of it was answered. -/
structure Ledger where
  address : SocketAddr
  asked : List Message
  answered : List Message

namespace Ledger

variable {b : Ledger} {m m' : Message}

/-- Every exchange was completed. -/
def Settled (b : Ledger) : Prop := b.answered = b.asked

/-- Every exchange was completed but the last one. -/
def Opened (b : Ledger) (m : Message) : Prop := b.asked = b.answered ++ [m]

def ask (b : Ledger) (m : Message) : Ledger := { b with asked := b.asked ++ [m] }

def conclude (b : Ledger) (m : Message) : Ledger := { b with answered := b.answered ++ [m] }

theorem Settled.ask (settled : b.Settled) (m : Message) : (b.ask m).Opened m := by
  rw [Opened, Ledger.ask, settled]

theorem Opened.conclude (opened : b.Opened m) : (b.conclude m).Settled := opened.symm

theorem Opened.not_settled (opened : b.Opened m) : ¬ b.Settled := by
  intro settled
  rw [Opened, settled] at opened
  simp at opened

theorem Opened.unique (opened : b.Opened m) (opened' : b.Opened m') : m = m' := by
  rw [Opened, opened'] at opened
  simpa using opened.symm

theorem Opened.mem (opened : b.Opened m) : m ∈ b.asked := by
  rw [opened]
  exact List.mem_append_right _ List.mem_cons_self

theorem mem_ask : m' ∈ (b.ask m).asked ↔ m' ∈ b.asked ∨ m' = m := by
  rw [ask, List.mem_append, List.mem_singleton]

end Ledger

structure Link extends Ledger where
  /-- Where it comes from, as the node at its other end sees it. -/
  host : IpAddr
  /-- Whether there still is somebody to serve it. -/
  serving : Bool
  /-- What of a request is yet to be written. -/
  unsent : Bytes
  outgoing : Bytes
  /-- What of an answer is yet to be written. -/
  replying : Bytes
  incoming : Bytes

namespace Link

def new (address : SocketAddr) (host : IpAddr) : Link := ⟨⟨address, [], []⟩, host, true, [], [], [], []⟩

/-- The exchange of a message is begun. -/
def ask (l : Link) (m : Message) : Link := { l with toLedger := l.toLedger.ask m, unsent := m.frame }

def send (l : Link) (count : Nat) : Link :=
  { l with unsent := l.unsent.drop count, outgoing := l.outgoing ++ l.unsent.take count }

/-- A frame was read at the other end, and this is to be written for it. What cannot be written ends
the service. -/
def take (l : Link) (rest : Bytes) : Except TransportError Bytes → Link
  | .ok bytes => { l with outgoing := rest, replying := bytes }
  | .error _ => { l with outgoing := rest, serving := false }

def reply (l : Link) (count : Nat) : Link :=
  { l with replying := l.replying.drop count, incoming := l.incoming ++ l.replying.take count }

def cut (l : Link) : Link := { l with serving := false }

/-- The answer to a message was read. -/
def conclude (l : Link) (m : Message) (rest : Bytes) : Link :=
  { l with toLedger := l.toLedger.conclude m, incoming := rest }

theorem toLedger_ask (l : Link) (m : Message) : (l.ask m).toLedger = l.toLedger.ask m := rfl

theorem toLedger_conclude (l : Link) (m : Message) (rest : Bytes) :
    (l.conclude m rest).toLedger = l.toLedger.conclude m := rfl

/-- Nothing is on its way. -/
structure Empty (l : Link) : Prop where
  unsent : l.unsent = []
  outgoing : l.outgoing = []
  replying : l.replying = []
  incoming : l.incoming = []

/-- All exchanges on it were completed, and nothing is left of them. -/
structure Quiet (l : Link) : Prop extends l.Empty where
  settled : l.Settled

/-- What is on its way belongs to a message, which was not taken yet, or was and got no answer, or
got this one. -/
inductive Carries (handled : List Handling) (c : Nat) (l : Link) (m : Message) : Prop
  | request (written : l.outgoing ++ l.unsent = m.frame) (replying : l.replying = [])
      (incoming : l.incoming = [])
      (unhandled : ∀ h ∈ handled, h.link = c → h.message.correlation ≠ m.correlation)
  | nothing (empty : l.Empty)
  | answer {h : Handling} {a : Message} (unsent : l.unsent = []) (outgoing : l.outgoing = [])
      (member : h ∈ handled) (address : h.address = l.address)
      (asked : m.Conveys h.message) (answered : h.answer = some a)
      (written : l.incoming ++ l.replying = a.frame)

/-- Nothing is on its way but for the last exchange. -/
inductive Sound (handled : List Handling) (c : Nat) (l : Link) : Prop
  | quiet (quiet : l.Quiet)
  | opened {m : Message} (opened : l.Opened m) (carries : l.Carries handled c m)

variable {handled : List Handling} {c : Nat} {l : Link} {m : Message}

theorem quiet_new (address : SocketAddr) (host : IpAddr) : (new address host).Quiet :=
  ⟨⟨rfl, rfl, rfl, rfl⟩, rfl⟩

theorem Sound.quiet_of_settled (h : l.Sound handled c) (settled : l.Settled) : l.Quiet := by
  cases h with
  | quiet quiet => exact quiet
  | opened opened => exact absurd settled opened.not_settled

theorem Sound.carries_of_opened (h : l.Sound handled c) (opened : l.Opened m) :
    l.Carries handled c m := by
  cases h with
  | quiet quiet => exact absurd quiet.settled opened.not_settled
  | opened opened' carries => exact opened'.unique opened ▸ carries

/-! ### Bytes on their way -/

theorem Sound.keep {l' : Link} (h : l.Sound handled c) (same : l'.toLedger = l.toLedger)
    (empty : l.Empty → l'.Empty) (carries : ∀ m, l.Carries handled c m → l'.Carries handled c m) :
    l'.Sound handled c := by
  cases h with
  | quiet quiet =>
    refine .quiet ⟨empty quiet.toEmpty, ?_⟩
    rw [same]
    exact quiet.settled
  | opened opened carried =>
    rw [← same] at opened
    exact .opened opened (carries _ carried)

theorem Empty.send (h : l.Empty) (count : Nat) : (l.send count).Empty where
  unsent := by rw [Link.send, h.unsent, List.drop_nil]
  outgoing := by rw [Link.send, h.unsent, h.outgoing, List.take_nil, List.append_nil]
  replying := h.replying
  incoming := h.incoming

theorem Sound.send (h : l.Sound handled c) (count : Nat) : (l.send count).Sound handled c := by
  refine h.keep rfl (·.send count) fun m carries => ?_
  cases carries with
  | request written replying incoming unhandled =>
    refine .request ?_ replying incoming unhandled
    rw [Link.send, List.append_assoc, List.take_append_drop]
    exact written
  | nothing empty => exact .nothing (empty.send count)
  | answer unsent outgoing member address asked answered written =>
    refine .answer ?_ ?_ member address asked answered written
    · rw [Link.send, unsent, List.drop_nil]
    · rw [Link.send, unsent, outgoing, List.take_nil, List.append_nil]

theorem Empty.reply (h : l.Empty) (count : Nat) : (l.reply count).Empty where
  unsent := h.unsent
  outgoing := h.outgoing
  replying := by rw [Link.reply, h.replying, List.drop_nil]
  incoming := by rw [Link.reply, h.replying, h.incoming, List.take_nil, List.append_nil]

theorem Sound.reply (h : l.Sound handled c) (count : Nat) : (l.reply count).Sound handled c := by
  refine h.keep rfl (·.reply count) fun m carries => ?_
  cases carries with
  | request written replying incoming unhandled =>
    refine .request written ?_ ?_ unhandled
    · rw [Link.reply, replying, List.drop_nil]
    · rw [Link.reply, replying, incoming, List.take_nil, List.append_nil]
  | nothing empty => exact .nothing (empty.reply count)
  | answer unsent outgoing member address asked answered written =>
    refine .answer unsent outgoing member address asked answered ?_
    rw [Link.reply, List.append_assoc, List.take_append_drop]
    exact written

theorem Sound.cut (h : l.Sound handled c) : l.cut.Sound handled c := by
  refine h.keep rfl (fun empty => ⟨empty.1, empty.2, empty.3, empty.4⟩) fun m carries => ?_
  cases carries with
  | request written replying incoming unhandled =>
    exact .request written replying incoming unhandled
  | nothing empty => exact .nothing ⟨empty.1, empty.2, empty.3, empty.4⟩
  | answer unsent outgoing member address asked answered written =>
    exact .answer unsent outgoing member address asked answered written

/-! ### Exchanges -/

/-- An exchange may begin where no other one is open. -/
theorem Quiet.ask (h : l.Quiet) (unhandled : ∀ h ∈ handled, h.link = c →
    h.message.correlation ≠ m.correlation) : (l.ask m).Sound handled c := by
  refine .opened (h.settled.ask m) (.request ?_ h.replying h.incoming unhandled)
  rw [Link.ask, h.outgoing, List.nil_append]

/-- That a message was taken from another connection changes nothing here. -/
theorem Sound.handle (h : l.Sound handled c) {other : Handling} (elsewhere : other.link ≠ c) :
    l.Sound (handled ++ [other]) c := by
  cases h with
  | quiet quiet => exact .quiet quiet
  | opened opened carries =>
    refine .opened opened ?_
    cases carries with
    | request written replying incoming unhandled =>
      refine .request written replying incoming fun h member here => ?_
      rcases List.mem_append.1 member with old | new
      · exact unhandled h old here
      · exact absurd (List.mem_singleton.1 new ▸ here) elsewhere
    | nothing empty => exact .nothing empty
    | answer unsent outgoing member address asked answered written =>
      exact .answer unsent outgoing (List.mem_append_left _ member) address asked answered written

/-- A frame that can be read at the other end is that of the message whose exchange is open, which
was not taken before. -/
theorem Sound.request_of_read (h : l.Sound handled c) {body rest : Bytes}
    (read : Frame.read l.outgoing = .ok (body, rest)) :
    ∃ m, l.Opened m ∧ body = m.encode ∧ rest = [] ∧ l.unsent = [] ∧ l.replying = [] ∧
      l.incoming = [] ∧ ∀ h ∈ handled, h.link = c → h.message.correlation ≠ m.correlation := by
  have silent (nothing : l.outgoing = []) : False := by
    rw [nothing] at read
    cases read
  cases h with
  | quiet quiet => exact (silent quiet.outgoing).elim
  | opened opened carries =>
    rename_i m
    cases carries with
    | request written replying incoming unhandled =>
      obtain ⟨whole, rfl, rfl⟩ := Message.read_frame ⟨_, written⟩ read
      rw [whole] at written
      exact ⟨m, opened, rfl, rfl, List.append_right_eq_self.1 written, replying, incoming, unhandled⟩
    | nothing empty => exact (silent empty.outgoing).elim
    | answer _ outgoing => exact (silent outgoing).elim

/-- The request of the open exchange was taken, and what was answered to it is to be written. -/
theorem Sound.take (opened : l.Opened m) (unsent : l.unsent = []) (replying : l.replying = [])
    (incoming : l.incoming = []) {sent : Except TransportError Bytes}
    (answered : ∀ bytes, sent = .ok bytes → bytes = [] ∨ ∃ h ∈ handled, h.address = l.address ∧
      m.Conveys h.message ∧ ∃ a, h.answer = some a ∧ bytes = a.frame) :
    (l.take [] sent).Sound handled c := by
  cases sent with
  | error => exact .opened opened (.nothing ⟨unsent, rfl, replying, incoming⟩)
  | ok bytes =>
    refine .opened opened ?_
    rcases answered bytes rfl with nothing | ⟨h, member, address, asked, a, answer, written⟩
    · exact .nothing ⟨unsent, rfl, nothing, incoming⟩
    · refine .answer unsent rfl member address asked answer ?_
      rw [Link.take, incoming, List.nil_append]
      exact written

/-- What is read as the answer in the open exchange was answered to its message, and is all that
there was. -/
theorem Carries.conclude (h : l.Carries handled c m) (opened : l.Opened m) {answer : Message}
    {rest : Bytes} (sent : l.unsent = [])
    (read : Exchange.exchange m l.incoming = .ok (answer, rest)) :
    (l.conclude m rest).Quiet ∧ ∃ h ∈ handled, h.address = l.address ∧
      m.Conveys h.message ∧ ∃ a, h.answer = some a ∧ a.Conveys answer := by
  have silent (nothing : l.incoming = []) : False := by
    rw [nothing] at read
    have done := Exchange.await_of_exchange read
    rw [Exchange.await_nil] at done
    cases done
  cases h with
  | request _ _ incoming => exact (silent incoming).elim
  | nothing empty => exact (silent empty.incoming).elim
  | answer _ outgoing member address asked answered written =>
    obtain ⟨whole, decoded, rfl⟩ := Exchange.await_frame ⟨_, written⟩ (Exchange.await_of_exchange read)
    rw [whole] at written
    have replying := List.append_right_eq_self.1 written
    exact ⟨⟨⟨sent, outgoing, replying, rfl⟩, opened.conclude⟩, _, member, address, asked, _,
      answered, decoded⟩

end Link
end LocalSwarm
