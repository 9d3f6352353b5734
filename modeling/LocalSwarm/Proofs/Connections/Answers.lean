import LocalSwarm.Proofs.Connections.Books

/-! Requests and nodes at work together: no answer is taken for that to another request, no request
is handled more than twice, and no connection is kept on which anything is left. Main statement:
`answers_never_cross`. -/
namespace LocalSwarm

-- Comparing frames would write out their lengths.
attribute [local irreducible] Message.frame

namespace Traffic

variable {s s' : Traffic} {e : Errand} {l l' : Link} {c n : Nat} {k : UInt32} {pooled : Bool}

def ledgers (s : Traffic) : Ledgers := fun c => (s.links c).map Link.toLedger

theorem ledgers_of_link (link : s.links c = some l) : s.ledgers c = some l.toLedger := by
  rw [ledgers, link]
  rfl

theorem link_setLink (s : Traffic) (c : Nat) (l : Link) : (s.setLink c l).links c = some l :=
  Function.update_self ..

theorem ledgers_setLink (s : Traffic) (c : Nat) (l : Link) :
    (s.setLink c l).ledgers = Function.update s.ledgers c (some l.toLedger) := by
  funext c'
  simp only [ledgers, setLink, Function.update_apply]
  split <;> rfl

theorem ledgers_keep (link : s.links c = some l) (same : l'.toLedger = l.toLedger) :
    (s.setLink c l').ledgers = s.ledgers := by
  rw [ledgers_setLink, same, ← ledgers_of_link link, Function.update_eq_self]

/-- Of the connections, what is on its way is sound, and so are the ledgers. -/
structure Sound (s : Traffic) : Prop where
  books : Books s.ledgers s.errands s.handled s.pool
  links : ∀ c l, s.links c = some l → l.Sound s.handled c

theorem sound_start (sites : SocketAddr → Site) : (start sites).Sound where
  books := .empty
  links := by
    intro c l found
    cases found

theorem Sound.links_update (h : s.Sound) (sound : l.Sound s.handled c) :
    ∀ c' l', Function.update s.links c (some l) c' = some l' → l'.Sound s.handled c' := by
  intro c' l' found
  by_cases same : c' = c
  · subst same
    rw [Function.update_self, Option.some.injEq] at found
    exact found ▸ sound
  · rw [Function.update_of_ne same] at found
    exact h.links c' l' found

/-- Bytes move on a connection. -/
theorem Sound.move (h : s.Sound) (link : s.links c = some l) {l' : Link}
    (sound : l'.Sound s.handled c) (same : l'.toLedger = l.toLedger) : (s.setLink c l').Sound where
  books := by
    rw [ledgers_keep link same]
    exact h.books
  links := h.links_update sound

/-! ### Requests -/

theorem Sound.errand (h : s.Sound) (known : s.errands k = some e) :
    s.errands e.message.correlation = some e ∧ e.Sound s.ledgers s.handled := by
  obtain ⟨number, sound⟩ := h.books.errands k e known
  exact ⟨number.symm ▸ known, sound⟩

/-- A request is made or goes on, without a connection. -/
theorem Sound.setErrand (h : s.Sound) (agrees : Errands.Agrees s.errands e)
    (sound : e.Sound s.ledgers s.handled) : (s.setErrand e).Sound where
  books := h.books.setErrand agrees sound
  links := h.links

/-- A request that has no connection and no answer needs no more than few attempts. -/
theorem Sound.settle (h : s.Sound) (known : s.errands e.message.correlation = some e)
    {course : Option (Course Nat)}
    (tries : s.ledgers.Tries e.message (Errand.attempts course))
    (silent : ∀ c pooled, course ≠ some (.waits (.talking c pooled)))
    (unanswered : ∀ m, course ≠ some (.ended (.ok m))) : (s.setErrand { e with course }).Sound :=
  h.setErrand (Errands.agrees_of_known known _)
    ⟨tries, fun talks => absurd talks (silent _ _), fun ended => absurd ended (unanswered _)⟩

theorem Sound.drop (h : s.Sound) (a : SocketAddr) : { s with pool := s.pool.drop a }.Sound where
  books := h.books.drop a
  links := h.links

/-- The exchange of a request begins on a connection that nobody uses. -/
theorem Sound.talk (h : s.Sound) (known : s.errands e.message.correlation = some e)
    (link : s.links c = some l) (address : l.address = e.address) (settled : l.Settled)
    (unpooled : ∀ a, (a, c) ∉ s.pool.idle) (tries : s.ledgers.Tries e.message n)
    (enough : n + 1 ≤ Errand.attempts (some (.waits (.talking c pooled))))
    (unhandled : ∀ h ∈ s.handled, h.link = c → h.message.correlation ≠ e.message.correlation) :
    (s.pursue e (.waits (.talking c pooled))).Sound := by
  have begun : s.pursue e (.waits (.talking c pooled)) =
      (s.setLink c (l.ask e.message)).setErrand (e.take (.waits (.talking c pooled))) := by
    rw [pursue, begin, link]
    rfl
  rw [begun]
  constructor
  · have books := h.books.talk known (ledgers_of_link link) address settled unpooled tries enough
    rw [← Link.toLedger_ask, ← ledgers_setLink] at books
    exact books
  · exact h.links_update (((h.links c l link).quiet_of_settled settled).ask unhandled)

theorem Sound.issue (h : s.Sound) {m : Message} (new : s.errands m.correlation = none)
    (a : SocketAddr) : (s.issue a m).Sound := by
  have untried := h.books.untried new
  have made : (s.setErrand ⟨a, m, none⟩).Sound :=
    h.setErrand (Errands.agrees_of_new new none) ⟨untried.mono (Nat.zero_le _), nofun, nofun⟩
  have known : (s.setErrand ⟨a, m, none⟩).errands m.correlation = some ⟨a, m, none⟩ :=
    Function.update_self ..
  rw [Traffic.issue, Pool.begin]
  split
  · rename_i c found
    obtain ⟨before, behind, split, -⟩ := List.lookup_eq_some_iff.1 found
    have member : (a, c) ∈ s.pool.idle := by
      rw [split]
      exact List.mem_append_right _ List.mem_cons_self
    obtain ⟨b, booked, address, settled⟩ := h.books.idle a c member
    obtain ⟨l, link, rfl⟩ := Option.map_eq_some_iff.1 booked
    refine (made.drop a).talk (e := ⟨a, m, none⟩) (n := 0) known link address settled ?_ untried
      (Nat.le_refl 1) fun handling member _ => h.books.unhandled new handling member
    intro a' member
    exact h.books.not_mem_drop booked a' (address.symm ▸ member)
  · exact made.settle (e := ⟨a, m, none⟩) known (untried.mono (Nat.zero_le 1)) nofun nofun

theorem Sound.dial (h : s.Sound) (known : s.errands k = some e)
    (dials : e.course = some (.waits .dialing)) (free : s.links c = none) (host : IpAddr) :
    ((s.setLink c (.new e.address host)).pursue e (Pool.dialed (.ok c))).Sound := by
  have unbooked : s.ledgers c = none := by
    rw [ledgers, free]
    rfl
  have connected : (s.setLink c (.new e.address host)).Sound := by
    constructor
    · rw [ledgers_setLink]
      exact h.books.connect unbooked e.address
    · exact h.links_update (.quiet (Link.quiet_new e.address host))
  obtain ⟨known, -⟩ := h.errand known
  obtain ⟨-, sound⟩ := connected.errand known
  have tries := sound.tries
  rw [dials] at tries
  refine connected.talk known (Function.update_self ..) rfl rfl ?_ tries (Nat.le_refl 2) ?_
  · intro a member
    obtain ⟨b, booked, -⟩ := h.books.idle a c member
    cases booked.symm.trans unbooked
  · intro handling member here
    obtain ⟨b, booked, -⟩ := h.books.traced handling member
    cases booked.symm.trans (here ▸ unbooked)

theorem Sound.refuse (h : s.Sound) (known : s.errands k = some e)
    (cause : TransportError) : (s.pursue e (Pool.dialed (.error cause))).Sound := by
  obtain ⟨known, sound⟩ := h.errand known
  exact h.settle known (sound.tries.mono (Errand.attempts_le _)) nofun nofun

theorem Sound.fail (h : s.Sound) (known : s.errands k = some e)
    (talks : e.course = some (.waits (.talking c pooled))) (cause : TransportError) :
    (s.exchanged e c pooled (.error cause)).Sound := by
  obtain ⟨known, sound⟩ := h.errand known
  have tries := sound.tries
  rw [exchanged, Pool.exchanged]
  split
  · rename_i again
    rw [talks, (Bool.and_eq_true_iff.1 again).1] at tries
    exact h.settle known tries nofun nofun
  · exact h.settle known (tries.mono (Errand.attempts_le _)) nofun nofun

theorem Sound.cancel (h : s.Sound) (known : s.errands k = some e) :
    (s.setErrand { e with course := none }).Sound := by
  obtain ⟨known, sound⟩ := h.errand known
  exact h.settle known (sound.tries.mono (Errand.attempts_le _)) nofun nofun

theorem Sound.receive (h : s.Sound) (known : s.errands k = some e)
    (talks : e.course = some (.waits (.talking c pooled))) (link : s.links c = some l)
    (sent : l.unsent = []) {m : Message} {rest : Bytes}
    (read : Exchange.exchange e.message l.incoming = .ok (m, rest)) :
    ((s.setLink c (l.conclude e.message rest)).exchanged e c pooled (.ok m)).Sound := by
  obtain ⟨known, sound⟩ := h.errand known
  have booked := ledgers_of_link link
  obtain ⟨b, booked', address, opened⟩ := sound.talks talks
  obtain rfl := Option.some.inj (booked'.symm.trans booked)
  obtain ⟨quiet, handling, member, served, answered⟩ :=
    ((h.links c l link).carries_of_opened opened).conclude opened sent read
  constructor
  · have books := h.books.answer known talks booked ⟨handling, member, served.trans address, answered⟩
    rw [← Link.toLedger_conclude l e.message rest, ← ledgers_setLink] at books
    exact books
  · exact h.links_update (.quiet quiet)

/-! ### Nodes -/

/-- What a node makes of the frame of a message: it cannot read it, or handles what it reads. -/
theorem respond_cases (site : Site) (handled : List Handling) (m : Message) :
    Serving.respond (react c l) (site, handled) m.encode = ((site, handled), .ok []) ∨
      ∃ h : Handling, h.link = c ∧ h.address = l.address ∧ m.Conveys h.message ∧
        ∃ sent, Serving.respond (react c l) (site, handled) m.encode =
            ((h.after, handled ++ [h]), sent) ∧
          ∀ bytes, sent = .ok bytes → bytes = [] ∨ ∃ a, h.answer = some a ∧ bytes = a.frame := by
  cases decoded : Message.decode m.encode with
  | error cause =>
    left
    rw [Serving.respond, decoded]
  | ok message =>
    right
    refine ⟨⟨c, l.address, l.host, site, message⟩, rfl, rfl, Message.conveys decoded, ?_⟩
    rw [Serving.respond, decoded]
    simp only [react]
    cases answer : (Handling.mk c l.address l.host site message).answer with
    | none => exact ⟨_, rfl, fun bytes same => .inl (Except.ok.inj same).symm⟩
    | some a =>
      refine ⟨_, rfl, fun bytes written => .inr ⟨a, rfl, ?_⟩⟩
      rw [Message.frame, written]

theorem respond_travels {site : Site} {handled : List Handling} {m a : Message} (sent : m.Travels)
    (answered : a.Travels) (answer : (Handling.mk c l.address l.host site m).answer = some a) :
    Serving.respond (react c l) (site, handled) m.encode =
      (((Handling.mk c l.address l.host site m).after,
        handled ++ [⟨c, l.address, l.host, site, m⟩]), .ok a.frame) := by
  rw [Serving.respond, Message.decode_encode sent.fits]
  simp only [react, answer, answered.write]

theorem Sound.serve (h : s.Sound) (link : s.links c = some l) {body rest : Bytes}
    (read : Frame.read l.outgoing = .ok (body, rest)) : (s.serve c l body rest).Sound := by
  obtain ⟨m, opened, rfl, rfl, unsent, replying, incoming, unhandled⟩ :=
    (h.links c l link).request_of_read read
  rcases respond_cases (s.sites l.address) s.handled m with
    nothing | ⟨handling, here, address, conveyed, sent, handled, answered⟩
  · have sound : (l.take [] (.ok [])).Sound s.handled c :=
      .take opened unsent replying incoming fun bytes same => .inl (Except.ok.inj same).symm
    have moved := h.move link sound rfl
    rw [Traffic.serve, nothing]
    exact ⟨moved.books, moved.links⟩
  · have first : ∀ h ∈ s.handled, h.link = handling.link →
        h.message.correlation ≠ handling.message.correlation := by
      intro h member same
      rw [conveyed.correlation]
      exact unhandled h member (same.trans here)
    have traced : s.ledgers.Traces handling :=
      ⟨l.toLedger, here.symm ▸ ledgers_of_link link, address, m, opened.mem, conveyed⟩
    have same : (l.take [] sent).toLedger = l.toLedger := by cases sent <;> rfl
    rw [Traffic.serve, handled]
    constructor
    · have books := h.books.handle traced first
      rw [← ledgers_keep link same] at books
      exact books
    · intro c' l' found
      change Function.update s.links c (some (l.take [] sent)) c' = some l' at found
      by_cases same' : c' = c
      · subst same'
        rw [Function.update_self, Option.some.injEq] at found
        rw [← found]
        refine .take opened unsent replying incoming fun bytes written => ?_
        rcases answered bytes written with nothing | answer
        · exact .inl nothing
        · exact .inr ⟨handling, List.mem_append_right _ List.mem_cons_self, address, conveyed, answer⟩
      · rw [Function.update_of_ne same'] at found
        exact (h.links c' l' found).handle fun elsewhere => same' (elsewhere.symm.trans here)

theorem Sound.step (h : s.Sound) (step : Step s s') : s'.Sound := by
  cases step with
  | issue a m new => exact h.issue new a
  | dial known dials free host => exact h.dial known dials free host
  | refuse known _ cause => exact h.refuse known cause
  | send _ _ link count => exact h.move link ((h.links _ _ link).send count) rfl
  | receive known talks link sent read => exact h.receive known talks link sent read
  | fail known talks cause => exact h.fail known talks cause
  | cancel known => exact h.cancel known
  | serve link _ _ read => exact h.serve link read
  | reply link count => exact h.move link ((h.links _ _ link).reply count) rfl
  | cut link => exact h.move link (h.links _ _ link).cut rfl
  | change => exact ⟨h.books, h.links⟩

theorem Sound.run (h : s.Sound) (reached : Relation.ReflTransGen Step s s') : s'.Sound := by
  induction reached with
  | refl => exact h
  | tail _ step ih => exact ih.step step

/-- Whatever happens to requests and connections: a message that is returned was answered to that
request, no request is handled more than twice, and of the connections to an address at most one is
kept, on which every exchange was completed and nothing is left. -/
theorem answers_never_cross (sites : SocketAddr → Site) (s : Traffic)
    (reached : Relation.ReflTransGen Step (start sites) s) :
    (∀ k e m, s.errands k = some e → e.course = some (.ended (.ok m)) → e.Answered s.handled m) ∧
      (∀ h ∈ s.handled, ∃ e, s.errands h.message.correlation = some e ∧ e.address = h.address ∧
        e.message.Conveys h.message) ∧
      (∀ k, s.handled.countP (·.message.correlation = k) ≤ 2) ∧
      (s.pool.idle.map Prod.fst).Nodup ∧
      ∀ a c, (a, c) ∈ s.pool.idle → ∃ l, s.links c = some l ∧ l.address = a ∧ l.Quiet := by
  have sound := (sound_start sites).run reached
  refine ⟨?answered, fun h => sound.books.requested_of_mem, sound.books.handled_le,
    sound.books.keys, ?quiet⟩
  case answered =>
    intro k e m known ended
    obtain ⟨-, errand⟩ := sound.books.errands k e known
    exact errand.answered ended
  case quiet =>
    intro a c member
    obtain ⟨b, booked, address, settled⟩ := sound.books.idle a c member
    obtain ⟨l, link, rfl⟩ := Option.map_eq_some_iff.1 booked
    exact ⟨l, link, address, (sound.links c l link).quiet_of_settled settled⟩

/-! ### Undisturbed exchanges -/

theorem step_send_all (known : s.errands k = some e)
    (talks : e.course = some (.waits (.talking c pooled))) (link : s.links c = some l)
    (nothing : l.outgoing = []) :
    Step s (s.setLink c { l with unsent := [], outgoing := l.unsent }) := by
  have written : l.send l.unsent.length = { l with unsent := [], outgoing := l.unsent } := by
    simp [Link.send, nothing]
  rw [← written]
  exact .send known talks link l.unsent.length

theorem step_reply_all (link : s.links c = some l) (nothing : l.incoming = []) :
    Step s (s.setLink c { l with replying := [], incoming := l.replying }) := by
  have written : l.reply l.replying.length = { l with replying := [], incoming := l.replying } := by
    simp [Link.reply, nothing]
  rw [← written]
  exact .reply link l.replying.length

/-- A connection has brought a message to its node, and its answer is to be written. -/
def answering (s : Traffic) (c : Nat) (l : Link) (m a : Message) : Traffic :=
  let h : Handling := ⟨c, l.address, l.host, s.sites l.address, m⟩
  { s.setLink c { l with outgoing := [], replying := a.frame } with
    sites := Function.update s.sites l.address h.after
    handled := s.handled ++ [h] }

theorem step_answering {m a : Message} (link : s.links c = some l) (serving : l.serving = true)
    (ready : l.replying = []) (written : l.outgoing = m.frame) (sent : m.Travels)
    (answered : a.Travels)
    (answer : (Handling.mk c l.address l.host (s.sites l.address) m).answer = some a) :
    Step s (s.answering c l m a) := by
  have served : s.serve c l m.encode [] = s.answering c l m a := by
    rw [Traffic.serve, respond_travels sent answered answer]
    rfl
  rw [← served]
  exact .serve link serving ready (written ▸ sent.read)

/-- The exchange of a request on a connection has brought an answer. -/
def completed (s : Traffic) (e : Errand) (c : Nat) (l : Link) (a : Message) : Traffic :=
  let h : Handling := ⟨c, l.address, l.host, s.sites l.address, e.message⟩
  let ledger := (l.toLedger.ask e.message).conclude e.message
  { pool := s.pool.keep e.address c
    links := Function.update s.links c (some { l with toLedger := ledger })
    errands := Function.update s.errands e.message.correlation (some (e.take (.ended (.ok a))))
    sites := Function.update s.sites l.address h.after
    handled := s.handled ++ [h] }

/-- A request that has just begun on a connection is answered, if nothing comes in between. -/
theorem exists_answer {a : Message} (known : s.errands k = some e)
    (talks : e.course = some (.waits (.talking c pooled)))
    (link : s.links c = some (l.ask e.message)) (quiet : l.Quiet) (serving : l.serving = true)
    (sent : e.message.Travels) (answered : a.Travels)
    (answer : (Handling.mk c l.address l.host (s.sites l.address) e.message).answer = some a)
    (same : a.correlation = e.message.correlation) :
    Relation.ReflTransGen Step s (s.completed e c l a) := by
  let written : Link := { l.ask e.message with unsent := [], outgoing := e.message.frame }
  let replying : Link := { written with outgoing := [], replying := a.frame }
  let incoming : Link := { replying with replying := [], incoming := a.frame }
  let s₁ := s.setLink c written
  let s₂ := s₁.answering c written e.message a
  let s₃ := s₂.setLink c incoming
  have write : Step s s₁ := step_send_all known talks link quiet.outgoing
  have handle : Step s₁ s₂ := step_answering (link_setLink s c written) serving quiet.replying rfl
    sent answered answer
  have reply : Step s₂ s₃ := step_reply_all (link_setLink s₁ c replying) quiet.incoming
  have receive : Step s₃ ((s₃.setLink c (incoming.conclude e.message [])).exchanged e c pooled
      (.ok a)) := by
    have read : Exchange.exchange e.message incoming.incoming = .ok (a, []) :=
      Exchange.exchange_frame sent answered same
    have known₃ : s₃.errands k = some e := known
    exact .receive known₃ talks (link_setLink s₂ c incoming) rfl read
  have last : incoming.conclude e.message [] =
      { l with toLedger := (l.toLedger.ask e.message).conclude e.message } := by
    simp [incoming, replying, written, Link.conclude, Link.ask, quiet.unsent, quiet.outgoing,
      quiet.replying, quiet.incoming]
  have done : (s₃.setLink c (incoming.conclude e.message [])).exchanged e c pooled (.ok a) =
      s.completed e c l a := by
    rw [last]
    simp only [s₁, s₂, s₃, setLink, answering, exchanged, Pool.exchanged, pursue, begin, setErrand,
      Function.update_idem]
    rfl
  rw [← done]
  exact .tail (.tail (.tail (.single write) handle) reply) receive

/-! Two requests to one node. The second one finds the connection of the first one in the pool. -/

namespace Polls

def studio : Node :=
  ⟨⟨⟨4⟩, 4400, "studio"⟩, 1, 20, ⟨⟨4⟩, Vector.replicate 160 (Bucket.empty 20)⟩, .initial, .standard,
    .nothing, 0⟩

def address : SocketAddr := .v4 0x0a000004 4400

def sites : SocketAddr → Site := fun _ => ⟨studio, .empty, 0⟩

def ping (k : UInt32) : Message := ⟨k, ⟨⟨5⟩, 4400, "studio"⟩, .request .ping⟩

def pong (k : UInt32) : Message := ⟨k, studio.self, .response .ping⟩

theorem ping_travels : (ping 7).Travels ∧ (ping 8).Travels :=
  ⟨⟨⟨Wire.plain_studio, trivial⟩, by decide +kernel⟩, ⟨⟨Wire.plain_studio, trivial⟩, by decide +kernel⟩⟩

theorem pong_travels : (pong 7).Travels ∧ (pong 8).Travels :=
  ⟨⟨⟨Wire.plain_studio, trivial⟩, by decide +kernel⟩, ⟨⟨Wire.plain_studio, trivial⟩, by decide +kernel⟩⟩

def fresh : Link := .new address (.v4 0x0a000005)

/-- The connection after the first request. -/
def used : Link := { fresh with toLedger := (fresh.toLedger.ask (ping 7)).conclude (ping 7) }

def made : Traffic := (start sites).issue address (ping 7)

def connected : Traffic :=
  (made.setLink 0 fresh).pursue ⟨address, ping 7, some (.waits .dialing)⟩ (Pool.dialed (.ok 0))

def once : Traffic :=
  connected.completed ⟨address, ping 7, some (.waits (.talking 0 false))⟩ 0 fresh (pong 7)

def twice : Traffic :=
  (once.issue address (ping 8)).completed ⟨address, ping 8, some (.waits (.talking 0 true))⟩ 0 used
    (pong 8)

theorem reached_twice : Relation.ReflTransGen Step (start sites) twice := by
  have issued : Step (start sites) made := .issue _ _ rfl
  have dialed : Step made connected := .dial (k := 7) rfl rfl rfl _
  have answered : Relation.ReflTransGen Step connected once :=
    exists_answer (k := 7) rfl rfl rfl (Link.quiet_new _ _) rfl ping_travels.1 pong_travels.1 rfl rfl
  have again : Step once (once.issue address (ping 8)) := .issue _ _ rfl
  have answered' : Relation.ReflTransGen Step (once.issue address (ping 8)) twice :=
    exists_answer (k := 8) rfl rfl rfl ⟨⟨rfl, rfl, rfl, rfl⟩, rfl⟩ rfl ping_travels.2 pong_travels.2
      rfl rfl
  exact (((Relation.ReflTransGen.single issued).tail dialed).trans answered).tail again |>.trans
    answered'

theorem polls_share_connection :
    Relation.ReflTransGen Step (start sites) twice ∧
      (∃ e, twice.errands 7 = some e ∧ e.course = some (.ended (.ok (pong 7))) ∧
        e.Answered twice.handled (pong 7)) ∧
      (∃ e, twice.errands 8 = some e ∧ e.course = some (.ended (.ok (pong 8))) ∧
        e.Answered twice.handled (pong 8)) ∧
      twice.handled.length = 2 ∧ twice.handled.countP (·.message.correlation = 7) ≤ 2 ∧
      twice.pool.idle = [(address, 0)] ∧
      ∃ l, twice.links 0 = some l ∧ l.address = address ∧ l.Quiet := by
  obtain ⟨answered, -, handled, -, quiet⟩ := answers_never_cross sites twice reached_twice
  exact ⟨reached_twice, ⟨_, rfl, rfl, answered 7 _ _ rfl rfl⟩, ⟨_, rfl, rfl, answered 8 _ _ rfl rfl⟩,
    rfl, handled 7, rfl, quiet address 0 (by decide)⟩

end Polls
end Traffic
end LocalSwarm
