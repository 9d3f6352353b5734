import LocalSwarm.Proofs.Activities.Course
import LocalSwarm.Proofs.Connections.Room
import LocalSwarm.Proofs.Downloads.Faults
import LocalSwarm.Proofs.Tables.Origins

/-! What stays as it should be whatever a service does at one time. A regime says which calls tasks
may make, who may come to the table, whose failures may be counted and what may break off a run;
what it keeps in every step is kept in every run. Main statement: `Regime.Kept.run`. -/
namespace LocalSwarm
open RoutingTable (Introduces Knows Told Timed)

/-- A result that is as it should be, or a fault that is put up with. -/
def Yields {α : Type} (breaks : Fault → Prop) (good : α → Prop) : Except Fault α → Prop
  | .ok a => good a
  | .error fault => breaks fault

theorem Yields.bind {α β : Type} {breaks : Fault → Prop} {first : α → Prop} {second : β → Prop}
    {x : Except Fault α} {f : α → Except Fault β} (done : Yields breaks first x)
    (rest : ∀ a, first a → Yields breaks second (f a)) : Yields breaks second (x >>= f) := by
  cases x with
  | ok a => exact rest a done
  | error fault => exact done

theorem Yields.mono {α : Type} {breaks : Fault → Prop} {good better : α → Prop}
    {x : Except Fault α} (yields : Yields breaks good x) (implies : ∀ a, good a → better a) :
    Yields breaks better x := by
  cases x with
  | ok a => exact implies a yields
  | error fault => exact yields

theorem Yields.of_ok {α : Type} {breaks : Fault → Prop} {good : α → Prop} {x : Except Fault α}
    (yields : Yields breaks good x) {a : α} (done : x = .ok a) : good a := by
  rw [done] at yields
  exact yields

theorem Yields.of_error {α : Type} {breaks : Fault → Prop} {good : α → Prop} {x : Except Fault α}
    (yields : Yields breaks good x) {fault : Fault} (failed : x = .error fault) : breaks fault := by
  rw [failed] at yields
  exact yields

/-! ### What comes in -/

theorem Node.table_react (n : Node) (files : Files.Tree) (now : Moment) (m : Message)
    (host : IpAddr) : (n.react files now m host).1.table = n.table := by
  rw [react]
  split
  · rename_i request _
    cases request with
    | findValue key count =>
      dsimp only [respond]
      split <;> rfl
    | _ => rfl
  · rfl

theorem Node.eq_of_observed {n : Node} {files : Files.Tree} {now : Moment} {m : Message}
    {host : IpAddr} {p : Peer} (observed : (n.react files now m host).2.observed = some p) :
    p = m.sender.peerAt host := by
  rw [react] at observed
  split at observed
  · dsimp only at observed
    split at observed
    · exact (Option.some.inj observed).symm
    · cases observed
  · cases observed

theorem Surroundings.answer_eq_ok_iff {surroundings : Surroundings} {c : Conversation}
    {m reply : Message} :
    surroundings.answer c m = .ok reply ↔ m.encode.length ≤ Frame.limit ∧
      ∃ body, surroundings c m = .ok body ∧ Message.decode body = .ok reply := by
  unfold answer
  cases written : Frame.write m.encode with
  | error e =>
    refine iff_of_false nofun fun ⟨short, _⟩ => ?_
    cases written.symm.trans (Frame.write_eq_ok_iff.2 ⟨short, rfl⟩)
  | ok frame =>
    rw [and_iff_right (Frame.write_eq_ok_iff.1 written).1]
    cases brought : surroundings c m with
    | error e => exact iff_of_false nofun (by rintro ⟨body, ⟨⟩, -⟩)
    | ok body => cases decoded : Message.decode body <;> simp [decoded, Except.mapError]

theorem Surroundings.answer_of_unwritten {surroundings : Surroundings} {c : Conversation}
    {m : Message} {e : TransportError} (unwritten : Frame.write m.encode = .error e) :
    surroundings.answer c m = .error e := by
  rw [answer, unwritten]

/-- Nobody is called in the course of a call. -/
theorem Conversation.resume_ne_calling {version : UInt16} {t t' : RoutingTable} {now : Moment}
    {answer : Answer} {c : Conversation} {call : Call} :
    c.resume version t now answer ≠ .ok (t', .waits (.calling call)) := by
  intro resumed
  have less := depth_resume resumed
  cases c <;> simp [depth] at less

/-! ### Tasks -/

/-- What the terms must allow for a task, besides searching. -/
def Terms.Serves (terms : Terms) (s : Service) : Task → Prop
  | .call c => terms.asks c
  | .join address => ∀ site site', terms.sites site → terms.sites site' → terms.asks
      ⟨.endpoint address, .acknowledge ⟨site'.node.version, site.node.provider.buckets⟩⟩
  | .store key value => ∀ p, terms.asks ⟨.contact p, .store key value⟩
  | .download request suffix =>
    ∀ t, request.validate t = .ok () → (s.download request suffix).Allowed terms
  | _ => True

theorem Task.conforms {terms : Terms} (searching : terms.Searching) {s : Service} {task : Task}
    (serves : terms.Serves s task) : (task.plan s).Conforms terms := by
  have quiet {α : Type} {p : Plan α} (conforms : p.Conforms terms) :
      (p.bind fun _ => .done ()).Conforms terms := conforms.bind fun _ => .done ()
  cases task with
  | call c => exact quiet (Plan.conforms_call serves)
  | join address => exact quiet (conforms_join searching serves _)
  | bootstrap contact => exact quiet (searching.attempt _ contact)
  | refresh random => exact quiet (searching.refresh _ random)
  | findNode target => exact quiet (searching.findNode _ target)
  | findValue key => exact quiet (searching.findValue _ key)
  | store key value => exact quiet (searching.storeValue _ serves)
  | download request suffix => exact quiet (Download.conforms_plan serves)

/-! ### Regimes -/

/-- What is to be kept, from a moment on. -/
structure Regime where
  /-- The node as it was, and when that was. -/
  start : Node
  began : Moment
  /-- What the files are like while somebody asks for them. -/
  files : Files.Tree → Prop
  /-- Who may come to the table. -/
  welcome : Peer → Prop
  /-- Whose failures may be counted. -/
  blamed : Identifier → Prop
  asks : Call → Prop
  breaks : Fault → Prop

namespace Regime

variable (r : Regime)

/-- The terms for tasks. -/
def terms : Terms := ⟨fun s => r.start.Steady s.node, r.asks, r.breaks⟩

/-- A regime that can be kept: peers whose messages can be read are welcome, and so are those that
they tell of; and if the buckets have no slots, anything may break off a run. -/
structure Lawful : Prop where
  sound : ∃ localId slots, r.start.table.Sound localId slots ∧ (1 ≤ slots ∨ ∀ fault, r.breaks fault)
  brings : ∀ body m, Message.decode body = .ok m → Introduces r.welcome m

/-- What the node can have become. -/
structure Becomes (n : Node) (now : Moment) : Prop where
  reached : ∃ past, Node.Reached r.start past n
  goes : Timed.Goes r.welcome r.blamed ⟨r.start.table, r.began⟩ ⟨n.table, now⟩

/-- What the node can say: it asks what tasks may ask, and it answers. -/
inductive Says (m : Message) : Prop
  | pings : m.sender = r.start.self → m.body = .request .ping → Says m
  | calls {c : Call} : m.sender = r.start.self → m.body = .request c.request → r.asks c → Says m
  | replies {n : Node} {now : Moment} {files : Files.Tree} {asked : Message} {host : IpAddr}
      {body : Bytes} : r.Becomes n now → r.files files → Message.decode body = .ok asked →
      (n.react files now asked host).2.reply = some m → Says m

structure Minds (e : Strand) : Prop where
  knows : Knows r.welcome e.conversation
  asks : ∀ c, e.conversation = .calling c → r.asks c
  message : ∀ m ∈ e.message, m.sender = r.start.self ∧ m.body = .request e.conversation.request.2

structure Pursues (u : Undertaking) : Prop where
  strands : ∀ e ∈ u.strands, r.Minds e
  dropped : ∀ s : Site, s.Alike (u.dropped s)
  next : ∀ slot outcome, (u.next slot outcome).Conforms r.terms

structure Kept (a : Activity) : Prop where
  becomes : r.Becomes a.site.node a.site.now
  undertakings : ∀ u ∈ a.undertakings, r.Pursues u
  guests : ∀ p ∈ a.guests, r.welcome p
  sent : ∀ m ∈ a.sent, r.Says m

/-- What a regime expects of an occurrence: tasks keep to its terms, only those are held to account
for a failed call who may be, and only those are told of who are welcome. -/
def Permits (s : Service) : Occurrence → Prop
  | .began task => (task.plan s).Conforms r.terms
  | .answered _ _ surroundings => ∀ p request m e, r.asks ⟨.contact p, request⟩ →
      m.sender = r.start.self → m.body = .request request →
      (surroundings.answer (.calling ⟨.contact p, request⟩) m).read request.operation = .error e →
      r.blamed p.id
  | .asked _ _ files => r.files files
  | .told peers => ∀ p ∈ peers, r.welcome p
  | _ => True

variable {r}

/-! ### Nodes -/

namespace Becomes

variable {n : Node} {now : Moment}

theorem steady (h : r.Becomes n now) : r.start.Steady n := by
  obtain ⟨past, reached⟩ := h.reached
  exact reached.steady

theorem changed (h : r.Becomes n now) (bootstrap : Bootstrap) (correlation : UInt32) :
    r.Becomes { n with bootstrap, correlation } now := by
  obtain ⟨past, reached⟩ := h.reached
  exact ⟨⟨past, reached.changed n.table bootstrap correlation⟩, h.goes⟩

theorem alike {s s' : Site} (h : r.Becomes s.node s.now) (alike : s.Alike s') :
    r.Becomes s'.node s'.now := by
  rw [alike.node, alike.now]
  exact h.changed _ _

theorem table (h : r.Becomes n now) {table : RoutingTable}
    (goes : Timed.Goes r.welcome r.blamed ⟨n.table, now⟩ ⟨table, now⟩) :
    r.Becomes { n with table } now := by
  obtain ⟨past, reached⟩ := h.reached
  exact ⟨⟨past, reached.changed table n.bootstrap n.correlation⟩, h.goes.trans goes⟩

theorem elapsed (h : r.Becomes n now) (span : Span) : r.Becomes n (now + span) :=
  ⟨h.reached, h.goes.trans (Timed.goes_of_turn (.elapse span) trivial rfl)⟩

theorem reacts (h : r.Becomes n now) {body : Bytes} {m : Message}
    (short : body.length ≤ Frame.limit) (decoded : Message.decode body = .ok m)
    (files : Files.Tree) (host : IpAddr) : r.Becomes (n.react files now m host).1 now := by
  obtain ⟨past, reached⟩ := h.reached
  refine ⟨⟨_, reached.received short decoded files now host⟩, ?_⟩
  rw [Node.table_react]
  exact h.goes

end Becomes

/-! ### Strands and undertakings -/

theorem minds_call {c : Call} {slot : Nat} (asks : r.asks c) :
    r.Minds ⟨slot, .calling c, none⟩ := by
  refine ⟨trivial, ?_, nofun⟩
  rintro _ ⟨⟩
  exact asks

theorem Pursues.put {u : Undertaking} (h : r.Pursues u) (j : Nat) (strands : List Strand)
    (minds : ∀ e ∈ strands, r.Minds e) : r.Pursues (u.put j strands) := by
  refine ⟨fun e member => ?_, h.dropped, h.next⟩
  rcases List.mem_append.1 member with before | after
  · rcases List.mem_append.1 before with kept | new
    · exact h.strands e (List.mem_of_mem_take kept)
    · exact minds e new
  · exact h.strands e (List.mem_of_mem_drop after)

/-- A plan that keeps to the terms goes on to an undertaking that does so, and leaves all but the
bootstrap of the node as it is. -/
theorem proceeds {p : Plan Unit} (conforms : p.Conforms r.terms) (strands : List Strand)
    (minds : ∀ e ∈ strands, r.Minds e) {s : Site} (becomes : r.Becomes s.node s.now) :
    Yields r.breaks (fun (s', us) => s.Alike s' ∧ ∀ u ∈ us, r.Pursues u) (p.proceed strands s) := by
  induction conforms generalizing s with
  | done => exact ⟨.refl s, nofun⟩
  | broken allowed => exact allowed
  | look _ ih => exact ih s becomes.steady becomes
  | change alike _ ih =>
    refine (ih (becomes.alike (alike s))).mono ?_
    rintro _ ⟨alike', pursues⟩
    exact ⟨(alike s).trans alike', pursues⟩
  | await asks alike next =>
    refine ⟨.refl s, fun u member => ?_⟩
    obtain rfl := List.mem_singleton.1 member
    refine ⟨List.forall_mem_append.2 ⟨minds, fun e new => ?_⟩, alike, next⟩
    obtain ⟨⟨slot, c⟩, called, rfl⟩ := List.mem_map.1 new
    exact minds_call (asks _ called)

/-! ### Tables -/

namespace Lawful

variable {n : Node} {now : Moment}

/-- With slots in the buckets no conversation ends in a fault. -/
theorem usable (lawful : r.Lawful) (becomes : r.Becomes n now) :
    (∃ localId slots, n.table.Sound localId slots ∧ 1 ≤ slots) ∨ ∀ fault, r.breaks fault := by
  obtain ⟨localId, slots, sound, usable | breaks⟩ := lawful.sound
  · exact .inl ⟨localId, slots, becomes.goes.sound sound, usable⟩
  · exact .inr breaks

theorem conversing (lawful : r.Lawful) (becomes : r.Becomes n now) :
    RoutingTable.Conversing ⟨n.table, now⟩ ∨ ∀ fault, r.breaks fault := by
  refine (lawful.usable becomes).imp_left ?_
  rintro ⟨localId, slots, sound, usable⟩
  exact RoutingTable.Sound.conversing (s := ⟨n.table, now⟩) sound usable

theorem resumes (lawful : r.Lawful) (becomes : r.Becomes n now) {e : Strand} {m : Message}
    (minds : r.Minds e) (sent : m ∈ e.message) {surroundings : Surroundings}
    (blames : ∀ p request e, r.asks ⟨.contact p, request⟩ → m.sender = r.start.self →
      m.body = .request request →
      (surroundings.answer (.calling ⟨.contact p, request⟩) m).read request.operation = .error e →
      r.blamed p.id) :
    Yields r.breaks (fun (table, progress) =>
        Timed.Goes r.welcome r.blamed ⟨n.table, now⟩ ⟨table, now⟩ ∧
          ∀ slot c, progress = .waits c → r.Minds ⟨slot, c, none⟩)
      (e.conversation.resume n.version n.table now (surroundings.answer e.conversation m)) := by
  generalize heard : surroundings.answer e.conversation m = answer
  cases resumed : e.conversation.resume n.version n.table now answer with
  | error fault =>
    rcases lawful.conversing becomes with conversing | breaks
    · obtain ⟨t, progress, done, -⟩ := conversing.resumes n.version answer e.conversation
      cases resumed.symm.trans done
    · exact breaks fault
  | ok result =>
    obtain ⟨table, progress⟩ := result
    have brings (reply : Message) (answered : answer = .ok reply) : Introduces r.welcome reply := by
      obtain ⟨-, body, -, decoded⟩ := Surroundings.answer_eq_ok_iff.1 (heard.trans answered)
      exact lawful.brings body reply decoded
    have held (p : Peer) (request : Request) (reason : CallError)
        (calling : e.conversation = .calling ⟨.contact p, request⟩)
        (failed : answer.read request.operation = .error reason) : r.blamed p.id := by
      obtain ⟨sender, body⟩ := minds.message m sent
      rw [← heard, calling] at failed
      rw [calling] at body
      exact blames p request reason (minds.asks _ calling) sender body failed
    obtain ⟨goes, knows⟩ := RoutingTable.goes_resume minds.knows brings held resumed
    refine ⟨goes, fun slot c' waits => ⟨knows c' waits, ?_, nofun⟩⟩
    rintro call rfl
    exact absurd (waits ▸ resumed) Conversation.resume_ne_calling

theorem observes (lawful : r.Lawful) (becomes : r.Becomes n now) {p : Peer}
    (fit : r.welcome p) :
    Yields r.breaks (fun (table, progress) =>
        Timed.Goes r.welcome r.blamed ⟨n.table, now⟩ ⟨table, now⟩ ∧
          ∀ slot c, progress = .waits c → r.Minds ⟨slot, c, none⟩)
      (Conversation.observe n.table now p none) := by
  cases observed : Conversation.observe n.table now p none with
  | error fault =>
    rcases lawful.conversing becomes with conversing | breaks
    · obtain ⟨t, progress, done, -⟩ := conversing.observes p none
      cases observed.symm.trans done
    · exact breaks fault
  | ok result =>
    obtain ⟨table, progress⟩ := result
    obtain ⟨goes, waits⟩ := RoutingTable.goes_observe none fit (by rintro _ ⟨⟩) observed
    refine ⟨goes, fun slot c waiting => ?_⟩
    obtain ⟨knows, challenge, rfl⟩ := waits c waiting
    exact ⟨knows, nofun, nofun⟩

theorem hears (lawful : r.Lawful) (becomes : r.Becomes n now) {ps : List Peer}
    (fit : ∀ p ∈ ps, r.welcome p) :
    Yields r.breaks (fun table => Timed.Goes r.welcome r.blamed ⟨n.table, now⟩ ⟨table, now⟩)
      (n.table.addHearsay now ps) := by
  cases heard : n.table.addHearsay now ps with
  | error fault =>
    rcases lawful.usable becomes with ⟨localId, slots, sound, usable⟩ | breaks
    · obtain ⟨t, done, -⟩ := sound.addHearsay usable now ps
      cases heard.symm.trans done
    · exact breaks fault
  | ok table => exact RoutingTable.goes_addHearsay fit heard

end Lawful

/-! ### Steps -/

namespace Kept

variable {a : Activity}

theorem put (h : r.Kept a) (i : Nat) (undertakings : List Undertaking)
    (pursues : ∀ u ∈ undertakings, r.Pursues u) : r.Kept (a.put i undertakings) := by
  refine ⟨h.becomes, fun u member => ?_, h.guests, h.sent⟩
  rcases List.mem_append.1 member with before | after
  · rcases List.mem_append.1 before with kept | new
    · exact h.undertakings u (List.mem_of_mem_take kept)
    · exact pursues u new
  · exact h.undertakings u (List.mem_of_mem_drop after)

theorem of_strand? (h : r.Kept a) {i j : Nat} {u : Undertaking} {e : Strand}
    (found : a.strand? i j = some (u, e)) : r.Pursues u ∧ r.Minds e := by
  simp only [Activity.strand?, Option.bind_eq_bind, Option.bind_eq_some_iff, Option.pure_def,
    Option.some.injEq] at found
  obtain ⟨u', inside, e', within, same⟩ := found
  cases same
  have pursues := h.undertakings u (List.mem_of_getElem? inside)
  exact ⟨pursues, pursues.strands e (List.mem_of_getElem? within)⟩

theorem setSite (h : r.Kept a) {site : Site} (becomes : r.Becomes site.node site.now) :
    r.Kept { a with site } := ⟨becomes, h.undertakings, h.guests, h.sent⟩

theorem setTable (h : r.Kept a) {table : RoutingTable}
    (goes : Timed.Goes r.welcome r.blamed ⟨a.site.node.table, a.site.now⟩ ⟨table, a.site.now⟩) :
    r.Kept (a.setTable table) := h.setSite (h.becomes.table goes)

theorem begin (h : r.Kept a) {p : Plan Unit} (conforms : p.Conforms r.terms) :
    Yields r.breaks r.Kept (a.begin p) := by
  refine (proceeds conforms [] (List.forall_mem_nil _) h.becomes).bind ?_
  rintro ⟨site, us⟩ ⟨alike, pursues⟩
  have all : ∀ u ∈ us ++ a.undertakings, r.Pursues u :=
    List.forall_mem_append.2 ⟨pursues, h.undertakings⟩
  exact Kept.mk (h.becomes.alike alike) all h.guests h.sent

theorem depart (h : r.Kept a) (i j : Nat) : r.Kept (a.depart i j) := by
  unfold Activity.depart
  split
  · rename_i u slot c found
    obtain ⟨pursues, minds⟩ := h.of_strand? found
    have sender := h.becomes.steady.self
    have asked := pursues.put j [⟨slot, c, some (a.site.node.ask c.request.2).2⟩] <| by
      refine List.forall_mem_singleton.2 ⟨minds.knows, minds.asks, ?_⟩
      rintro _ ⟨⟩
      exact ⟨sender, rfl⟩
    have spoken : r.Says (a.site.node.ask c.request.2).2 := by
      cases c with
      | calling call => exact .calls sender rfl (minds.asks call rfl)
      | challenging => exact .pings sender rfl
    have next := h.put i _ (List.forall_mem_singleton.2 asked)
    exact ⟨h.becomes.changed _ _, next.undertakings, h.guests,
      List.forall_mem_cons.2 ⟨spoken, h.sent⟩⟩
  · exact h

theorem abandon (h : r.Kept a) (i : Nat) : r.Kept (a.abandon i) := by
  unfold Activity.abandon
  split
  · rename_i u found
    have dropped := (h.undertakings u (List.mem_of_getElem? found)).dropped a.site
    exact (h.put i [] (List.forall_mem_nil _)).setSite (h.becomes.alike dropped)
  · exact h

theorem answer (lawful : r.Lawful) (h : r.Kept a) {s : Service} {i j : Nat}
    {surroundings : Surroundings} (permits : r.Permits s (.answered i j surroundings)) :
    Yields r.breaks r.Kept (a.answer i j surroundings) := by
  unfold Activity.answer
  split
  · rename_i u slot c message found
    obtain ⟨pursues, minds⟩ := h.of_strand? found
    have rest := pursues.put j [] (List.forall_mem_nil _)
    refine (lawful.resumes h.becomes minds rfl (permits · · message)).bind ?_
    rintro ⟨table, progress⟩ ⟨goes, waits⟩
    have next := h.setTable goes
    cases progress with
    | waits c' =>
      have goesOn := pursues.put j _ (List.forall_mem_singleton.2 (waits slot c' rfl))
      exact next.put i _ (List.forall_mem_singleton.2 goesOn)
    | ended outcome =>
      cases outcome with
      | none => exact next.put i _ (List.forall_mem_singleton.2 rest)
      | some outcome =>
        refine (proceeds (pursues.next slot outcome) _ rest.strands next.becomes).bind ?_
        rintro ⟨site, us⟩ ⟨alike, pursues'⟩
        exact (next.put i _ pursues').setSite (next.becomes.alike alike)
  · exact h

theorem serve (h : r.Kept a) (body : Bytes) (host : IpAddr) {files : Files.Tree}
    (lawful : r.Lawful) (permitted : r.files files) : r.Kept (a.serve body host files) := by
  unfold Activity.serve
  split
  · rename_i frame m written decoded
    have short : body.length ≤ Frame.limit := (Frame.write_eq_ok_iff.1 written).1
    have becomes := h.becomes.reacts short decoded files host
    refine ⟨becomes, h.undertakings, List.forall_mem_append.2 ⟨h.guests, fun p observed => ?_⟩,
      List.forall_mem_append.2 ⟨fun reply answered => ?_, h.sent⟩⟩
    · have guest := Node.eq_of_observed (Option.mem_toList.1 observed)
      exact guest ▸ (lawful.brings body m decoded).sender host
    · exact .replies h.becomes permitted decoded (Option.mem_toList.1 answered)
  · exact h

theorem welcome (h : r.Kept a) (lawful : r.Lawful) (i : Nat) :
    Yields r.breaks r.Kept (a.welcome i) := by
  unfold Activity.welcome
  split
  · exact h
  · rename_i p found
    have guest := h.guests p (List.mem_of_getElem? found)
    refine (lawful.observes h.becomes guest).bind ?_
    rintro ⟨table, progress⟩ ⟨goes, waits⟩
    have next := h.setTable goes
    have rest : ∀ q ∈ a.guests.eraseIdx i, r.welcome q := fun q member =>
      h.guests q (List.mem_of_mem_eraseIdx member)
    cases progress with
    | ended => exact Kept.mk next.becomes next.undertakings rest next.sent
    | waits c =>
      have challenge : r.Pursues ⟨[⟨0, c, none⟩], id, fun _ _ => .done ()⟩ :=
        ⟨List.forall_mem_singleton.2 (waits 0 c rfl), Site.Alike.refl, fun _ _ => .done ()⟩
      have all := List.forall_mem_cons.2 ⟨challenge, next.undertakings⟩
      exact Kept.mk next.becomes all rest next.sent

theorem step (h : r.Kept a) (lawful : r.Lawful) {s : Service} {o : Occurrence}
    (permits : r.Permits s o) : Yields r.breaks r.Kept (a.step s o) := by
  cases o with
  | began task => exact h.begin permits
  | departed i j => exact h.depart i j
  | answered i j surroundings => exact h.answer lawful permits
  | abandoned i => exact h.abandon i
  | asked body host files => exact h.serve body host lawful permits
  | observed i => exact h.welcome lawful i
  | told peers =>
    refine (lawful.hears h.becomes permits).bind fun table goes => ?_
    exact h.setTable goes
  | elapsed span => exact h.setSite (h.becomes.elapsed span)
  | changed files => exact h.setSite h.becomes

/-- What a regime keeps in every step it keeps in every run. -/
theorem run (h : r.Kept a) (lawful : r.Lawful) (s : Service) (os : List Occurrence)
    (permits : ∀ o ∈ os, r.Permits s o) : Yields r.breaks r.Kept (a.run s os) := by
  induction os generalizing a with
  | nil => exact h
  | cons o os ih =>
    obtain ⟨first, later⟩ := List.forall_mem_cons.1 permits
    exact (h.step lawful first).bind fun next kept => ih kept later

end Kept

theorem kept_idle (r : Regime) (files : Files.Tree) :
    r.Kept (.idle ⟨r.start, files, r.began⟩) :=
  ⟨⟨⟨[], .start⟩, .refl _⟩, List.forall_mem_nil _, List.forall_mem_nil _, List.forall_mem_nil _⟩

end Regime
end LocalSwarm
