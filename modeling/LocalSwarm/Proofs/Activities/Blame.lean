import LocalSwarm.Proofs.Activities.Invariants

/-! Whom a failed call is held against. Values that leave room for their key and for our name in a
frame can be stored without harm to any contact that answers what it is sent; a longer one is never
sent, and yet counts as unanswered. Main statement: `stores_blame_nobody`. -/
namespace LocalSwarm
open RoutingTable (Sound)

/-- Calls to a peer are answered, as long as they can be sent. -/
def Surroundings.Serves (surroundings : Surroundings) (p : Peer) : Prop :=
  ∀ request m, m.body = .request request → m.encode.length ≤ Frame.limit →
    ∃ body reply response, surroundings (.calling ⟨.contact p, request⟩) m = .ok body ∧
      Message.decode body = .ok reply ∧ reply.body = .response response ∧
      response.operation = request.operation

theorem Surroundings.Serves.read {surroundings : Surroundings} {p : Peer}
    (serves : surroundings.Serves p) {request : Request} {m : Message}
    (asks : m.body = .request request) (short : m.encode.length ≤ Frame.limit) (e : CallError) :
    (surroundings.answer (.calling ⟨.contact p, request⟩) m).read request.operation ≠ .error e := by
  obtain ⟨body, reply, response, brought, decoded, responds, same⟩ := serves request m asks short
  have answered := Surroundings.answer_eq_ok_iff.2 ⟨short, body, brought, decoded⟩
  have read := Answer.read_eq_ok_iff.2 ⟨reply, answered, rfl, responds, same⟩
  rw [read]
  exact nofun

namespace Node

/-- The requests that a node can send. -/
def CanSend (n : Node) (request : Request) : Prop :=
  ∀ k, (Message.mk k n.self (.request request)).encode.length ≤ Frame.limit

/-- There is room for a value beside its key and our name. -/
theorem canSend_store {n : Node} {key : Identifier} {value : Bytes}
    (room : 54 + n.self.machine.utf8ByteSize + value.length ≤ Frame.limit) :
    n.CanSend (.store key value) := by
  intro k
  have machine := Wire.length_text_le_size n.self.machine
  have body : (Wire.body (.request (.store key value))).length = 24 + value.length := by
    rw [Wire.body, Wire.request, List.length_append, Wire.length_identifier, Wire.length_blob]
    omega
  rw [Message.length_encode, body]
  dsimp only
  omega

theorem length_search_le (target : Identifier) (count : UInt16) :
    (target.toBytes ++ Wire.word16 count).length ≤ bodyRoom := by
  rw [List.length_append, Wire.length_identifier, Wire.word16, Bytes.length_ofNat]
  decide

end Node

namespace Regime

/-- Under this regime calls that cannot be sent are not made, and only of peers that were no
contacts at first may failures be counted. -/
def forbearing (start : Node) (began : Moment) (breaks : Prop) : Regime where
  start
  began
  files _ := True
  welcome _ := True
  blamed id := ∀ c ∈ start.table.contacts, c.id ≠ id
  asks c := start.CanSend c.request
  breaks _ := breaks

variable {start : Node} {began : Moment} {breaks : Prop}

theorem searching_forbearing : (forbearing start began breaks).terms.Searching :=
  ⟨fun _ _ _ _ => Node.short_of_body (Node.length_search_le ..),
    fun _ _ _ _ => Node.short_of_body (Node.length_search_le ..)⟩

/-- Contacts have no more failures than they had at first. -/
theorem failures_le_of_goes {localId : Identifier} {slots : Nat}
    (sound : start.table.Sound localId slots) {n : Node} {now : Moment}
    (becomes : (forbearing start began breaks).Becomes n now) :
    ∀ c' ∈ n.table.contacts, ∀ c ∈ start.table.contacts, c.id = c'.id →
      c'.failures ≤ c.failures := by
  refine Sound.kept_of_goes (s := ⟨start.table, began⟩) sound ?enters ?learns ?seen ?failed
    becomes.goes ?before
  case enters =>
    intro c' _ blameless c _ _
    exact blameless.trans_le (Nat.zero_le _)
  case learns =>
    intro known newcomer before _ _ same c member named
    have fewer : (known.learn newcomer).failures ≤ known.failures := by
      unfold Contact.learn
      split
      · exact Nat.zero_le _
      · split <;> exact Nat.le_refl _
    exact fewer.trans (before c member (named.trans (Contact.id_learn same.symm)))
  case seen =>
    intro c' now _ c _ _
    exact Nat.zero_le _
  case failed =>
    intro c' _ blamed c member same
    exact absurd same (blamed c member)
  case before =>
    intro c' member' c member same
    rw [List.inj_on_of_nodup_map sound.distinct member member' same]

theorem permits_forbearing {s : Service} {o : Occurrence}
    (stores : ∀ task, o = .began task → ∃ key value, task = .store key value ∧
      54 + start.self.machine.utf8ByteSize + value.length ≤ Frame.limit)
    (serves : ∀ i j surroundings, o = .answered i j surroundings →
      ∀ c ∈ start.table.contacts, ∀ p : Peer, p.id = c.id → surroundings.Serves p) :
    (forbearing start began breaks).Permits s o := by
  cases o with
  | began task =>
    obtain ⟨key, value, rfl, room⟩ := stores task rfl
    exact Task.conforms searching_forbearing fun _ => Node.canSend_store room
  | answered i j surroundings =>
    rintro p request ⟨k, _, _⟩ e canSend rfl rfl failed c member same
    exact (serves i j surroundings rfl c member p same.symm).read rfl (canSend k) e failed
  | told =>
    intro p member
    trivial
  | asked | departed | abandoned | observed | elapsed | changed => trivial

end Regime

/-- A failed call to a contact counts, and nothing else changes in the table. -/
theorem Activity.table_of_failed {r : Regime} {a a' : Activity} (kept : r.Kept a) {i j slot : Nat}
    {u : Undertaking} {p : Peer} {request : Request} {m : Message} {surroundings : Surroundings}
    {e : CallError}
    (waits : a.strand? i j = some (u, ⟨slot, .calling ⟨.contact p, request⟩, some m⟩))
    (failed : (surroundings.answer (.calling ⟨.contact p, request⟩) m).read request.operation =
      .error e) (blamed : r.blamed p.id) (done : a.answer i j surroundings = .ok a') :
    a'.site.node.table = a.site.node.table.requestFailed p.id := by
  have resumed : Conversation.resume a.site.node.version a.site.node.table a.site.now
      (surroundings.answer (.calling ⟨.contact p, request⟩) m) (.calling ⟨.contact p, request⟩) =
        .ok (a.site.node.table.requestFailed p.id, .ended (some (.error e))) := by
    rw [Conversation.resume, failed]
    rfl
  let next := a.setTable (a.site.node.table.requestFailed p.id)
  have counts : r.Kept next := kept.setTable <|
    RoutingTable.Timed.goes_of_turn (.requestFailed p.id) blamed rfl
  obtain ⟨pursues, -⟩ := kept.of_strand? waits
  have rest := pursues.put j [] (List.forall_mem_nil _)
  have goesOn := Regime.proceeds (pursues.next slot (.error e)) _ rest.strands counts.becomes
  rw [answer, waits] at done
  dsimp only at done
  rw [resumed] at done
  change (Plan.proceed _ _ next.site >>= fun result => _) = _ at done
  cases proceeded : Plan.proceed (u.put j []).strands (u.next slot (.error e)) next.site with
  | error fault =>
    rw [proceeded] at done
    cases done
  | ok result =>
    rw [proceeded] at done
    cases done
    have alike := (goesOn.of_ok proceeded).1
    exact congrArg Node.table alike.node

/-- Storing values that fit a frame together with their keys and our name leaves no contact with
more failures than before, as long as whoever was a contact before answers all calls that are sent
to it. This is so at any time, whatever else happens meanwhile. -/
theorem stores_blame_nobody (s : Service) (site : Site) (localId : Identifier) (slots : Nat)
    (sound : site.node.table.Sound localId slots) (os : List Occurrence)
    (stores : ∀ task, .began task ∈ os → ∃ key value, task = .store key value ∧
      54 + site.node.self.machine.utf8ByteSize + value.length ≤ Frame.limit)
    (serves : ∀ i j surroundings, .answered i j surroundings ∈ os →
      ∀ c ∈ site.node.table.contacts, ∀ p : Peer, p.id = c.id → surroundings.Serves p) :
    (1 ≤ slots → ∃ a, Activity.run s (.idle site) os = .ok a) ∧
      ∀ a, Activity.run s (.idle site) os = .ok a →
        ∀ c' ∈ a.site.node.table.contacts, ∀ c ∈ site.node.table.contacts,
          c.id = c'.id → c'.failures ≤ c.failures := by
  let r := Regime.forbearing site.node site.now (slots = 0)
  have lawful : r.Lawful := by
    refine ⟨⟨localId, slots, sound, ?_⟩, fun _ m _ => .of_all (fun _ => trivial) m⟩
    exact (Nat.eq_zero_or_pos slots).symm.imp_right fun none _ => none
  have kept : Yields r.breaks r.Kept (Activity.run s (.idle site) os) := by
    refine (r.kept_idle site.files).run lawful s os fun o member => ?_
    refine Regime.permits_forbearing (fun task begins => ?_) fun i j surroundings answers => ?_
    · exact stores task (begins ▸ member)
    · exact serves i j surroundings (answers ▸ member)
  constructor
  · intro usable
    cases ends : Activity.run s (.idle site) os with
    | ok a => exact ⟨a, rfl⟩
    | error fault => exact absurd (kept.of_error ends) (Nat.pos_iff_ne_zero.1 usable)
  · intro a done
    exact Regime.failures_le_of_goes sound (kept.of_ok done).becomes

/-! A service with one contact, which answers everything, stores a value there. -/

namespace Storing

open RoutingTable.Contention (first)

def settings : Settings :=
  { Settings.standard with bucketSlots := 1, machine := some "studio" }

def service : Service := .allocated settings ⟨1⟩ 4400 .nothing none

def table : RoutingTable := (service.node.table.replace first.id (.heard 0 first)).1

def site : Site := ⟨{ service.node with table }, .empty, 0⟩

def response : Request → Response
  | .acknowledge _ => .acknowledge ⟨1, []⟩
  | .ping => .ping
  | .store .. => .store true
  | .findNode .. => .findNode []
  | .findValue .. => .findValue (.closer [])
  | .checkFile _ => .checkFile .unknown
  | .download .. => .download .unknown []

def answers : Surroundings := fun c m =>
  let sender : Sender := ⟨first.id, 4400, "studio"⟩
  .ok (Message.mk m.correlation sender (.response (response c.request.2))).encode

def store (value : Bytes) : List Occurrence :=
  [.began (.store ⟨9⟩ value), .departed 0 0, .answered 0 0 answers, .departed 0 0,
    .answered 0 0 answers]

theorem sound_table : table.Sound ⟨1⟩ 1 :=
  RoutingTable.sound_fresh.replace first.id (.heard 0 first)

theorem contacts_table : table.contacts = [.heard 0 first] := by decide +kernel

theorem response_fits (r : Request) : (response r).Fits := by
  have none : Peer.AllFit [] := ⟨Nat.zero_le _, List.forall_mem_nil _⟩
  cases r with
  | acknowledge => exact ⟨Nat.zero_le _, List.forall_mem_nil _⟩
  | ping | store => trivial
  | findNode | findValue => exact none
  | checkFile => exact Wire.plain_empty
  | download => exact ⟨Wire.plain_empty, Nat.zero_lt_succ _⟩

theorem serves (p : Peer) : answers.Serves p := by
  intro request m _ _
  refine ⟨_, _, _, rfl, Message.decode_encode ⟨Wire.plain_studio, response_fits _⟩, rfl, ?_⟩
  cases request <;> rfl

theorem answers_of_mem {value : Bytes} {i j : Nat} {surroundings : Surroundings}
    (member : .answered i j surroundings ∈ store value) : surroundings = answers := by
  simp only [store, List.mem_cons, reduceCtorEq, Occurrence.answered.injEq, false_or,
    List.not_mem_nil, or_false] at member
  rcases member with ⟨-, -, same⟩ | ⟨-, -, same⟩ <;> exact same

theorem store_of_mem {value : Bytes} {task : Task} (member : .began task ∈ store value) :
    task = .store ⟨9⟩ value := by
  simp only [store, List.mem_cons, Occurrence.began.injEq, reduceCtorEq, List.not_mem_nil,
    or_false] at member
  exact member

theorem value_is_stored :
    table.Sound ⟨1⟩ 1 ∧ 54 + site.node.self.machine.utf8ByteSize + 3 ≤ Frame.limit ∧
      (∀ p, answers.Serves p) ∧ 1 ≤ 1 ∧
      ∃ a, Activity.run service (.idle site) (store [1, 2, 3]) = .ok a ∧
        a.sent.map (·.body) = [.request (.store ⟨9⟩ [1, 2, 3]), .request (.findNode ⟨9⟩ 1)] ∧
        ∀ c ∈ a.site.node.table.contacts, ∀ d ∈ table.contacts, d.id = c.id →
          c.failures ≤ d.failures := by
  have room : 54 + site.node.self.machine.utf8ByteSize + 3 ≤ Frame.limit := by decide +kernel
  obtain ⟨runs, blameless⟩ := stores_blame_nobody service site ⟨1⟩ 1 sound_table (store [1, 2, 3])
    (fun task member => ⟨⟨9⟩, [1, 2, 3], store_of_mem member, room⟩)
    (fun i j surroundings member c _ p _ => answers_of_mem member ▸ serves p)
  obtain ⟨a, done⟩ := runs (by decide)
  have sent : (Activity.run service (.idle site) (store [1, 2, 3])).toOption.map
      (fun a => a.sent.map (·.body)) =
        some [.request (.store ⟨9⟩ [1, 2, 3]), .request (.findNode ⟨9⟩ 1)] := by decide +kernel
  rw [done] at sent
  exact ⟨sound_table, room, serves, by decide, a, done, Option.some.inj sent, blameless a done⟩

/-- A value that is one byte too long. -/
def long : Bytes := List.replicate 33554373 0

theorem long_is_not_written {m : Message} (sender : m.sender = site.node.self)
    (stores : m.body = .request (.store ⟨9⟩ long)) :
    Frame.write m.encode = .error (.frameTooLarge 33554433) := by
  have machine : (Wire.text site.node.self.machine).length = 8 :=
    Wire.plain_studio.length_text.trans (by decide +kernel)
  have body : (Wire.body (.request (.store ⟨9⟩ long))).length = 33554397 := by
    rw [Wire.body, Wire.request, List.length_append, Wire.length_identifier, Wire.length_blob, long,
      List.length_replicate]
  rw [Frame.write, Message.length_encode, sender, stores, machine, body]
  rfl

/-- A regime under which nothing else is stored. -/
def regime : Regime where
  start := site.node
  began := 0
  files _ := True
  welcome _ := True
  blamed _ := True
  asks c := c.request.operation = .store → c.request = .store ⟨9⟩ long
  breaks _ := False

theorem kept_store {os : List Occurrence} (part : os ⊆ store long) :
    Yields regime.breaks regime.Kept (Activity.run service (.idle site) os) := by
  have lawful : regime.Lawful :=
    ⟨⟨⟨1⟩, 1, sound_table, .inl (by decide)⟩, fun _ m _ => .of_all (fun _ => trivial) m⟩
  have searching : regime.terms.Searching := by
    constructor
    all_goals
      intro _ _ _ stores
      cases stores
  refine (regime.kept_idle site.files).run lawful service os fun o member => ?_
  cases o with
  | began task =>
    rw [store_of_mem (part member)]
    exact Task.conforms searching fun _ _ => rfl
  | answered =>
    intro p request m e asks sender body failed
    trivial
  | told =>
    intro p member
    trivial
  | asked | departed | abandoned | observed | elapsed | changed => trivial

/-- The contact that the first of the conversations is with, and what it is asked for. -/
def called? (a : Activity) : Option (Peer × Operation) :=
  match a.strand? 0 0 with
  | some (_, ⟨_, .calling ⟨.contact p, request⟩, some _⟩) => some (p, request.operation)
  | _ => none

theorem eq_of_called? {a : Activity} (kept : regime.Kept a) {p : Peer}
    (called : called? a = some (p, .store)) : ∃ u slot m,
      a.strand? 0 0 = some (u, ⟨slot, .calling ⟨.contact p, .store ⟨9⟩ long⟩, some m⟩) ∧
        m.sender = site.node.self ∧ m.body = .request (.store ⟨9⟩ long) := by
  unfold called? at called
  split at called
  · rename_i u slot p' request m found
    obtain ⟨rfl, stores⟩ := Prod.mk.inj (Option.some.inj called)
    obtain ⟨-, minds⟩ := kept.of_strand? found
    obtain rfl : request = .store ⟨9⟩ long := minds.asks _ rfl stores
    exact ⟨u, slot, m, found, minds.message m rfl⟩
  · cases called

/-- It cannot be sent, and yet its contact has left one more request unanswered. -/
theorem long_value_is_held_against_contact :
    (∀ p, answers.Serves p) ∧ table.contacts = [.heard 0 first] ∧
      (∀ m : Message, m.sender = site.node.self → m.body = .request (.store ⟨9⟩ long) →
        Frame.write m.encode = .error (.frameTooLarge 33554433)) ∧
      ∃ a, Activity.run service (.idle site) (store long) = .ok a ∧
        a.site.node.table.contacts = [(Contact.heard 0 first).fail] := by
  refine ⟨serves, contacts_table, fun _ => long_is_not_written, ?_⟩
  have known : (Activity.run service (.idle site) ((store long).take 4)).toOption.map
      (fun a => ((a.site.node.table.requestFailed first.id).contacts, called? a)) =
        some ([(Contact.heard 0 first).fail], some (first, .store)) := by decide +kernel
  cases before : Activity.run service (.idle site) ((store long).take 4) with
  | error fault => exact (kept_store (List.take_subset 4 _)).of_error before |>.elim
  | ok a =>
    rw [before] at known
    obtain ⟨counted, called⟩ := Prod.mk.inj (Option.some.inj known)
    have kept := (kept_store (List.take_subset 4 _)).of_ok before
    obtain ⟨u, slot, m, waits, sender, stores⟩ := eq_of_called? kept called
    have failed : answers.answer (.calling ⟨.contact first, .store ⟨9⟩ long⟩) m = .error _ :=
      Surroundings.answer_of_unwritten (long_is_not_written sender stores)
    have unread := congrArg (Answer.read .store) failed
    cases after : Activity.run service (.idle site) (store long) with
    | error fault => exact (kept_store (List.Subset.refl _)).of_error after |>.elim
    | ok a' =>
      have last := after
      rw [← List.take_append_drop 4 (store long), Activity.run_append, before] at last
      have done : a.answer 0 0 answers = .ok a' := (bind_pure _).symm.trans last
      have table := Activity.table_of_failed kept waits unread trivial done
      exact ⟨a', rfl, table ▸ counted⟩

end Storing

end LocalSwarm
