import LocalSwarm.Proofs.Connections.Streams
import LocalSwarm.Proofs.Records
import LocalSwarm.Proofs.SharedFiles
import LocalSwarm.Proofs.Wire.Sizes

/-! Whether the answers of a node fit a frame. All do for which there is a bound, whatever is asked;
a value that was stored comes back in an answer of nearly the length of the message that brought it.
Main statement: `answers_fit_a_frame`. -/
namespace LocalSwarm

-- Comparing lengths symbol by symbol would write out all digits of a number.
attribute [local irreducible] Bytes.ofNat

namespace ValueStore

variable {s : ValueStore} {now t : Moment} {key key' : Identifier} {value value' : Bytes}

theorem mem_of_put (member : (key', value', t) ∈ (s.put now key value).1.entries) :
    (key', value', t) ∈ s.entries ∨ key' = key ∧ value' = value := by
  unfold put at member
  extract_lets room at member
  have old : ∀ e ∈ room.entries, e ∈ s.entries := by
    intro e kept
    simp only [room] at kept
    split at kept
    · exact kept
    · exact (List.mem_filter.1 kept).1
  split at member
  · rcases List.mem_cons.1 member with new | kept
    · cases new
      exact .inr ⟨rfl, rfl⟩
    · exact .inl (old _ (List.mem_of_mem_eraseP kept))
  · exact .inl (old _ member)

theorem mem_of_get {e : Identifier × Bytes × Moment} (member : e ∈ (s.get now key).1.entries) :
    e ∈ s.entries := by
  rw [get] at member
  split at member
  · split at member
    · exact member
    · exact List.mem_of_mem_eraseP member
  · exact member

theorem mem_of_get_eq_some (found : (s.get now key).2 = some value) :
    ∃ t, (key, value, t) ∈ s.entries := by
  rw [get] at found
  split at found
  · rename_i value' storedAt known
    split at found
    · obtain rfl := Option.some.inj found
      exact ⟨storedAt, mem_of_lookup_eq_some known⟩
    · cases found
  · cases found

end ValueStore

namespace Node

variable {start n : Node} {past : List Message} {m : Message} {files : Files.Tree} {now : Moment}
  {host : IpAddr} {requester : Peer} {body : Bytes}

/-- The nodes that a node can become, and the messages that have come to it in frames. Whatever else
it does changes neither who it is nor what it keeps and shares. -/
inductive Reached (start : Node) : List Message → Node → Prop
  | start : Reached start [] start
  | received {past : List Message} {n : Node} {body : Bytes} {m : Message}
      (reached : Reached start past n) (short : body.length ≤ Frame.limit)
      (decoded : Message.decode body = .ok m) (files : Files.Tree) (now : Moment)
      (host : IpAddr) : Reached start (past ++ [m]) (n.react files now m host).1
  | changed {past : List Message} {n : Node} (reached : Reached start past n) (table : RoutingTable)
      (bootstrap : Bootstrap) (correlation : UInt32) :
      Reached start past { n with table, bootstrap, correlation }

theorem Reached.steady (reached : Reached start past n) : Steady start n := by
  induction reached with
  | start => exact ⟨rfl, rfl, rfl⟩
  | @received past n body m _ _ _ files now host ih =>
    have step := n.steady_react files now m host
    exact ⟨step.self.trans ih.self, step.count.trans ih.count, step.greeting.trans ih.greeting⟩
  | changed _ table bootstrap correlation ih => exact ⟨ih.self, ih.count, ih.greeting⟩

/-! ### Values -/

variable {key : Identifier} {value : Bytes} {t : Moment}

theorem store_findValue (count : UInt16) :
    (n.respond files now requester (.findValue key count)).1.store =
      (n.store.get now key).1 := by
  rw [respond]
  split
  all_goals
    rename_i got
    rw [got]

theorem stored_respond {r : Request}
    (member : (key, value, t) ∈ (n.respond files now requester r).1.store.entries) :
    (key, value, t) ∈ n.store.entries ∨ r = .store key value := by
  cases r with
  | store key' value' =>
    rcases ValueStore.mem_of_put member with old | ⟨rfl, rfl⟩
    · exact .inl old
    · exact .inr rfl
  | findValue key' count =>
    rw [store_findValue] at member
    exact .inl (ValueStore.mem_of_get member)
  | _ => exact .inl member

/-- A value that is kept came in a message that fit a frame. -/
theorem Reached.stored (reached : Reached start past n) (empty : start.store.entries = [])
    (member : (key, value, t) ∈ n.store.entries) :
    ∃ m ∈ past, m.body = .request (.store key value) ∧ m.Fits ∧
      m.encode.length ≤ Frame.limit := by
  induction reached with
  | start =>
    rw [empty] at member
    cases member
  | @received past n body m _ short decoded files now host ih =>
    have new : (key, value, t) ∈ n.store.entries ∨ m.body = .request (.store key value) := by
      rw [react] at member
      split at member
      · rename_i r asks
        rw [asks]
        exact (stored_respond member).imp_right (congrArg Body.request)
      · exact .inl member
    rcases new with old | stores
    · obtain ⟨m', earlier, rest⟩ := ih old
      exact ⟨m', List.mem_append_left _ earlier, rest⟩
    · refine ⟨m, List.mem_append_right _ List.mem_cons_self, stores,
        (Message.decode_eq_ok_iff.1 decoded).1, ?_⟩
      rw [Message.length_of_decode decoded]
      exact short
  | changed _ table bootstrap correlation ih => exact ih member

/-- The length of a message that stores a value. -/
theorem length_encode_store (stores : m.body = .request (.store key value)) (fits : m.Fits) :
    m.encode.length = 54 + m.sender.machine.utf8ByteSize + value.length := by
  rw [Message.length_encode, fits.sender.length_text, stores]
  simp only [Wire.body, Wire.request, List.length_append, Wire.length_identifier,
    Wire.length_blob]
  omega

/-- The length of an answer with a value. -/
theorem length_encode_value (answers : m.body = .response (.findValue (.value value))) :
    m.encode.length = 33 + (Wire.text m.sender.machine).length + value.length := by
  rw [Message.length_encode, answers]
  simp only [Wire.body, Wire.response, List.length_cons, Wire.length_blob]
  omega

/-! ### All answers -/

/-- What any header leaves of a frame. -/
def bodyRoom : Nat := Frame.limit - 28 - Wire.textLimit

theorem short_of_body (room : (Wire.body m.body).length ≤ bodyRoom) :
    m.encode.length ≤ Frame.limit := by
  have machine := Wire.length_text_le m.sender.machine
  have limits : 28 + Wire.textLimit + bodyRoom ≤ Frame.limit := by decide
  rw [Message.length_encode]
  omega

theorem length_nearest_le (n : Node) (now : Moment) (target : Identifier) (count : UInt16)
    (requester : Peer) : (n.nearest now target count requester).length ≤ n.count := by
  rw [nearest]
  exact (List.length_take_le ..).trans (Nat.min_le_right ..)

theorem length_peers_le {ps : List Peer} (few : ps.length ≤ 20) :
    (Wire.peers ps).length + 1 ≤ bodyRoom := by
  have all := Wire.length_peers_le few
  have room : 2 + 20 * Wire.peerLimit + 1 ≤ bodyRoom := by decide
  omega

theorem length_status_le (status : FileStatus) {data : Bytes}
    (small : data.length ≤ Files.SharedFolders.servedLimit) :
    (Wire.response (.download status data)).length ≤ bodyRoom := by
  have head := Wire.length_fileStatus_le status
  have room : 10 + Wire.textLimit + 4 + Files.SharedFolders.servedLimit ≤ bodyRoom := by decide
  simp only [Wire.response, List.length_append, Wire.length_blob]
  omega

/-- What is answered leaves room for any header, unless it tells of our buckets or of a value that
is kept. -/
theorem response_fits {r : Request} {response : Response} (few : n.count = 20)
    (answered : (n.respond files now requester r).2 = .ok response) :
    (Wire.response response).length ≤ bodyRoom ∨ response = .acknowledge n.greeting ∨
      ∃ key value t, response = .findValue (.value value) ∧ (key, value, t) ∈ n.store.entries := by
  have named (target : Identifier) (count : UInt16) :=
    length_peers_le ((n.length_nearest_le now target count requester).trans few.le)
  cases r with
  | acknowledge greeting =>
    obtain rfl := Except.ok.inj answered
    exact .inr (.inl rfl)
  | ping =>
    obtain rfl := Except.ok.inj answered
    exact .inl (Nat.zero_le _)
  | store key value =>
    obtain rfl := Except.ok.inj answered
    exact .inl (by decide : 1 ≤ bodyRoom)
  | findNode target count =>
    obtain rfl := Except.ok.inj answered
    exact .inl (Nat.le_of_succ_le (named target count))
  | findValue key count =>
    rw [respond] at answered
    rcases got : n.store.get now key with ⟨store, _ | value⟩
    all_goals
      rw [got] at answered
      obtain rfl := Except.ok.inj answered
    · exact .inl (named key count)
    · obtain ⟨t, member⟩ := ValueStore.mem_of_get_eq_some (congrArg Prod.snd got)
      exact .inr (.inr ⟨key, value, t, rfl, member⟩)
  | checkFile file =>
    left
    rw [respond] at answered
    cases found : n.provider.status files file with
    | error e =>
      rw [found] at answered
      cases answered
    | ok status =>
      rw [found] at answered
      obtain rfl := Except.ok.inj answered
      exact (Wire.length_fileStatus_le status).trans (by decide)
  | download file range =>
    left
    rw [respond] at answered
    cases found : n.provider.read files file range with
    | error e =>
      rw [found] at answered
      cases answered
    | ok read =>
      rw [found] at answered
      obtain rfl := Except.ok.inj answered
      exact length_status_le _ (Files.Provider.length_read_le found)

/-- The buckets of a node fit a frame. -/
def Greets (n : Node) : Prop :=
  ∀ k, (Message.mk k n.self (.response (.acknowledge n.greeting))).encode.length ≤ Frame.limit

theorem Steady.greets (h : Steady start n) (greets : start.Greets) : n.Greets := by
  intro k
  rw [h.self, h.greeting]
  exact greets k

/-- An answer fits a frame, or it carries a value that the node keeps. -/
theorem reply_fits (few : n.count = 20) (greets : n.Greets) (files : Files.Tree) (now : Moment)
    (requester : Peer) (k : UInt32) (r : Request) :
    let reply : Message := ⟨k, n.self, answerBody r.operation (n.respond files now requester r).2⟩
    reply.encode.length ≤ Frame.limit ∨
      ∃ key value t, reply.body = .response (.findValue (.value value)) ∧
        (key, value, t) ∈ n.store.entries := by
  cases answered : (n.respond files now requester r).2 with
  | error text =>
    refine .inl (short_of_body ((Wire.length_text_le text).trans ?_))
    decide
  | ok response =>
    rcases response_fits few answered with room | rfl | ⟨key, value, t, rfl, member⟩
    · exact .inl (short_of_body room)
    · exact .inl (greets k)
    · exact .inr ⟨key, value, t, rfl, member⟩

/-- Every request is answered in a frame, whatever came in before, but for values that were stored
by somebody whose machine has a shorter name than ours, by twenty bytes or more: the message that
brought such a value may have been longer than the frame has room for in the answer. -/
theorem answers_fit_a_frame (start : Node) (few : start.count = 20)
    (empty : start.store = .standard) (greets : start.Greets) (past : List Message) (n : Node)
    (reached : Reached start past n) (m : Message) (asks : Serving.isRequest m = true)
    (files : Files.Tree) (now : Moment) (host : IpAddr) :
    ∃ reply, (n.react files now m host).2.reply = some reply ∧
      (Frame.write reply.encode = .ok (Frame.framed reply.encode) ∨
        ∃ key value, reply.body = .response (.findValue (.value value)) ∧
          ∃ stored ∈ past, stored.body = .request (.store key value) ∧
            stored.sender.machine.utf8ByteSize + 19 < start.self.machine.utf8ByteSize) := by
  have steady := reached.steady
  obtain ⟨k, sender, r | response | ⟨operation, text⟩⟩ := m
  · refine ⟨_, reply_react k sender r, ?_⟩
    rcases reply_fits (steady.count.trans few) (steady.greets greets) files now
      (sender.peerAt host) k r with fits | ⟨key, value, t, tells, member⟩
    · exact .inl (Frame.write_eq_ok_iff.2 ⟨fits, rfl⟩)
    · obtain ⟨stored, earlier, stores, whole, short⟩ :=
        reached.stored (by rw [empty]; rfl) member
      have asked := length_encode_store stores whole
      have answered := length_encode_value tells
      have machine := Wire.length_text_le_size start.self.machine
      dsimp only at answered
      rw [steady.self] at answered ⊢
      rcases Nat.lt_or_ge (stored.sender.machine.utf8ByteSize + 19)
        start.self.machine.utf8ByteSize with far | near
      · exact .inr ⟨key, value, tells, stored, earlier, stores, far⟩
      · refine .inl (Frame.write_eq_ok_iff.2 ⟨?_, rfl⟩)
        omega
  · cases asks
  · cases asks

/-! A node that is asked to keep a value, and is then asked for it. -/

namespace Keeping

open Traffic.Polls (studio)

def caller : IpAddr := .v4 0x0a000005

def keep (machine : String) (value : Bytes) : Message :=
  ⟨7, ⟨⟨5⟩, 4400, machine⟩, .request (.store ⟨9⟩ value)⟩

def find (machine : String) : Message := ⟨8, ⟨⟨5⟩, 4400, machine⟩, .request (.findValue ⟨9⟩ 20)⟩

def found (self : Sender) (value : Bytes) : Message :=
  ⟨8, self, .response (.findValue (.value value))⟩

/-- What becomes of a new node that is asked to keep a value. -/
def keeper (n : Node) (machine : String) (value : Bytes) : Node :=
  (n.react .empty 0 (keep machine value) caller).1

/-- There is room for no buckets. -/
theorem greets_of_nothing {n : Node} (shares : n.provider = .nothing) : n.Greets := by
  intro k
  have length : (Wire.greeting n.greeting).length = 4 := by
    rw [greeting, shares, Wire.greeting, List.length_append, List.length_append, Wire.word16,
      Bytes.length_ofNat, Bytes.length_ofNat]
    rfl
  exact short_of_body (length.trans_le (by decide))

theorem keep_fits : (keep "studio" [1, 2, 3]).Fits :=
  ⟨Wire.plain_studio, (by decide : 3 < Wire.blobLimit)⟩

theorem find_fits : (find "studio").Fits := ⟨Wire.plain_studio, trivial⟩

theorem kept_value_is_sent :
    Reached studio [keep "studio" [1, 2, 3]] (keeper studio "studio" [1, 2, 3]) ∧
      Message.decode (find "studio").encode = .ok (find "studio") ∧
      ((keeper studio "studio" [1, 2, 3]).react .empty 5 (find "studio") caller).2.reply =
        some (found studio.self [1, 2, 3]) ∧
      Frame.write (found studio.self [1, 2, 3]).encode =
        .ok (Frame.framed (found studio.self [1, 2, 3]).encode) := by
  have reached : Reached studio [keep "studio" [1, 2, 3]] (keeper studio "studio" [1, 2, 3]) :=
    .received .start (by decide +kernel) (Message.decode_encode keep_fits) .empty 0 caller
  have read := Message.decode_encode find_fits
  have answered : ((keeper studio "studio" [1, 2, 3]).react .empty 5 (find "studio") caller).2.reply =
      some (found studio.self [1, 2, 3]) := rfl
  obtain ⟨reply, same, written | ⟨_, _, _, stored, only, _, far⟩⟩ :=
    answers_fit_a_frame studio rfl rfl (greets_of_nothing rfl) _ _ reached (find "studio") rfl .empty
      5 caller
  · obtain rfl := Option.some.inj (same.symm.trans answered)
    exact ⟨reached, read, answered, written⟩
  · obtain rfl := List.mem_singleton.1 only
    exact absurd far (by decide +kernel)

/-- The same node on a machine with a longer name. -/
def garden : Node := { studio with self := ⟨⟨4⟩, 4400, "studio-in-the-garden"⟩ }

/-- A value that fills a frame when a machine without a name sends it. -/
def long : Bytes := List.replicate 33554378 0

theorem keep_long : (keep "" long).Fits ∧ (keep "" long).encode.length = Frame.limit := by
  have length : long.length = 33554378 := List.length_replicate
  have fits : (keep "" long).Fits :=
    ⟨Wire.plain_empty, (by rw [length]; decide : long.length < Wire.blobLimit)⟩
  exact ⟨fits, by rw [length_encode_store rfl fits, length]; rfl⟩

/-- The answer with the value would be one byte too long. -/
theorem long_value_is_kept_and_never_sent :
    Wire.Plain garden.self.machine ∧ garden.count = 20 ∧ garden.store = .standard ∧
      garden.Greets ∧ Reached garden [keep "" long] (keeper garden "" long) ∧
      (garden.react .empty 0 (keep "" long) caller).2.reply =
        some ⟨7, garden.self, .response (.store true)⟩ ∧
      Message.decode (find "").encode = .ok (find "") ∧
      ((keeper garden "" long).react .empty 5 (find "") caller).2.reply =
        some (found garden.self long) ∧
      Frame.write (found garden.self long).encode = .error (.frameTooLarge 33554433) := by
  have plain : Wire.Plain garden.self.machine := Wire.plain_of_all (by decide) (by decide +kernel)
  have nameless : (find "").Fits := ⟨Wire.plain_empty, trivial⟩
  obtain ⟨fits, full⟩ := keep_long
  have reached : Reached garden [keep "" long] (keeper garden "" long) :=
    .received .start full.le (Message.decode_encode fits) .empty 0 caller
  have length : (found garden.self long).encode.length = 33554433 := by
    have machine : (Wire.text (found garden.self long).sender.machine).length = 22 :=
      plain.length_text.trans (by decide +kernel)
    rw [length_encode_value rfl, machine, long, List.length_replicate]
  refine ⟨plain, rfl, rfl, greets_of_nothing rfl, reached, rfl, Message.decode_encode nameless, rfl,
    ?_⟩
  rw [Frame.write, length]
  rfl

end Keeping
end Node
end LocalSwarm
