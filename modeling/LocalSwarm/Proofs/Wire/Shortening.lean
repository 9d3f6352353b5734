import LocalSwarm.Proofs.Wire.Sizes

/-! What is read of a message that is too long for the wire: texts and lists of peers are cut where
their limit is. Names of buckets are all written behind a count that is taken modulo its two bytes, so
a greeting that names too many is not read at all. Main statement: `over_long_messages_are_cut`. -/
namespace LocalSwarm

-- Comparing lengths symbol by symbol would write out all digits of a number.
attribute [local irreducible] Bytes.ofNat

open Wire (Plain shortLimit blobLimit)

/-! ### Cutting -/

namespace Wire

def Ascii (s : String) : Prop := ∀ c ∈ s.toList, c.toNat < 128

/-- What is left of a number that is written in two bytes. -/
def counted (n : Nat) : Nat := n % UInt16.size

/-- What a text has room for on the wire. -/
def cut (s : String) : String := String.ofList (s.toList.take shortLimit)

end Wire

def Peer.cut (p : Peer) : Peer := { p with machine := Wire.cut p.machine }

def Peer.cutAll (ps : List Peer) : List Peer := (ps.take shortLimit).map Peer.cut

/-- Only some of the names are kept. -/
def Greeting.cut (g : Greeting) (names : Nat) : Greeting :=
  { g with buckets := (g.buckets.take names).map Wire.cut }

def FileQuery.cut (q : FileQuery) : FileQuery :=
  ⟨Wire.cut q.bucket, Wire.cut q.folder, Wire.cut q.name⟩

def FileStatus.cut (s : FileStatus) : FileStatus := { s with version := Wire.cut s.version }

def Request.cut (names : Nat) : Request → Request
  | .acknowledge g => .acknowledge (g.cut names)
  | .checkFile file => .checkFile file.cut
  | .download file range => .download file.cut range
  | r => r

def Response.cut (names : Nat) : Response → Response
  | .acknowledge g => .acknowledge (g.cut names)
  | .findNode ps => .findNode (Peer.cutAll ps)
  | .findValue (.closer ps) => .findValue (.closer (Peer.cutAll ps))
  | .checkFile status => .checkFile status.cut
  | .download status data => .download status.cut data
  | r => r

namespace Body

def cut (names : Nat) : Body → Body
  | .request r => .request (r.cut names)
  | .response r => .response (r.cut names)
  | .failure operation text => .failure operation (Wire.cut text)

def buckets : Body → List String
  | .request (.acknowledge g) => g.buckets
  | .response (.acknowledge g) => g.buckets
  | _ => []

def peers : Body → List Peer
  | .response (.findNode ps) => ps
  | .response (.findValue (.closer ps)) => ps
  | _ => []

def texts : Body → List String
  | .request (.acknowledge g) => g.buckets
  | .request (.checkFile file) => [file.bucket, file.folder, file.name]
  | .request (.download file _) => [file.bucket, file.folder, file.name]
  | .response (.acknowledge g) => g.buckets
  | .response (.findNode ps) => ps.map Peer.machine
  | .response (.findValue (.closer ps)) => ps.map Peer.machine
  | .response (.checkFile status) => [status.version]
  | .response (.download status _) => [status.version]
  | .failure _ text => [text]
  | _ => []

def blobs : Body → List Bytes
  | .request (.store _ value) => [value]
  | .response (.findValue (.value bytes)) => [bytes]
  | .response (.download _ data) => [data]
  | _ => []

def ranges : Body → List ByteRange
  | .request (.download _ range) => [range]
  | _ => []

end Body

namespace Message

/-- All texts and lists of a message cut to their limits, but for the names of buckets, of which so
many are kept. -/
def cutTo (m : Message) (names : Nat) : Message :=
  { m with sender := { m.sender with machine := Wire.cut m.sender.machine }, body := m.body.cut names }

/-- All texts and lists of a message cut to their limits. -/
def cut (m : Message) : Message := m.cutTo shortLimit

/-- A message within the limits of the wire, but for how long its texts and lists are. -/
structure Writable (m : Message) : Prop where
  machine : Wire.Ascii m.sender.machine
  texts : ∀ s ∈ m.body.texts, Wire.Ascii s
  addresses : ∀ p ∈ m.body.peers, p.address.Unscoped
  blobs : ∀ bytes ∈ m.body.blobs, bytes.length < blobLimit
  ranges : ∀ range ∈ m.body.ranges, range.stop - range.start < Frame.limit

end Message

/-! ### What is left fits -/

namespace Wire

variable {s : String} {ps : List Peer} {ss : List String} {n : Nat}

theorem counted_le (n : Nat) : counted n ≤ shortLimit :=
  Nat.le_of_lt_succ (Nat.mod_lt n (Nat.zero_lt_succ 65535))

theorem counted_of_le (few : n ≤ shortLimit) : counted n = n :=
  Nat.mod_eq_of_lt (Nat.lt_succ_of_le few)

theorem plain_cut (ascii : Ascii s) : Plain (cut s) :=
  plain_ofList (fun c member => ascii c (List.mem_of_mem_take member)) (List.length_take_le ..)

theorem utf8_cut (ascii : Ascii s) : utf8 (cut s) = (utf8 s).take shortLimit := by
  have whole := utf8_ofList_of_ascii ascii
  rw [String.ofList_toList] at whole
  rw [cut, utf8_ofList_of_ascii fun c member => ascii c (List.mem_of_mem_take member), whole,
    List.map_take]

/-- Nothing else is written of a text than what there is room for. -/
theorem text_cut (ascii : Ascii s) : text (cut s) = text s := by
  rw [text, text, utf8_cut ascii, List.take_take, Nat.min_self]

theorem flatMap_text_cut (ascii : ∀ s ∈ ss, Ascii s) : (ss.map cut).flatMap text = ss.flatMap text := by
  rw [List.flatMap_map]
  exact List.flatMap_congr fun s member => text_cut (ascii s member)

theorem peers_cutAll (ascii : ∀ s ∈ ps.map Peer.machine, Ascii s) :
    peers (Peer.cutAll ps) = peers ps := by
  have few : (Peer.cutAll ps).length ≤ shortLimit := by
    rw [Peer.cutAll, List.length_map]
    exact List.length_take_le ..
  have same : ∀ p ∈ ps.take shortLimit, peer p.cut = peer p := fun p member => by
    have machine := text_cut (ascii _ (List.mem_map_of_mem (List.mem_of_mem_take member)))
    simp only [peer, Peer.cut, machine]
  simp only [peers, List.take_of_length_le few]
  rw [Peer.cutAll, List.length_map, List.flatMap_map, List.flatMap_congr same]

theorem fits_cutAll (ascii : ∀ s ∈ ps.map Peer.machine, Ascii s)
    (unscoped : ∀ p ∈ ps, p.address.Unscoped) : Peer.AllFit (Peer.cutAll ps) := by
  refine ⟨by rw [Peer.cutAll, List.length_map]; exact List.length_take_le .., fun p member => ?_⟩
  obtain ⟨q, inside, rfl⟩ := List.mem_map.1 member
  have known := List.mem_of_mem_take inside
  exact ⟨plain_cut (ascii _ (List.mem_map_of_mem known)), unscoped q known⟩

theorem fits_greeting {g : Greeting} {names : Nat} (ascii : ∀ s ∈ g.buckets, Ascii s)
    (few : names ≤ shortLimit) : (g.cut names).Fits := by
  refine ⟨?_, fun s member => ?_⟩
  · rw [Greeting.cut, List.length_map]
    exact (List.length_take_le ..).trans few
  · obtain ⟨bucket, inside, rfl⟩ := List.mem_map.1 member
    exact plain_cut (ascii bucket (List.mem_of_mem_take inside))

/-- The names beyond those that the count tells of are written all the same. -/
theorem greeting_eq {g : Greeting} (ascii : ∀ s ∈ g.buckets, Ascii s) :
    greeting g = greeting (g.cut (counted g.buckets.length)) ++
      (g.buckets.drop (counted g.buckets.length)).flatMap text := by
  have count : Bytes.ofNat 2 (counted g.buckets.length) = Bytes.ofNat 2 g.buckets.length := by
    have digits := Bytes.ofNat_toNat (Bytes.ofNat 2 g.buckets.length)
    rwa [Bytes.length_ofNat, Bytes.toNat_ofNat] at digits
  have kept : (g.cut (counted g.buckets.length)).buckets.length = counted g.buckets.length := by
    rw [Greeting.cut, List.length_map, List.length_take]
    exact Nat.min_eq_left (Nat.mod_le ..)
  have names : (g.cut (counted g.buckets.length)).buckets.flatMap text =
      (g.buckets.take (counted g.buckets.length)).flatMap text :=
    flatMap_text_cut fun s member => ascii s (List.mem_of_mem_take member)
  rw [greeting, greeting, kept, count, names, List.append_assoc _ (List.flatMap ..),
    ← List.flatMap_append, List.take_append_drop]
  rfl

theorem fileQuery_cut {q : FileQuery} (ascii : ∀ s ∈ [q.bucket, q.folder, q.name], Ascii s) :
    fileQuery q.cut = fileQuery q ∧ q.cut.Fits := by
  obtain ⟨bucket, folder, name, -⟩ : Ascii q.bucket ∧ Ascii q.folder ∧ Ascii q.name ∧ True := by
    simpa using ascii
  refine ⟨?_, plain_cut bucket, plain_cut folder, plain_cut name⟩
  rw [fileQuery, fileQuery, FileQuery.cut, text_cut bucket, text_cut folder, text_cut name]

theorem fileStatus_cut {s : FileStatus} (ascii : ∀ text ∈ [s.version], Ascii text) :
    fileStatus s.cut = fileStatus s ∧ s.cut.Fits := by
  have version := List.forall_mem_singleton.1 ascii
  refine ⟨?_, plain_cut version⟩
  rw [fileStatus, fileStatus, FileStatus.cut, text_cut version]

end Wire

namespace Body

/-- The names of buckets that are written behind those that the count tells of. -/
def surplus (b : Body) : Bytes := (b.buckets.drop (Wire.counted b.buckets.length)).flatMap Wire.text

theorem surplus_of_nil {b : Body} (none : b.buckets = []) : b.surplus = [] := by
  rw [surplus, none, List.drop_nil, List.flatMap_nil]

theorem surplus_eq_nil_iff {b : Body} : b.surplus = [] ↔ b.buckets.length ≤ shortLimit := by
  constructor
  · intro none
    by_contra crowded
    have fewer : Wire.counted b.buckets.length < b.buckets.length :=
      (Wire.counted_le _).trans_lt (Nat.lt_of_not_le crowded)
    rw [surplus, List.drop_eq_getElem_cons fewer, List.flatMap_cons] at none
    have length := congrArg List.length (List.append_eq_nil_iff.1 none).1
    rw [Wire.length_text, List.length_nil] at length
    omega
  · intro few
    rw [surplus, Wire.counted_of_le few, List.drop_length, List.flatMap_nil]

/-- If all names are kept, it does not matter how many could have been. -/
theorem cut_congr {b : Body} {names names' : Nat} (all : b.buckets.length ≤ names)
    (all' : b.buckets.length ≤ names') : b.cut names = b.cut names' := by
  have kept {g : Greeting} (few : g.buckets.length ≤ names) (few' : g.buckets.length ≤ names') :
      g.cut names = g.cut names' := by
    rw [Greeting.cut, Greeting.cut, List.take_of_length_le few, List.take_of_length_le few']
  obtain r | r | ⟨operation, text⟩ := b
  · cases r with
    | acknowledge g => exact congrArg (fun g => Body.request (.acknowledge g)) (kept all all')
    | _ => rfl
  · rcases r with g | _ | _ | _ | found | _ | _
    case acknowledge => exact congrArg (fun g => Body.response (.acknowledge g)) (kept all all')
    case findValue => cases found <;> rfl
    all_goals rfl
  · rfl

theorem body_eq_of_nil {b : Body} {names : Nat} (none : b.buckets = [])
    (same : Wire.body (b.cut names) = Wire.body b) :
    Wire.body b = Wire.body (b.cut names) ++ b.surplus := by
  rw [surplus_of_nil none, List.append_nil, same]

theorem body_eq {b : Body} (ascii : ∀ s ∈ b.texts, Wire.Ascii s) :
    Wire.body b = Wire.body (b.cut (Wire.counted b.buckets.length)) ++ b.surplus := by
  cases b with
  | request r =>
    cases r with
    | acknowledge g => exact Wire.greeting_eq ascii
    | checkFile file => exact body_eq_of_nil rfl (Wire.fileQuery_cut ascii).1
    | download file range =>
      refine body_eq_of_nil rfl ?_
      simp only [Wire.body, cut, Request.cut, Wire.request, (Wire.fileQuery_cut ascii).1]
    | ping | store | findNode | findValue => exact body_eq_of_nil rfl rfl
  | response r =>
    cases r with
    | acknowledge g => exact Wire.greeting_eq ascii
    | findNode ps => exact body_eq_of_nil rfl (Wire.peers_cutAll ascii)
    | findValue found =>
      cases found with
      | value bytes => exact body_eq_of_nil rfl rfl
      | closer ps =>
        refine body_eq_of_nil rfl ?_
        simp only [Wire.body, cut, Response.cut, Wire.response, Wire.peers_cutAll ascii]
    | checkFile status => exact body_eq_of_nil rfl (Wire.fileStatus_cut ascii).1
    | download status data =>
      refine body_eq_of_nil rfl ?_
      simp only [Wire.body, cut, Response.cut, Wire.response, (Wire.fileStatus_cut ascii).1]
    | ping | store => exact body_eq_of_nil rfl rfl
  | failure operation text =>
    exact body_eq_of_nil rfl (Wire.text_cut (List.forall_mem_singleton.1 ascii))

end Body

namespace Message

variable {m : Message}

theorem Writable.fits (h : m.Writable) {names : Nat} (few : names ≤ shortLimit) :
    (m.cutTo names).Fits := by
  refine ⟨Wire.plain_cut h.machine, ?_⟩
  obtain ⟨correlation, sender, r | r | ⟨operation, text⟩⟩ := m
  · cases r with
    | acknowledge g => exact Wire.fits_greeting h.texts few
    | checkFile file => exact (Wire.fileQuery_cut h.texts).2
    | download file range =>
      exact ⟨(Wire.fileQuery_cut h.texts).2, h.ranges range List.mem_cons_self⟩
    | store key value => exact h.blobs value List.mem_cons_self
    | ping | findNode | findValue => trivial
  · cases r with
    | acknowledge g => exact Wire.fits_greeting h.texts few
    | findNode ps => exact Wire.fits_cutAll h.texts h.addresses
    | findValue found =>
      cases found with
      | value bytes => exact h.blobs bytes List.mem_cons_self
      | closer ps => exact Wire.fits_cutAll h.texts h.addresses
    | checkFile status => exact (Wire.fileStatus_cut h.texts).2
    | download status data =>
      exact ⟨(Wire.fileStatus_cut h.texts).2, h.blobs data List.mem_cons_self⟩
    | ping | store => trivial
  · exact Wire.plain_cut (h.texts text List.mem_cons_self)

theorem header_cutTo (h : m.Writable) (names : Nat) :
    (m.cutTo names).body.operation.code = m.body.operation.code ∧
      Wire.bodyFlags (m.cutTo names).body = Wire.bodyFlags m.body ∧
      Wire.text (m.cutTo names).sender.machine = Wire.text m.sender.machine := by
  refine ⟨?_, ?_, Wire.text_cut h.machine⟩
  · obtain ⟨correlation, sender, r | r | ⟨operation, text⟩⟩ := m
    · cases r <;> rfl
    · rcases r with _ | _ | _ | _ | found | _ | _
      case findValue => cases found <;> rfl
      all_goals rfl
    · rfl
  · obtain ⟨correlation, sender, r | r | ⟨operation, text⟩⟩ := m <;> rfl

/-- What is written of a message is what is written of as much of it as is told of, and then the rest
of its names. -/
theorem Writable.encode_eq (h : m.Writable) :
    m.encode = (m.cutTo (Wire.counted m.body.buckets.length)).encode ++ m.body.surplus := by
  obtain ⟨code, flags, machine⟩ := header_cutTo h (Wire.counted m.body.buckets.length)
  have body := Body.body_eq h.texts
  simp only [encode, code, flags, machine, List.cons_append, List.append_assoc]
  rw [body]
  rfl

theorem Writable.decode_encode (h : m.Writable) (few : m.body.buckets.length ≤ shortLimit) :
    decode m.encode = .ok m.cut := by
  have all := Wire.counted_of_le few
  have same : m.cutTo (Wire.counted m.body.buckets.length) = m.cut := by
    rw [cut, cutTo, cutTo, Body.cut_congr all.ge few]
  have written := h.encode_eq
  rw [same, Body.surplus_eq_nil_iff.2 few, List.append_nil] at written
  rw [written]
  exact Message.decode_encode (h.fits (Nat.le_refl shortLimit))

theorem Writable.decode_encode_crowded (h : m.Writable)
    (crowded : shortLimit < m.body.buckets.length) :
    decode m.encode = .error (.trailingBytes m.body.surplus.length) := by
  have accepted := Message.decode_encode (h.fits (Wire.counted_le m.body.buckets.length))
  have more : m.body.surplus ≠ [] := fun none =>
    Nat.not_le.2 crowded (Body.surplus_eq_nil_iff.1 none)
  rw [h.encode_eq]
  exact (reads_message.delimited accepted).extended _ more

end Message

namespace Wire

theorem toNat_count (few : n ≤ shortLimit) (rest : Bytes) :
    Bytes.toNat ((Bytes.ofNat 2 n ++ rest).take 2) = n := by
  rw [List.take_left' (Bytes.length_ofNat 2 n), Bytes.toNat_ofNat]
  exact counted_of_le few

/-- A message that is writable but for its lengths is read with its texts and peers cut off at the
limit, unless it is the names of buckets that are too many: these make it unreadable. For the length
of a text and the number of peers are written as they are after the cut, but the number of buckets is
written modulo its two bytes. -/
theorem over_long_messages_are_cut {m : Message} (writable : m.Writable) :
    (m.body.buckets.length ≤ shortLimit → Message.decode m.encode = .ok m.cut) ∧
    (shortLimit < m.body.buckets.length →
      Message.decode m.encode = .error (.trailingBytes m.body.surplus.length)) ∧
    (∀ s, Bytes.toNat ((text s).take 2) = min shortLimit s.utf8ByteSize) ∧
    (∀ ps, Bytes.toNat ((peers ps).take 2) = min shortLimit ps.length) ∧
    ∀ g, Bytes.toNat (((greeting g).drop 2).take 2) = g.buckets.length % UInt16.size := by
  refine ⟨writable.decode_encode, writable.decode_encode_crowded, fun s => ?text, fun ps => ?peers,
    fun g => ?greeting⟩
  case text =>
    have length : ((utf8 s).take shortLimit).length = min shortLimit s.utf8ByteSize := by
      rw [List.length_take, length_utf8]
    rw [text, length]
    exact toNat_count (Nat.min_le_left ..) _
  case peers =>
    rw [peers, List.length_take]
    exact toNat_count (Nat.min_le_left ..) _
  case greeting =>
    have version : (word16 g.version).length = 2 := Bytes.length_ofNat 2 _
    rw [greeting, List.append_assoc, List.drop_left' version,
      List.take_left' (Bytes.length_ofNat 2 _)]
    exact Bytes.toNat_ofNat 2 g.buckets.length

/-! ### Too much to tell -/

def loft : Peer := ⟨⟨2⟩, "loft", .v4 0x0a000002 4401⟩

/-- Somebody with a long name knows more peers than there is room for. -/
def gossip : Message :=
  ⟨7, ⟨⟨1⟩, 4400, String.ofList (List.replicate 70000 'm')⟩,
    .response (.findNode (List.replicate 65536 loft))⟩

def shortGossip : Message :=
  ⟨7, ⟨⟨1⟩, 4400, String.ofList (List.replicate 65535 'm')⟩,
    .response (.findNode (List.replicate 65535 loft))⟩

/-- One bucket more is shared than can be counted. -/
def crowd : Message :=
  ⟨7, ⟨⟨1⟩, 4400, "studio"⟩, .response (.acknowledge ⟨1, List.replicate 65536 ""⟩)⟩

theorem cut_gossip : gossip.cut = shortGossip := by
  have name : cut (String.ofList (List.replicate 70000 'm')) =
      String.ofList (List.replicate 65535 'm') := by
    rw [cut, String.toList_ofList, List.take_replicate]
    rfl
  have peers : Peer.cutAll (List.replicate 65536 loft) = List.replicate 65535 loft := by
    have same : loft.cut = loft := by decide +kernel
    rw [Peer.cutAll, List.take_replicate, List.map_replicate, same]
    rfl
  rw [Message.cut, Message.cutTo, gossip, shortGossip, name, Body.cut, Response.cut, peers]

theorem gossip_writable : gossip.Writable where
  machine := by
    intro c member
    rw [gossip, String.toList_ofList] at member
    rw [List.eq_of_mem_replicate member]
    decide
  texts := by
    intro s member
    obtain ⟨p, inside, rfl⟩ := List.mem_map.1 member
    rw [List.eq_of_mem_replicate inside]
    exact (plain_of_all (s := "loft") (by decide) (by decide +kernel)).ascii
  addresses := by
    intro p member
    rw [List.eq_of_mem_replicate member]
    trivial
  blobs := nofun
  ranges := nofun

theorem crowd_writable : crowd.Writable where
  machine := plain_studio.ascii
  texts := by
    intro s member
    rw [List.eq_of_mem_replicate member]
    exact plain_empty.ascii
  addresses := nofun
  blobs := nofun
  ranges := nofun

theorem buckets_crowd : crowd.body.buckets = List.replicate 65536 "" := rfl

theorem crowded : shortLimit < crowd.body.buckets.length := by
  rw [buckets_crowd, List.length_replicate]
  decide

theorem length_surplus_crowd : crowd.body.surplus.length = 131072 := by
  have count : counted 65536 = 0 := by decide
  rw [Body.surplus, buckets_crowd, List.length_replicate, count, List.drop_zero,
    List.length_flatMap, List.map_replicate, List.sum_replicate_nat, length_text,
    String.utf8ByteSize_empty, Nat.min_zero]

theorem gossip_is_cut_and_crowd_is_lost :
    gossip.Writable ∧ gossip.body.buckets.length ≤ shortLimit ∧
      Message.decode gossip.encode = .ok shortGossip ∧
      crowd.Writable ∧ shortLimit < crowd.body.buckets.length ∧
      Message.decode crowd.encode = .error (.trailingBytes 131072) := by
  have few : gossip.body.buckets.length ≤ shortLimit := Nat.zero_le _
  have cut := (over_long_messages_are_cut gossip_writable).1 few
  have lost := (over_long_messages_are_cut crowd_writable).2.1 crowded
  rw [cut_gossip] at cut
  rw [length_surplus_crowd] at lost
  exact ⟨gossip_writable, few, cut, crowd_writable, crowded, lost⟩

/-- Names of buckets are not cut: a greeting that names one too many counts none, and all of them are
left over. -/
theorem too_many_names_are_not_cut :
    crowd.Writable ∧ Message.decode crowd.encode = .error (.trailingBytes 131072) ∧
      Message.decode crowd.encode ≠ .ok crowd.cut := by
  have lost := crowd_writable.decode_encode_crowded crowded
  rw [length_surplus_crowd] at lost
  refine ⟨crowd_writable, lost, fun cut => ?_⟩
  cases lost.symm.trans cut

end Wire

end LocalSwarm
