import LocalSwarm.Proofs.Wire.Fields

/-! Which bytes are read as the parts of a message. Requests and error texts within their limits
are read from what is written of them and from nothing else. A response also is when any byte but
zero stands for one of its answers with yes. Main statement: `Wire.reads_body`. -/
namespace LocalSwarm

-- Comparing bytes symbol by symbol would write out all digits of a number.
attribute [local irreducible] Bytes.ofNat

namespace Wire

variable {α : Type}

theorem readGreeting_eq : readGreeting = do
    let version ← readWord16
    let buckets ← readCounted readText
    return { version, buckets } := by
  simp only [readGreeting, readCounted, bind_assoc]

theorem reads_greeting : Reads readGreeting (WrittenAs greeting Greeting.Fits) := by
  rw [readGreeting_eq]
  refine Reads.whole (fun _ => True) (reads_word16.field Greeting.version fun version =>
    (reads_counted reads_text).last Greeting.buckets ?known) ?limits ?written
  case known =>
    exact fun _ g => ⟨by rintro ⟨rfl, rfl, -⟩; rfl, by rintro rfl; exact ⟨rfl, rfl, trivial⟩⟩
  case limits =>
    exact fun g => ⟨fun ⟨_, _, few, plain⟩ => ⟨few, plain⟩,
      fun ⟨few, plain⟩ => ⟨trivial, trivial, few, plain⟩⟩
  case written => exact fun g => (List.append_assoc _ _ _).symm

theorem reads_fileQuery : Reads readFileQuery (WrittenAs fileQuery FileQuery.Fits) := by
  refine Reads.whole (fun _ => True) (reads_text.field FileQuery.bucket fun bucket =>
    reads_text.field FileQuery.folder fun folder =>
      reads_text.last FileQuery.name ?known) ?limits ?written
  case known =>
    exact fun _ q =>
      ⟨by rintro ⟨rfl, rfl, rfl, -⟩; rfl, by rintro rfl; exact ⟨rfl, rfl, rfl, trivial⟩⟩
  case limits =>
    exact fun q => ⟨fun ⟨_, bucket, folder, name⟩ => ⟨bucket, folder, name⟩,
      fun ⟨bucket, folder, name⟩ => ⟨trivial, bucket, folder, name⟩⟩
  case written => exact fun q => (List.append_assoc _ _ _).symm

theorem reads_ipv4 :
    Reads (do return IpAddr.v4 (UInt32.ofNat (Bytes.toNat (← take 4)))) fun ip used =>
      ipAddr ip = 4 :: used := by
  have value := reads_word32.map IpAddr.v4
  rw [readWord32, bind_assoc] at value
  refine value.congr fun ip used => ?_
  constructor
  · rintro ⟨value, -, rfl, rfl⟩
    rw [ipAddr, word32]
  · intro written
    cases ip with
    | v4 value => exact ⟨value, trivial, rfl, (List.cons.inj written).2.symm⟩
    | v6 value => exact absurd (List.cons.inj written).1 (by decide)

theorem reads_ipv6 :
    Reads (do return IpAddr.v6 (BitVec.ofNat 128 (Bytes.toNat (← take 16)))) fun ip used =>
      ipAddr ip = 6 :: used := by
  have value := (reads_number 16 (BitVec.ofNat 128) BitVec.toNat
    (fun bits => by rw [BitVec.ofNat_toNat, BitVec.setWidth_eq]) BitVec.isLt
    fun n low => (BitVec.toNat_ofNat n 128).trans (Nat.mod_eq_of_lt low)).map IpAddr.v6
  rw [bind_assoc] at value
  refine value.congr fun ip used => ?_
  constructor
  · rintro ⟨value, -, rfl, rfl⟩
    rw [ipAddr]
  · intro written
    cases ip with
    | v4 value => exact absurd (List.cons.inj written).1 (by decide)
    | v6 value => exact ⟨value, trivial, rfl, (List.cons.inj written).2.symm⟩

theorem reads_ipAddr : Reads readIpAddr (WrittenAs ipAddr fun _ => True) := by
  refine Reads.tagged (fun ip => by cases ip <;> exact List.cons_ne_nil _ _) fun family => ?_
  split
  · exact reads_ipv4.congr fun _ _ => (and_iff_right trivial).symm
  · exact reads_ipv6.congr fun _ _ => (and_iff_right trivial).symm
  · rename_i not_v4 not_v6
    refine (reads_fail _).congr fun ip used => iff_of_false id ?_
    rintro ⟨-, written⟩
    cases ip with
    | v4 value => exact not_v4 (List.cons.inj written).1.symm
    | v6 value => exact not_v6 (List.cons.inj written).1.symm

theorem atPort_eq_iff {address : SocketAddr} {ip : IpAddr} {port : UInt16} :
    address.port = port ∧ address.ip = ip ∧ address.Unscoped ↔ address = ip.atPort port := by
  constructor
  · rintro ⟨rfl, rfl, unscoped⟩
    cases address with
    | v4 ip port => rfl
    | v6 ip port flow scope =>
      obtain ⟨rfl, rfl⟩ := unscoped
      rfl
  · rintro rfl
    cases ip with
    | v4 value => exact ⟨rfl, rfl, trivial⟩
    | v6 value => exact ⟨rfl, rfl, rfl, rfl⟩

theorem reads_peer : Reads readPeer (WrittenAs peer Peer.Fits) := by
  refine Reads.whole (fun p : Peer => p.address.Unscoped) (reads_identifier.field Peer.id fun id =>
    reads_text.field Peer.machine fun machine =>
      reads_ipAddr.field (fun p : Peer => p.address.ip) fun ip =>
        reads_word16.last (fun p : Peer => p.address.port) ?known) ?limits ?written
  case known =>
    intro port p
    constructor
    · rintro ⟨last, before, rfl, rfl, unscoped⟩
      rw [← atPort_eq_iff.1 ⟨last, before, unscoped⟩]
    · rintro rfl
      obtain ⟨last, before, unscoped⟩ := atPort_eq_iff.2 rfl
      exact ⟨last, before, rfl, rfl, unscoped⟩
  case limits =>
    exact fun p => ⟨fun ⟨address, _, machine, _⟩ => ⟨machine, address⟩,
      fun ⟨machine, address⟩ => ⟨address, trivial, machine, trivial, trivial⟩⟩
  case written => exact fun p => by simp [peer]

theorem reads_peers : Reads readPeers (WrittenAs peers Peer.AllFit) := by
  refine (reads_counted reads_peer).congr fun ps used => ?_
  have all (few : ps.length ≤ shortLimit) :
      peers ps = Bytes.ofNat 2 ps.length ++ ps.flatMap peer := by
    rw [peers, List.take_of_length_le few]
  constructor
  · rintro ⟨⟨few, each⟩, rfl⟩
    exact ⟨⟨few, each⟩, (all few).symm⟩
  · rintro ⟨⟨few, each⟩, rfl⟩
    exact ⟨⟨few, each⟩, all few⟩

theorem reads_checkedRange (start stop : UInt64) :
    Reads (match ByteRange.between start stop with
      | .ok range =>
        if range.stop - range.start < Frame.limit then pure range
        else fail (.invalidRange start stop)
      | .error _ => fail (.invalidRange start stop)) fun range used =>
      (range.start = start.toNat ∧ range.stop = stop.toNat ∧
        range.stop - range.start < Frame.limit) ∧ used = [] := by
  unfold ByteRange.between
  by_cases order : start.toNat ≤ stop.toNat
  · rw [dif_pos order]
    by_cases span : stop.toNat - start.toNat < Frame.limit
    · change Reads (if _ then _ else _) _
      rw [if_pos span]
      refine (reads_pure _).congr fun range used => and_congr_left fun _ => ?_
      constructor
      · rintro rfl
        exact ⟨rfl, rfl, span⟩
      · rintro ⟨first, last, -⟩
        cases range
        cases first
        cases last
        rfl
    · change Reads (if _ then _ else _) _
      rw [if_neg span]
      refine (reads_fail _).congr fun range used => iff_of_false id ?_
      rintro ⟨⟨first, last, within⟩, -⟩
      rw [first, last] at within
      exact span within
  · rw [dif_neg order]
    refine (reads_fail _).congr fun range used => iff_of_false id ?_
    rintro ⟨⟨first, last, -⟩, -⟩
    rw [← first, ← last] at order
    exact order range.start_le_stop

theorem reads_range : Reads readRange (WrittenAs
    (fun range => Bytes.ofNat 8 range.start ++ Bytes.ofNat 8 range.stop)
    fun range => range.stop - range.start < Frame.limit) := by
  refine (reads_word64.bind fun start => reads_word64.bind fun stop =>
    reads_checkedRange start stop).congr fun range used => ?_
  simp only [followed_writtenAs]
  constructor
  · rintro ⟨start, -, _, ⟨stop, -, _, ⟨⟨first, last, span⟩, rfl⟩, rfl⟩, rfl⟩
    refine ⟨span, ?_⟩
    rw [List.append_nil, word64, word64, ← first, ← last]
  · rintro ⟨span, rfl⟩
    have := range.start_le_stop
    have := range.stop_lt
    have first : (UInt64.ofNat range.start).toNat = range.start := by
      rw [UInt64.toNat_ofNat']
      exact Nat.mod_eq_of_lt (by omega)
    have last : (UInt64.ofNat range.stop).toNat = range.stop := by
      rw [UInt64.toNat_ofNat']
      exact Nat.mod_eq_of_lt (by omega)
    refine ⟨UInt64.ofNat range.start, trivial, _, ⟨UInt64.ofNat range.stop, trivial, _,
      ⟨⟨first.symm, last.symm, span⟩, rfl⟩, rfl⟩, ?_⟩
    rw [List.append_nil, word64, word64, first, last]

theorem reads_request (operation : Operation) : Reads (readRequest operation)
    (WrittenAs request fun r => r.operation = operation ∧ r.Fits) := by
  cases operation with
  | acknowledge =>
    refine reads_greeting.made Request.acknowledge (fun g used => and_congr_left' ?_) ?_
    · exact and_iff_right rfl
    · rintro r _ ⟨⟨same, -⟩, -⟩
      cases r <;> cases same
      exact ⟨_, rfl⟩
  | ping =>
    refine (reads_pure Request.ping).congr fun r used => ?_
    constructor
    · rintro ⟨rfl, rfl⟩
      exact ⟨⟨rfl, trivial⟩, rfl⟩
    · rintro ⟨⟨same, -⟩, rfl⟩
      cases r <;> cases same
      exact ⟨rfl, rfl⟩
  | store =>
    refine reads_identifier.made₂ reads_blob Request.store (fun key value used => ?_) ?_
    · exact ⟨fun ⟨⟨_, short⟩, written⟩ => ⟨trivial, short, written⟩,
        fun ⟨_, short, written⟩ => ⟨⟨rfl, short⟩, written⟩⟩
    · rintro r _ ⟨⟨same, -⟩, -⟩
      cases r <;> cases same
      exact ⟨_, _, rfl⟩
  | findNode =>
    refine reads_identifier.made₂ reads_word16 Request.findNode (fun target count used => ?_) ?_
    · exact ⟨fun ⟨_, written⟩ => ⟨trivial, trivial, written⟩,
        fun ⟨_, _, written⟩ => ⟨⟨rfl, trivial⟩, written⟩⟩
    · rintro r _ ⟨⟨same, -⟩, -⟩
      cases r <;> cases same
      exact ⟨_, _, rfl⟩
  | findValue =>
    refine reads_identifier.made₂ reads_word16 Request.findValue (fun target count used => ?_) ?_
    · exact ⟨fun ⟨_, written⟩ => ⟨trivial, trivial, written⟩,
        fun ⟨_, _, written⟩ => ⟨⟨rfl, trivial⟩, written⟩⟩
    · rintro r _ ⟨⟨same, -⟩, -⟩
      cases r <;> cases same
      exact ⟨_, _, rfl⟩
  | checkFile =>
    refine reads_fileQuery.made Request.checkFile (fun file used => and_congr_left' ?_) ?_
    · exact and_iff_right rfl
    · rintro r _ ⟨⟨same, -⟩, -⟩
      cases r <;> cases same
      exact ⟨_, rfl⟩
  | download =>
    refine reads_fileQuery.made₂ reads_range Request.download (fun file range used => ?_) ?_
    · rw [← List.append_assoc]
      exact ⟨fun ⟨⟨_, file, span⟩, written⟩ => ⟨file, span, written⟩,
        fun ⟨file, span, written⟩ => ⟨⟨rfl, file, span⟩, written⟩⟩
    · rintro r _ ⟨⟨same, -⟩, -⟩
      cases r <;> cases same
      exact ⟨_, _, rfl⟩

theorem reads_found : Reads readFound
    (WrittenAs (fun found => response (.findValue found)) Found.Fits) := by
  refine Reads.tagged (fun found => by cases found <;> exact List.cons_ne_nil _ _) fun tag => ?_
  split
  · refine reads_blob.made Found.value (fun bytes used => and_congr_right fun _ => ?_) ?_
    · exact ⟨fun written => (List.cons.inj written).2.symm,
        fun same => congrArg (0 :: ·) same.symm⟩
    · rintro (bytes | ps) used ⟨-, written⟩
      · exact ⟨bytes, rfl⟩
      · exact absurd (List.cons.inj written).1 (by decide)
  · refine reads_peers.made Found.closer (fun ps used => and_congr_right fun _ => ?_) ?_
    · exact ⟨fun written => (List.cons.inj written).2.symm,
        fun same => congrArg (1 :: ·) same.symm⟩
    · rintro (bytes | ps) used ⟨-, written⟩
      · exact absurd (List.cons.inj written).1 (by decide)
      · exact ⟨ps, rfl⟩
  · rename_i not_value not_closer
    refine (reads_fail _).congr fun found used => iff_of_false id ?_
    rintro ⟨-, written⟩
    cases found with
    | value bytes => exact not_value (List.cons.inj written).1.symm
    | closer ps => exact not_closer (List.cons.inj written).1.symm

end Wire

namespace Response

/-- What a response answers with yes or no. It begins with these answers. -/
def answers : Response → List Bool
  | .store stored => [stored]
  | .checkFile status => [status.bucketFound, status.fileFound]
  | .download status _ => [status.bucketFound, status.fileFound]
  | _ => []

/-- What is written after the answers with yes or no. -/
def details : Response → Bytes
  | .store _ => []
  | .checkFile status => Wire.word64 status.size ++ Wire.text status.version
  | .download status data => Wire.word64 status.size ++ Wire.text status.version ++ Wire.blob data
  | r => Wire.response r

end Response

namespace Wire

/-- Answers with yes or no are not spelled in one way only: any byte but zero stands for yes. -/
def MarkedAs (answers : α → List Bool) (details : α → Bytes) (Fits : α → Prop) (a : α)
    (used : Bytes) : Prop :=
  Fits a ∧ ∃ marks : Bytes, marks.map (· != 0) = answers a ∧ used = marks ++ details a

theorem markedAs_iff_of_nil {answers : α → List Bool} {details : α → Bytes} {Fits : α → Prop}
    {a : α} {used : Bytes} (none : answers a = []) :
    MarkedAs answers details Fits a used ↔ Fits a ∧ used = details a := by
  refine and_congr_right fun _ => ?_
  rw [none]
  constructor
  · rintro ⟨marks, same, rfl⟩
    rw [List.map_eq_nil_iff.1 same]
    rfl
  · rintro rfl
    exact ⟨[], rfl, rfl⟩

theorem Reads.flag (get : α → Bool) {next : Bool → Reader α} {answers : α → List Bool}
    {details : α → Bytes} {Known Fits : α → Prop}
    (second : ∀ b,
      Reads (next b) (MarkedAs answers details fun a => (get a = b ∧ Known a) ∧ Fits a)) :
    Reads (readFlag >>= next)
      (MarkedAs (fun a => get a :: answers a) details fun a => Known a ∧ Fits a) :=
  (reads_flag.bind second).congr fun a used => by
    constructor
    · rintro ⟨_, _, _, ⟨mark, marked, rfl⟩, ⟨⟨⟨rfl, known⟩, fits⟩, marks, rest, rfl⟩, rfl⟩
      exact ⟨⟨known, fits⟩, mark :: marks, by rw [List.map_cons, marked, rest], rfl⟩
    · rintro ⟨⟨known, fits⟩, marks, same, rfl⟩
      obtain ⟨mark, marks, rfl, marked, rest⟩ := List.map_eq_cons_iff.1 same
      exact ⟨get a, [mark], marks ++ details a, ⟨mark, marked, rfl⟩,
        ⟨⟨⟨rfl, known⟩, fits⟩, marks, rest, rfl⟩, rfl⟩

theorem Reads.unmarked {read : Reader α} {write : α → Bytes} {Fits : α → Prop}
    (h : Reads read (WrittenAs write Fits)) : Reads read (MarkedAs (fun _ => []) write Fits) :=
  h.congr fun _ _ => (markedAs_iff_of_nil rfl).symm

theorem reads_fileStatus : Reads readFileStatus (MarkedAs (fun s => [s.bucketFound, s.fileFound])
    (fun s => word64 s.size ++ text s.version) FileStatus.Fits) := by
  have flags : Reads readFileStatus (MarkedAs _ _ fun s : FileStatus => True ∧ _) :=
    Reads.flag FileStatus.bucketFound fun bucketFound =>
      Reads.flag FileStatus.fileFound fun fileFound =>
        Reads.unmarked <| reads_word64.field FileStatus.size fun size =>
          reads_text.last FileStatus.version fun version s => by
            constructor
            · rintro ⟨rfl, rfl, rfl, rfl, -⟩
              rfl
            · rintro rfl
              exact ⟨rfl, rfl, rfl, rfl, trivial⟩
  refine flags.congr fun s used => and_congr_left fun _ => ?_
  exact ⟨fun ⟨_, _, version⟩ => version, fun version => ⟨trivial, trivial, version⟩⟩

/-- The responses to one operation. -/
theorem reads_response (operation : Operation) : Reads (readResponse operation)
    (MarkedAs Response.answers Response.details fun r => r.operation = operation ∧ r.Fits) := by
  cases operation with
  | acknowledge =>
    refine reads_greeting.made Response.acknowledge (fun g used => ?_) ?_
    · exact (markedAs_iff_of_nil rfl).trans (and_congr_left' (and_iff_right rfl))
    · rintro r _ ⟨⟨same, -⟩, -⟩
      cases r <;> cases same
      exact ⟨_, rfl⟩
  | ping =>
    refine (reads_pure Response.ping).congr fun r used => ?_
    constructor
    · rintro ⟨rfl, rfl⟩
      exact (markedAs_iff_of_nil rfl).2 ⟨⟨rfl, trivial⟩, rfl⟩
    · rintro ⟨⟨same, -⟩, marks, none, rfl⟩
      cases r <;> cases same
      rw [List.map_eq_nil_iff.1 none]
      exact ⟨rfl, rfl⟩
  | store =>
    refine (reads_flag.bind fun stored => reads_pure (Response.store stored)).congr fun r used => ?_
    constructor
    · rintro ⟨stored, _, _, ⟨mark, marked, rfl⟩, ⟨rfl, rfl⟩, rfl⟩
      exact ⟨⟨rfl, trivial⟩, [mark], congrArg (fun b => [b]) marked, rfl⟩
    · rintro ⟨⟨same, -⟩, marks, marked, rfl⟩
      cases r <;> cases same
      obtain ⟨mark, rest, rfl, marked, none⟩ := List.map_eq_cons_iff.1 marked
      rw [List.map_eq_nil_iff.1 none]
      exact ⟨_, _, _, ⟨mark, marked, rfl⟩, ⟨rfl, rfl⟩, rfl⟩
  | findNode =>
    refine reads_peers.made Response.findNode (fun ps used => ?_) ?_
    · exact (markedAs_iff_of_nil rfl).trans (and_congr_left' (and_iff_right rfl))
    · rintro r _ ⟨⟨same, -⟩, -⟩
      cases r <;> cases same
      exact ⟨_, rfl⟩
  | findValue =>
    refine reads_found.made Response.findValue (fun found used => ?_) ?_
    · exact (markedAs_iff_of_nil rfl).trans (and_congr_left' (and_iff_right rfl))
    · rintro r _ ⟨⟨same, -⟩, -⟩
      cases r <;> cases same
      exact ⟨_, rfl⟩
  | checkFile =>
    refine (reads_fileStatus.bind fun status => reads_pure (Response.checkFile status)).congr
      fun r used => ?_
    constructor
    · rintro ⟨status, _, _, ⟨fits, marks, marked, rfl⟩, ⟨rfl, rfl⟩, rfl⟩
      exact ⟨⟨rfl, fits⟩, marks, marked, List.append_nil _⟩
    · rintro ⟨⟨same, fits⟩, marks, marked, rfl⟩
      cases r <;> cases same
      exact ⟨_, _, [], ⟨fits, marks, marked, rfl⟩, ⟨rfl, rfl⟩, (List.append_nil _).symm⟩
  | download =>
    refine (reads_fileStatus.bind fun status => reads_blob.map (Response.download status)).congr
      fun r used => ?_
    constructor
    · rintro ⟨status, _, _, ⟨fits, marks, marked, rfl⟩, ⟨data, short, rfl, rfl⟩, rfl⟩
      exact ⟨⟨rfl, fits, short⟩, marks, marked, List.append_assoc _ _ _⟩
    · rintro ⟨⟨same, fits⟩, marks, marked, rfl⟩
      cases r <;> cases same
      exact ⟨_, _, _, ⟨fits.1, marks, marked, rfl⟩, ⟨_, fits.2, rfl, rfl⟩,
        (List.append_assoc _ _ _).symm⟩

theorem ofCode_eq_ok_iff {code : UInt8} {operation : Operation} :
    Operation.ofCode code = .ok operation ↔ operation.code = code := by
  constructor
  · intro known
    unfold Operation.ofCode at known
    split at known <;> cases known <;> rfl
  · rintro rfl
    cases operation <;> rfl

theorem reads_operation : Reads readOperation
    (WrittenAs (fun operation => [operation.code]) fun _ => True) := by
  refine Reads.tagged (fun operation => List.cons_ne_nil _ _) fun code => ?_
  split
  · rename_i operation known
    refine (reads_pure operation).congr fun operation' used => ?_
    constructor
    · rintro ⟨rfl, rfl⟩
      exact ⟨trivial, congrArg (fun code => [code]) (ofCode_eq_ok_iff.1 known)⟩
    · rintro ⟨-, written⟩
      obtain ⟨same, none⟩ := List.cons.inj written
      rw [ofCode_eq_ok_iff.2 same] at known
      exact ⟨Except.ok.inj known, none.symm⟩
  · rename_i unknown
    refine (reads_fail _).congr fun operation used => iff_of_false id ?_
    rintro ⟨-, written⟩
    rw [ofCode_eq_ok_iff.2 (List.cons.inj written).1] at unknown
    cases unknown

def sender (s : Sender) : Bytes := s.id.toBytes ++ (word16 s.port ++ text s.machine)

theorem reads_sender : Reads readSender (WrittenAs sender fun s => Plain s.machine) := by
  refine Reads.whole (fun _ => True) (reads_identifier.field Sender.id fun id =>
    reads_word16.field Sender.port fun port =>
      reads_text.last Sender.machine ?known) ?limits ?written
  case known =>
    exact fun _ s =>
      ⟨by rintro ⟨rfl, rfl, rfl, -⟩; rfl, by rintro rfl; exact ⟨rfl, rfl, rfl, trivial⟩⟩
  case limits =>
    exact fun s =>
      ⟨fun ⟨_, _, _, machine⟩ => machine, fun machine => ⟨trivial, trivial, trivial, machine⟩⟩
  case written => exact fun s => rfl

end Wire

namespace Body

/-- What is answered with yes or no at the beginning of a body. -/
def answers : Body → List Bool
  | .response r => r.answers
  | _ => []

/-- What is written after that. -/
def details : Body → Bytes
  | .request r => Wire.request r
  | .response r => r.details
  | .failure _ text => Wire.text text

/-- The flags by which a body is known. -/
def Announced (flags : UInt8) : Body → Prop
  | .failure .. => flags &&& 2 ≠ 0
  | .response _ => flags &&& 2 = 0 ∧ flags &&& 1 ≠ 0
  | .request _ => flags &&& 2 = 0 ∧ flags &&& 1 = 0

end Body

namespace Wire

theorem reads_body (operation : Operation) (flags : UInt8) : Reads (readBody operation flags)
    (MarkedAs Body.answers Body.details
      fun b => b.operation = operation ∧ b.Announced flags ∧ b.Fits) := by
  unfold readBody
  by_cases failed : flags &&& 2 = 0
  · rw [if_neg (by simpa using failed)]
    by_cases asked : flags &&& 1 = 0
    · rw [if_neg (by simpa using asked)]
      refine (reads_request operation).made Body.request (fun r used => ?_) ?_
      · refine (markedAs_iff_of_nil rfl).trans (and_congr_left' (and_congr_right fun _ => ?_))
        exact and_iff_right ⟨failed, asked⟩
      · rintro b _ ⟨⟨-, announced, -⟩, -⟩
        cases b with
        | request r => exact ⟨r, rfl⟩
        | response => exact absurd asked announced.2
        | failure => exact absurd failed announced
    · rw [if_pos (by simpa using asked)]
      refine ((reads_response operation).bind fun r => reads_pure (Body.response r)).congr
        fun b used => ?_
      constructor
      · rintro ⟨r, _, _, ⟨⟨same, fits⟩, marks, marked, rfl⟩, ⟨rfl, rfl⟩, rfl⟩
        exact ⟨⟨same, ⟨failed, asked⟩, fits⟩, marks, marked, List.append_nil _⟩
      · rintro ⟨⟨same, announced, fits⟩, marks, marked, rfl⟩
        cases b with
        | request => exact absurd announced.2 asked
        | response r =>
          exact ⟨r, _, [], ⟨⟨same, fits⟩, marks, marked, rfl⟩, ⟨rfl, rfl⟩, (List.append_nil _).symm⟩
        | failure => exact absurd failed announced
  · rw [if_pos (by simpa using failed)]
    refine reads_text.made (Body.failure operation) (fun s used => ?_) ?_
    · refine (markedAs_iff_of_nil rfl).trans (and_congr_left' ?_)
      exact ⟨fun ⟨_, _, fits⟩ => fits, fun fits => ⟨rfl, failed, fits⟩⟩
    · rintro b _ ⟨⟨rfl, announced, -⟩, -⟩
      cases b with
      | request => exact absurd announced.1 failed
      | response => exact absurd announced.1 failed
      | failure => exact ⟨_, rfl⟩

end Wire

end LocalSwarm
