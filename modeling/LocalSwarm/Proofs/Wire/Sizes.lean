import LocalSwarm.Proofs.Wire.Messages

/-! How many bytes are written of a message. What comes of texts and of lists of peers is bounded
whatever they hold, as both are cut; values and data count in full. -/
namespace LocalSwarm

-- Comparing lengths symbol by symbol would write out all digits of a number.
attribute [local irreducible] Bytes.ofNat

namespace Wire

/-- No more bytes are written of a text. -/
def textLimit : Nat := 2 + shortLimit

/-- No more bytes are written of a peer. -/
def peerLimit : Nat := 39 + textLimit

theorem length_text (s : String) : (text s).length = 2 + min shortLimit s.utf8ByteSize := by
  rw [text, List.length_append, Bytes.length_ofNat, List.length_take, length_utf8]

theorem length_text_le (s : String) : (text s).length ≤ textLimit := by
  rw [length_text]
  exact Nat.add_le_add_left (Nat.min_le_left ..) 2

theorem length_text_le_size (s : String) : (text s).length ≤ 2 + s.utf8ByteSize := by
  rw [length_text]
  exact Nat.add_le_add_left (Nat.min_le_right ..) 2

theorem Plain.length_text {s : String} (plain : Plain s) :
    (Wire.text s).length = 2 + s.utf8ByteSize := by
  rw [Wire.length_text, Nat.min_eq_right plain.short]

theorem length_blob (bytes : Bytes) : (blob bytes).length = 4 + bytes.length := by
  rw [blob, List.length_append, Bytes.length_ofNat]

theorem length_identifier (id : Identifier) : id.toBytes.length = 20 := Bytes.length_ofNat 20 _

theorem length_peer_le (p : Peer) : (peer p).length ≤ peerLimit := by
  have machine := length_text_le p.machine
  have ip : (ipAddr p.address.ip).length ≤ 17 := by
    cases p.address.ip with
    | v4 value => simp [ipAddr, Bytes.length_ofNat]
    | v6 value => simp [ipAddr, Bytes.length_ofNat]
  simp only [peer, word16, List.length_append, length_identifier, Bytes.length_ofNat, peerLimit]
  omega

theorem length_flatMap_peer_le (ps : List Peer) :
    (ps.flatMap peer).length ≤ ps.length * peerLimit := by
  induction ps with
  | nil => exact Nat.zero_le _
  | cons p ps ih =>
    have first := length_peer_le p
    rw [List.flatMap_cons, List.length_append, List.length_cons, Nat.succ_mul]
    omega

theorem length_peers_le {ps : List Peer} {count : Nat} (few : ps.length ≤ count) :
    (peers ps).length ≤ 2 + count * peerLimit := by
  have all := length_flatMap_peer_le (ps.take shortLimit)
  have fewer : (ps.take shortLimit).length ≤ count := (List.length_take_le' ..).trans few
  rw [peers, List.length_append, Bytes.length_ofNat]
  exact Nat.add_le_add_left (all.trans (Nat.mul_le_mul_right _ fewer)) 2

theorem length_fileStatus_le (s : FileStatus) : (fileStatus s).length ≤ 10 + textLimit := by
  have version := length_text_le s.version
  simp only [fileStatus, flag, word64, List.length_append, List.length_singleton,
    Bytes.length_ofNat]
  omega

end Wire

namespace Message

/-- The length of a message is that of its header, of the machine of its sender and of its body. -/
theorem length_encode (m : Message) :
    m.encode.length = 28 + (Wire.text m.sender.machine).length + (Wire.body m.body).length := by
  simp only [encode, Wire.word32, Wire.word16, List.length_cons, List.length_append,
    Wire.length_identifier, Bytes.length_ofNat]
  omega

/-- What is decoded is as long as what is written of it. -/
theorem length_of_decode {m : Message} {bytes : Bytes} (decoded : decode bytes = .ok m) :
    m.encode.length = bytes.length := (decode_eq_ok_iff.1 decoded).readFrom.length

end Message
end LocalSwarm
