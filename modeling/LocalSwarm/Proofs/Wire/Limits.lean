import LocalSwarm.Announcement
import LocalSwarm.Message.Encoding
import LocalSwarm.Proofs.Wire.Texts

/-! What a message may hold to be written without loss. -/
namespace LocalSwarm

namespace Wire

/-- A text of which every character is written, and as one byte. -/
structure Plain (s : String) : Prop where
  ascii : ∀ c ∈ s.toList, c.toNat < 128
  short : s.utf8ByteSize ≤ shortLimit

theorem plain_of_all {s : String} (ascii : s.toList.all (·.toNat < 128) = true)
    (short : s.utf8ByteSize ≤ shortLimit) : Plain s :=
  ⟨fun c member => of_decide_eq_true (List.all_eq_true.1 ascii c member), short⟩

theorem plain_empty : Plain "" := plain_of_all rfl (by decide)

theorem plain_ofList {cs : List Char} (ascii : ∀ c ∈ cs, c.toNat < 128)
    (short : cs.length ≤ shortLimit) : Plain (String.ofList cs) := by
  refine ⟨by rwa [String.toList_ofList], ?_⟩
  rwa [← length_utf8, utf8_ofList_of_ascii ascii, List.length_map]

/-- A number of sixteen bytes is plain when it is written out. -/
theorem plain_decimal {n : Nat} (small : n < 0x100000000000000000000000000000000) :
    Plain (toString n) := by
  have digits : (Nat.toDigits 10 n).length ≤ 39 :=
    (Nat.length_toDigits_le_iff (by decide) (by decide)).2 (Nat.lt_trans small (by decide))
  rw [Nat.toString_eq_ofList_toDigits]
  refine plain_ofList (fun c member => ?_) (Nat.le_trans digits (by decide))
  have digit := Nat.isDigit_of_mem_toDigits (by decide) (by decide) member
  simp only [Char.isDigit, Bool.and_eq_true, decide_eq_true_eq, UInt32.le_iff_toNat_le] at digit
  exact Nat.lt_of_le_of_lt digit.2 (by decide)

/-- The length of a blob has four bytes. -/
def blobLimit : Nat := 0x100000000

end Wire

open Wire (Plain shortLimit blobLimit)

structure Greeting.Fits (g : Greeting) : Prop where
  few : g.buckets.length ≤ shortLimit
  plain : ∀ bucket ∈ g.buckets, Plain bucket

structure FileQuery.Fits (q : FileQuery) : Prop where
  bucket : Plain q.bucket
  folder : Plain q.folder
  name : Plain q.name

def FileStatus.Fits (s : FileStatus) : Prop := Plain s.version

/-- Flow labels and scopes have no place on the wire. -/
def SocketAddr.Unscoped : SocketAddr → Prop
  | .v4 .. => True
  | .v6 _ _ flow scope => flow = 0 ∧ scope = 0

structure Peer.Fits (p : Peer) : Prop where
  machine : Plain p.machine
  address : p.address.Unscoped

structure Peer.AllFit (ps : List Peer) : Prop where
  few : ps.length ≤ shortLimit
  each : ∀ p ∈ ps, p.Fits

def Found.Fits : Found → Prop
  | .value bytes => bytes.length < blobLimit
  | .closer ps => Peer.AllFit ps

def Request.Fits : Request → Prop
  | .acknowledge greeting => greeting.Fits
  | .ping => True
  | .store _ value => value.length < blobLimit
  | .findNode .. => True
  | .findValue .. => True
  | .checkFile file => file.Fits
  | .download file range => file.Fits ∧ range.stop - range.start < Frame.limit

def Response.Fits : Response → Prop
  | .acknowledge greeting => greeting.Fits
  | .ping => True
  | .store _ => True
  | .findNode ps => Peer.AllFit ps
  | .findValue found => found.Fits
  | .checkFile status => status.Fits
  | .download status data => status.Fits ∧ data.length < blobLimit

def Body.Fits : Body → Prop
  | .request r => r.Fits
  | .response r => r.Fits
  | .failure _ text => Plain text

structure Message.Fits (m : Message) : Prop where
  sender : Plain m.sender.machine
  body : m.body.Fits

def Announcement.Fits (a : Announcement) : Prop := Plain a.machine

end LocalSwarm
