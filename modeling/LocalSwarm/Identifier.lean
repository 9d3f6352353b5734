import LocalSwarm.Digest
import LocalSwarm.Fault

/-! Identifiers of peers and values, and the distance between them. An identifier is a word of 160
bits; the distance of two is their exclusive or, compared as a number. -/
namespace LocalSwarm

/-- A point of the key space, shared by peers and stored values. -/
structure Identifier where
  bits : BitVec 160
deriving DecidableEq, Inhabited

structure Distance where
  bits : BitVec 160
deriving DecidableEq

/-- The bytes offered as an identifier were not twenty. -/
structure LengthError where
  length : Nat

def LengthError.message (_ : LengthError) : String := "invalid identifier length"

namespace Distance

def toNat (d : Distance) : Nat := d.bits.toNat

instance : LT Distance := ⟨fun d e => d.toNat < e.toNat⟩
instance : LE Distance := ⟨fun d e => d.toNat ≤ e.toNat⟩
instance (d e : Distance) : Decidable (d < e) := inferInstanceAs (Decidable (d.toNat < e.toNat))
instance (d e : Distance) : Decidable (d ≤ e) := inferInstanceAs (Decidable (d.toNat ≤ e.toNat))

/-- How many leading bits two identifiers at this distance share. -/
def commonPrefix (d : Distance) : Nat :=
  if d.toNat = 0 then 160 else 159 - d.toNat.log2

end Distance

namespace Identifier

def toNat (id : Identifier) : Nat := id.bits.toNat

instance : LT Identifier := ⟨fun a b => a.toNat < b.toNat⟩
instance (a b : Identifier) : Decidable (a < b) := inferInstanceAs (Decidable (a.toNat < b.toNat))

/-- The identifier that twenty bytes write, most significant first. -/
def ofBytes (bytes : Bytes) : Except LengthError Identifier :=
  if bytes.length = 20 then .ok ⟨BitVec.ofNat 160 (Bytes.toNat bytes)⟩ else .error ⟨bytes.length⟩

def toBytes (id : Identifier) : Bytes := Bytes.ofNat 20 id.toNat

/-- The identifier of a piece of text or data is its digest. -/
def ofContent (content : Bytes) : Identifier :=
  ⟨BitVec.ofNat 160 (Bytes.toNat (Digest.sha1 content))⟩

def ofHex? (text : String) : Option Identifier := do
  (ofBytes (← Bytes.ofHex? text)).toOption

def hex (id : Identifier) : String := Bytes.hex id.toBytes

/-- The first four bytes tell peers apart well enough. -/
def shortHex (id : Identifier) : String := Bytes.hex (id.toBytes.take 4)

def distance (a b : Identifier) : Distance := ⟨a.bits ^^^ b.bits⟩

/-- Bit `0` is the most significant one. -/
def bit (id : Identifier) (index : Nat) : Bool := id.bits.getMsbD index

def leadingZeros (id : Identifier) : Nat := Distance.commonPrefix ⟨id.bits⟩

def singleBit (index : Nat) : BitVec 160 := BitVec.twoPow 160 (159 - index)

def flipBit (id : Identifier) (index : Nat) : Except Fault Identifier :=
  if index < 160 then .ok ⟨id.bits ^^^ singleBit index⟩ else .error (.noSuchBit index)

/-- The first `count` bits of `id`, then the opposite of its next bit, then the bits of `random`.
Where no bit is left to differ in, `id` itself. -/
def divergingAt (id : Identifier) (count : Nat) (random : Identifier) : Identifier :=
  if count < 160 then
    let tail := BitVec.allOnes 160 >>> (count + 1)
    ⟨((id.bits ^^^ singleBit count) &&& ~~~tail) ||| (random.bits &&& tail)⟩
  else id

end Identifier
end LocalSwarm
