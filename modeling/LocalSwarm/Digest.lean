import LocalSwarm.Bytes

/-! The SHA-1 digest. The message is padded to whole blocks of sixteen words and folded, byte by
byte, into a chain of five words. -/
namespace LocalSwarm.Digest

/-- The five words that are carried from block to block. -/
structure Chain where
  a : UInt32
  b : UInt32
  c : UInt32
  d : UInt32
  e : UInt32

def Chain.initial : Chain := ⟨0x67452301, 0xefcdab89, 0x98badcfe, 0x10325476, 0xc3d2e1f0⟩

def rotateLeft (word : UInt32) (count : UInt32) : UInt32 :=
  (word <<< count) ||| (word >>> (32 - count))

def wordAt (block : ByteArray) (index : Nat) : UInt32 :=
  let byte (i : Nat) : UInt32 := (block.data.getD (4 * index + i) 0).toUInt32
  (byte 0 <<< 24) ||| (byte 1 <<< 16) ||| (byte 2 <<< 8) ||| byte 3

/-- The sixteen words of a block followed by the sixty-four mixed from them. -/
def schedule (block : ByteArray) : Array UInt32 :=
  (List.range 64).foldl
    (fun words i =>
      let word (j : Nat) : UInt32 := words.getD (i + j) 0
      words.push (rotateLeft (word 13 ^^^ word 8 ^^^ word 2 ^^^ word 0) 1))
    (Array.ofFn fun i : Fin 16 => wordAt block i)

/-- The mixing function and the constant of a round. -/
def mix (round : Nat) (b c d : UInt32) : UInt32 × UInt32 :=
  if round < 20 then ((b &&& c) ||| (~~~b &&& d), 0x5a827999)
  else if round < 40 then (b ^^^ c ^^^ d, 0x6ed9eba1)
  else if round < 60 then ((b &&& c) ||| (b &&& d) ||| (c &&& d), 0x8f1bbcdc)
  else (b ^^^ c ^^^ d, 0xca62c1d6)

def Chain.round (words : Array UInt32) (h : Chain) (i : Nat) : Chain :=
  let (f, k) := mix i h.b h.c h.d
  ⟨rotateLeft h.a 5 + f + h.e + k + words.getD i 0, h.a, rotateLeft h.b 30, h.c, h.d⟩

/-- One block: eighty rounds on the chain, added to it. -/
def Chain.compress (h : Chain) (block : ByteArray) : Chain :=
  let words := schedule block
  let r := (List.range 80).foldl (Chain.round words) h
  ⟨h.a + r.a, h.b + r.b, h.c + r.c, h.d + r.d, h.e + r.e⟩

/-- The chain so far and the bytes of the block that is not yet complete. -/
structure Progress where
  chain : Chain
  block : ByteArray

def Progress.push (p : Progress) (byte : UInt8) : Progress :=
  let block := p.block.push byte
  if block.size = 64 then ⟨p.chain.compress block, ByteArray.empty⟩ else ⟨p.chain, block⟩

/-- What is appended to a message of the given length: a one bit, zeros up to eight bytes short
of a whole block, and the length in bits. -/
def padding (length : Nat) : Bytes :=
  0x80 :: (List.replicate ((119 - length % 64) % 64) 0 ++ Bytes.ofNat 8 (8 * length))

def sha1 (message : Bytes) : Bytes :=
  let start : Progress := ⟨Chain.initial, ByteArray.empty⟩
  let h := ((padding message.length).foldl Progress.push (message.foldl Progress.push start)).chain
  [h.a, h.b, h.c, h.d, h.e].flatMap fun word => Bytes.ofNat 4 word.toNat

end LocalSwarm.Digest
