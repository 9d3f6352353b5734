import LocalSwarm.Address

/-! The text of addresses. Reading is strict: four decimal parts without leading zeros, or eight
hexadecimal groups of which one run of zeros may be left out. Writing leaves out the longest run
of at least two zero groups, the first of equals. -/
namespace LocalSwarm.AddressText

/-- A reader takes a value off the front of a text, or refuses. -/
abbrev Reader (α : Type) := List Char → Option (α × List Char)

def char (c : Char) : Reader Unit
  | d :: rest => if d = c then some ((), rest) else none
  | [] => none

/-- The digits at the front of a text and what follows them. -/
def digits (digit? : Char → Option Nat) : List Char → List Nat × List Char
  | [] => ([], [])
  | c :: rest =>
    match digit? c with
    | some d => let (ds, tail) := digits digit? rest; (d :: ds, tail)
    | none => ([], c :: rest)

def decimal? (c : Char) : Option Nat :=
  if '0' ≤ c ∧ c ≤ '9' then some (c.toNat - 48) else none

/-- All digits at the front, at least one and at most `most`, below `bound` as a number. -/
def number (digit? : Char → Option Nat) (radix most bound : Nat) (leadingZeros : Bool) : Reader Nat :=
  fun text =>
    let (ds, rest) := digits digit? text
    let value := ds.foldl (fun n d => n * radix + d) 0
    if ds.isEmpty || most < ds.length || bound ≤ value then none
    else if !leadingZeros && ds.head? = some 0 && 1 < ds.length then none
    else some (value, rest)

def octet : Reader Nat := number decimal? 10 3 256 false

def group : Reader Nat := number Bytes.hexValue? 16 4 65536 true

/-- A port or scope may be written with any number of digits. -/
def unlimited (bound : Nat) : Reader Nat :=
  fun text => number decimal? 10 text.length bound true text

def ipv4 : Reader UInt32 := fun text => do
  let (a, text) ← octet text
  let (_, text) ← char '.' text
  let (b, text) ← octet text
  let (_, text) ← char '.' text
  let (c, text) ← octet text
  let (_, text) ← char '.' text
  let (d, text) ← octet text
  return (UInt32.ofNat (((a * 256 + b) * 256 + c) * 256 + d), text)

/-- A reader behind a separator, which is not written before the first element. -/
def separated {α : Type} (first : Bool) (read : Reader α) : Reader α := fun text => do
  if first then read text
  else
    let (_, text) ← char ':' text
    read text

/-- Up to `room` groups. The last two may be written as four decimal parts, which ends the
address; the flag tells whether they were. -/
def groups (first : Bool) : (room : Nat) → List Char → List Nat × Bool × List Char
  | 0, text => ([], false, text)
  | room + 1, text =>
    match if room = 0 then none else separated first ipv4 text with
    | some (v4, rest) => ([v4.toNat / 65536, v4.toNat % 65536], true, rest)
    | none =>
      match separated first group text with
      | some (g, rest) =>
        let (gs, embedded, tail) := groups false room rest
        (g :: gs, embedded, tail)
      | none => ([], false, text)

def ofGroups (gs : List Nat) : BitVec 128 :=
  BitVec.ofNat 128 (gs.foldl (fun n g => n * 65536 + g) 0)

/-- Eight groups, or fewer around one run of left-out zeros. -/
def ipv6 : Reader (BitVec 128) := fun text => do
  let (head, embedded, text) := groups true 8 text
  if head.length = 8 then return (ofGroups head, text)
  if embedded then none
  let (_, text) ← char ':' text
  let (_, text) ← char ':' text
  let (tail, _, text) := groups true (7 - head.length) text
  let zeros := List.replicate (8 - head.length - tail.length) 0
  return (ofGroups (head ++ zeros ++ tail), text)

def ip : Reader IpAddr := fun text =>
  match ipv4 text with
  | some (value, rest) => some (.v4 value, rest)
  | none => (ipv6 text).map fun (value, rest) => (.v6 value, rest)

def port : Reader UInt16 := fun text => do
  let (_, text) ← char ':' text
  let (value, text) ← unlimited 65536 text
  return (UInt16.ofNat value, text)

def scope : Reader UInt32 := fun text => do
  let (_, text) ← char '%' text
  let (value, text) ← unlimited UInt32.size text
  return (UInt32.ofNat value, text)

def endpointV4 : Reader SocketAddr := fun text => do
  let (value, text) ← ipv4 text
  let (p, text) ← port text
  return (.v4 value p, text)

def endpointV6 : Reader SocketAddr := fun text => do
  let (_, text) ← char '[' text
  let (value, text) ← ipv6 text
  let (zone, text) := (scope text).getD (0, text)
  let (_, text) ← char ']' text
  let (p, text) ← port text
  return (.v6 value p 0 zone, text)

def whole {α : Type} (read : Reader α) (text : String) : Option α :=
  match read text.toList with
  | some (value, []) => some value
  | _ => none

def toGroups (value : BitVec 128) : List Nat :=
  (List.range 8).map fun i => value.toNat >>> (16 * (7 - i)) % 65536

def renderIpv4 (value : UInt32) : String :=
  let n := value.toNat
  s!"{n / 16777216}.{n / 65536 % 256}.{n / 256 % 256}.{n % 256}"

def renderGroup (g : Nat) : String := String.ofList (Nat.toDigits 16 g)

/-- Start and length of the longest run of zeros, the first of equals. -/
def longestZeros (gs : List Nat) : Nat × Nat :=
  let runs := (List.range gs.length).map fun i => (i, ((gs.drop i).takeWhile (· = 0)).length)
  runs.foldl (fun best run => if best.2 < run.2 then run else best) (0, 0)

def renderGroups (gs : List Nat) : String := String.intercalate ":" (gs.map renderGroup)

def renderIpv6 (value : BitVec 128) : String :=
  let gs := toGroups value
  if value.toNat >>> 32 = 65535 then
    "::ffff:" ++ renderIpv4 (UInt32.ofNat value.toNat)
  else
    let (start, length) := longestZeros gs
    if 1 < length then
      renderGroups (gs.take start) ++ "::" ++ renderGroups (gs.drop (start + length))
    else renderGroups gs

end AddressText

def IpAddr.ofText? (text : String) : Option IpAddr := AddressText.whole AddressText.ip text

def IpAddr.render : IpAddr → String
  | .v4 value => AddressText.renderIpv4 value
  | .v6 value => AddressText.renderIpv6 value

/-- The endpoint that a text writes: an address, in brackets where it has colons, and a port. -/
def SocketAddr.ofText? (text : String) : Option SocketAddr :=
  (AddressText.whole AddressText.endpointV4 text).orElse fun _ =>
    AddressText.whole AddressText.endpointV6 text

/-- A scope is written where it is not zero. -/
def SocketAddr.render : SocketAddr → String
  | .v4 ip port => s!"{AddressText.renderIpv4 ip}:{port.toNat}"
  | .v6 ip port _ scope =>
    let zone := if scope = 0 then "" else s!"%{scope.toNat}"
    s!"[{AddressText.renderIpv6 ip}{zone}]:{port.toNat}"

end LocalSwarm
