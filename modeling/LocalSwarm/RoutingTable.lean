import LocalSwarm.Bucket

/-! The routing table: one bucket for every number of leading bits that an identifier can share
with our own. -/
namespace LocalSwarm

structure RoutingTable where
  localId : Identifier
  buckets : Vector Bucket 160

namespace RoutingTable

/-- Slots are set aside in advance, so their number is bounded by what can be addressed: contacts
of 104 bytes within 2⁶³ − 1 bytes. -/
def slotLimit : Nat := 0x7fffffffffffffff / 104

def create (localId : Identifier) (slots : Nat) : Except Fault RoutingTable :=
  if slotLimit < slots then .error (.tooManySlots slots)
  else .ok ⟨localId, Vector.replicate 160 (Bucket.empty slots)⟩

/-- The bucket of an identifier. Our own belongs to none. -/
def index? (t : RoutingTable) (id : Identifier) : Option (Fin 160) :=
  let shared := (t.localId.distance id).commonPrefix
  if h : shared < 160 then some ⟨shared, h⟩ else none

def bucket (t : RoutingTable) (i : Fin 160) : Bucket := t.buckets[i]

def setBucket (t : RoutingTable) (i : Fin 160) (b : Bucket) : RoutingTable :=
  { t with buckets := t.buckets.set i b }

def contacts (t : RoutingTable) : List Contact := t.buckets.toList.flatMap (·.contacts)

def find? (t : RoutingTable) (id : Identifier) : Option Contact := do
  (t.bucket (← t.index? id)).find? id

def offer (t : RoutingTable) (now : Moment) (newcomer : Contact) :
    Except Fault (RoutingTable × Offer) :=
  match t.index? newcomer.id with
  | some i => do
    let (b, outcome) ← (t.bucket i).offer now newcomer
    return (t.setBucket i b, outcome)
  | none => .ok (t, .ourselves)

/-- Let the newcomer have the slot of `oldest`, in the newcomer's bucket. -/
def replace (t : RoutingTable) (oldest : Identifier) (newcomer : Contact) : RoutingTable × Bool :=
  match t.index? newcomer.id with
  | some i =>
    let (b, done) := (t.bucket i).replace oldest newcomer
    (t.setBucket i b, done)
  | none => (t, false)

def markSeen (t : RoutingTable) (now : Moment) (id : Identifier) : RoutingTable :=
  match t.index? id with
  | some i => t.setBucket i ((t.bucket i).markSeen now id)
  | none => t

def modify (t : RoutingTable) (id : Identifier) (f : Contact → Contact) : RoutingTable :=
  match t.index? id with
  | some i => t.setBucket i ((t.bucket i).modify id f)
  | none => t

def requestFailed (t : RoutingTable) (id : Identifier) : RoutingTable := t.modify id Contact.fail

/-- The good and questionable contacts, bucket after bucket. -/
def online (t : RoutingTable) (now : Moment) : List Peer :=
  t.buckets.toList.flatMap fun b => (b.online now).map (·.peer)

/-- The `count` online contacts closest to the target, closest first. -/
def closest (t : RoutingTable) (now : Moment) (target : Identifier) (count : Nat) : List Peer :=
  ((t.online now).mergeSort fun p q => p.distanceTo target ≤ q.distanceTo target).take count

def countWith (t : RoutingTable) (now : Moment) (status : Status) : Nat :=
  t.contacts.countP (·.status now = status)

def stale (t : RoutingTable) (now : Moment) : List (Fin 160) :=
  (List.finRange 160).filter fun i => (t.bucket i).isStale now

end RoutingTable
end LocalSwarm
