import LocalSwarm.Call

/-! Iterative lookups. Round after round the closest contacts that were not asked yet are asked for
closer ones, a few at a time, and the next round waits for all of them. The lookup ends when a
round brings nothing closer and none of the closest is left to be asked, or when a value is found. -/
namespace LocalSwarm

/-- How many contacts are asked in a round, in how many rounds, and how many are wanted. -/
structure LookupLimits where
  width : Nat
  rounds : Nat
  count : Nat

/-- Whether the contacts closest to the target are looked for, or its value. -/
inductive LookupKind where
  | node
  | value
deriving DecidableEq

/-- What a lookup has learned. Candidates and those that responded stand in order of their distance
to the target. -/
structure Lookup where
  kind : LookupKind
  limits : LookupLimits
  localId : Identifier
  target : Identifier
  round : Nat
  seen : List Identifier
  candidates : List Peer
  asked : List Identifier
  responded : List Peer
  /-- The distance of the closest candidate before this round. -/
  closest : Option Distance

inductive LookupOutcome where
  /-- The closest contacts that answered, closest first. -/
  | contacts (peers : List Peer)
  | value (bytes : Bytes)

inductive LookupStage where
  /-- The answers of a batch of contacts. -/
  | asking (lookup : Lookup) (batch : List Peer)
  | ended (outcome : LookupOutcome)

namespace Lookup

/-- Insert by distance to the target, in front of those farther away. -/
def insertByDistance (target : Identifier) (p : Peer) (ps : List Peer) : List Peer :=
  let closer (q : Peer) : Bool := q.distanceTo target < p.distanceTo target
  ps.takeWhile closer ++ p :: ps.dropWhile closer

/-- Take note of a contact. Ourselves and those seen before are passed over. -/
def learn (l : Lookup) (p : Peer) : Lookup :=
  if p.id = l.localId || l.seen.contains p.id then l
  else { l with seen := p.id :: l.seen, candidates := insertByDistance l.target p l.candidates }

def closestCandidate (l : Lookup) : Option Distance := l.candidates.head?.map (·.distanceTo l.target)

def start (kind : LookupKind) (limits : LookupLimits) (localId target : Identifier)
    (seeds : List Peer) : Lookup :=
  let blank : Lookup := ⟨kind, limits, localId, target, 0, [], [], [], [], none⟩
  let l := seeds.foldl learn blank
  { l with closest := l.closestCandidate }

def isAsked (l : Lookup) (p : Peer) : Bool := l.asked.contains p.id

/-- The closest candidates that were not asked yet. At least one is asked in a round. -/
def batch (l : Lookup) : List Peer :=
  (l.candidates.filter fun p => !l.isAsked p).take (max l.limits.width 1)

def result (l : Lookup) : LookupOutcome := .contacts (l.responded.take l.limits.count)

/-- The batch is asked. -/
def ask (l : Lookup) : Lookup := { l with asked := l.batch.map (·.id) ++ l.asked }

def next (l : Lookup) : LookupStage :=
  if l.limits.rounds ≤ l.round || l.batch.isEmpty then .ended l.result else .asking l.ask l.batch

/-- The request that every contact of a batch is asked. The count has sixteen bits. -/
def request (l : Lookup) : Request :=
  let count := UInt16.ofNat l.limits.count
  match l.kind with
  | .node => .findNode l.target count
  | .value => .findValue l.target count

/-- What a response tells a lookup. A response to another request tells it nothing. -/
def found? : LookupKind → Response → Option Found
  | .node, .findNode ps => some (.closer ps)
  | .value, .findValue found => some found
  | _, _ => none

/-- What a contact answered, or nothing if it did not. -/
abbrev Heard := Option Found

def take (l : Lookup) (p : Peer) : Heard → Lookup
  | some (.closer ps) =>
    ps.foldl learn { l with responded := insertByDistance l.target p l.responded }
  | some (.value _) => l
  | none => { l with candidates := l.candidates.filter (·.id ≠ p.id) }

def takeAll (l : Lookup) (answers : List (Peer × Heard)) : Lookup :=
  answers.foldl (fun l (p, heard) => l.take p heard) l

/-- The value in the answers; of several the last. -/
def valueIn (answers : List (Peer × Heard)) : Option Bytes :=
  (answers.filterMap fun
    | (_, some (.value bytes)) => some bytes
    | _ => none).getLast?

/-- Whether a distance is no improvement on another; to have none is best. -/
def noCloser : Option Distance → Option Distance → Bool
  | some d, some e => e ≤ d
  | none, some _ => false
  | _, none => true

def lesser : Option Distance → Option Distance → Option Distance
  | some d, some e => some (if e < d then e else d)
  | some d, none => some d
  | none, e => e

/-- Whether one of the wanted number of closest candidates is still to be asked. -/
def hasPending (l : Lookup) : Bool :=
  (l.candidates.take l.limits.count).any fun p => !l.isAsked p

/-- End the round with the answers of its batch, in the order of the batch. -/
def finishRound (l : Lookup) (answers : List (Peer × Heard)) : LookupStage :=
  let l := l.takeAll answers
  match valueIn answers with
  | some bytes => .ended (.value bytes)
  | none =>
    let here := l.closestCandidate
    if noCloser here l.closest && 0 < l.round && !l.hasPending then .ended l.result
    else { l with closest := lesser l.closest here, round := l.round + 1 }.next

end Lookup
end LocalSwarm
