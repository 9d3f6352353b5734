import LocalSwarm.Lookup
import LocalSwarm.Plan

/-! What a node does with lookups: it finds contacts and values, stores values on the contacts
closest to their keys, makes its way into the swarm from a single contact and keeps its buckets
fresh. -/
namespace LocalSwarm

/-- How many contacts a lookup asks at once, and in how many rounds. -/
structure LookupPace where
  width : Nat
  rounds : Nat

namespace Lookup

/-- What the outcome of a call tells a lookup. -/
def heard (kind : LookupKind) : Outcome → Heard
  | .ok reply => found? kind reply.response
  | .error _ => none

def answers (kind : LookupKind) (batch : List Peer) (outcomes : List (Nat × Outcome)) :
    List (Peer × Heard) :=
  batch.zipIdx.map fun (p, slot) => (p, (outcomes.lookup slot).bind (heard kind))

/-- What answers leave as it is: all but what was seen, the candidates and who responded. -/
structure Continues (l l' : Lookup) : Prop where
  kind : l'.kind = l.kind
  limits : l'.limits = l.limits
  localId : l'.localId = l.localId
  target : l'.target = l.target
  round : l'.round = l.round
  asked : l'.asked = l.asked
  closest : l'.closest = l.closest

theorem Continues.refl (l : Lookup) : Continues l l := ⟨rfl, rfl, rfl, rfl, rfl, rfl, rfl⟩

theorem Continues.trans {l l' l'' : Lookup} (first : Continues l l') (second : Continues l' l'') :
    Continues l l'' where
  kind := second.kind.trans first.kind
  limits := second.limits.trans first.limits
  localId := second.localId.trans first.localId
  target := second.target.trans first.target
  round := second.round.trans first.round
  asked := second.asked.trans first.asked
  closest := second.closest.trans first.closest

theorem continues_learn (l : Lookup) (p : Peer) : Continues l (l.learn p) := by
  unfold learn
  split
  · exact .refl l
  · exact ⟨rfl, rfl, rfl, rfl, rfl, rfl, rfl⟩

theorem continues_learnAll (l : Lookup) (ps : List Peer) : Continues l (ps.foldl learn l) := by
  induction ps generalizing l with
  | nil => exact .refl l
  | cons p ps ih => exact (l.continues_learn p).trans (ih (l.learn p))

theorem continues_take (l : Lookup) (p : Peer) (heard : Heard) : Continues l (l.take p heard) := by
  match heard with
  | some (.closer ps) =>
    have first : Continues l { l with responded := insertByDistance l.target p l.responded } :=
      ⟨rfl, rfl, rfl, rfl, rfl, rfl, rfl⟩
    exact first.trans (continues_learnAll _ ps)
  | some (.value _) => exact .refl l
  | none => exact ⟨rfl, rfl, rfl, rfl, rfl, rfl, rfl⟩

theorem continues_takeAll (l : Lookup) (answers : List (Peer × Heard)) :
    Continues l (l.takeAll answers) := by
  induction answers generalizing l with
  | nil => exact .refl l
  | cons a answers ih => exact (l.continues_take a.1 a.2).trans (ih (l.take a.1 a.2))

theorem next_asking {l l' : Lookup} {batch : List Peer} (h : l.next = .asking l' batch) :
    l'.limits = l.limits ∧ l'.round = l.round ∧ l.round < l.limits.rounds := by
  simp only [next] at h
  split at h
  · cases h
  · rename_i more
    cases h
    simp only [Bool.or_eq_true, decide_eq_true_eq, not_or] at more
    exact ⟨rfl, rfl, Nat.lt_of_not_le more.1⟩

theorem finishRound_asking {l l' : Lookup} {batch : List Peer} {answers : List (Peer × Heard)}
    (h : l.finishRound answers = .asking l' batch) :
    l'.limits = l.limits ∧ l'.round = l.round + 1 ∧ l.round + 1 < l.limits.rounds := by
  have same := l.continues_takeAll answers
  simp only [finishRound] at h
  split at h
  · cases h
  · split at h
    · cases h
    · obtain ⟨limits, round, lt⟩ := next_asking h
      simp only [same.limits, same.round] at limits round lt
      exact ⟨limits, round, lt⟩

def follow : LookupStage → Plan LookupOutcome
  | .ended outcome => .done outcome
  | .asking l batch =>
    (Plan.together (batch.map fun p => ⟨.contact p, l.request⟩)).bind fun outcomes =>
      match h : l.finishRound (answers l.kind batch outcomes) with
      | .ended outcome => .done outcome
      | .asking l' batch' =>
        have : l'.limits.rounds - l'.round < l.limits.rounds - l.round := by
          obtain ⟨limits, round, lt⟩ := finishRound_asking h
          rw [limits, round]
          omega
        follow (.asking l' batch')
termination_by stage =>
  match stage with
  | .ended _ => 0
  | .asking l _ => l.limits.rounds - l.round

def search (kind : LookupKind) (pace : LookupPace) (target : Identifier) (seeds : List Peer) :
    Plan LookupOutcome :=
  .look fun site =>
    follow (start kind ⟨pace.width, pace.rounds, site.node.count⟩ site.node.self.id target seeds).next

def searchHere (kind : LookupKind) (pace : LookupPace) (target : Identifier) : Plan LookupOutcome :=
  .look fun site =>
    search kind pace target (site.node.table.closest site.now target site.node.count)

def LookupOutcome.peers : LookupOutcome → List Peer
  | .contacts ps => ps
  | .value _ => []

/-- The closest contacts to the target that answered, closest first. -/
def findNode (pace : LookupPace) (target : Identifier) : Plan (List Peer) := do
  return LookupOutcome.peers (← searchHere .node pace target)

def findNodeFrom (pace : LookupPace) (target : Identifier) (seeds : List Peer) :
    Plan (List Peer) := do
  return LookupOutcome.peers (← search .node pace target seeds)

def findValue (pace : LookupPace) (key : Identifier) : Plan LookupOutcome :=
  searchHere .value pace key

def isStored : Outcome → Bool
  | .ok reply => reply.response = .store true
  | .error _ => false

/-- Store a value on the contacts closest to its key. Tells how many took it. -/
def storeValue (pace : LookupPace) (key : Identifier) (value : Bytes) : Plan Nat := do
  let closest ← findNode pace key
  let outcomes ← Plan.together (closest.map fun p => ⟨.contact p, .store key value⟩)
  return outcomes.countP fun (_, outcome) => isStored outcome

/-- Refresh a bucket by looking up an identifier that belongs into it. -/
def refreshBucket (pace : LookupPace) (random : Identifier) (i : Fin 160) : Plan Unit := do
  let site ← Plan.site
  let _ ← findNode pace (site.node.self.id.divergingAt i random)

/-- Refresh every stale bucket, one after the other. Tells how many there were. `random` has the
bits in which the identifiers that are looked up may differ. -/
def refresh (pace : LookupPace) (random : Fin 160 → Identifier) : Plan Nat := do
  let site ← Plan.site
  let stale := site.node.table.stale site.now
  stale.forM fun i => refreshBucket pace (random i) i
  return stale.length

end Lookup

namespace Bootstrap

/-- Give up an attempt. The state to fall back to is found first, from the state and then from the
table, and is set by itself: others may come in between. -/
def giveUp : Plan Unit := do
  let bootstrap := (← Plan.site).node.bootstrap
  let site ← Plan.site
  Plan.setState (bootstrap.settled !(site.node.table.online site.now).isEmpty)

/-- Ask a contact for those closest to ourselves and walk towards them. Tells how many contacts are
online afterwards. -/
def attempt (pace : LookupPace) (contact : Peer) : Plan (Except CallError Nat) := do
  let node := (← Plan.site).node
  let id := node.self.id
  Plan.setState .underway
  match ← Plan.call ⟨.contact contact, .findNode id (UInt16.ofNat node.count)⟩ with
  | .error e =>
    giveUp
    return .error e
  | .ok reply =>
    let _ ← Lookup.findNodeFrom pace id (reply.told ++ [contact])
    let site ← Plan.site
    Plan.setState .complete
    return .ok (site.node.table.online site.now).length

end Bootstrap

/-- What a handshake brings: the contact at the called endpoint and its buckets. -/
structure Handshake where
  contact : Peer
  buckets : List String

/-- Greet whoever is at an endpoint. -/
def handshake (address : SocketAddr) (buckets : List String) :
    Plan (Except CallError Handshake) := do
  let version := (← Plan.site).node.version
  match ← Plan.call ⟨.endpoint address, .acknowledge ⟨version, buckets⟩⟩ with
  | .error e => return .error e
  | .ok reply =>
    match reply.response with
    | .acknowledge g => return .ok ⟨reply.peer, g.buckets⟩
    | _ => return .error .unexpected

/-- What became of an attempt to join: the handshake, and how many contacts are online. -/
structure Joining where
  handshake : Handshake
  online : Except CallError Nat

/-- Greet whoever is at an endpoint and make our way into the swarm from there. -/
def join (pace : LookupPace) (address : SocketAddr) : Plan (Except CallError Joining) := do
  let buckets := (← Plan.site).node.provider.buckets
  match ← handshake address buckets with
  | .error e => return .error e
  | .ok h => return .ok ⟨h, ← Bootstrap.attempt pace h.contact⟩

end LocalSwarm
