import LocalSwarm.Contact
import LocalSwarm.Fault

/-! Buckets hold a bounded number of contacts, least recently heard from first. A newcomer takes a
free slot or the slot of a bad contact; otherwise the first contact has to be challenged. -/
namespace LocalSwarm

inductive Offer where
  /-- It would have been ourselves. -/
  | ourselves
  /-- It took a free slot or that of a bad contact. -/
  | inserted
  /-- It was there already and has learned. -/
  | updated
  /-- There is no slot unless this contact fails to answer. -/
  | full (oldest : Contact)
deriving DecidableEq

structure Bucket where
  slots : Nat
  contacts : List Contact

namespace Bucket

def empty (slots : Nat) : Bucket := ⟨slots, []⟩

def find? (b : Bucket) (id : Identifier) : Option Contact := b.contacts.find? (·.id = id)

def others (b : Bucket) (id : Identifier) : List Contact := b.contacts.eraseP (·.id = id)

def modify (b : Bucket) (id : Identifier) (f : Contact → Contact) : Bucket :=
  { b with contacts := b.contacts.modify (b.contacts.findIdx (·.id = id)) f }

/-- A known contact learns from the newcomer, and moves to the end if the newcomer was heard. An
unknown one goes to the end if there is a slot. -/
def offer (b : Bucket) (now : Moment) (newcomer : Contact) : Except Fault (Bucket × Offer) :=
  match b.find? newcomer.id with
  | some known =>
    let b := if newcomer.lastActive.isSome
      then { b with contacts := b.others known.id ++ [known.learn newcomer] }
      else b.modify known.id (·.learn newcomer)
    .ok (b, .updated)
  | none =>
    if b.contacts.length < b.slots then
      .ok ({ b with contacts := b.contacts ++ [newcomer] }, .inserted)
    else
      match b.contacts.find? (·.status now = .bad), b.contacts with
      | some bad, _ => .ok ({ b with contacts := b.others bad.id ++ [newcomer] }, .inserted)
      | none, oldest :: _ => .ok (b, .full oldest)
      | none, [] => .error .noContact

/-- The newcomer takes the slot of `oldest`, which failed its challenge. A newcomer that made it
into the bucket meanwhile only learns. Tells whether the newcomer is in the bucket. -/
def replace (b : Bucket) (oldest : Identifier) (newcomer : Contact) : Bucket × Bool :=
  if (b.find? newcomer.id).isSome then (b.modify newcomer.id (·.learn newcomer), true)
  else
    let rest := b.others oldest
    if rest.length < b.slots then ({ b with contacts := rest ++ [newcomer] }, true)
    else ({ b with contacts := rest }, false)

def markSeen (b : Bucket) (now : Moment) (id : Identifier) : Bucket :=
  match b.find? id with
  | some known => { b with contacts := b.others id ++ [known.touch now known.peer.address] }
  | none => b

def online (b : Bucket) (now : Moment) : List Contact := b.contacts.filter (·.isOnline now)

/-- A bucket is stale if it has contacts, but none that is good. -/
def isStale (b : Bucket) (now : Moment) : Bool :=
  !b.contacts.isEmpty && b.contacts.all (·.status now != .good)

end Bucket
end LocalSwarm
