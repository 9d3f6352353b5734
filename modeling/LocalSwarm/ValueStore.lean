import LocalSwarm.Identifier
import LocalSwarm.Time

/-! The store for values that other peers ask us to keep. Values expire, and a store that is full
of live values takes no further key. -/
namespace LocalSwarm

structure ValueStore where
  limit : Nat
  expiry : Span
  entries : List (Identifier × Bytes × Moment)

namespace ValueStore

def create (limit : Nat) (expiry : Span) : ValueStore := ⟨limit, expiry, []⟩

/-- What a node keeps for others: 4096 values for an hour. -/
def standard : ValueStore := create 4096 (Span.ofMinutes 60)

def size (s : ValueStore) : Nat := s.entries.length

def lookup? (s : ValueStore) (key : Identifier) : Option (Bytes × Moment) := s.entries.lookup key

def erase (s : ValueStore) (key : Identifier) : ValueStore :=
  { s with entries := s.entries.eraseP (·.1 = key) }

def isLive (s : ValueStore) (now storedAt : Moment) : Bool := now - storedAt < s.expiry

def withoutExpired (s : ValueStore) (now : Moment) : ValueStore :=
  { s with entries := s.entries.filter fun (_, _, storedAt) => s.isLive now storedAt }

/-- Store a value, over an earlier one of its key. A full store first drops what has expired and
then refuses new keys. -/
def put (s : ValueStore) (now : Moment) (key : Identifier) (value : Bytes) : ValueStore × Bool :=
  let room := if (s.lookup? key).isSome || s.size < s.limit then s else s.withoutExpired now
  if (room.lookup? key).isSome || room.size < room.limit then
    ({ room with entries := (key, value, now) :: (room.erase key).entries }, true)
  else (room, false)

/-- The value of a key, unless it has expired and is dropped. -/
def get (s : ValueStore) (now : Moment) (key : Identifier) : ValueStore × Option Bytes :=
  match s.lookup? key with
  | some (value, storedAt) => if s.isLive now storedAt then (s, some value) else (s.erase key, none)
  | none => (s, none)

end ValueStore
end LocalSwarm
