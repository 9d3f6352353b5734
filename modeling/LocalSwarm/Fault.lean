/-! Broken preconditions. A fault ends the computation that met it; it is never an answer. -/
namespace LocalSwarm

/-- Why a computation could not go on. -/
inductive Fault where
  /-- A byte range whose end lies before its start. -/
  | invalidRange (start stop : Nat)
  /-- A bit position beyond the last bit of an identifier. -/
  | noSuchBit (index : Nat)
  /-- A full bucket without any contact in it. -/
  | noContact
  /-- More slots than can be set aside. -/
  | tooManySlots (count : Nat)
  /-- A number beyond sixty-four bits. -/
  | overflow
  /-- A connection to a host that cannot be reached, where one was taken for granted. -/
  | noConnection
deriving DecidableEq, Repr

/-- The text that accompanies a fault, where it has one. -/
def Fault.message? : Fault → Option String
  | .invalidRange start stop => some s!"invalid byte range {start}..={stop}"
  | _ => none

end LocalSwarm
