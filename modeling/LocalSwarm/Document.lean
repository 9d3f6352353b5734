/-! Documents: the values in which hosts store settings and peers. Numbers are exact decimals. -/
namespace LocalSwarm

inductive Document where
  | null
  | truth (value : Bool)
  /-- The number `mantissa / 10 ^ places`. -/
  | number (mantissa : Int) (places : Nat)
  | text (value : String)
  | list (items : List Document)
  | record (fields : List (String × Document))
deriving Inhabited

namespace Document

def field? (name : String) : Document → Option Document
  | record fields => fields.lookup name
  | _ => none

/-- A list stands for the record that has its items under the given names, in their order. -/
def named (names : List String) : Document → Option Document
  | record fields => some (record fields)
  | list items => if items.length ≤ names.length then some (record (names.zip items)) else none
  | _ => none

/-- A natural number below a bound, written without decimal places. -/
def natBelow? (bound : Nat) : Document → Option Nat
  | number (.ofNat n) 0 => if n < bound then some n else none
  | _ => none

def text? : Document → Option String
  | text value => some value
  | _ => none

def truth? : Document → Option Bool
  | truth value => some value
  | _ => none

def list? : Document → Option (List Document)
  | list items => some items
  | _ => none

end Document
end LocalSwarm
