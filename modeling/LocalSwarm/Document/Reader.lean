import LocalSwarm.Document
import LocalSwarm.Fault

/-! Reading documents: what a document has to be, field by field, and what stands in for a field
that is not given. -/
namespace LocalSwarm.Document

/-- Why a document is of no use: it has not the expected form, or what it asks for breaks a
precondition. -/
inductive Flaw where
  | malformed (what : String)
  | fault (fault : Fault)

abbrev Reading := Except Flaw

def refuse {α : Type} (what : String) : Reading α := .error (.malformed what)

def sound {α : Type} : Except Fault α → Reading α
  | .ok a => .ok a
  | .error fault => .error (.fault fault)

def expect {α : Type} (what : String) : Option α → Reading α
  | some a => .ok a
  | none => refuse what

/-- A field that is given. A null stands for one that is not. -/
def given? (d : Document) (name : String) : Option Document :=
  match d.field? name with
  | some .null => none
  | field => field

def asNat : Document → Reading Nat
  | number (.ofNat n) 0 => .ok n
  | _ => refuse "not a natural number"

def asInt : Document → Reading Int
  | number n 0 => .ok n
  | _ => refuse "not an integer"

def asTruth : Document → Reading Bool
  | truth value => .ok value
  | _ => refuse "not a truth value"

def asList : Document → Reading (List Document)
  | list items => .ok items
  | _ => refuse "not a list"

def need {α : Type} (read : Document → Reading α) (d : Document) (name : String) : Reading α := do
  read (← expect name (d.given? name))

def optional {α : Type} (read : Document → Reading α) (d : Document) (name : String) :
    Reading (Option α) :=
  (d.given? name).mapM read

def fieldOr {α : Type} (read : Document → Reading α) (d : Document) (name : String) (default : α) :
    Reading α :=
  return (← optional read d name).getD default

def natOr (d : Document) (name : String) (default : Nat) : Reading Nat := fieldOr asNat d name default

def truthOr (d : Document) (name : String) (default : Bool) : Reading Bool :=
  fieldOr asTruth d name default

def listOf {α : Type} (read : Document → Reading α) (d : Document) : Reading (List α) := do
  (← asList d).mapM read

/-- A list of fields, empty if it is not given. -/
def listAt {α : Type} (read : Document → Reading α) (d : Document) (name : String) :
    Reading (List α) := fieldOr (listOf read) d name []

def times (d : Document) : Reading Nat := need asNat d "times"

/-- A list, or one element and how often it is repeated. -/
def repeated {α : Type} (read : Document → Reading α) (d : Document) : Reading (List α) :=
  match d with
  | record _ => return List.replicate (← times d) (← need read d "repeat")
  | _ => listOf read d

def repeatedAt {α : Type} (read : Document → Reading α) (d : Document) (name : String) :
    Reading (List α) := fieldOr (repeated read) d name []

/-- A text, or one and how often it is repeated. -/
def asText (d : Document) : Reading String :=
  match d with
  | text value => .ok value
  | _ => do
    match d.given? "repeat" with
    | some (text value) => return String.join (List.replicate (← times d) value)
    | _ => refuse "not a text"

def textOr (d : Document) (name : String) (default : String) : Reading String :=
  fieldOr asText d name default

/-- A text that may be missing, in which case it is empty. -/
def textAt (d : Document) (name : String) : Reading String := textOr d name ""

end LocalSwarm.Document
