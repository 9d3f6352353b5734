import LocalSwarm.Node

/-! Plans: what a node does over time, as a tree. A plan looks at the node and its files, changes
them, makes calls and goes on with whichever of its calls ends first. What is on its way between
two steps of a plan, and in which order calls end, is not its business. -/
namespace LocalSwarm

abbrev Outcome := Except CallError Reply

/-- Which of the answers that are due at one moment is taken first. -/
inductive Precedence where
  /-- The one in the lowest slot. -/
  | slot
  /-- The one whose request went out first. -/
  | departure
deriving DecidableEq, Repr

inductive Plan (α : Type) where
  | done (result : α)
  | broken (fault : Fault)
  | look (next : Site → Plan α)
  | change (effect : Site → Site) (next : Plan α)
  /-- Make calls, each in a slot, besides those that are out, and go on when one of them all ends.
  Should the plan be given up here, `dropped` is what is left to do. -/
  | await (first : Precedence) (calls : List (Nat × Call)) (dropped : Site → Site)
    (next : Nat → Outcome → Plan α)

namespace Plan

def bind {α β : Type} (p : Plan α) (f : α → Plan β) : Plan β :=
  match p with
  | done a => f a
  | broken fault => broken fault
  | look next => look fun site => (next site).bind f
  | change effect next => change effect (next.bind f)
  | await first calls dropped next =>
    await first calls dropped fun slot outcome => (next slot outcome).bind f

instance : Monad Plan where
  pure := done
  bind := bind

/-- If the plan is given up anywhere, this is done last. -/
def onDrop {α : Type} (after : Site → Site) : Plan α → Plan α
  | done a => done a
  | broken fault => broken fault
  | look next => look fun site => onDrop after (next site)
  | change effect next => change effect (onDrop after next)
  | await first calls dropped next =>
    await first calls (after ∘ dropped) fun slot outcome => onDrop after (next slot outcome)

def site : Plan Site := look done

def modify (effect : Site → Site) : Plan Unit := change effect (done ())

def setState (state : BootstrapState) : Plan Unit :=
  modify fun s => { s with node := { s.node with bootstrap := s.node.bootstrap.set state } }

def call (c : Call) : Plan Outcome := await .slot [(0, c)] id fun _ outcome => done outcome

def firstOpen (outcomes : List (Nat × Outcome)) : Nat :=
  ((List.range (outcomes.length + 1)).find? fun slot => (outcomes.lookup slot).isNone).getD 0

/-- Wait for `left` more outcomes. A call goes out when fewer than `width` slots lie between it and
the first one that is open. -/
def gather (first : Precedence) (width : Nat) : (left : Nat) → (waiting : List (Nat × Call)) →
    (outcomes : List (Nat × Outcome)) → Plan (List (Nat × Outcome))
  | 0, _, outcomes => done outcomes
  | left + 1, waiting, outcomes =>
    let mayGo (c : Nat × Call) : Bool := c.1 < firstOpen outcomes + width
    await first (waiting.takeWhile mayGo) id fun slot outcome =>
      gather first width left (waiting.dropWhile mayGo) ((slot, outcome) :: outcomes)

def inSlots (calls : List Call) : List (Nat × Call) := calls.zipIdx.map fun (c, slot) => (slot, c)

/-- Make calls in order, `width` of them at a time. -/
def inOrder (width : Nat) (calls : List Call) : Plan (List (Nat × Outcome)) :=
  gather .departure (max width 1) calls.length (inSlots calls) []

/-- So many calls made together are looked at one slot after the other whenever an answer comes. -/
def slotwiseLimit : Nat := 30

/-- Make calls all at once. Their slots are looked at in order as long as there are few of them. -/
def together (calls : List Call) : Plan (List (Nat × Outcome)) :=
  gather (if calls.length ≤ slotwiseLimit then .slot else .departure) calls.length calls.length
    (inSlots calls) []

end Plan
end LocalSwarm
