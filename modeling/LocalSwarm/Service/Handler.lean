import LocalSwarm.Bootstrap

/-! The part of a service that watches its bootstrap. Attempts change the state while the handler
does other things; when it looks again it only sees that there was a change, and then reads the
state. Those who ask for a completed bootstrap are answered then, or at once. -/
namespace LocalSwarm

structure Handler where
  /-- How many changes it has seen. -/
  seen : Nat
  /-- It saw that there was a change and has yet to read the state. -/
  noticed : Bool
  /-- Who waits for the bootstrap to complete. -/
  waiting : List Nat
  answered : List Nat
  /-- How often it reported a completed bootstrap. -/
  completions : Nat

namespace Handler

def initial : Handler := ⟨0, false, [], [], 0⟩

def hasNews (h : Handler) (b : Bootstrap) : Bool := h.seen ≠ b.changes

/-- See that there was a change, up to the last one. -/
def notice (h : Handler) (b : Bootstrap) : Handler :=
  if h.noticed || !h.hasNews b then h else { h with seen := b.changes, noticed := true }

def read (h : Handler) (b : Bootstrap) : Handler :=
  if !h.noticed then h
  else if b.state = .complete then
    { h with
      noticed := false
      waiting := []
      answered := h.answered ++ h.waiting
      completions := h.completions + 1 }
  else { h with noticed := false }

/-- Somebody asks for a completed bootstrap. -/
def check (h : Handler) (b : Bootstrap) (waiter : Nat) : Handler :=
  if h.noticed then h
  else if b.state = .complete then { h with answered := h.answered ++ [waiter] }
  else { h with waiting := h.waiting ++ [waiter] }

end Handler
end LocalSwarm
