import LocalSwarm.Time
import Std.Data.HashSet

/-! A window over the recent past that lets every key through once. -/
namespace LocalSwarm

/-- The keys let through within the span, oldest first, and the same keys as a set. -/
structure DuplicateWindow (α : Type) [BEq α] [Hashable α] where
  span : Span
  queue : List (Moment × α)
  keys : Std.HashSet α

namespace DuplicateWindow

variable {α : Type} [BEq α] [Hashable α]

def create (span : Span) : DuplicateWindow α := ⟨span, [], ∅⟩

def isOver (w : DuplicateWindow α) (now : Moment) (entry : Moment × α) : Bool :=
  w.span ≤ now - entry.1

def expire (w : DuplicateWindow α) (now : Moment) : DuplicateWindow α :=
  let gone := w.queue.takeWhile (w.isOver now)
  { w with
    queue := w.queue.dropWhile (w.isOver now)
    keys := gone.foldl (fun keys entry => keys.erase entry.2) w.keys }

/-- Let a key through, unless it is in the window. -/
def insert (w : DuplicateWindow α) (now : Moment) (key : α) : DuplicateWindow α × Bool :=
  let w := w.expire now
  if w.keys.contains key then (w, false)
  else ({ w with queue := w.queue ++ [(now, key)], keys := w.keys.insert key }, true)

end DuplicateWindow
end LocalSwarm
