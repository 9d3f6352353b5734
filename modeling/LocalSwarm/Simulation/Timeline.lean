import LocalSwarm.Simulation.World
import LocalSwarm.Sums

/-! Plans carried out in a world where answers take their time. Whatever takes no time happens at
once, in the order in which it was begun; answers that are due at one moment are taken by the
precedence that the plan asks for, and calls that it adds then go out after them. -/
namespace LocalSwarm.Simulation

/-- A request whose answer is on its way to the conversation in a slot. -/
structure Flight where
  due : Moment
  slot : Nat
  conversation : Conversation
  message : Message

/-- Whether another flight, which set out earlier, also comes in before this one. -/
def Flight.comesAfter (f : Flight) (first : Precedence) (earlier : Flight) : Bool :=
  earlier.due < f.due || earlier.due = f.due && (first = .departure || earlier.slot < f.slot)

structure Agenda where
  clock : Moment
  /-- What goes out next, before anything else happens. -/
  current : Option (Nat × Conversation)
  /-- What goes out once nothing is due. -/
  fresh : List (Nat × Conversation)
  /-- What is on its way, by when it is due. -/
  flights : List Flight

namespace Agenda

def empty : Agenda := ⟨0, none, [], []⟩

/-- Take up calls. The first one goes out before all else if it is in the slot that had just
ended. -/
def add (a : Agenda) (last : Option Nat) (calls : List (Nat × Call)) : Agenda :=
  match calls.map fun (slot, call) => (slot, Conversation.calling call) with
  | [] => a
  | first :: rest =>
    if some first.1 = last then { a with current := some first, fresh := a.fresh ++ rest }
    else { a with fresh := a.fresh ++ first :: rest }

def launch (a : Agenda) (first : Precedence) (f : Flight) : Agenda :=
  { a with
    flights := a.flights.takeWhile (f.comesAfter first) ++
      f :: a.flights.dropWhile (f.comesAfter first) }

/-- What happens next, and what there is besides. -/
inductive Next where
  | depart (slot : Nat) (c : Conversation) (rest : Agenda)
  | arrive (f : Flight) (rest : Agenda)
  | idle

def next (a : Agenda) : Next :=
  match a.current, a.fresh, a.flights with
  | some (slot, c), _, _ => .depart slot c { a with current := none }
  | none, (slot, c) :: fresh, [] => .depart slot c { a with fresh }
  | none, (slot, c) :: fresh, f :: flights =>
    if f.due ≤ a.clock then .arrive f { a with flights } else .depart slot c { a with fresh }
  | none, [], f :: flights => .arrive f { a with clock := max a.clock f.due, flights }
  | none, [], [] => .idle

/-- How much can happen before a plan has to be woken. -/
def weight (a : Agenda) : Nat :=
  sumOver (fun c => 3 * c.2.depth + 1) a.current.toList +
    sumOver (fun c => 3 * c.2.depth + 2) a.fresh +
    sumOver (fun f => 3 * f.conversation.depth) a.flights

theorem weight_launch (a : Agenda) (first : Precedence) (f : Flight) :
    (a.launch first f).weight = a.weight + 3 * f.conversation.depth := by
  have split := List.takeWhile_append_dropWhile (p := f.comesAfter first) (l := a.flights)
  have sum := congrArg (sumOver fun g => 3 * g.conversation.depth) split
  simp only [sumOver_append] at sum
  simp only [weight, launch, sumOver_append, sumOver_cons]
  omega

theorem weight_depart {a rest : Agenda} {slot : Nat} {c : Conversation}
    (h : a.next = .depart slot c rest) : rest.weight + 3 * c.depth < a.weight := by
  obtain ⟨clock, current, fresh, flights⟩ := a
  unfold next at h
  split at h
  · cases h
    simp_all only [weight, Option.toList, sumOver_cons, sumOver_nil]
    omega
  · cases h
    simp_all only [weight, sumOver_cons]
    omega
  · split at h
    · cases h
    · cases h
      simp_all only [weight, sumOver_cons]
      omega
  · cases h
  · cases h

theorem weight_arrive {a rest : Agenda} {f : Flight} (h : a.next = .arrive f rest) :
    rest.weight + 3 * f.conversation.depth = a.weight := by
  obtain ⟨clock, current, fresh, flights⟩ := a
  unfold next at h
  split at h
  · cases h
  · cases h
  · split at h
    · cases h
      simp_all only [weight, sumOver_cons]
      omega
    · cases h
  · cases h
    simp_all only [weight, sumOver_cons]
    omega
  · cases h

end Agenda

inductive Wakeup where
  | outcome (slot : Nat) (outcome : Outcome)
  | expired
  /-- Nothing is on its way any more. -/
  | idle

namespace World

variable {ω : Type} (w : World ω)

/-- An answer arrives at the conversation in a slot, which ends or goes on. -/
def land (s : ω) (a : Agenda) (slot : Nat) (c : Conversation) (message : Message) :
    Except Fault (ω × Agenda × Option Outcome) :=
  match w.arrive s c message with
  | .error fault => .error fault
  | .ok (s, .ended outcome) => .ok (s, a, outcome)
  | .ok (s, .waits next) => .ok (s, { a with current := some (slot, next) }, none)

variable {w} in
theorem weight_land {s s' : ω} {a a' : Agenda} {slot : Nat} {c : Conversation} {message : Message}
    {outcome : Option Outcome} (h : w.land s a slot c message = .ok (s', a', outcome)) :
    a'.weight < a.weight + 3 * c.depth := by
  unfold land at h
  split at h
  · cases h
  · cases h
    have := c.depth_pos
    omega
  · rename_i arrived
    cases h
    have := depth_arrive arrived
    simp only [Agenda.weight, Option.toList, sumOver_cons, sumOver_nil]
    omega

def isOver (limit : Option Moment) (a : Agenda) (due : Moment) : Bool :=
  a.clock < due && limit.any (· ≤ due)

/-- Go on until there is something to tell. -/
def advance (limit : Option Moment) (first : Precedence) (s : ω) (a : Agenda) :
    Except Fault (ω × Agenda × Wakeup) :=
  match picked : a.next with
  | .idle => .ok (s, a, .idle)
  | .depart slot c rest =>
    let (s, message, span) := w.depart s c
    if span = 0 then
      match landed : w.land s rest slot c message with
      | .error fault => .error fault
      | .ok (s, a', some outcome) => .ok (s, a', .outcome slot outcome)
      | .ok (s, a', none) =>
        have := Nat.lt_trans (weight_land landed) (Agenda.weight_depart picked)
        advance limit first s a'
    else
      let f : Flight := ⟨rest.clock + span, slot, c, message⟩
      have := Nat.lt_of_le_of_lt (Nat.le_of_eq (rest.weight_launch first f)) (Agenda.weight_depart picked)
      advance limit first s (rest.launch first f)
  | .arrive f rest =>
    if isOver limit a f.due then .ok (s, a, .expired)
    else
      match landed : w.land s rest f.slot f.conversation f.message with
      | .error fault => .error fault
      | .ok (s, a', some outcome) => .ok (s, a', .outcome f.slot outcome)
      | .ok (s, a', none) =>
        have := Nat.lt_of_lt_of_eq (weight_land landed) (Agenda.weight_arrive picked)
        advance limit first s a'
termination_by a.weight

/-- Carry out a plan. Without a result it was given up, because its time was over or because
nothing would ever wake it again. -/
def run {α : Type} (limit : Option Moment) : Plan α → (last : Option Nat) → Agenda → ω →
    Except Fault (ω × Option α)
  | .done result, _, _, s => .ok (s, some result)
  | .broken fault, _, _, _ => .error fault
  | .look next, last, a, s => run limit (next (w.site s)) last a s
  | .change effect next, last, a, s => run limit next last a (w.update s (effect (w.site s)))
  | .await first calls dropped next, last, a, s =>
    match w.advance limit first s (a.add last calls) with
    | .error fault => .error fault
    | .ok (s, a, .outcome slot outcome) => run limit (next slot outcome) (some slot) a s
    | .ok (s, _, .expired) => .ok (w.update s (dropped (w.site s)), none)
    | .ok (s, _, .idle) => .ok (s, none)

/-- Carry out a plan for a span of time at most. -/
def perform {α : Type} (s : ω) (p : Plan α) (limit : Option Span) : Except Fault (ω × Option α) :=
  w.run limit p none .empty s

end World
end LocalSwarm.Simulation
