import LocalSwarm.Plan

/-! Runs of plans in surroundings of which nothing is known. Calls may end in any order and with any
outcome; while a plan waits, time goes on, the node learns of peers, others make new entries in the
tree, and the disk that holds it comes to refuse other changes. A run records all that happens. Main
statements: a run of two plans in sequence is a run of the one and then of the other (`Run.of_bind`),
`Plan.onDrop` adds to a run only what is done when it is given up (`Run.of_onDrop`), and what happened
can be played back (`Plan.run_of_replay`). -/
namespace LocalSwarm

/-- What can happen while a plan waits. -/
inductive Happening where
  /-- One of the calls that are out has ended. -/
  | answered (slot : Nat) (call : Call) (outcome : Outcome)
  /-- Somebody else has made a new entry in the tree. -/
  | created (place : Files.Location) (entry : Files.Entry)
  /-- Time has gone on, and the node has become what it is now. -/
  | elapsed (node : Node) (now : Moment)
  /-- The disk refuses other changes than before. -/
  | disrupted (disk : Files.Disk)

namespace Happening

def isAnswer : Happening → Bool
  | answered .. => true
  | _ => false

/-- The entries that others have made, first one first. -/
def creations (h : List Happening) : List (Files.Location × Files.Entry) :=
  h.filterMap fun
    | created place entry => some (place, entry)
    | _ => none

@[simp] theorem creations_append (h k : List Happening) :
    creations (h ++ k) = creations h ++ creations k := List.filterMap_append

/-- The disk after all that has happened. -/
def disk (first : Files.Disk) (h : List Happening) : Files.Disk :=
  h.foldl
    (fun disk x => match x with
      | disrupted later => later
      | _ => disk)
    first

theorem disk_append (first : Files.Disk) (h k : List Happening) :
    disk first (h ++ k) = disk (disk first h) k := List.foldl_append

/-- What holds of the disk at first and whenever it has changed. -/
def Always (holds : Files.Disk → Prop) (first : Files.Disk) (h : List Happening) : Prop :=
  holds first ∧ ∀ later, .disrupted later ∈ h → holds later

namespace Always

variable {holds : Files.Disk → Prop} {first : Files.Disk} {h k : List Happening}

theorem of_append (a : Always holds first (h ++ k)) : Always holds first h :=
  ⟨a.1, fun later member => a.2 later (List.mem_append_left _ member)⟩

theorem disk (a : Always holds first h) : holds (disk first h) := by
  induction h generalizing first with
  | nil => exact a.1
  | cons x h ih =>
    have rest : ∀ later, .disrupted later ∈ h → holds later := fun later member =>
      a.2 later (List.mem_cons_of_mem _ member)
    cases x with
    | disrupted later => exact ih ⟨a.2 later List.mem_cons_self, rest⟩
    | answered => exact ih ⟨a.1, rest⟩
    | created => exact ih ⟨a.1, rest⟩
    | elapsed => exact ih ⟨a.1, rest⟩

end Always
end Happening

/-- How a site changes while things happen. An answer by itself changes nothing; a new entry stands
in a folder, at a place where nothing was. -/
inductive Passes : Site → List Happening → Site → Prop where
  | nothing (s : Site) : Passes s [] s
  | answered {s s' : Site} {h : List Happening} (slot : Nat) (call : Call) (outcome : Outcome) :
      Passes s h s' → Passes s (.answered slot call outcome :: h) s'
  | created {s s' : Site} {h : List Happening} {place : Files.Location} (entry : Files.Entry) :
      s.files.entry? place = none → s.files.entry? place.dropLast = some .folder →
      Passes { s with files := s.files.set place entry } h s' →
      Passes s (.created place entry :: h) s'
  | elapsed {s s' : Site} {h : List Happening} (node : Node) (now : Moment) :
      Passes { s with node, now } h s' → Passes s (.elapsed node now :: h) s'
  | disrupted {s s' : Site} {h : List Happening} (disk : Files.Disk) :
      Passes { s with files := { s.files with disk } } h s' → Passes s (.disrupted disk :: h) s'

theorem Passes.trans {s s' s'' : Site} {h k : List Happening} (first : Passes s h s')
    (second : Passes s' k s'') : Passes s (h ++ k) s'' := by
  induction first with
  | nothing s => exact second
  | answered slot call outcome _ ih => exact .answered slot call outcome (ih second)
  | created entry vacant within _ ih => exact .created entry vacant within (ih second)
  | elapsed node now _ ih => exact .elapsed node now (ih second)
  | disrupted disk _ ih => exact .disrupted disk (ih second)

/-- What holds of the online contacts at first and after every change of the node holds of them
when things have happened. -/
theorem Passes.online {online : List Peer → Prop} {s s' : Site} {h : List Happening}
    (passes : Passes s h s') (first : online (s.node.table.online s.now))
    (later : ∀ node now, .elapsed node now ∈ h → online (node.table.online now)) :
    online (s'.node.table.online s'.now) := by
  induction passes with
  | nothing s => exact first
  | answered _ _ _ _ ih =>
    exact ih first fun node now member => later node now (List.mem_cons_of_mem _ member)
  | created _ _ _ _ ih =>
    exact ih first fun node now member => later node now (List.mem_cons_of_mem _ member)
  | elapsed node now _ ih =>
    refine ih (later node now List.mem_cons_self) fun node now member => ?_
    exact later node now (List.mem_cons_of_mem _ member)
  | disrupted _ _ ih =>
    exact ih first fun node now member => later node now (List.mem_cons_of_mem _ member)

/-- What others do before a call ends. -/
structure Meanwhile (s : Site) (h : List Happening) (s' : Site) : Prop where
  passes : Passes s h s'
  noAnswer : ∀ x ∈ h, x.isAnswer = false

inductive Cut where
  | broken (fault : Fault)
  /-- The plan waits, but no call is out. -/
  | stuck
  /-- The plan was given up while it waited. -/
  | dropped

/-- A site, and the calls that are out. -/
structure Situation where
  out : List (Nat × Call)
  site : Site

/-- A run of a plan from a situation: what happens, the situation then, and the result. -/
inductive Run {α : Type} :
    Plan α → Situation → List Happening → Situation → Except Cut α → Prop where
  | done {c : Situation} (result : α) : Run (.done result) c [] c (.ok result)
  | broken {c : Situation} (fault : Fault) : Run (.broken fault) c [] c (.error (.broken fault))
  | look {c c' : Situation} {next : Site → Plan α} {h : List Happening} {e : Except Cut α} :
      Run (next c.site) c h c' e → Run (.look next) c h c' e
  | change {c c' : Situation} {effect : Site → Site} {next : Plan α} {h : List Happening}
      {e : Except Cut α} :
      Run next { c with site := effect c.site } h c' e → Run (.change effect next) c h c' e
  | answered {c c' : Situation} {first : Precedence} {calls : List (Nat × Call)}
      {dropped : Site → Site} {next : Nat → Outcome → Plan α} {before h : List Happening} {s : Site}
      {slot : Nat} {call : Call} {e : Except Cut α} (outcome : Outcome) :
      Meanwhile c.site before s → (slot, call) ∈ c.out ++ calls →
      Run (next slot outcome) ⟨(c.out ++ calls).eraseP (·.1 == slot), s⟩ h c' e →
      Run (.await first calls dropped next) c (before ++ .answered slot call outcome :: h) c' e
  | dropped {c : Situation} {first : Precedence} {calls : List (Nat × Call)}
      {dropped : Site → Site} {next : Nat → Outcome → Plan α} {before : List Happening} {s : Site} :
      Meanwhile c.site before s →
      Run (.await first calls dropped next) c before ⟨[], dropped s⟩ (.error .dropped)
  | stuck {c : Situation} {first : Precedence} {calls : List (Nat × Call)}
      {dropped : Site → Site} {next : Nat → Outcome → Plan α} :
      c.out ++ calls = [] → Run (.await first calls dropped next) c [] c (.error .stuck)

namespace Run

variable {α β : Type}

/-- A call that is out can be answered before anything else happens. -/
theorem answered_first {first : Precedence} {out calls : List (Nat × Call)}
    {dropped : Site → Site} {next : Nat → Outcome → Plan α} {s : Site} {slot : Nat} {call : Call}
    {outcome : Outcome} {h : List Happening} {c : Situation} {e : Except Cut α}
    (member : (slot, call) ∈ out ++ calls)
    (run : Run (next slot outcome) ⟨(out ++ calls).eraseP (·.1 == slot), s⟩ h c e) :
    Run (.await first calls dropped next) ⟨out, s⟩ (.answered slot call outcome :: h) c e := by
  have now : Meanwhile s [] s := ⟨.nothing s, fun _ absent => absurd absent List.not_mem_nil⟩
  exact .answered (c := ⟨out, s⟩) outcome now member run

/-- Of two plans in sequence the second one begins where the first one has ended, unless that was
cut short. -/
theorem of_bind {p : Plan α} {f : α → Plan β} {c c' : Situation} {h : List Happening}
    {e : Except Cut β} (run : Run (p.bind f) c h c' e) :
    (∃ h₁ h₂ c₁ a, h = h₁ ++ h₂ ∧ Run p c h₁ c₁ (.ok a) ∧ Run (f a) c₁ h₂ c' e) ∨
      ∃ cut, e = .error cut ∧ Run p c h c' (.error cut) := by
  induction p generalizing c h with
  | done a => exact .inl ⟨[], h, c, a, rfl, .done a, run⟩
  | broken fault =>
    cases run
    exact .inr ⟨_, rfl, .broken fault⟩
  | look next ih =>
    cases run with
    | look run =>
      rcases ih _ run with ⟨h₁, h₂, c₁, a, split, first, second⟩ | ⟨cut, ended, first⟩
      · exact .inl ⟨h₁, h₂, c₁, a, split, .look first, second⟩
      · exact .inr ⟨cut, ended, .look first⟩
  | change effect next ih =>
    cases run with
    | change run =>
      rcases ih run with ⟨h₁, h₂, c₁, a, split, first, second⟩ | ⟨cut, ended, first⟩
      · exact .inl ⟨h₁, h₂, c₁, a, split, .change first, second⟩
      · exact .inr ⟨cut, ended, .change first⟩
  | await precedence calls dropped next ih =>
    cases run with
    | answered outcome meanwhile out run =>
      rcases ih _ _ run with ⟨h₁, h₂, c₁, a, rfl, first, second⟩ | ⟨cut, ended, first⟩
      · refine .inl ⟨_, h₂, c₁, a, ?_, .answered outcome meanwhile out first, second⟩
        rw [List.append_assoc, List.cons_append]
      · exact .inr ⟨cut, ended, .answered outcome meanwhile out first⟩
    | dropped meanwhile => exact .inr ⟨_, rfl, .dropped meanwhile⟩
    | stuck none => exact .inr ⟨_, rfl, .stuck none⟩

theorem of_onDrop {p : Plan α} {after : Site → Site} {c c' : Situation} {h : List Happening}
    {e : Except Cut α} (run : Run (p.onDrop after) c h c' e) :
    Run p c h c' e ∧ e ≠ .error .dropped ∨
      e = .error .dropped ∧ ∃ s, Run p c h ⟨[], s⟩ e ∧ c' = ⟨[], after s⟩ := by
  induction p generalizing c h with
  | done a =>
    cases run
    exact .inl ⟨.done a, nofun⟩
  | broken fault =>
    cases run
    exact .inl ⟨.broken fault, nofun⟩
  | look next ih =>
    cases run with
    | look run =>
      rcases ih _ run with ⟨same, differs⟩ | ⟨ended, s, same, after⟩
      · exact .inl ⟨.look same, differs⟩
      · exact .inr ⟨ended, s, .look same, after⟩
  | change effect next ih =>
    cases run with
    | change run =>
      rcases ih run with ⟨same, differs⟩ | ⟨ended, s, same, after⟩
      · exact .inl ⟨.change same, differs⟩
      · exact .inr ⟨ended, s, .change same, after⟩
  | await precedence calls dropped next ih =>
    cases run with
    | answered outcome meanwhile out run =>
      rcases ih _ _ run with ⟨same, differs⟩ | ⟨ended, s, same, after⟩
      · exact .inl ⟨.answered outcome meanwhile out same, differs⟩
      · exact .inr ⟨ended, s, .answered outcome meanwhile out same, after⟩
    | dropped meanwhile => exact .inr ⟨rfl, _, .dropped meanwhile, rfl⟩
    | stuck none => exact .inl ⟨.stuck none, nofun⟩

end Run

deriving instance DecidableEq for Callee
deriving instance DecidableEq for Call

/-- What becomes of a site when things happen that are no answers, if they can happen. -/
def Site.pass : Site → List Happening → Option Site
  | s, [] => some s
  | s, .created place entry :: h =>
    if s.files.entry? place = none ∧ s.files.entry? place.dropLast = some .folder then
      Site.pass { s with files := s.files.set place entry } h
    else none
  | s, .elapsed node now :: h => Site.pass { s with node, now } h
  | s, .disrupted disk :: h => Site.pass { s with files := { s.files with disk } } h
  | _, .answered .. :: _ => none

theorem Site.meanwhile_of_pass {s s' : Site} {h : List Happening} (passed : s.pass h = some s') :
    Meanwhile s h s' := by
  induction h generalizing s with
  | nil =>
    cases passed
    exact ⟨.nothing _, fun _ member => absurd member List.not_mem_nil⟩
  | cons x h ih =>
    cases x with
    | answered => cases passed
    | created place entry =>
      rw [pass] at passed
      split at passed
      · next free =>
        obtain ⟨passes, noAnswer⟩ := ih passed
        exact ⟨.created entry free.1 free.2 passes, List.forall_mem_cons.2 ⟨rfl, noAnswer⟩⟩
      · cases passed
    | elapsed node now =>
      obtain ⟨passes, noAnswer⟩ := ih passed
      exact ⟨.elapsed node now passes, List.forall_mem_cons.2 ⟨rfl, noAnswer⟩⟩
    | disrupted disk =>
      obtain ⟨passes, noAnswer⟩ := ih passed
      exact ⟨.disrupted disk passes, List.forall_mem_cons.2 ⟨rfl, noAnswer⟩⟩

namespace Plan

variable {α β : Type}

/-- The end of the run of a plan in which just these things happen, if it has a result. -/
def replay : Plan α → Situation → List Happening → Option (Situation × α)
  | .done a, c, h => if h.isEmpty then some (c, a) else none
  | .broken _, _, _ => none
  | .look next, c, h => (next c.site).replay c h
  | .change effect next, c, h => next.replay { c with site := effect c.site } h
  | .await _ calls _ next, c, h =>
    match h.dropWhile (!·.isAnswer), c.site.pass (h.takeWhile (!·.isAnswer)) with
    | .answered slot call outcome :: rest, some s =>
      if (slot, call) ∈ c.out ++ calls then
        (next slot outcome).replay ⟨(c.out ++ calls).eraseP (·.1 == slot), s⟩ rest
      else none
    | _, _ => none

theorem run_of_replay {p : Plan α} {c c' : Situation} {h : List Happening} {a : α}
    (played : p.replay c h = some (c', a)) : Run p c h c' (.ok a) := by
  induction p generalizing c h with
  | done =>
    rw [replay] at played
    split at played
    · next none =>
      cases played
      rw [List.isEmpty_iff.1 none]
      exact .done _
    · cases played
  | broken => cases played
  | look next ih => exact .look (ih _ played)
  | change effect next ih => exact .change (ih played)
  | await first calls dropped next ih =>
    rw [replay] at played
    split at played
    · next slot call outcome rest s behind passed =>
      split at played
      · next out =>
        rw [← List.takeWhile_append_dropWhile (p := (!·.isAnswer)) (l := h), behind]
        exact .answered outcome (Site.meanwhile_of_pass passed) out (ih _ _ played)
      · cases played
    · cases played

theorem run_of_result {p : Plan α} {c : Situation} {h : List Happening} {a : α}
    (played : (p.replay c h).map Prod.snd = some a) : ∃ c', Run p c h c' (.ok a) := by
  obtain ⟨⟨c', _⟩, ended, rfl⟩ := Option.map_eq_some_iff.1 played
  exact ⟨c', run_of_replay ended⟩

/-- A plan that goes on where another one breaks, and is the same elsewhere. -/
inductive Extends : Plan α → Plan α → Prop where
  | broken (fault : Fault) (q : Plan α) : Extends (.broken fault) q
  | done (a : α) : Extends (.done a) (.done a)
  | look {f g : Site → Plan α} : (∀ s, Extends (f s) (g s)) → Extends (.look f) (.look g)
  | change (effect : Site → Site) {p q : Plan α} :
      Extends p q → Extends (.change effect p) (.change effect q)
  | await (first : Precedence) (calls : List (Nat × Call)) (dropped : Site → Site)
      {f g : Nat → Outcome → Plan α} : (∀ slot outcome, Extends (f slot outcome) (g slot outcome)) →
      Extends (.await first calls dropped f) (.await first calls dropped g)

theorem extends_bind {p : Plan α} {f g : α → Plan β} (same : ∀ a, Extends (f a) (g a)) :
    Extends (p.bind f) (p.bind g) := by
  induction p with
  | done a => exact same a
  | broken fault => exact .broken fault _
  | look next ih => exact .look ih
  | change effect next ih => exact .change effect ih
  | await first calls dropped next ih => exact .await first calls dropped ih

/-- A run that has a result is a run of every extension of its plan. -/
theorem Extends.run {p q : Plan α} (longer : Extends p q) {c c' : Situation} {h : List Happening}
    {a : α} (run : Run p c h c' (.ok a)) : Run q c h c' (.ok a) := by
  induction longer generalizing c h with
  | broken => cases run
  | done a => exact run
  | look _ ih =>
    cases run with
    | look run => exact .look (ih _ run)
  | change effect _ ih =>
    cases run with
    | change run => exact .change (ih run)
  | await first calls dropped _ ih =>
    cases run with
    | answered outcome meanwhile out run => exact .answered outcome meanwhile out (ih _ _ run)

end Plan
end LocalSwarm
