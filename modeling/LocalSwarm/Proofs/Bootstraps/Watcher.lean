import LocalSwarm.Proofs.Bootstraps.Attempts
import LocalSwarm.Service.Handler

/-! The handler of a service and those who ask it for a completed bootstrap. Between any two things
that it does the state may have been changed. Main statements: what is done keeps what the handler
heeds (`Heeds.does`), and so does a change of the state (`Heeds.follows`). -/
namespace LocalSwarm

/-- The handler, and those who ask it. -/
structure Watcher where
  handler : Handler
  /-- Who is being answered, and the state that was read for this. -/
  asking : Option (Nat × Bootstrap)
  /-- All who have asked. -/
  asked : List Nat

namespace Watcher

def initial : Watcher := ⟨.initial, none, []⟩

variable (w : Watcher) (b : Bootstrap)

/-- See that there was a change, unless somebody is being answered. -/
def notice : Watcher :=
  if w.asking.isSome then w else { w with handler := w.handler.notice b }

/-- Read the state after a change, and answer those who wait if it is complete. -/
def read : Watcher := { w with handler := w.handler.read b }

/-- Read the state for somebody who asks, unless the handler is at something else. -/
def ask (waiter : Nat) : Watcher :=
  if w.asking.isSome || w.handler.noticed then w
  else { w with asking := some (waiter, b), asked := w.asked ++ [waiter] }

/-- Answer who has asked, or let them wait. -/
def reply : Watcher :=
  match w.asking with
  | some (waiter, known) => { w with handler := w.handler.check known waiter, asking := none }
  | none => w

inductive Act where
  | notice
  | read
  | ask (waiter : Nat)
  | reply

def act : Act → Watcher
  | .notice => w.notice b
  | .read => w.read b
  | .ask waiter => w.ask b waiter
  | .reply => w.reply

/-- All that can be done in a state, and when. -/
inductive Does : Watcher → Prop where
  | nothing : Does w
  | notices : w.asking = none → w.handler.noticed = false → w.handler.seen ≠ b.changes →
      Does { w with handler := { w.handler with seen := b.changes, noticed := true } }
  | overlooks : w.handler.noticed = true → b.state ≠ .complete →
      Does { w with handler := { w.handler with noticed := false } }
  | reports : w.handler.noticed = true → b.state = .complete →
      Does { w with
        handler := { w.handler with
          noticed := false
          waiting := []
          answered := w.handler.answered ++ w.handler.waiting
          completions := w.handler.completions + 1 } }
  | listens (waiter : Nat) : w.asking = none → w.handler.noticed = false →
      Does { w with asking := some (waiter, b), asked := w.asked ++ [waiter] }
  | answers {waiter : Nat} {known : Bootstrap} : w.asking = some (waiter, known) →
      known.state = .complete →
      Does { w with
        handler := { w.handler with answered := w.handler.answered ++ [waiter] }
        asking := none }
  | defers {waiter : Nat} {known : Bootstrap} : w.asking = some (waiter, known) →
      known.state ≠ .complete →
      Does { w with
        handler := { w.handler with waiting := w.handler.waiting ++ [waiter] }
        asking := none }

/-- What the handler heeds: it has seen no more changes than there were; if the state is complete
and somebody waits, a change is yet to be seen or read; what it has read for somebody it has read
since the last change that it saw; nobody is answered and nothing reported before the state is
complete; and all who have asked were answered, wait or are being answered. -/
structure Heeds : Prop where
  seen : w.handler.seen ≤ b.changes
  waiting : b.state = .complete → w.handler.waiting ≠ [] →
    w.handler.noticed = true ∨ w.handler.seen ≠ b.changes
  asking : ∀ waiter known, w.asking = some (waiter, known) →
    w.handler.noticed = false ∧ w.handler.seen ≤ known.changes ∧ known.Follows b
  answered : w.handler.answered ≠ [] → b.state = .complete
  unreported : b.state ≠ .complete → w.handler.completions = 0
  everybody : w.asked.Perm
    (w.handler.answered ++ w.handler.waiting ++ (w.asking.map Prod.fst).toList)

variable {w b} {w' : Watcher} {b' : Bootstrap}

theorem Heeds.initial (b : Bootstrap) : Watcher.initial.Heeds b :=
  ⟨Nat.zero_le _, nofun, nofun, nofun, fun _ => rfl, .refl _⟩

theorem does_notice (w : Watcher) (b : Bootstrap) : w.Does b (w.notice b) := by
  unfold notice Handler.notice Handler.hasNews
  split
  · exact .nothing
  · rename_i free
    split
    · exact .nothing
    · rename_i news
      simp only [Bool.or_eq_true, not_or, Bool.not_eq_true, Bool.not_eq_true', Bool.not_eq_false,
        decide_eq_true_eq] at news
      exact .notices (by simpa using free) news.1 news.2

theorem does_read (w : Watcher) (b : Bootstrap) : w.Does b (w.read b) := by
  unfold read Handler.read
  split
  · exact .nothing
  · rename_i noticed
    have noticed : w.handler.noticed = true := by simpa using noticed
    split
    · rename_i complete
      exact .reports noticed complete
    · rename_i other
      exact .overlooks noticed other

theorem does_ask (w : Watcher) (b : Bootstrap) (waiter : Nat) : w.Does b (w.ask b waiter) := by
  unfold ask
  split
  · exact .nothing
  · rename_i free
    simp only [Bool.or_eq_true, not_or, Bool.not_eq_true] at free
    exact .listens waiter (by simpa using free.1) free.2

theorem Heeds.does_reply (h : w.Heeds b) : w.Does b w.reply := by
  unfold reply Handler.check
  split
  · rename_i waiter known asking
    rw [if_neg (by simp [(h.asking waiter known asking).1])]
    split
    · rename_i complete
      exact .answers asking complete
    · rename_i other
      exact .defers asking other
  · exact .nothing

theorem Heeds.does_act (h : w.Heeds b) (a : Act) : w.Does b (w.act b a) := by
  cases a with
  | notice => exact w.does_notice b
  | read => exact w.does_read b
  | ask waiter => exact w.does_ask b waiter
  | reply => exact h.does_reply

/-- A change of the state is heeded as long as it is yet to be seen. -/
theorem Heeds.follows (h : w.Heeds b) (follows : b.Follows b') : w.Heeds b' where
  seen := Nat.le_trans h.seen follows.changes_le
  waiting complete waiting := by
    obtain rfl | ⟨-, more⟩ := follows
    · exact h.waiting complete waiting
    · exact .inr (Nat.ne_of_lt (Nat.lt_of_le_of_lt h.seen more))
  asking waiter known asking := by
    obtain ⟨turned, seen, since⟩ := h.asking waiter known asking
    exact ⟨turned, seen, since.trans follows⟩
  answered answered := follows.complete (h.answered answered)
  unreported other := h.unreported fun complete => other (follows.complete complete)
  everybody := h.everybody

theorem Heeds.does (h : w.Heeds b) (does : w.Does b w') : w'.Heeds b := by
  cases does with
  | nothing => exact h
  | notices free _ _ =>
    refine ⟨Nat.le_refl _, fun _ _ => .inl rfl, fun waiter known asking => ?_, h.answered,
      h.unreported, h.everybody⟩
    rw [free] at asking
    cases asking
  | overlooks _ other =>
    refine ⟨h.seen, fun complete => absurd complete other, fun waiter known asking => ?_,
      h.answered, h.unreported, h.everybody⟩
    exact ⟨rfl, (h.asking waiter known asking).2⟩
  | reports noticed complete =>
    refine ⟨h.seen, fun _ => absurd rfl, fun waiter known asking => ?_, fun _ => complete,
      fun other => absurd complete other, ?_⟩
    · exact ⟨rfl, (h.asking waiter known asking).2⟩
    · simpa using h.everybody
  | listens waiter free turned =>
    refine ⟨h.seen, h.waiting, ?_, h.answered, h.unreported, ?_⟩
    · rintro _ _ ⟨⟩
      exact ⟨turned, h.seen, .refl b⟩
    · have everybody := h.everybody.append_right [waiter]
      simpa [free] using everybody
  | @answers waiter known asking complete =>
    obtain ⟨-, -, since⟩ := h.asking waiter known asking
    refine ⟨h.seen, h.waiting, nofun, fun _ => since.complete complete, h.unreported, ?_⟩
    have everybody := h.everybody
    rw [asking, Option.map_some, Option.toList_some, List.append_assoc] at everybody
    simpa using everybody.trans (.append_left _ List.perm_append_comm)
  | @defers waiter known asking other =>
    obtain ⟨-, seen, since⟩ := h.asking waiter known asking
    refine ⟨h.seen, fun complete _ => .inr ?_, nofun, h.answered, h.unreported, ?_⟩
    · obtain rfl | ⟨-, more⟩ := since
      · exact absurd complete other
      · exact Nat.ne_of_lt (Nat.lt_of_le_of_lt seen more)
    · simpa [asking] using h.everybody

/-! ### Reports -/

/-- How often a completed bootstrap has been reported once the handler has turned to all that there
is to see: for a change that it noticed it reads the state once more, and once more again for one
that it has yet to notice. -/
def reports (w : Watcher) (b : Bootstrap) : Nat :=
  w.handler.completions + w.handler.noticed.toNat + (w.handler.hasNews b).toNat

/-- What is done in a complete state leaves the reports as many as they are to be. -/
theorem Does.reports_eq (does : w.Does b w') (complete : b.state = .complete) :
    w'.reports b = w.reports b := by
  cases does with
  | notices _ unnoticed news => simp [Watcher.reports, Handler.hasNews, unnoticed, news]
  | overlooks _ other => exact absurd complete other
  | reports noticed _ => simp [Watcher.reports, Handler.hasNews, noticed]
  | nothing | listens | answers | defers => rfl

/-- A state that becomes complete is reported for this change, and before that for one that was
noticed and is yet to be read. -/
theorem Heeds.reports_eq (h : w.Heeds b) (other : b.state ≠ .complete) (follows : b.Follows b')
    (complete : b'.state = .complete) : w.reports b' = 1 + w.handler.noticed.toNat := by
  obtain rfl | ⟨-, more⟩ := follows
  · exact absurd complete other
  · have news : w.handler.seen ≠ b'.changes := Nat.ne_of_lt (Nat.lt_of_le_of_lt h.seen more)
    simp [Watcher.reports, Handler.hasNews, h.unreported other, news, Nat.add_comm]

end Watcher
end LocalSwarm
