import LocalSwarm.Proofs.Bootstraps.Watcher

/-! Attempts to find a way into the swarm side by side, on threads of their own, and the handler
that watches them. Each look at the node, each change of it and each answer to a call is a move by
itself, and so is whatever the handler does; anything may come between any two of them. Attempts are
never given up. Main statements: what becomes of the state (`attempts_settle_the_state`), that all
who ask are answered (`nobody_waits_in_vain`), and how often a completed bootstrap is reported
(`completions_are_reported`). -/
namespace LocalSwarm

structure Bootstrapping where
  site : Site
  /-- What is left of the attempts that are in flight. -/
  attempts : List (Plan (Except CallError Nat))
  /-- What attempts have returned, the last one first. -/
  returned : List (Except CallError Nat)
  watcher : Watcher

inductive Move where
  | began (contact : Peer)
  /-- An attempt looks at the node, changes it or returns. -/
  | went (i : Nat)
  /-- A call of an attempt ends, with whatever outcome. -/
  | heard (i slot : Nat) (outcome : Outcome)
  /-- Others have changed anything but the state of the attempts. -/
  | became (site : Site)
  | watched (act : Watcher.Act)

namespace Bootstrapping

variable (pace : LookupPace) (b : Bootstrapping)

/-- The state that the attempts share. -/
def shared : Bootstrap := b.site.node.bootstrap

/-- Nothing has been attempted yet. -/
def start (site : Site) : Bootstrapping :=
  ⟨{ site with node := { site.node with bootstrap := .initial } }, [], [], .initial⟩

/-- Attempts in place of the one at a position. -/
def put (i : Nat) (attempts : List (Plan (Except CallError Nat))) : Bootstrapping :=
  { b with attempts := b.attempts.take i ++ attempts ++ b.attempts.drop (i + 1) }

def go (i : Nat) : Bootstrapping :=
  match b.attempts[i]? with
  | some (.done result) => { b.put i [] with returned := result :: b.returned }
  | some (.look next) => b.put i [next b.site]
  | some (.change effect next) => { b.put i [next] with site := effect b.site }
  | _ => b

def hear (i slot : Nat) (outcome : Outcome) : Bootstrapping :=
  match b.attempts[i]? with
  | some (.await _ _ _ next) => b.put i [next slot outcome]
  | _ => b

def become (site : Site) : Bootstrapping :=
  { b with site := { site with node := { site.node with bootstrap := b.shared } } }

def step : Move → Bootstrapping
  | .began contact => { b with attempts := Bootstrap.attempt pace contact :: b.attempts }
  | .went i => b.go i
  | .heard i slot outcome => b.hear i slot outcome
  | .became site => b.become site
  | .watched act => { b with watcher := b.watcher.act b.shared act }

def run (moves : List Move) : Bootstrapping := moves.foldl (step pace) b

/-! ### The shared state -/

open Bootstrap (Fits Pending)

/-- What is always so: attempts fit the state, successes were returned only when it was complete,
and while it is underway there is an attempt that has yet to settle. -/
structure Settles : Prop where
  fits : ∀ p ∈ b.attempts, Fits b.shared.state p
  returned : ∀ n, .ok n ∈ b.returned → b.shared.state = .complete
  tended : b.shared.state = .underway → ∃ p ∈ b.attempts, Pending p

variable {b} {b' : Bootstrapping}

theorem settles_start (site : Site) : (start site).Settles := ⟨nofun, nofun, nofun⟩

/-- What only the handler does leaves the attempts as they should be. -/
theorem Settles.of_eq (h : b.Settles) (attempts : b'.attempts = b.attempts)
    (returned : b'.returned = b.returned) (shared : b'.shared = b.shared) : b'.Settles where
  fits := by rw [attempts, shared]; exact h.fits
  returned := by rw [returned, shared]; exact h.returned
  tended := by rw [attempts, shared]; exact h.tended

/-- An attempt has gone on. What is in its place must fit the state that there is then. If that is
underway, something of it has yet to settle, at least if the attempt had to or the state was another
before. -/
theorem Settles.put {p : Plan (Except CallError Nat)} {i : Nat} (h : b.Settles)
    (place : b.attempts[i]? = some p) (site : Site)
    (follows : b.shared.Follows site.node.bootstrap) {left : List (Plan (Except CallError Nat))}
    (fits : ∀ q ∈ left, Fits site.node.bootstrap.state q)
    (tended : site.node.bootstrap.state = .underway →
      (∃ q ∈ left, Pending q) ∨
        b.shared.state = .underway ∧ (Pending p → ∃ q ∈ left, Pending q)) :
    { b.put i left with site }.Settles where
  fits q member := by
    simp only [Bootstrapping.put, List.mem_append, or_assoc] at member
    obtain before | new | after := member
    · exact (h.fits q (List.mem_of_mem_take before)).mono follows.complete
    · exact fits q new
    · exact (h.fits q (List.mem_of_mem_drop after)).mono follows.complete
  returned n member := follows.complete (h.returned n member)
  tended underway := by
    simp only [Bootstrapping.put, List.mem_append, or_assoc]
    obtain ⟨q, new, pending⟩ | ⟨was, passes⟩ := tended underway
    · exact ⟨q, .inr (.inl new), pending⟩
    · obtain ⟨q, member, pending⟩ := h.tended was
      obtain ⟨lt, rfl⟩ := List.getElem?_eq_some_iff.1 place
      rw [← List.take_append_drop i b.attempts, List.drop_eq_getElem_cons lt, List.mem_append,
        List.mem_cons] at member
      obtain before | rfl | after := member
      · exact ⟨q, .inl before, pending⟩
      · obtain ⟨q, new, pending⟩ := passes pending
        exact ⟨q, .inr (.inl new), pending⟩
      · exact ⟨q, .inr (.inr after), pending⟩

theorem Settles.go (h : b.Settles) (i : Nat) :
    (b.go i).Settles ∧ b.shared.Follows (b.go i).shared := by
  unfold Bootstrapping.go
  split
  · rename_i result place
    obtain ⟨settled, success⟩ := (h.fits _ (List.mem_of_getElem? place)).done
    have rest := h.put place b.site (.refl _) (List.forall_mem_nil _) fun was =>
      .inr ⟨was, fun pending => absurd pending settled⟩
    refine ⟨⟨rest.fits, fun n member => ?_, rest.tended⟩, .refl _⟩
    obtain ⟨⟩ | ⟨_, earlier⟩ := member
    · exact success n rfl
    · exact h.returned n earlier
  · rename_i next place
    obtain ⟨fits, pending⟩ := (h.fits _ (List.mem_of_getElem? place)).look b.site
    refine ⟨h.put place b.site (.refl _) (List.forall_mem_singleton.2 fits) fun was => ?_, .refl _⟩
    exact .inr ⟨was, fun still => ⟨_, List.mem_singleton_self _, pending still⟩⟩
  · rename_i effect next place
    obtain ⟨state, rfl, fits, pending⟩ := (h.fits _ (List.mem_of_getElem? place)).change
    have follows := b.shared.follows_set state
    refine ⟨h.put place (b.site.setBootstrap state) follows (List.forall_mem_singleton.2 fits)
      fun underway => ?_, follows⟩
    exact .inl ⟨next, List.mem_singleton_self _, pending underway⟩
  · exact ⟨h, .refl _⟩

theorem shared_hear (b : Bootstrapping) (i slot : Nat) (outcome : Outcome) :
    (b.hear i slot outcome).shared = b.shared := by
  unfold Bootstrapping.hear
  split <;> rfl

theorem Settles.hear (h : b.Settles) (i slot : Nat) (outcome : Outcome) :
    (b.hear i slot outcome).Settles := by
  unfold Bootstrapping.hear
  split
  · rename_i first calls dropped next place
    obtain ⟨fits, pending⟩ := (h.fits _ (List.mem_of_getElem? place)).await slot outcome
    refine h.put place b.site (.refl _) (List.forall_mem_singleton.2 fits) fun was => ?_
    exact .inr ⟨was, fun still => ⟨_, List.mem_singleton_self _, pending still⟩⟩
  · exact h

/-- A move keeps what is always so, and the shared state does not go back once it is complete. -/
theorem Settles.step (h : b.Settles) (m : Move) :
    (b.step pace m).Settles ∧ b.shared.Follows (b.step pace m).shared := by
  cases m with
  | began contact =>
    have pending := Bootstrap.pending_attempt pace contact
    refine ⟨⟨?_, h.returned, fun _ => ⟨_, List.mem_cons_self, pending⟩⟩, .refl _⟩
    exact List.forall_mem_cons.2 ⟨.inl pending, h.fits⟩
  | went i => exact h.go i
  | heard i slot outcome => exact ⟨h.hear i slot outcome, .inl (shared_hear b i slot outcome)⟩
  | became site => exact ⟨h.of_eq rfl rfl rfl, .refl _⟩
  | watched act => exact ⟨h.of_eq rfl rfl rfl, .refl _⟩

/-! ### What the handler makes of it -/

theorem watcher_go (b : Bootstrapping) (i : Nat) : (b.go i).watcher = b.watcher := by
  unfold go
  split <;> rfl

theorem watcher_hear (b : Bootstrapping) (i slot : Nat) (outcome : Outcome) :
    (b.hear i slot outcome).watcher = b.watcher := by
  unfold hear
  split <;> rfl

/-- With a move the handler does nothing, or does something in a state that stays as it is. -/
theorem watcher_step (pace : LookupPace) (b : Bootstrapping) (m : Move) :
    (b.step pace m).watcher = b.watcher ∨ (b.step pace m).shared = b.shared ∧
      ∃ act, (b.step pace m).watcher = b.watcher.act b.shared act := by
  cases m with
  | watched act => exact .inr ⟨rfl, act, rfl⟩
  | went i => exact .inl (b.watcher_go i)
  | heard i slot outcome => exact .inl (b.watcher_hear i slot outcome)
  | began | became => exact .inl rfl

/-- The attempts and the handler are as they should be. -/
structure Sound (b : Bootstrapping) : Prop where
  settles : b.Settles
  heeds : b.watcher.Heeds b.shared

theorem sound_start (site : Site) : (start site).Sound := ⟨settles_start site, .initial _⟩

theorem Sound.step (h : b.Sound) (pace : LookupPace) (m : Move) : (b.step pace m).Sound := by
  have goesOn := h.settles.step pace m
  refine ⟨goesOn.1, ?_⟩
  obtain unmoved | ⟨same, act, acts⟩ := watcher_step pace b m
  · rw [unmoved]
    exact h.heeds.follows goesOn.2
  · rw [same, acts]
    exact h.heeds.does (h.heeds.does_act act)

theorem Sound.run (h : b.Sound) (pace : LookupPace) (moves : List Move) :
    (b.run pace moves).Sound ∧ b.shared.Follows (b.run pace moves).shared := by
  induction moves generalizing b with
  | nil => exact ⟨h, .refl _⟩
  | cons m moves ih =>
    obtain ⟨sound, follows⟩ := ih (h.step pace m)
    exact ⟨sound, (h.settles.step pace m).2.trans follows⟩

/-- As long as the state is complete, the reports are as many as they are to be. -/
theorem Sound.reports_run (h : b.Sound) (pace : LookupPace) (complete : b.shared.state = .complete)
    (moves : List Move) :
    (b.run pace moves).watcher.reports (b.run pace moves).shared = b.watcher.reports b.shared := by
  induction moves generalizing b with
  | nil => rfl
  | cons m moves ih =>
    have unchanged := (h.settles.step pace m).2.eq_of_complete complete
    refine (ih (h.step pace m) (by rw [unchanged, complete])).trans ?_
    rw [unchanged]
    obtain unmoved | ⟨-, act, acts⟩ := watcher_step pace b m
    · rw [unmoved]
    · rw [acts, (h.heeds.does_act act).reports_eq complete]

/-! A node that knows nobody, and a contact that answers it and knows nobody either. -/

namespace Sample

def contact : Peer := ⟨⟨3⟩, "studio", .v4 0x0a000003 4400⟩

def lonely : Site :=
  let table : RoutingTable := ⟨⟨1⟩, Vector.replicate 160 (Bucket.empty 1)⟩
  ⟨⟨⟨⟨1⟩, 4400, "here"⟩, 1, 1, table, .initial, .standard, .nothing, 0⟩, .empty, 0⟩

def gentle : LookupPace := ⟨1, 1⟩

/-- An attempt begins and sets the state. -/
def begins : List Move := [.began contact, .went 0, .went 0]

/-- The contact answers whatever it is asked, until all that is left is to complete the state. -/
def answered : List Move :=
  let answer : Outcome := .ok ⟨contact, .findNode []⟩
  [.heard 0 0 answer, .went 0, .heard 0 0 answer, .went 0]

def completes : List Move := [.went 0, .went 0]

/-- The contact does not answer, and the attempt falls back. -/
def fails : List Move := [.heard 0 0 (.error .unexpected), .went 0, .went 0, .went 0, .went 0]

end Sample

/-! ### All runs -/

open Sample

/-- Whatever comes between the moves of however many attempts: once the state is complete it stays
so, it is complete from the moment an attempt has returned a success, and it is underway only while
an attempt is in flight. -/
theorem attempts_settle_the_state (pace : LookupPace) (site : Site) (moves : List Move) :
    let b := (start site).run pace moves
    (b.shared.state = .complete → ∀ more, (b.run pace more).shared = b.shared) ∧
    (∀ n, .ok n ∈ b.returned → b.shared.state = .complete) ∧
    (b.attempts = [] → b.shared.state ≠ .underway) := by
  intro b
  have sound : b.Sound := ((sound_start site).run pace moves).1
  refine ⟨fun complete more => ?_, sound.settles.returned, fun none underway => ?_⟩
  · exact (sound.run pace more).2.eq_of_complete complete
  · obtain ⟨p, member, -⟩ := sound.settles.tended underway
    rw [none] at member
    exact List.not_mem_nil member

theorem success_outlasts_failure :
    let b := (start lonely).run gentle (begins ++ answered ++ completes ++ begins ++ fails)
    b.returned.map Except.toOption = [none, some 0] ∧ b.attempts.isEmpty = true ∧
      b.shared.state = .complete ∧ ∀ more, (b.run gentle more).shared = b.shared := by
  intro b
  have settled := attempts_settle_the_state gentle lonely
    (begins ++ answered ++ completes ++ begins ++ fails)
  have complete : b.shared.state = .complete := by decide +kernel
  exact ⟨by decide +kernel, by decide +kernel, complete, settled.1 complete⟩

/-- Whatever comes between what the handler does: somebody is answered only once the state is
complete; all who have asked were answered, wait or are being answered; and in a complete state of
which no change is left to see, nobody waits, or only until the handler has read the last one that
it saw. -/
theorem nobody_waits_in_vain (pace : LookupPace) (site : Site) (moves : List Move) :
    let b := (start site).run pace moves
    let h := b.watcher.handler
    (h.answered ≠ [] → b.shared.state = .complete) ∧
    b.watcher.asked.Perm (h.answered ++ h.waiting ++ (b.watcher.asking.map Prod.fst).toList) ∧
    (b.shared.state = .complete → h.hasNews b.shared = false →
      (h.noticed = false → h.waiting = []) ∧ (h.read b.shared).waiting = []) := by
  intro b h
  have heeds : b.watcher.Heeds b.shared := ((sound_start site).run pace moves).1.heeds
  refine ⟨heeds.answered, heeds.everybody, fun complete unseen => ?_⟩
  have seen : h.seen = b.shared.changes := by simpa [Handler.hasNews] using unseen
  have nobody (unnoticed : h.noticed = false) : h.waiting = [] := by
    refine Decidable.byContradiction fun waiting => ?_
    obtain noticed | news := heeds.waiting complete waiting
    · rw [unnoticed] at noticed
      cases noticed
    · exact news seen
  refine ⟨nobody, ?_⟩
  cases noticed : h.noticed with
  | false => simp [Handler.read, noticed, nobody noticed]
  | true => simp [Handler.read, noticed, complete]

/-- The first one asks before the attempt begins. The second one is told to wait when the state is
complete already, since it was read before that. -/
def waiters : List Move :=
  [.watched (.ask 1), .watched .reply] ++ begins ++ [.watched .notice, .watched .read] ++
    answered ++ [.watched (.ask 2)] ++ completes ++
    [.watched .reply, .watched .notice, .watched .read]

theorem late_waiter_is_answered :
    let b := (start lonely).run gentle waiters
    b.watcher.asked = [1, 2] ∧ b.watcher.handler.answered.Perm [1, 2] ∧
      b.watcher.handler.waiting = [] := by
  intro b
  obtain ⟨-, everybody, nobody⟩ := nobody_waits_in_vain gentle lonely waiters
  have asked : b.watcher.asked = [1, 2] := by decide +kernel
  have complete : b.shared.state = .complete := by decide +kernel
  have unseen : b.watcher.handler.hasNews b.shared = false := by decide +kernel
  have none : b.watcher.handler.waiting = [] := (nobody complete unseen).1 (by decide +kernel)
  refine ⟨asked, ?_, none⟩
  have idle : b.watcher.asking.map Prod.fst = Option.none := by decide +kernel
  rw [asked, none, idle, Option.toList_none, List.append_nil, List.append_nil] at everybody
  exact everybody.symm

/-- Nothing is reported before the state is complete. From the move on that completes it, the
reports that were made and those to come are one, and one more if the handler had noticed a change
by then and was yet to read the state. -/
theorem completions_are_reported (pace : LookupPace) (site : Site) (moves : List Move) (m : Move)
    (more : List Move)
    (before : ((start site).run pace moves).shared.state ≠ .complete)
    (after : (((start site).run pace moves).step pace m).shared.state = .complete) :
    let b := (start site).run pace moves
    let b' := (b.step pace m).run pace more
    b.watcher.handler.completions = 0 ∧
      b'.watcher.reports b'.shared = 1 + b.watcher.handler.noticed.toNat := by
  intro b b'
  have sound : b.Sound := ((sound_start site).run pace moves).1
  refine ⟨sound.heeds.unreported before, ?_⟩
  rw [(sound.step pace m).reports_run pace after more]
  have follows := (sound.settles.step pace m).2
  obtain unmoved | ⟨same, -⟩ := watcher_step pace b m
  · rw [unmoved, sound.heeds.reports_eq before follows after]
  · rw [same] at after
    exact absurd after before

/-- The handler notices that an attempt has begun and reads the state when it is complete already.
-/
def overtaken : List Move := begins ++ [.watched .notice] ++ answered

theorem overtaken_is_to_report_twice :
    let b := ((start lonely).run gentle overtaken).step gentle (.went 0)
    b.watcher.handler.completions = 0 ∧ b.watcher.reports b.shared = 2 := by
  have reported := completions_are_reported gentle lonely overtaken (.went 0) [] (by decide +kernel)
    (by decide +kernel)
  have noticed : ((start lonely).run gentle overtaken).watcher.handler.noticed = true := by
    decide +kernel
  refine ⟨by decide +kernel, reported.2.trans ?_⟩
  rw [noticed]
  rfl

theorem completed_is_reported_twice :
    let later : List Move := [.watched .read, .watched .notice, .watched .read]
    let b := (start lonely).run gentle (overtaken ++ completes ++ later)
    b.watcher.handler.completions = 2 := by
  decide +kernel

end Bootstrapping
end LocalSwarm
