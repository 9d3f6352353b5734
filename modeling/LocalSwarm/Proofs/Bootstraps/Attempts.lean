import LocalSwarm.Lookup.Plan

/-! What an attempt to find a way into the swarm does to the state that all attempts share, whatever
it finds and is answered: it sets it when it begins and once more when it settles, to complete or to
what it falls back to, and only who has completed it returns a success. Main statements:
`pending_attempt`, and what a change does to the state (`Fits.change`). -/
namespace LocalSwarm

/-- A site where an attempt has set the state. -/
def Site.setBootstrap (state : BootstrapState) (s : Site) : Site :=
  { s with node := { s.node with bootstrap := s.node.bootstrap.set state } }

namespace Plan

variable {α β : Type} {good better : α → Prop}

/-- The plan changes nothing, and its result is such. -/
inductive Quiet (good : α → Prop) : Plan α → Prop where
  | done {a : α} : good a → Quiet good (.done a)
  | look {next : Site → Plan α} : (∀ s, Quiet good (next s)) → Quiet good (.look next)
  | await {first : Precedence} {calls : List (Nat × Call)} {dropped : Site → Site}
      {next : Nat → Outcome → Plan α} : (∀ slot outcome, Quiet good (next slot outcome)) →
      Quiet good (.await first calls dropped next)

theorem Quiet.bind {good : β → Prop} {p : Plan α} {f : α → Plan β} (first : p.Quiet fun _ => True)
    (rest : ∀ a, (f a).Quiet good) : (p.bind f).Quiet good := by
  induction first with
  | done => exact rest _
  | look _ ih => exact .look ih
  | await _ ih => exact .await ih

theorem Quiet.mono {p : Plan α} (quiet : p.Quiet good) (implies : ∀ a, good a → better a) :
    p.Quiet better := by
  induction quiet with
  | done fit => exact .done (implies _ fit)
  | look _ ih => exact .look ih
  | await _ ih => exact .await ih

/-! ### Lookups change nothing -/

theorem quiet_gather (first : Precedence) (width left : Nat) (waiting : List (Nat × Call))
    (outcomes : List (Nat × Outcome)) :
    (gather first width left waiting outcomes).Quiet fun _ => True := by
  induction left generalizing waiting outcomes with
  | zero => exact .done trivial
  | succ left ih => exact .await fun slot outcome => ih _ _

theorem quiet_follow (stage : LookupStage) : (Lookup.follow stage).Quiet fun _ => True := by
  fun_induction Lookup.follow stage with
  | case1 outcome => exact .done trivial
  | case2 l batch ih =>
    refine (quiet_gather _ _ _ _ _).bind fun outcomes => ?_
    split
    · exact .done trivial
    · rename_i ended
      exact ih outcomes _ _ ended

theorem quiet_findNodeFrom (pace : LookupPace) (target : Identifier) (seeds : List Peer) :
    (Lookup.findNodeFrom pace target seeds).Quiet fun _ => True :=
  Quiet.bind (.look fun _ => quiet_follow _) fun _ => .done trivial

end Plan

/-! ### The shared state -/

namespace Bootstrap

variable {b b' b'' : Bootstrap} {state state' : BootstrapState}

theorem state_set_complete (b : Bootstrap) : (b.set .complete).state = .complete := by
  unfold set
  split
  · rename_i unchanged
    simpa using unchanged
  · rfl

theorem state_set_ne_underway (other : state ≠ .underway) : (b.set state).state ≠ .underway := by
  unfold set
  split
  · rename_i unchanged
    simp only [Bool.or_eq_true, decide_eq_true_eq] at unchanged
    obtain same | complete := unchanged
    · rwa [same]
    · rw [complete]
      nofun
  · exact other

/-- What a shared state becomes: it stays as it is, or it is complete only after a further change.
-/
def Follows (b b' : Bootstrap) : Prop := b' = b ∨ b.state ≠ .complete ∧ b.changes < b'.changes

namespace Follows

theorem refl (b : Bootstrap) : b.Follows b := .inl rfl

theorem trans (first : b.Follows b') (second : b'.Follows b'') : b.Follows b'' := by
  obtain rfl | ⟨open', more⟩ := first
  · exact second
  · obtain rfl | ⟨-, further⟩ := second
    · exact .inr ⟨open', more⟩
    · exact .inr ⟨open', Nat.lt_trans more further⟩

theorem eq_of_complete (h : b.Follows b') (complete : b.state = .complete) : b' = b :=
  h.resolve_right fun changed => changed.1 complete

theorem complete (h : b.Follows b') (complete : b.state = .complete) : b'.state = .complete := by
  rw [h.eq_of_complete complete, complete]

theorem changes_le (h : b.Follows b') : b.changes ≤ b'.changes := by
  obtain rfl | ⟨-, more⟩ := h
  · exact Nat.le_refl _
  · exact Nat.le_of_lt more

end Follows

theorem follows_set (b : Bootstrap) (state : BootstrapState) : b.Follows (b.set state) := by
  unfold set
  split
  · exact .refl b
  · rename_i changed
    simp only [Bool.or_eq_true, decide_eq_true_eq, not_or] at changed
    exact .inr ⟨changed.2, Nat.lt_succ_self _⟩

/-! ### Attempts -/

open Plan (Quiet)

/-- What is left of an attempt that has yet to settle. -/
inductive Pending : Plan (Except CallError Nat) → Prop where
  | looks {next : Site → Plan (Except CallError Nat)} : (∀ s, Pending (next s)) →
      Pending (.look next)
  | waits {first : Precedence} {calls : List (Nat × Call)} {dropped : Site → Site}
      {next : Nat → Outcome → Plan (Except CallError Nat)} :
      (∀ slot outcome, Pending (next slot outcome)) → Pending (.await first calls dropped next)
  | begins {next : Plan (Except CallError Nat)} : Pending next →
      Pending (.change (Site.setBootstrap .underway) next)
  | settles {state : BootstrapState} {next : Plan (Except CallError Nat)} : state ≠ .underway →
      (next.Quiet fun result => ∀ n, result = .ok n → state = .complete) →
      Pending (.change (Site.setBootstrap state) next)

theorem Pending.after {α : Type} {p : Plan α} {f : α → Plan (Except CallError Nat)}
    (first : p.Quiet fun _ => True) (rest : ∀ a, Pending (f a)) : Pending (p.bind f) := by
  induction first with
  | done => exact rest _
  | look _ ih => exact .looks ih
  | await _ ih => exact .waits ih

theorem settled_ne_underway (b : Bootstrap) (anyOnline : Bool) :
    b.settled anyOnline ≠ .underway := by
  unfold settled
  split <;> nofun

/-- An attempt once its contact has answered. -/
theorem pending_answered (pace : LookupPace) (contact : Peer) (id : Identifier) (reply : Reply) :
    Pending ((Lookup.findNodeFrom pace id (reply.told ++ [contact])).bind fun _ =>
      .look fun site => .change (Site.setBootstrap .complete)
        (.done (.ok (site.node.table.online site.now).length))) :=
  .after (Plan.quiet_findNodeFrom pace _ _) fun _ =>
    .looks fun _ => .settles nofun (.done fun _ _ => rfl)

theorem pending_attempt (pace : LookupPace) (contact : Peer) : Pending (attempt pace contact) := by
  refine .looks fun site => .begins (.waits fun _ outcome => ?_)
  cases outcome with
  | error e =>
    refine .looks fun before => .looks fun site => ?_
    exact .settles (settled_ne_underway _ _) (.done nofun)
  | ok reply => exact pending_answered pace contact site.node.self.id reply

/-- What is left of an attempt is as it should be in a state: it has yet to settle, or it changes
nothing any more and is a success only if the state is complete. -/
def Fits (state : BootstrapState) (p : Plan (Except CallError Nat)) : Prop :=
  Pending p ∨ p.Quiet fun result => ∀ n, result = .ok n → state = .complete

namespace Fits

variable {p : Plan (Except CallError Nat)}

theorem mono (fits : Fits state p) (stays : state = .complete → state' = .complete) :
    Fits state' p :=
  fits.imp_right fun quiet => quiet.mono fun _ success n ok => stays (success n ok)

theorem done {result : Except CallError Nat} (fits : Fits state (.done result)) :
    ¬Pending (.done result) ∧ ∀ n, result = .ok n → state = .complete := by
  refine ⟨nofun, ?_⟩
  cases fits.resolve_left nofun with
  | done success => exact success

theorem look {next : Site → Plan (Except CallError Nat)} (fits : Fits state (.look next))
    (s : Site) : Fits state (next s) ∧ (Pending (.look next) → Pending (next s)) := by
  refine ⟨?_, fun | .looks pending => pending s⟩
  obtain pending | quiet := fits
  · cases pending with
    | looks pending => exact .inl (pending s)
  · cases quiet with
    | look quiet => exact .inr (quiet s)

theorem await {first : Precedence} {calls : List (Nat × Call)} {dropped : Site → Site}
    {next : Nat → Outcome → Plan (Except CallError Nat)}
    (fits : Fits state (.await first calls dropped next)) (slot : Nat) (outcome : Outcome) :
    Fits state (next slot outcome) ∧
      (Pending (.await first calls dropped next) → Pending (next slot outcome)) := by
  refine ⟨?_, fun | .waits pending => pending slot outcome⟩
  obtain pending | quiet := fits
  · cases pending with
    | waits pending => exact .inl (pending slot outcome)
  · cases quiet with
    | await quiet => exact .inr (quiet slot outcome)

theorem change {effect : Site → Site} {next : Plan (Except CallError Nat)}
    (fits : Fits b.state (.change effect next)) :
    ∃ state, effect = Site.setBootstrap state ∧ Fits (b.set state).state next ∧
      ((b.set state).state = .underway → Pending next) := by
  cases fits.resolve_right nofun with
  | begins pending => exact ⟨.underway, rfl, .inl pending, fun _ => pending⟩
  | @settles state _ other quiet =>
    refine ⟨state, rfl, .inr (quiet.mono fun result success n ok => ?_), fun underway => ?_⟩
    · rw [success n ok, state_set_complete]
    · exact absurd underway (state_set_ne_underway other)

end Fits
end Bootstrap
end LocalSwarm
