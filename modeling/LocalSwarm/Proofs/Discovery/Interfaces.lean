import Mathlib.Data.List.Basic
import LocalSwarm.Discovery.Interfaces

/-! What is listened to after any sequence of looks at the interfaces, told from the last rebuild:
for which interfaces it was made, what it bound and whether it succeeded. A rebuild that fails is
not repeated as long as the interfaces stay as they are. Main statement:
`unchanged_interfaces_are_listened_to`. -/
namespace LocalSwarm.Discovery

/-- A look at the interfaces: what it finds, and how sockets can be bound at that time. -/
structure Look where
  found : Except ListenError (List IpAddr)
  bind : Bind

/-- Interfaces that are listened on anew, and how sockets can be bound at that time. -/
structure Rebuild where
  interfaces : List IpAddr
  bind : Bind

namespace Rebuild

/-- Binding the listener of the entry at a place of the settings. -/
def attempt (r : Rebuild) (entry : IpVersion × Nat) : Except ListenError SocketAddr :=
  r.bind entry.2 entry.1 (Listening.ofVersion r.interfaces entry.1)

def result (r : Rebuild) (versions : List IpVersion) : Listening × Except ListenError Unit :=
  Listening.rebuild ⟨versions, r.interfaces, []⟩ r.bind

def Succeeds (r : Rebuild) (versions : List IpVersion) : Prop := (r.result versions).2 = .ok ()

/-- The listeners that it binds. -/
def bound (r : Rebuild) (versions : List IpVersion) : List SocketAddr :=
  (versions.zipIdx.map r.attempt).filterMap fun
    | .ok a => some a
    | .error _ => none

def refusals (r : Rebuild) (versions : List IpVersion) : List ListenError :=
  (versions.zipIdx.map r.attempt).filterMap fun
    | .ok _ => none
    | .error e => some e

variable {r : Rebuild} {versions : List IpVersion}

theorem result_fst : (r.result versions).1 = ⟨versions, r.interfaces, r.bound versions⟩ := by
  unfold result Listening.rebuild
  dsimp only
  split <;> rfl

/-- It fails just if it binds no listener and is refused one. -/
theorem result_snd_eq_error_iff {e : ListenError} :
    (r.result versions).2 = .error e ↔
      r.bound versions = [] ∧ (r.refusals versions).getLast? = some e := by
  unfold result Listening.rebuild
  dsimp only
  split
  · rename_i reason unbound refused
    have none : r.bound versions = [] := unbound
    have last : (r.refusals versions).getLast? = some reason := refused
    simp [none, last]
  · rename_i other
    exact ⟨nofun, fun ⟨unbound, refused⟩ => (other e unbound refused).elim⟩

theorem mem_bound {a : SocketAddr} :
    a ∈ r.bound versions ↔ ∃ entry ∈ versions.zipIdx, r.attempt entry = .ok a := by
  rw [bound, List.mem_filterMap]
  constructor
  · rintro ⟨outcome, tried, kept⟩
    obtain ⟨entry, member, rfl⟩ := List.mem_map.1 tried
    split at kept
    · rename_i b accepted
      exact ⟨entry, member, accepted.trans (congrArg _ (Option.some.inj kept))⟩
    · cases kept
  · rintro ⟨entry, member, accepted⟩
    exact ⟨_, List.mem_map_of_mem member, by rw [accepted]⟩

theorem mem_refusals {e : ListenError} :
    e ∈ r.refusals versions ↔ ∃ entry ∈ versions.zipIdx, r.attempt entry = .error e := by
  rw [refusals, List.mem_filterMap]
  constructor
  · rintro ⟨outcome, tried, kept⟩
    obtain ⟨entry, member, rfl⟩ := List.mem_map.1 tried
    split at kept
    · cases kept
    · rename_i e' refused
      exact ⟨entry, member, refused.trans (congrArg _ (Option.some.inj kept))⟩
  · rintro ⟨entry, member, refused⟩
    exact ⟨_, List.mem_map_of_mem member, by rw [refused]⟩

/-- A rebuild succeeds if it binds a listener or has nothing to bind. -/
theorem succeeds_iff : r.Succeeds versions ↔ versions = [] ∨ r.bound versions ≠ [] := by
  cases outcome : (r.result versions).2 with
  | ok =>
    refine iff_of_true outcome ?_
    cases versions with
    | nil => exact .inl rfl
    | cons v rest =>
      refine .inr fun unbound => ?_
      have refused : r.refusals (v :: rest) ≠ [] := by
        cases tried : r.attempt (v, 0) with
        | ok a =>
          have bound : a ∈ r.bound (v :: rest) := mem_bound.2 ⟨(v, 0), .head _, tried⟩
          rw [unbound] at bound
          cases bound
        | error e => exact List.ne_nil_of_mem (mem_refusals.2 ⟨(v, 0), .head _, tried⟩)
      have failed := result_snd_eq_error_iff.2 ⟨unbound, List.getLast?_eq_some_getLast refused⟩
      cases outcome.symm.trans failed
  | error e =>
    obtain ⟨unbound, last⟩ := result_snd_eq_error_iff.1 outcome
    obtain ⟨entry, member, -⟩ := mem_refusals.1 (List.mem_of_getLast? last)
    refine iff_of_false (fun succeeds => ?_) ?_
    · cases outcome.symm.trans succeeds
    · rintro (rfl | bound)
      · cases member
      · exact bound unbound

end Rebuild

/-- What can come of a poll. -/
inductive Polled (l : Listening) (look : Look) : Listening → Except ListenError Bool → Prop
  | blind {e : ListenError} : look.found = .error e → Polled l look l (.error e)
  | unchanged {addresses : List IpAddr} : look.found = .ok addresses →
      addressSet addresses = l.interfaces → Polled l look l (.ok false)
  | renewed {addresses : List IpAddr} {r : Rebuild} : look.found = .ok addresses →
      addressSet addresses ≠ l.interfaces → r = ⟨addressSet addresses, look.bind⟩ →
      r.Succeeds l.versions → Polled l look (r.result l.versions).1 (.ok true)
  | refused {addresses : List IpAddr} {r : Rebuild} {e : ListenError} :
      look.found = .ok addresses → addressSet addresses ≠ l.interfaces →
      r = ⟨addressSet addresses, look.bind⟩ → (r.result l.versions).2 = .error e →
      Polled l look (r.result l.versions).1 (.error e)

theorem polled_poll (l : Listening) (look : Look) :
    Polled l look (l.poll look.found look.bind).1 (l.poll look.found look.bind).2 := by
  unfold Listening.poll
  split
  · rename_i e blind
    exact .blind blind
  · rename_i addresses found
    dsimp only
    split
    · rename_i same
      exact .unchanged found same
    · rename_i other
      have anew : ({ l with interfaces := addressSet addresses } : Listening).rebuild look.bind =
          (Rebuild.mk (addressSet addresses) look.bind).result l.versions := rfl
      rw [anew]
      cases outcome : ((Rebuild.mk (addressSet addresses) look.bind).result l.versions).2 with
      | ok => exact .renewed found other rfl outcome
      | error e => exact .refused found other rfl outcome

/-- The rebuild at the start. It is for no interfaces if the look at them fails. -/
def Look.first : Look → Rebuild
  | ⟨.ok addresses, bind⟩ => ⟨addressSet addresses, bind⟩
  | ⟨.error _, bind⟩ => ⟨[], bind⟩

theorem start_eq_result (versions : List IpVersion) (begun : Look) :
    Listening.start versions begun.found begun.bind = begun.first.result versions := by
  obtain ⟨found | found, bind⟩ := begun <;> rfl

/-- A poll with its answer. -/
structure Poll where
  look : Look
  answer : Except ListenError Bool

/-- The rebuild that a poll has made. Its answer tells whether there was one: with a look that does
not fail, a poll answers `false` just if it leaves all as it is. -/
def Poll.rebuild? : Poll → Option Rebuild
  | ⟨⟨.error _, _⟩, _⟩ => none
  | ⟨⟨.ok _, _⟩, .ok false⟩ => none
  | ⟨⟨.ok addresses, bind⟩, _⟩ => some ⟨addressSet addresses, bind⟩

/-- The last rebuild, after a start and polls of which the last one comes first. -/
def lastRebuild (begun : Look) (past : List Poll) : Rebuild :=
  (past.findSome? Poll.rebuild?).getD begun.first

/-- The last poll that made a rebuild told that it failed. -/
def Failed (past : List Poll) : Prop :=
  ∃ p ∈ past.find? (·.rebuild?.isSome), ∃ e, p.answer = .error e

section
variable {begun : Look} {past : List Poll} {p : Poll} {r : Rebuild}

theorem lastRebuild_cons (rebuilds : p.rebuild? = some r) : lastRebuild begun (p :: past) = r := by
  rw [lastRebuild, List.findSome?_cons, rebuilds]
  rfl

theorem lastRebuild_cons_none (rests : p.rebuild? = none) :
    lastRebuild begun (p :: past) = lastRebuild begun past := by
  rw [lastRebuild, List.findSome?_cons, rests]
  rfl

theorem failed_cons (rebuilds : p.rebuild? = some r) :
    Failed (p :: past) ↔ ∃ e, p.answer = .error e := by
  simp [Failed, rebuilds]

theorem failed_cons_none (rests : p.rebuild? = none) : Failed (p :: past) ↔ Failed past := by
  simp [Failed, rests]

end

/-- What can have become of listening after a start and polls, of which the last one comes first. -/
inductive Watched (versions : List IpVersion) (begun : Look) : List Poll → Listening → Prop
  | started {l : Listening} : Listening.start versions begun.found begun.bind = (l, .ok ()) →
      Watched versions begun [] l
  | polled {past : List Poll} {l l' : Listening} {answer : Except ListenError Bool} (look : Look) :
      Watched versions begun past l → l.poll look.found look.bind = (l', answer) →
      Watched versions begun (⟨look, answer⟩ :: past) l'

namespace Watched

variable {versions : List IpVersion} {begun : Look} {past : List Poll} {l : Listening}

/-- What is listened to is what the last rebuild has left, and whether that has succeeded is told by
the poll that made it. -/
theorem last (h : Watched versions begun past l) :
    l = ((lastRebuild begun past).result versions).1 ∧
      ((lastRebuild begun past).Succeeds versions ↔ ¬ Failed past) := by
  induction h with
  | started begins =>
    rw [start_eq_result] at begins
    refine ⟨(congrArg Prod.fst begins).symm, iff_of_true (congrArg Prod.snd begins) ?_⟩
    rintro ⟨p, first, -⟩
    cases first
  | @polled past l l' answer look before polls ih =>
    obtain ⟨left, told⟩ := ih
    have polled := polled_poll l look
    rw [polls] at polled
    obtain ⟨found, bind⟩ := look
    cases polled with
    | blind blind =>
      subst blind
      rw [lastRebuild_cons_none rfl, failed_cons_none rfl]
      exact ⟨left, told⟩
    | unchanged seen =>
      subst seen
      rw [lastRebuild_cons_none rfl, failed_cons_none rfl]
      exact ⟨left, told⟩
    | renewed seen _ this succeeds =>
      subst seen this
      obtain rfl : l.versions = versions := by rw [left, Rebuild.result_fst]
      rw [lastRebuild_cons rfl, failed_cons rfl]
      exact ⟨rfl, iff_of_true succeeds (by rintro ⟨e, broken⟩; cases broken)⟩
    | refused seen _ this fails =>
      subst seen this
      obtain rfl : l.versions = versions := by rw [left, Rebuild.result_fst]
      rw [lastRebuild_cons rfl, failed_cons rfl]
      exact ⟨rfl, iff_of_false (fun succeeds => by cases fails.symm.trans succeeds)
        (not_not_intro ⟨_, rfl⟩)⟩

end Watched

/-- A poll answers that nothing has changed just if it finds the interfaces of the last rebuild. The
listeners in place are then those that this rebuild could bind, and it has succeeded unless the poll
that made it has told of a failure. -/
theorem unchanged_interfaces_are_listened_to {versions : List IpVersion} {begun : Look}
    {past : List Poll} {l : Listening} (watched : Watched versions begun past l) (look : Look) :
    ((l.poll look.found look.bind).2 = .ok false ↔
      ∃ addresses, look.found = .ok addresses ∧
        addressSet addresses = (lastRebuild begun past).interfaces) ∧
    ((l.poll look.found look.bind).2 = .ok false →
      (∀ a, a ∈ (l.poll look.found look.bind).1.listeners ↔
        ∃ entry ∈ versions.zipIdx, (lastRebuild begun past).attempt entry = .ok a) ∧
      ((lastRebuild begun past).Succeeds versions ↔ ¬ Failed past)) := by
  obtain ⟨left, told⟩ := watched.last
  have same : l.interfaces = (lastRebuild begun past).interfaces := by
    rw [left, Rebuild.result_fst]
  have bound : l.listeners = (lastRebuild begun past).bound versions := by
    rw [left, Rebuild.result_fst]
  have polled := polled_poll l look
  generalize l.poll look.found look.bind = outcome at polled
  obtain ⟨l', answer⟩ := outcome
  cases polled with
  | blind blind =>
    refine ⟨⟨nofun, ?_⟩, nofun⟩
    rintro ⟨addresses, seen, -⟩
    cases blind.symm.trans seen
  | unchanged seen found =>
    refine ⟨iff_of_true rfl ⟨_, seen, found.trans same⟩, fun _ => ⟨fun a => ?_, told⟩⟩
    rw [bound, Rebuild.mem_bound]
  | renewed seen other | refused seen other =>
    refine ⟨iff_of_false nofun ?_, nofun⟩
    rintro ⟨addresses', seen', found⟩
    cases seen.symm.trans seen'
    exact other (found.trans same.symm)

/-! A host whose only interface goes away, once while the port of the listener is free and once
while it is taken. When it is polled next the port is free in both cases. -/

namespace Outage

def loopback : IpAddr := .v4 0x7f000001

def listener : SocketAddr := .v4 0 17500

def free : Bind := fun _ _ _ => .ok listener

def taken : Bind := fun _ version _ => .error (.noFreePort version)

theorem addressSet_nil : addressSet [] = [] := by
  rw [addressSet, List.mergeSort_nil]
  rfl

theorem addressSet_loopback : addressSet [loopback] = [loopback] := by
  rw [addressSet, List.mergeSort_singleton]
  rfl

/-- Listening after the start. -/
def begun : Listening := ⟨[.v4], [loopback], [listener]⟩

theorem start_begun : Watched [.v4] ⟨.ok [loopback], free⟩ [] begun :=
  .started (by rw [Listening.start, addressSet_loopback]; rfl)

theorem poll_begun (bind : Bind) :
    begun.poll (.ok []) bind =
      ((Rebuild.mk [] bind).result [.v4]).map id (·.map fun _ => true) := by
  rw [Listening.poll, addressSet_nil]
  rfl

theorem rebuilt_interfaces_are_listened_to :
    Watched [.v4] ⟨.ok [loopback], free⟩ [⟨⟨.ok [], free⟩, .ok true⟩] ⟨[.v4], [], [listener]⟩ ∧
      (Listening.poll ⟨[.v4], [], [listener]⟩ (.ok []) taken).2 = .ok false ∧
      (Rebuild.mk [] free).Succeeds [.v4] := by
  have watched : Watched [.v4] ⟨.ok [loopback], free⟩ [⟨⟨.ok [], free⟩, .ok true⟩]
      ⟨[.v4], [], [listener]⟩ :=
    .polled ⟨.ok [], free⟩ start_begun (poll_begun free)
  obtain ⟨answers, stands⟩ := unchanged_interfaces_are_listened_to watched ⟨.ok [], taken⟩
  have unchanged := answers.2 ⟨[], rfl, rfl⟩
  refine ⟨watched, unchanged, (stands unchanged).2.2 ?_⟩
  rw [failed_cons rfl]
  rintro ⟨e, broken⟩
  cases broken

/-- The poll that finds the port taken tells that no listener is left. The next one finds the same
interfaces and answers that nothing has changed. -/
theorem failed_rebuild_is_not_repeated :
    Watched [.v4] ⟨.ok [loopback], free⟩ [⟨⟨.ok [], taken⟩, .error (.noFreePort .v4)⟩]
        ⟨[.v4], [], []⟩ ∧
      Listening.poll ⟨[.v4], [], []⟩ (.ok []) free = (⟨[.v4], [], []⟩, .ok false) ∧
      lastRebuild ⟨.ok [loopback], free⟩ [⟨⟨.ok [], taken⟩, .error (.noFreePort .v4)⟩] =
        ⟨addressSet [], taken⟩ ∧
      ¬ (Rebuild.mk (addressSet []) taken).Succeeds [.v4] ∧
      (Rebuild.mk (addressSet []) free).Succeeds [.v4] := by
  refine ⟨.polled ⟨.ok [], taken⟩ start_begun (poll_begun taken), ?_, rfl, ?_, ?_⟩
  · rw [Listening.poll, addressSet_nil]
    rfl
  · rw [addressSet_nil, Rebuild.succeeds_iff]
    decide
  · rw [addressSet_nil, Rebuild.succeeds_iff]
    decide

end Outage
end LocalSwarm.Discovery
