import LocalSwarm.Proofs.Activities.Residents

/-! Refreshing buckets among residents, answer by answer. However the requests go out and the
answers come in, nothing breaks off the refresh, it can be brought to an end at any time, and then
every bucket that was stale and in which anybody was online has a good contact. Main statement:
`refreshed_buckets_are_good`. -/
namespace LocalSwarm
open RoutingTable

variable {lives : Identifier → SocketAddr → Prop} {localId : Identifier} {slots : Nat}

/-- A strand is as far as the call in its slot. -/
structure Strand.Carries (lives : Identifier → SocketAddr → Prop) (localId : Identifier)
    (slots : Nat) (s : Site) (e : Strand) (x : Nat × Call) : Prop where
  slot : e.slot = x.1
  asks : (Promise.residential lives localId slots).asks x.2
  underway : Underway lives localId s x.2 e.conversation
  sent : ∀ m ∈ e.message, m.body = .request e.conversation.request.2

namespace Strand.Carries

variable {s s' : Site} {e : Strand} {x : Nat × Call} {slot : Nat} {c : Conversation}

theorem later (carries : e.Carries lives localId slots s x)
    (thrives : s.Thrives lives localId slots s') : e.Carries lives localId slots s' x :=
  ⟨carries.slot, carries.asks, carries.underway.later thrives, carries.sent⟩

/-- Its request has gone out. -/
theorem departed (carries : (Strand.mk slot c none).Carries lives localId slots s x)
    (thrives : s.Thrives lives localId slots s') :
    (Strand.mk slot c (some (s.node.ask c.request.2).2)).Carries lives localId slots s' x := by
  refine ⟨carries.slot, carries.asks, carries.underway.later thrives, ?_⟩
  rintro _ ⟨⟩
  rfl

/-- It has been answered, and a challenge is called for. -/
theorem challenged {message : Option Message}
    (carries : (Strand.mk slot c message).Carries lives localId slots s x) {c' : Conversation}
    (underway : Underway lives localId s x.2 c') :
    (Strand.mk slot c' none).Carries lives localId slots s x :=
  ⟨carries.slot, carries.asks, underway, by rintro _ ⟨⟩⟩

end Strand.Carries

/-- Calls that have just been made are as far as their strands. -/
theorem Strand.carries_calls (s : Site) {calls : List (Nat × Call)}
    (asks : ∀ x ∈ calls, (Promise.residential lives localId slots).asks x.2) :
    List.Forall₂ (Strand.Carries lives localId slots s)
      (calls.map fun (slot, call) => ⟨slot, .calling call, none⟩) calls := by
  rw [List.forall₂_map_left_iff]
  refine List.forall₂_same.2 fun x member => ?_
  exact ⟨rfl, asks x member, .calling x.2, nofun⟩

/-- What stands beside the part of a list that is related to another one. -/
theorem exists_counterpart {α β : Type} {R : α → β → Prop} {xs : List α} {ys : List β}
    (related : List.Forall₂ R xs ys) {j : Nat} {x : α} (here : xs[j]? = some x) :
    ∃ front y back, ys = front ++ y :: back ∧ R x y ∧ List.Forall₂ R (xs.take j) front ∧
      List.Forall₂ R (xs.drop (j + 1)) back := by
  induction related generalizing j with
  | nil => cases here
  | @cons _ y _ ys first rest ih =>
    cases j with
    | zero =>
      cases here
      exact ⟨[], y, ys, rfl, first, .nil, rest⟩
    | succ j =>
      obtain ⟨front, z, back, rfl, same, before, behind⟩ := ih here
      exact ⟨y :: front, z, back, rfl, same, .cons first before, behind⟩

theorem eraseP_slot {front back : List (Nat × Call)} {x : Nat × Call}
    (distinct : ((front ++ x :: back).map Prod.fst).Nodup) :
    (front ++ x :: back).eraseP (·.1 == x.1) = front ++ back := by
  rw [List.eraseP_append_right _ ?_, List.eraseP_cons, beq_self_eq_true, cond_true]
  intro y member same
  rw [List.map_append, List.nodup_append] at distinct
  exact distinct.2.2 _ (List.mem_map_of_mem member) _ (List.mem_map_of_mem List.mem_cons_self)
    (eq_of_beq same)

/-- One task alone, all of whose calls are to residents: it has ended and come to a goal, or it
waits and will do so. -/
inductive Activity.Tends (lives : Identifier → SocketAddr → Prop) (localId : Identifier)
    (slots : Nat) (goal : Site → Prop) (a : Activity) : Prop
  | ended : a.undertakings = [] → goal a.site → Tends lives localId slots goal a
  | waits {u : Undertaking} {out : List (Nat × Call)} :
      a.undertakings = [u] → a.site.AtHome lives localId slots →
      List.Forall₂ (Strand.Carries lives localId slots a.site) u.strands out →
      (Plan.await .slot [] u.dropped u.next).Achieves (.residential lives localId slots)
        (fun _ => goal) ⟨out, a.site⟩ →
      Tends lives localId slots goal a

variable {goal : Site → Prop}

/-- A plan that achieves a goal is carried on without a fault. -/
theorem Plan.Achieves.proceeds {p : Plan Unit} {c : Situation}
    (achieves : p.Achieves (.residential lives localId slots) (fun _ => goal) c)
    (home : c.site.AtHome lives localId slots) {strands : List Strand}
    (carries : List.Forall₂ (Strand.Carries lives localId slots c.site) strands c.out) :
    ∃ us, p.proceed strands c.site = .ok (c.site, us) ∧
      ∀ guests sent, Activity.Tends lives localId slots goal ⟨c.site, us, guests, sent⟩ := by
  induction achieves with
  | done good => exact ⟨[], rfl, fun _ _ => .ended rfl good⟩
  | look _ ih => exact ih home carries
  | @await c first calls dropped next some distinct asks rest =>
    have achieves : (Plan.await first calls dropped next).Achieves
        (.residential lives localId slots) (fun _ => goal) c := .await some distinct asks rest
    have related := List.rel_append carries (Strand.carries_calls c.site asks)
    exact ⟨_, rfl, fun _ _ => .waits rfl home related achieves.sent⟩

namespace Activity

variable {a : Activity} {i j slot : Nat} {u : Undertaking} {e : Strand} {c : Conversation}
  {m : Message} {surroundings : Surroundings}

theorem put_alone (alone : a.undertakings = [u]) (us : List Undertaking) :
    a.put 0 us = { a with undertakings := us } := by
  rw [put, alone]
  simp

theorem depart_eq (found : a.strand? i j = some (u, ⟨slot, c, none⟩)) :
    a.depart i j = { a.put i [u.put j [⟨slot, c, some (a.site.node.ask c.request.2).2⟩]] with
      site := { a.site with node := (a.site.node.ask c.request.2).1 }
      sent := (a.site.node.ask c.request.2).2 :: a.sent } := by
  rw [depart, found]

theorem answer_waits (found : a.strand? i j = some (u, ⟨slot, c, some m⟩)) {c' : Conversation}
    (resumed : c.resume a.site.node.version a.site.node.table a.site.now (surroundings.answer c m) =
      .ok (a.site.node.table, .waits c')) :
    a.answer i j surroundings = .ok (a.put i [u.put j [⟨slot, c', none⟩]]) := by
  rw [answer, found]
  dsimp only
  rw [resumed]
  rfl

theorem answer_ended (found : a.strand? i j = some (u, ⟨slot, c, some m⟩)) {table : RoutingTable}
    {outcome : Outcome} {us : List Undertaking}
    (resumed : c.resume a.site.node.version a.site.node.table a.site.now (surroundings.answer c m) =
      .ok (table, .ended (some outcome)))
    (proceeded : (u.next slot outcome).proceed (u.put j []).strands (a.site.withTable table) =
      .ok (a.site.withTable table, us)) :
    a.answer i j surroundings = .ok { a.put i us with site := a.site.withTable table } := by
  rw [answer, found]
  dsimp only
  rw [resumed]
  change (Plan.proceed _ _ (a.site.withTable table) >>= fun result => _) = _
  rw [proceeded]
  rfl

/-- A task that waits, with one of its strands and the call in the slot of that strand apart from
all others. -/
structure Around (lives : Identifier → SocketAddr → Prop) (localId : Identifier) (slots : Nat)
    (goal : Site → Prop) (s : Site) (u : Undertaking) (j : Nat) (front : List (Nat × Call))
    (x : Nat × Call) (back : List (Nat × Call)) : Prop where
  home : s.AtHome lives localId slots
  before : List.Forall₂ (Strand.Carries lives localId slots s) (u.strands.take j) front
  behind : List.Forall₂ (Strand.Carries lives localId slots s) (u.strands.drop (j + 1)) back
  achieves : (Plan.await .slot [] u.dropped u.next).Achieves (.residential lives localId slots)
    (fun _ => goal) ⟨front ++ x :: back, s⟩

namespace Around

variable {s s' : Site} {front back : List (Nat × Call)} {x : Nat × Call}

theorem later (around : Around lives localId slots goal s u j front x back)
    (thrives : s.Thrives lives localId slots s') :
    Around lives localId slots goal s' u j front x back :=
  ⟨thrives.after, around.before.imp fun _ _ carries => carries.later thrives,
    around.behind.imp fun _ _ carries => carries.later thrives, around.achieves.later thrives⟩

/-- The task goes on with another strand in the place of the one. -/
theorem put (around : Around lives localId slots goal s u j front x back)
    (carries : e.Carries lives localId slots s x) (guests : List Peer) (sent : List Message) :
    Tends lives localId slots goal ⟨s, [u.put j [e]], guests, sent⟩ := by
  have related : List.Forall₂ (Strand.Carries lives localId slots s) (u.put j [e]).strands
      (front ++ [x] ++ back) :=
    List.rel_append (List.rel_append around.before (.cons carries .nil)) around.behind
  have achieves := around.achieves
  rw [List.append_cons] at achieves
  exact .waits rfl around.home related achieves

/-- The strand has ended, and the task is carried on with the others. -/
theorem ended (around : Around lives localId slots goal s u j front x back)
    (thrives : s.Thrives lives localId slots s') {outcome : Outcome}
    (answers : (Promise.residential lives localId slots).answers s' x.2 outcome) :
    ∃ us, (u.next x.1 outcome).proceed (u.put j []).strands s' = .ok (s', us) ∧
      ∀ guests sent, Tends lives localId slots goal ⟨s', us, guests, sent⟩ := by
  obtain ⟨home, before, behind, -⟩ := around.later thrives
  have related : List.Forall₂ (Strand.Carries lives localId slots s') (u.put j []).strands
      (front ++ [] ++ back) := List.rel_append (List.rel_append before .nil) behind
  rw [List.append_nil] at related
  cases around.achieves with
  | await some distinct asks rest =>
    have next := rest x.1 x.2 outcome s' (by simp) thrives answers
    rw [List.append_nil] at distinct next
    rw [eraseP_slot distinct] at next
    exact next.proceeds home related

end Around

namespace Tends

/-- A task has all its strands in its only undertaking. -/
theorem of_strand? (h : Tends lives localId slots goal a) (found : a.strand? i j = some (u, e)) :
    i = 0 ∧ a.undertakings = [u] ∧ ∃ front x back, e.Carries lives localId slots a.site x ∧
      Around lives localId slots goal a.site u j front x back := by
  simp only [strand?, Option.bind_eq_bind, Option.bind_eq_some_iff, Option.pure_def,
    Option.some.injEq] at found
  obtain ⟨u', inside, e', within, same⟩ := found
  cases same
  cases h with
  | ended none =>
    rw [none] at inside
    cases inside
  | @waits u' out alone home carries achieves =>
    rw [alone, List.getElem?_singleton] at inside
    split at inside
    · rename_i here
      cases inside
      obtain ⟨front, x, back, rfl, carries, before, behind⟩ := exists_counterpart carries within
      exact ⟨here, alone, front, x, back, carries, home, before, behind, achieves⟩
    · cases inside

theorem depart (h : Tends lives localId slots goal a) (i j : Nat) :
    Tends lives localId slots goal (a.depart i j) := by
  cases found : a.strand? i j with
  | none =>
    rw [Activity.depart, found]
    exact h
  | some strand =>
    obtain ⟨u, slot, c, _ | m⟩ := strand
    · obtain ⟨rfl, alone, front, x, back, carries, around⟩ := h.of_strand? found
      have thrives := around.home.ask c.request.2
      rw [depart_eq found, put_alone alone]
      exact (around.later thrives).put (carries.departed thrives) _ _
    · rw [Activity.depart, found]
      exact h

section Answers

variable (usable : 1 ≤ slots)
  (rebuilt : ∀ id address, lives id address → lives id (address.ip.atPort address.port))
  (faithful : surroundings.Faithful lives localId)
include usable rebuilt faithful

theorem answer (h : Tends lives localId slots goal a) (i j : Nat) :
    ∃ a', a.answer i j surroundings = .ok a' ∧ Tends lives localId slots goal a' := by
  cases found : a.strand? i j with
  | none => exact ⟨a, by rw [Activity.answer, found], h⟩
  | some strand =>
    obtain ⟨u, slot, c, _ | m⟩ := strand
    · exact ⟨a, by rw [Activity.answer, found], h⟩
    · obtain ⟨rfl, alone, front, x, back, carries, around⟩ := h.of_strand? found
      have resumes := carries.underway.resumes around.home usable faithful a.site.node.version
        rebuilt carries.asks (carries.sent m rfl)
      generalize resumed : c.resume a.site.node.version a.site.node.table a.site.now
        (surroundings.answer c m) = result at resumes
      cases resumes with
      | waits underway =>
        refine ⟨_, answer_waits found resumed, ?_⟩
        rw [put_alone alone]
        exact around.put (carries.challenged underway) _ _
      | ended thrives answers =>
        obtain ⟨us, proceeded, tends⟩ := around.ended thrives answers
        rw [← carries.slot] at proceeded
        refine ⟨_, answer_ended found resumed proceeded, ?_⟩
        rw [put_alone alone]
        exact tends _ _

end Answers

end Tends

/-! ### Coming to an end -/

/-- A service can go on until no task is left, by sending requests and taking such answers. -/
def Ends (s : Service) (surroundings : Surroundings) (a : Activity) : Prop :=
  ∃ os, (∀ o ∈ os, ∃ i j, o = .departed i j ∨ o = .answered i j surroundings) ∧
    ∃ a', a.run s os = .ok a' ∧ a'.undertakings = []

variable {s : Service}

theorem ends_of_idle (none : a.undertakings = []) : a.Ends s surroundings :=
  ⟨[], List.forall_mem_nil _, a, rfl, none⟩

theorem ends_of_step {a' : Activity} {o : Occurrence}
    (goes : ∃ i j, o = .departed i j ∨ o = .answered i j surroundings)
    (done : a.step s o = .ok a') (ends : a'.Ends s surroundings) : a.Ends s surroundings := by
  obtain ⟨os, all, last, run, none⟩ := ends
  refine ⟨o :: os, List.forall_mem_cons.2 ⟨goes, all⟩, last, ?_, none⟩
  rw [Activity.run, done]
  exact run

section Ends

variable (usable : 1 ≤ slots)
  (rebuilt : ∀ id address, lives id address → lives id (address.ip.atPort address.port))
  (faithful : surroundings.Faithful lives localId)
include usable rebuilt faithful

/-- A strand can be brought to its end, after a challenge maybe. -/
theorem ends_of_strand {x : Nat × Call} {rest : List Strand} {dropped : Site → Site}
    {next : Nat → Outcome → Plan Unit} {site : Site} (home : site.AtHome lives localId slots)
    (carries : e.Carries lives localId slots site x)
    (goesOn : ∀ site' outcome, site.Thrives lives localId slots site' →
      (Promise.residential lives localId slots).answers site' x.2 outcome →
      ∃ us, (next x.1 outcome).proceed rest site' = .ok (site', us) ∧
        ∀ guests sent, Ends s surroundings ⟨site', us, guests, sent⟩)
    (guests : List Peer) (sent : List Message) :
    Ends s surroundings ⟨site, [⟨e :: rest, dropped, next⟩], guests, sent⟩ := by
  induction depth : e.conversation.depth using Nat.strong_induction_on
    generalizing e site guests sent with
  | _ depth ih =>
    subst depth
    obtain ⟨slot, c, message⟩ := e
    have answered (site' : Site) (thrives : site.Thrives lives localId slots site') (m : Message)
        (carries : (Strand.mk slot c (some m)).Carries lives localId slots site' x)
        (sent : List Message) :
        Ends s surroundings
          ⟨site', [⟨⟨slot, c, some m⟩ :: rest, dropped, next⟩], guests, sent⟩ := by
      have found : strand? ⟨site', [⟨⟨slot, c, some m⟩ :: rest, dropped, next⟩], guests, sent⟩ 0 0 =
          some (⟨⟨slot, c, some m⟩ :: rest, dropped, next⟩, ⟨slot, c, some m⟩) := rfl
      have resumes := carries.underway.resumes thrives.after usable faithful site'.node.version
        rebuilt carries.asks (carries.sent m rfl)
      generalize resumed : c.resume site'.node.version site'.node.table site'.now
        (surroundings.answer c m) = result at resumes
      cases resumes with
      | @waits c' underway =>
        have done := answer_waits found resumed
        refine ends_of_step ⟨0, 0, .inr rfl⟩ done ?_
        refine ih c'.depth (Conversation.depth_resume resumed) thrives.after
          (carries.challenged underway) (fun site'' outcome thrives' => ?_) guests sent rfl
        exact goesOn site'' outcome (thrives.trans thrives')
      | ended thrives' answers =>
        obtain ⟨us, proceeded, ends⟩ := goesOn _ _ (thrives.trans thrives') answers
        rw [← carries.slot] at proceeded
        have done := answer_ended found resumed proceeded
        refine ends_of_step ⟨0, 0, .inr rfl⟩ done ?_
        rw [put_alone rfl]
        exact ends guests sent
    cases message with
    | some m => exact answered site home.refl m carries sent
    | none =>
      have found : strand? ⟨site, [⟨⟨slot, c, none⟩ :: rest, dropped, next⟩], guests, sent⟩ 0 0 =
          some (⟨⟨slot, c, none⟩ :: rest, dropped, next⟩, ⟨slot, c, none⟩) := rfl
      have thrives := home.ask c.request.2
      have done := congrArg (@Except.ok Fault _) (depart_eq found)
      refine ends_of_step ⟨0, 0, .inl rfl⟩ done ?_
      rw [put_alone rfl]
      exact answered _ thrives _ (carries.departed thrives) _

/-- A plan that achieves a goal can be brought to its end. -/
theorem ends_of_achieves {p : Plan Unit} {c : Situation}
    (achieves : p.Achieves (.residential lives localId slots) (fun _ => goal) c)
    (home : c.site.AtHome lives localId slots) {strands : List Strand}
    (carries : List.Forall₂ (Strand.Carries lives localId slots c.site) strands c.out) :
    ∃ us, p.proceed strands c.site = .ok (c.site, us) ∧
      ∀ guests sent, Ends s surroundings ⟨c.site, us, guests, sent⟩ := by
  induction achieves generalizing strands with
  | done => exact ⟨[], rfl, fun _ _ => ends_of_idle rfl⟩
  | look _ ih => exact ih home carries
  | @await c first calls dropped next some distinct asks rest ih =>
    have related := List.rel_append carries (Strand.carries_calls c.site asks)
    refine ⟨_, rfl, fun guests sent => ?_⟩
    dsimp only at related
    generalize strands ++ _ = strands at related ⊢
    generalize c.out ++ calls = out at related ih some
    cases related with
    | nil => exact absurd rfl some
    | @cons e x strands out carries related =>
      refine ends_of_strand usable rebuilt faithful home carries
        (fun site outcome thrives answers => ?_) guests sent
      refine ih x.1 x.2 outcome site List.mem_cons_self thrives answers thrives.after ?_
      rw [List.eraseP_cons, beq_self_eq_true, cond_true]
      exact related.imp fun _ _ carries => carries.later thrives

theorem Tends.ends (h : Tends lives localId slots goal a) : a.Ends s surroundings := by
  cases h with
  | ended none => exact ends_of_idle none
  | @waits u out alone home carries achieves =>
    obtain ⟨us, proceeded, ends⟩ := ends_of_achieves usable rebuilt faithful achieves home carries
    have waits : (Plan.await .slot [] u.dropped u.next).proceed u.strands a.site =
        .ok (a.site, [u]) := by
      rw [Plan.proceed, List.map_nil, List.append_nil]
    cases proceeded.symm.trans waits
    have whole : a = ⟨a.site, [u], a.guests, a.sent⟩ := by rw [← alone]
    rw [whole]
    exact ends _ _

end Ends

end Activity

/-- Nothing but requests that go out, and faithful answers to them. -/
def Occurrence.Faithful (lives : Identifier → SocketAddr → Prop) (localId : Identifier) :
    Occurrence → Prop
  | .departed _ _ => True
  | .answered _ _ surroundings => surroundings.Faithful lives localId
  | _ => False

namespace Activity

/-- A task whose calls are answered faithfully stays on its way to the goal. -/
theorem Tends.run {a : Activity} (h : Tends lives localId slots goal a) (usable : 1 ≤ slots)
    (rebuilt : ∀ id address, lives id address → lives id (address.ip.atPort address.port))
    (s : Service) {os : List Occurrence} (faithful : ∀ o ∈ os, o.Faithful lives localId) :
    ∃ a', a.run s os = .ok a' ∧ Tends lives localId slots goal a' := by
  induction os generalizing a with
  | nil => exact ⟨a, rfl, h⟩
  | cons o os ih =>
    obtain ⟨first, later⟩ := List.forall_mem_cons.1 faithful
    obtain ⟨next, done, tends⟩ : ∃ a', a.step s o = .ok a' ∧ Tends lives localId slots goal a' := by
      cases o with
      | departed i j => exact ⟨_, rfl, h.depart i j⟩
      | answered i j surroundings => exact h.answer usable rebuilt first i j
      | _ => cases first
    obtain ⟨last, rest, tends⟩ := ih tends later
    refine ⟨last, ?_, tends⟩
    rw [Activity.run, done]
    exact rest

end Activity

/-! ### Refreshing -/

/-- What a refresh from one site to the other has come to: it has told how many buckets were stale,
and could not have told anything else, and each of them in which anybody was online has a good
contact. -/
structure Refreshed (pace : LookupPace) (random : Fin 160 → Identifier) (s s' : Site) : Prop where
  told : ∃ h, Run (Lookup.refresh pace random) ⟨[], s⟩ h ⟨[], s'⟩
    (.ok (s.node.table.stale s.now).length)
  counted : ∀ h c n, Run (Lookup.refresh pace random) ⟨[], s⟩ h c (.ok n) →
    n = (s.node.table.stale s.now).length
  good : ∀ i ∈ s.node.table.stale s.now, s.HasOnline i → s'.HasGood i

/-- A task that is begun among residents is on its way. -/
theorem Activity.tends_begin {p : Plan Unit} {site : Site}
    (achieves : p.Achieves (.residential lives localId slots) (fun _ => goal) ⟨[], site⟩)
    (home : site.AtHome lives localId slots) :
    ∃ a, (idle site).begin p = .ok a ∧ Tends lives localId slots goal a := by
  obtain ⟨us, proceeded, tends⟩ := achieves.proceeds home .nil
  refine ⟨_, ?_, tends [] []⟩
  have proceeded : p.proceed [] site = .ok (site, us) := proceeded
  rw [begin, idle, proceeded]
  change Except.ok (Activity.mk site (us ++ []) [] []) = _
  rw [List.append_nil]

/-- Among residents who answer, and while no time passes, buckets are refreshed without a fault,
however the requests go out and the answers come in: it can be brought to an end at any time, and
then every stale bucket in which anybody was online has a good contact. The table may be any that
turns have made; its contacts live where they are called, and so do those whom answers name, also at
an address that is made anew from where an answer came from. -/
theorem refreshed_buckets_are_good (s : Service) (site : Site) (slots : Nat) (usable : 1 ≤ slots)
    (began : Moment) (turns : List Turn)
    (reached : Timed.run ⟨fresh site.node.self.id slots, began⟩ turns =
      .ok ⟨site.node.table, site.now⟩)
    (wanted : 1 ≤ site.node.count) (rounds : 1 ≤ s.pace.rounds) (random : Fin 160 → Identifier)
    (lives : Identifier → SocketAddr → Prop)
    (rebuilt : ∀ id address, lives id address → lives id (address.ip.atPort address.port))
    (residents : ∀ c ∈ site.node.table.contacts, lives c.id c.peer.address) (os : List Occurrence)
    (faithful : ∀ o ∈ os, o.Faithful lives site.node.self.id) :
    ∃ a, Activity.run s (.idle site) (.began (.refresh random) :: os) = .ok a ∧
      (a.undertakings = [] → Refreshed s.pace random site a.site) ∧
      ∀ surroundings : Surroundings, surroundings.Faithful lives site.node.self.id →
        a.Ends s surroundings := by
  have start : (Timed.mk (fresh site.node.self.id slots) began).table.Sound
      site.node.self.id slots := sound_fresh
  have home : site.AtHome lives site.node.self.id slots :=
    ⟨rfl, wanted, start.of_run reached, fun c member _ => residents c member⟩
  have achieves : ((Task.refresh random).plan s).Achieves
      (.residential lives site.node.self.id slots)
      (fun _ => Refreshed s.pace random site) ⟨[], site⟩ := by
    refine (Lookup.achieves_refresh rounds random home).recorded.bind ?_
    rintro count s' ⟨⟨rfl, -, good⟩, told⟩
    exact .done ⟨told, fun _ _ _ run => Lookup.eq_stale_of_refresh random run, good⟩
  obtain ⟨first, begun, tends⟩ := Activity.tends_begin achieves home
  obtain ⟨last, run, tends⟩ := tends.run usable rebuilt s faithful
  refine ⟨last, ?_, fun none => ?_, fun surroundings faithful => ?_⟩
  · change (Activity.begin _ _ >>= fun a => Activity.run s a os) = _
    rw [begun]
    exact run
  · cases tends with
    | ended _ refreshed => exact refreshed
    | waits alone =>
      rw [none] at alone
      cases alone
  · exact tends.ends usable rebuilt faithful

/-! A service with a single slot for a bucket was told of one peer there. Asked for contacts that
peer names another one, which answers too, and is only refused the slot after a challenge. -/

namespace Refreshing

open RoutingTable.Contention (first second)

def settings : Settings :=
  { Settings.standard with bucketSlots := 1, machine := some "studio" }

def service : Service := .allocated settings ⟨1⟩ 4400 .nothing none

def turns : List Turn := [.replace first.id (.hearsay first)]

def table : RoutingTable := (service.node.table.replace first.id (.hearsay first)).1

def site : Site := ⟨{ service.node with table }, .empty, 0⟩

def random (_ : Fin 160) : Identifier := ⟨0⟩

def homes (id : Identifier) (address : SocketAddr) : Prop :=
  ∃ p ∈ [first, second], p.id = id ∧ p.address = address

def response : Request → Response
  | .findNode .. => .findNode [first, second]
  | _ => .ping

def answers : Surroundings := fun c m =>
  match c.asked? with
  | some p =>
    let sender : Sender := ⟨p.id, p.address.port, "studio"⟩
    .ok (Message.mk m.correlation sender (.response (response c.request.2))).encode
  | none => .error .timeout

def visits : List Occurrence :=
  [.departed 0 0, .answered 0 0 answers, .departed 0 0, .answered 0 0 answers, .departed 0 0,
    .answered 0 0 answers]

theorem response_fits (r : Request) : (response r).Fits := by
  have named : Peer.AllFit [first, second] := by
    refine ⟨by decide, fun p member => ?_⟩
    rcases List.mem_pair.1 member with rfl | rfl
    · exact ⟨Wire.plain_studio, trivial⟩
    · exact ⟨Wire.plain_of_all (by decide) (by decide +kernel), trivial⟩
  cases r with
  | findNode => exact named
  | _ => trivial

theorem residents {p : Peer} (member : p ∈ [first, second]) : Resident homes ⟨1⟩ p :=
  fun _ => ⟨p, member, rfl, rfl⟩

theorem faithful : answers.Faithful homes ⟨1⟩ := by
  intro c m p asked _ _ searches
  let reply : Message :=
    ⟨m.correlation, ⟨p.id, p.address.port, "studio"⟩, .response (response c.request.2)⟩
  have decoded : Message.decode reply.encode = .ok reply :=
    Message.decode_encode ⟨Wire.plain_studio, response_fits _⟩
  refine ⟨_, reply, response c.request.2, ?_, decoded, rfl, rfl, rfl, ?_, ?_⟩
  · rw [answers, asked]
  · rcases searches with ping | ⟨target, count, search⟩
    · rw [ping]
      rfl
    · rw [search]
      rfl
  · rcases searches with ping | ⟨target, count, search⟩
    · rw [ping]
      exact List.forall_mem_nil _
    · rw [search]
      exact fun q => residents

theorem rebuilt (id : Identifier) (address : SocketAddr) (here : homes id address) :
    homes id (address.ip.atPort address.port) := by
  obtain ⟨p, member, rfl, rfl⟩ := here
  refine ⟨p, member, rfl, ?_⟩
  rcases List.mem_pair.1 member with rfl | rfl <;> rfl

theorem told_contact_is_refreshed :
    Timed.run ⟨fresh ⟨1⟩ 1, 0⟩ turns = .ok ⟨site.node.table, site.now⟩ ∧
      1 ≤ site.node.count ∧ 1 ≤ service.pace.rounds ∧ answers.Faithful homes ⟨1⟩ ∧
      site.node.table.contacts = [.hearsay first] ∧ site.node.table.stale site.now = [158] ∧
      site.HasOnline 158 ∧
      ∃ a, Activity.run service (.idle site) (.began (.refresh random) :: visits) = .ok a ∧
        a.sent.map (·.body) =
          [.request .ping, .request (.findNode ⟨2⟩ 1), .request (.findNode ⟨2⟩ 1)] ∧
        Refreshed service.pace random site a.site ∧ a.site.HasGood 158 := by
  have reached : Timed.run ⟨fresh ⟨1⟩ 1, 0⟩ turns = .ok ⟨site.node.table, site.now⟩ := rfl
  have wanted : 1 ≤ site.node.count := by decide +kernel
  have rounds : 1 ≤ service.pace.rounds := by decide +kernel
  have contacts : site.node.table.contacts = [.hearsay first] := by decide +kernel
  have stale : site.node.table.stale site.now = [158] := by decide +kernel
  have online : site.HasOnline 158 := by
    have listed : (site.node.table.bucket 158).contacts = [.hearsay first] := by decide +kernel
    exact ⟨.hearsay first, listed ▸ List.mem_singleton_self _, by decide⟩
  have residents : ∀ c ∈ site.node.table.contacts, homes c.id c.peer.address := by
    rw [contacts]
    exact List.forall_mem_singleton.2 ⟨first, List.mem_cons_self, rfl, rfl⟩
  have attend : ∀ o ∈ visits, o.Faithful homes site.node.self.id := by
    intro o member
    simp only [visits, List.mem_cons, List.not_mem_nil, or_false] at member
    rcases member with rfl | rfl | rfl | rfl | rfl | rfl
    exacts [True.intro, faithful, True.intro, faithful, True.intro, faithful]
  obtain ⟨a, done, refreshed, -⟩ := refreshed_buckets_are_good service site 1 (by decide) 0 turns
    reached wanted rounds random homes rebuilt residents visits attend
  have outcome : (Activity.run service (.idle site)
      (.began (.refresh random) :: visits)).toOption.map
        (fun a => (a.undertakings.isEmpty, a.sent.map (·.body))) =
      some (true, [.request .ping, .request (.findNode ⟨2⟩ 1), .request (.findNode ⟨2⟩ 1)]) := by
    decide +kernel
  rw [done] at outcome
  obtain ⟨none, sent⟩ := Prod.mk.inj (Option.some.inj outcome)
  have refreshed := refreshed (List.isEmpty_iff.1 none)
  have good := refreshed.good 158 (stale ▸ List.mem_singleton_self _) online
  exact ⟨reached, wanted, rounds, faithful, contacts, stale, online, a, done, sent, refreshed, good⟩

end Refreshing
end LocalSwarm
