import LocalSwarm.Proofs.Tables.Origins
import LocalSwarm.Proofs.Tables.Stories

/-! Tables in good company: everyone in them lives where it is called, and whoever is called
answers. Nobody who is online comes to harm in the course of a conversation, and after it the bucket
of whoever was called has a good contact. Main statements: `Settled.observe` and `Settled.meet`. -/
namespace LocalSwarm

/-- A contact of a bucket is good. -/
def Bucket.HasGood (now : Moment) (b : Bucket) : Prop := ∃ c ∈ b.contacts, c.status now = .good

theorem Contact.good_of_heard {c : Contact} {now : Moment} (heard : c.lastActive = some now)
    (answered : c.failures = 0) : c.status now = .good := by
  rw [status_eq_good_iff, answered]
  exact ⟨Nat.zero_lt_succ 1, now, heard, by rw [Nat.sub_self]; decide⟩

theorem Contact.isOnline_of_good {c : Contact} {now : Moment} (good : c.status now = .good) :
    c.isOnline now = true := by
  rw [isOnline_iff, good]
  decide

namespace RoutingTable

variable {t t' t'' : RoutingTable} {localId : Identifier} {slots : Nat} {now : Moment}
  {lives : Identifier → SocketAddr → Prop} {i : Fin 160}

/-- Whoever is online stays so, and whoever is good stays good. -/
def Prospers (now : Moment) (t t' : RoutingTable) : Prop :=
  ∀ id c, t.find? id = some c → c.isOnline now = true → ∃ c', t'.find? id = some c' ∧
    c'.isOnline now = true ∧ (c.status now = .good → c'.status now = .good)

/-- A peer lives at its address, unless it is ourselves. -/
def Resident (lives : Identifier → SocketAddr → Prop) (localId : Identifier) (p : Peer) : Prop :=
  p.id ≠ localId → lives p.id p.address

structure Settled (lives : Identifier → SocketAddr → Prop) (localId : Identifier) (slots : Nat)
    (t : RoutingTable) : Prop where
  sound : t.Sound localId slots
  residents : ∀ c ∈ t.contacts, Resident lives localId c.peer

/-! ### What conversations do with a table -/

theorem Prospers.refl (now : Moment) (t : RoutingTable) : t.Prospers now t :=
  fun _ c found online => ⟨c, found, online, id⟩

theorem Prospers.trans (first : t.Prospers now t') (second : t'.Prospers now t'') :
    t.Prospers now t'' := by
  intro id c found online
  obtain ⟨c', found', online', better⟩ := first id c found online
  obtain ⟨c'', found'', online'', better'⟩ := second id c' found' online'
  exact ⟨c'', found'', online'', better' ∘ better⟩

/-- Somebody is offered to the table or seen. -/
def Deed.Harmless : Deed → Prop
  | .offer .. => True
  | .markSeen _ => True
  | .replace .. => False
  | .requestFailed _ => False

/-- Only a bad contact loses its slot. -/
theorem Effect.stays {s : Timed} {deed : Deed} {look : Identifier → Option Contact}
    (effect : Effect s (deed.turn s.now) look) (harmless : deed.Harmless) {id : Identifier}
    {c : Contact} (found : s.table.find? id = some c) (same : c.id = id)
    (online : c.isOnline s.now = true) : ∃ c', look id = some c' := by
  rw [← Option.isSome_iff_exists]
  have here : (s.table.find? id).isSome = true := by
    rw [found]
    rfl
  generalize turn : deed.turn s.now = done at effect
  cases effect with
  | learns | enters =>
    rw [Function.update_apply]
    split
    · rfl
    · exact here
  | @exchanges _ _ leaver _ _ known gives =>
    have other : id ≠ leaver.id := by
      rintro rfl
      cases deed with
      | offer =>
        cases turn
        cases gives with
        | bad _ _ bad =>
          obtain rfl : leaver = c := Option.some.inj (known.symm.trans found)
          exact Contact.isOnline_iff.1 online bad
      | markSeen => cases turn; cases gives
      | replace | requestFailed => cases harmless
    rw [Function.update_apply]
    split
    · rfl
    · rwa [Function.update_of_ne other]
  | refuses | elapses => exact here
  | sees | fails =>
    rw [Function.update_apply]
    split
    · next seen =>
      rw [Option.isSome_map]
      exact seen ▸ here
    · exact here

theorem Sound.prospers (h : t.Sound localId slots) (deed : Deed) (harmless : deed.Harmless)
    (done : Timed.turn ⟨t, now⟩ (deed.turn now) = .ok ⟨t', now⟩) : t.Prospers now t' := by
  have sound : (Timed.mk t now).table.Sound localId slots := h
  intro id c found online
  have effect := sound.effect done
  obtain ⟨c', stays⟩ := effect.stays harmless found (h.find?_eq_some_iff.1 found).2 online
  have fate := effect.fate id
  rw [found, stays] at fate
  refine ⟨c', stays, ?_⟩
  cases fate with
  | heard _ heard answered =>
    have good := Contact.good_of_heard heard answered
    exact ⟨Contact.isOnline_of_good good, fun _ => good⟩
  | failed same =>
    rw [same] at harmless
    cases harmless
  | kept _ spared =>
    refine ⟨(spared.isOnline now).trans online, fun good => ?_⟩
    rw [← good, Contact.status, Contact.status, spared.failures, spared.lastActive]

theorem Sound.hasGood (h : t.Sound localId slots) (h' : t'.Sound localId slots)
    (prospers : t.Prospers now t') (good : (t.bucket i).HasGood now) :
    (t'.bucket i).HasGood now := by
  obtain ⟨c, member, good⟩ := good
  obtain ⟨c', found, -, better⟩ :=
    prospers c.id c (h.find?_of_mem member) (Contact.isOnline_of_good good)
  have index : t'.index? c.id = some i := (h.index?_eq h' c.id).trans (h.index_of_mem member)
  rw [find?_of_index index] at found
  exact ⟨c', Bucket.mem_of_find? found, better good⟩

namespace Settled

/-- Residents stay among residents. -/
theorem of_goes (h : t.Settled lives localId slots)
    (goes : Timed.Goes (Resident lives localId) (fun _ => False) ⟨t, now⟩ ⟨t', now⟩) :
    t'.Settled lives localId slots := by
  have sound : (Timed.mk t now).table.Sound localId slots := h.sound
  refine ⟨goes.sound sound, sound.kept_of_goes (P := fun c => Resident lives localId c.peer)
    ?enters ?learns ?seen ?failed goes h.residents⟩
  case enters => exact fun c resident _ => resident
  case learns =>
    intro known newcomer resident welcome _ same
    unfold Contact.learn
    split
    · exact welcome
    · split
      · intro foreign
        have here : newcomer.peer.id = known.peer.id := same.symm
        exact here ▸ welcome (here.symm ▸ foreign)
      · exact resident
  case seen => exact fun c _ resident => resident
  case failed => exact fun c resident _ => resident

theorem offer (h : t.Settled lives localId slots) (account : Account) {p : Peer}
    (resident : Resident lives localId p) {outcome : Offer}
    (done : t.offer now (account.contact now p) = .ok (t', outcome)) :
    t'.Settled lives localId slots ∧ t.Prospers now t' := by
  have peer : (account.contact now p).peer = p ∧ (account.contact now p).failures = 0 := by
    cases account <;> exact ⟨rfl, rfl⟩
  have turned : Timed.turn ⟨t, now⟩ ((Deed.offer account p).turn now) = .ok ⟨t', now⟩ := by
    rw [Deed.turn, Timed.turn, done]
    rfl
  have goes : Timed.Goes (Resident lives localId) (fun _ => False) ⟨t, now⟩ ⟨t', now⟩ :=
    goes_offer (peer.1.symm ▸ resident) peer.2 done
  exact ⟨h.of_goes goes, h.sound.prospers (.offer account p) trivial turned⟩

theorem addHearsay (h : t.Settled lives localId slots) (usable : 1 ≤ slots) (now : Moment)
    {ps : List Peer} (residents : ∀ p ∈ ps, Resident lives localId p) :
    ∃ t', t.addHearsay now ps = .ok t' ∧ t'.Settled lives localId slots ∧ t.Prospers now t' := by
  induction ps generalizing t with
  | nil => exact ⟨t, rfl, h, .refl now t⟩
  | cons p ps ih =>
    obtain ⟨resident, others⟩ := List.forall_mem_cons.1 residents
    obtain ⟨next, outcome, done, -⟩ := h.sound.offer usable now (.hearsay p)
    obtain ⟨settled, first⟩ := h.offer .told resident done
    obtain ⟨last, rest, settled', second⟩ := ih settled others
    refine ⟨last, ?_, settled', first.trans second⟩
    rw [RoutingTable.addHearsay, done]
    exact rest

theorem markSeen (h : t.Settled lives localId slots) (now : Moment) (id : Identifier) :
    (t.markSeen now id).Settled lives localId slots ∧ t.Prospers now (t.markSeen now id) := by
  have turned : Timed.turn ⟨t, now⟩ ((Deed.markSeen id).turn now) = .ok ⟨t.markSeen now id, now⟩ :=
    rfl
  have goes : Timed.Goes (Resident lives localId) (fun _ => False) ⟨t, now⟩
      ⟨t.markSeen now id, now⟩ := Timed.goes_of_turn (.markSeen id) trivial turned
  exact ⟨h.of_goes goes, h.sound.prospers (.markSeen id) trivial turned⟩

/-- The end of a conversation with whoever belongs into a bucket that has a good contact by then. -/
theorem conclude (h : t.Settled lives localId slots) (usable : 1 ≤ slots) {reply : Reply}
    (told : ∀ p ∈ reply.told, Resident lives localId p) (good : (t.bucket i).HasGood now) :
    ∃ t', Conversation.conclude t now (some reply) = .ok (t', .ended (some (.ok reply))) ∧
      t'.Settled lives localId slots ∧ t.Prospers now t' ∧ (t'.bucket i).HasGood now := by
  obtain ⟨t', done, settled, prospers⟩ := h.addHearsay usable now told
  refine ⟨t', ?_, settled, prospers, h.sound.hasGood settled.sound prospers good⟩
  simp only [Conversation.conclude, Option.map_some, Option.getD_some, done]
  rfl

/-- Whoever answers comes to the table or is known there; or else its bucket is full, and a contact
that is online is challenged. -/
theorem observe (h : t.Settled lives localId slots) (usable : 1 ≤ slots) (now : Moment) {p : Peer}
    (index : t.index? p.id = some i) (resident : Resident lives localId p) {reply : Reply}
    (told : ∀ p ∈ reply.told, Resident lives localId p) :
    (∃ t', Conversation.observe t now p (some reply) = .ok (t', .ended (some (.ok reply))) ∧
        t'.Settled lives localId slots ∧ t.Prospers now t' ∧ (t'.bucket i).HasGood now) ∨
      ∃ oldest ∈ (t.bucket i).contacts, oldest.isOnline now = true ∧
        Conversation.observe t now p (some reply) =
          .ok (t, .waits (.challenging ⟨oldest, p⟩ (some reply))) := by
  obtain ⟨next, outcome, done, -⟩ := h.sound.offer usable now (.heard now p)
  obtain ⟨settled, first⟩ := h.offer .heard resident done
  rcases h.sound.seated_or_full usable now index with
    ⟨t', observed, -, look⟩ | ⟨oldest, rest, observed, full, split⟩
  · obtain rfl : next = t' := by
      rw [RoutingTable.observe, done] at observed
      cases outcome <;> cases observed <;> rfl
    have index' : next.index? p.id = some i := (h.sound.index?_eq settled.sound p.id).trans index
    rw [find?_of_index index'] at look
    obtain ⟨last, done', settled', second, good⟩ := settled.conclude usable told
      ⟨_, Bucket.mem_of_find? look, Contact.good_of_heard rfl rfl⟩
    refine .inl ⟨last, ?_, settled', first.trans second, good⟩
    rw [Conversation.observe, observed]
    exact done'
  · have member : oldest ∈ (t.bucket i).contacts := split ▸ List.mem_cons_self
    refine .inr ⟨oldest, member, ?_, ?_⟩
    · rw [Contact.isOnline_iff]
      exact fun bad => full (.inr (.inr ⟨oldest, member, bad⟩))
    · rw [Conversation.observe, observed]

/-- A contact that is still in the table meets its challenge. -/
theorem meet (h : t.Settled lives localId slots) (usable : 1 ≤ slots) {challenge : Challenge}
    (index : t.index? challenge.oldest.id = some i) {c : Contact}
    (here : t.find? challenge.oldest.id = some c) {reply : Reply}
    (told : ∀ p ∈ reply.told, Resident lives localId p) :
    ∃ t', Conversation.conclude (challenge.settle t now true) now (some reply) =
        .ok (t', .ended (some (.ok reply))) ∧
      t'.Settled lives localId slots ∧ t.Prospers now t' ∧ (t'.bucket i).HasGood now := by
  obtain ⟨settled, first⟩ := h.markSeen now challenge.oldest.id
  have index' : (t.markSeen now challenge.oldest.id).index? challenge.oldest.id = some i :=
    (h.sound.index?_eq settled.sound _).trans index
  have seen : (t.markSeen now challenge.oldest.id).find? challenge.oldest.id =
      some (c.touch now c.peer.address) := by
    rw [h.sound.find?_markSeen, Function.update_self, here]
    rfl
  rw [find?_of_index index'] at seen
  obtain ⟨last, done, settled', second, good⟩ := settled.conclude usable told
    ⟨_, Bucket.mem_of_find? seen, Contact.good_of_heard rfl rfl⟩
  exact ⟨last, done, settled', first.trans second, good⟩

end Settled
end RoutingTable
end LocalSwarm
