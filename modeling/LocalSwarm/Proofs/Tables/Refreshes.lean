import LocalSwarm.Proofs.Tables.Exchanges
import LocalSwarm.Proofs.Tables.Stories

/-! Whom an answered call refreshes: the contact under whose identifier it was answered. As long as
that is the contact that was called, it is good afterwards; an answer under another identifier is
taken for one of that contact's, and leaves the called one as it was. Main statement:
`answers_refresh_their_sender`; that a contact that was called with success need not be refreshed is
`stranger_answers_in_place_of_contact`. -/
namespace LocalSwarm.RoutingTable

variable {t t' : RoutingTable} {localId : Identifier} {slots : Nat} {now : Moment}

namespace Timed

variable {s s' : Timed}

theorem now_le_of_turn {turn : Turn} (done : s.turn turn = .ok s') : s.now ≤ s'.now := by
  cases turn with
  | offer newcomer =>
    obtain ⟨outcome, -, same⟩ := offer_of_turn done
    exact Nat.le_of_eq same.symm
  | replace | markSeen | requestFailed =>
    cases done
    exact Nat.le_refl _
  | elapse span =>
    cases done
    exact Nat.le_add_right _ span

/-- Time does not go back. -/
theorem now_le_of_run {turns : List Turn} (done : s.run turns = .ok s') : s.now ≤ s'.now := by
  induction turns generalizing s with
  | nil =>
    cases done
    exact Nat.le_refl _
  | cons turn turns ih =>
    obtain ⟨next, first, rest⟩ := run_cons_eq_ok_iff.1 done
    exact Nat.le_trans (now_le_of_turn first) (ih rest)

end Timed

/-! ### Contacts of which nothing new was heard -/

/-- A contact that is still there was not heard from: it is what it was, but for what others told,
or only others told of it. -/
def Unheard (before after : Option Contact) : Prop :=
  ∀ c' ∈ after, c'.lastActive = none ∨ ∃ c ∈ before, c.Spared c'

theorem Unheard.refl (c : Option Contact) : Unheard c c := fun c' here => .inr ⟨c', here, .refl c'⟩

theorem Unheard.trans {c c' c'' : Option Contact} (first : Unheard c c') (second : Unheard c' c'') :
    Unheard c c'' := by
  intro last here
  rcases second last here with silent | ⟨middle, here', spared⟩
  · exact .inl silent
  · rcases first middle here' with silent | ⟨known, here'', spared'⟩
    · exact .inl (spared.lastActive.trans silent)
    · exact .inr ⟨known, here'', spared'.trans spared⟩

theorem Fate.unheard {deed : Deed} {id : Identifier} {before after : Option Contact}
    (fate : Fate now deed id before after) (unconcerned : ¬ deed.Concerns id) :
    Unheard before after := by
  intro c' here
  cases fate with
  | heard hears => exact absurd (.inl hears) unconcerned
  | failed same => exact absurd (.inr same) unconcerned
  | entered _ silent =>
    cases here
    exact .inl silent
  | kept _ spared =>
    cases here
    exact .inr ⟨_, rfl, spared⟩
  | absent => cases here

theorem Sound.unheard_offer (h : t.Sound localId slots) (account : Account) {p : Peer}
    {outcome : Offer} (done : t.offer now (account.contact now p) = .ok (t', outcome))
    {id : Identifier} (other : ¬ (Deed.offer account p).Concerns id) :
    Unheard (t.find? id) (t'.find? id) := by
  have turned : Timed.turn ⟨t, now⟩ ((Deed.offer account p).turn now) = .ok ⟨t', now⟩ := by
    rw [Deed.turn, Timed.turn, done]
    rfl
  have sound : (Timed.mk t now).table.Sound localId slots := h
  exact ((sound.effect turned).fate id).unheard other

theorem Sound.unheard_addHearsay (h : t.Sound localId slots) {ps : List Peer}
    (done : t.addHearsay now ps = .ok t') (id : Identifier) :
    Unheard (t.find? id) (t'.find? id) := by
  induction ps generalizing t with
  | nil =>
    cases done
    exact .refl _
  | cons p ps ih =>
    rw [RoutingTable.addHearsay] at done
    split at done
    · rename_i next outcome offered
      have unconcerned : ¬ (Deed.offer .told p).Concerns id := by
        rintro (heard | failed)
        · cases (of_decide_eq_true heard).2
        · cases failed
      have first : Unheard (t.find? id) (next.find? id) :=
        h.unheard_offer .told offered unconcerned
      exact first.trans (ih (h.of_offer offered) done)
    · cases done

/-! ### Observing a peer -/

/-- A peer that is known is refreshed, and challenges nobody. -/
theorem Sound.observe_known (h : t.Sound localId slots) (usable : 1 ≤ slots) (now : Moment)
    {p : Peer} {known : Contact} (found : t.find? p.id = some known) :
    ∃ t', t.observe now p = .ok (t', none) ∧ t'.Sound localId slots ∧
      t'.find? p.id = some (known.learn (.heard now p)) := by
  obtain ⟨t', outcome, done, sound⟩ := h.offer usable now (.heard now p)
  have known' : t.find? (Contact.heard now p).id = some known := found
  rcases offer_cases done with ⟨ourselves, -⟩ | ⟨i, b, index, changed, offered⟩
  · cases (find?_ourselves ourselves).symm.trans known'
  · rw [find?_of_index index] at known'
    have look : t'.find? p.id = b.find? p.id := by
      rw [changed, find?_setBucket]
      exact if_pos index
    cases offered with
    | @heard known'' found'' =>
      cases found''.symm.trans known'
      refine ⟨t', by rw [RoutingTable.observe, done]; rfl, sound, ?_⟩
      have same := Bucket.id_of_find? known'
      have renamed : (known.learn (.heard now p)).id = known.id := Contact.id_learn same.symm
      rw [look, (h.bucket i).find?_moved renamed, Function.update_apply, same]
      exact if_pos rfl
    | told _ silent => cases silent
    | free unknown | instead unknown | full unknown => cases unknown.symm.trans known'

theorem Sound.unheard_observe (h : t.Sound localId slots) {p : Peer} {challenge : Option Challenge}
    (done : t.observe now p = .ok (t', challenge)) {id : Identifier} (other : id ≠ p.id) :
    Unheard (t.find? id) (t'.find? id) := by
  have unconcerned : ¬ (Deed.offer .heard p).Concerns id := by
    rintro (heard | failed)
    · exact other (of_decide_eq_true heard).1.symm
    · cases failed
  rw [RoutingTable.observe] at done
  cases offered : t.offer now (.heard now p) with
  | error fault =>
    rw [offered] at done
    cases done
  | ok result =>
    obtain ⟨next, outcome⟩ := result
    have same : next = t' := by
      rw [offered] at done
      cases outcome <;> cases done <;> rfl
    subst same
    exact h.unheard_offer .heard offered unconcerned

/-! ### Calls that are answered -/

/-- The end of a call leaves those as they were who did not answer it. -/
theorem Sound.unheard_conversation (h : t.Sound localId slots) (usable : 1 ≤ slots) {p : Peer}
    {reply : Option Reply} {progress : Progress}
    (done : Conversation.observe t now p reply = .ok (t', progress)) {id : Identifier}
    (other : id ≠ p.id) : Unheard (t.find? id) (t'.find? id) := by
  obtain ⟨next, challenge, observed, -, sound⟩ := h.observe usable now p
  have first := h.unheard_observe observed other
  rw [Conversation.observe, observed] at done
  cases challenge with
  | some challenge =>
    cases done
    exact first
  | none =>
    obtain ⟨last, told, -⟩ := sound.addHearsay usable now ((reply.map Reply.told).getD [])
    simp only [Conversation.conclude, told] at done
    cases done
    exact first.trans (sound.unheard_addHearsay told id)

/-- A call that a contact of the table answers itself ends at once, and leaves it good. -/
theorem Sound.refreshed (h : t.Sound localId slots) (usable : 1 ≤ slots) (now : Moment) {p : Peer}
    {known : Contact} (found : t.find? p.id = some known) (reply : Reply) :
    ∃ t' c, Conversation.observe t now p (some reply) = .ok (t', .ended (some (.ok reply))) ∧
      t'.find? p.id = some c ∧ c.status now = .good ∧ c.lastActive = some now := by
  obtain ⟨next, observed, sound, look⟩ := h.observe_known usable now found
  obtain ⟨last, told, -⟩ := sound.addHearsay usable now reply.told
  have good : (known.learn (.heard now p)).status now = .good := by
    rw [Contact.status_eq_good_iff]
    exact ⟨Nat.zero_lt_succ 1, now, rfl, by rw [Nat.sub_self]; decide⟩
  obtain ⟨member, same⟩ := sound.find?_eq_some_iff.1 look
  have online : (known.learn (.heard now p)).status now ≠ .bad := by
    rw [good]
    decide
  -- What the answer told of cannot harm a contact that is good.
  obtain ⟨c, kept, spared⟩ := (sound.unharmed told).stays _ member online
  refine ⟨last, c, ?_, same ▸ kept, ?_, spared.lastActive⟩
  · rw [Conversation.observe, observed]
    simp only [Conversation.conclude, Option.map_some, Option.getD_some, told]
    rfl
  · rw [← good, Contact.status, Contact.status, spared.failures, spared.lastActive]

/-- A contact was called, and an answer has come after whatever else was done meanwhile. If it came
under the identifier of the contact, this one is good and was heard from no earlier than the call;
if not, the contact is not refreshed. -/
theorem answers_refresh_their_sender (localId : Identifier) (slots : Nat) (usable : 1 ≤ slots)
    (start : Moment) (turns meanwhile : List Turn) (s s' : Timed)
    (reached : Timed.run ⟨fresh localId slots, start⟩ turns = .ok s)
    (later : s.run meanwhile = .ok s') (c : Contact) (request : Request) (version : UInt16)
    (answer : Answer) (sender : Sender) (response : Response)
    (answered : answer.read request.operation = .ok (sender, response)) :
    ∃ t progress, Conversation.resume version s'.table s'.now answer
        (.calling ⟨.contact c.peer, request⟩) = .ok (t, progress) ∧
      (sender.id = c.id → c.id ∈ s'.table.ids →
        progress = .ended (some (.ok ⟨sender.peerAt c.peer.address.ip, response⟩)) ∧
          ∃ c', t.find? c.id = some c' ∧ c'.status s'.now = .good ∧
            ∃ seen, c'.lastActive = some seen ∧ s.now ≤ seen) ∧
      (sender.id ≠ c.id → Unheard (s'.table.find? c.id) (t.find? c.id)) := by
  have first : (Timed.mk (fresh localId slots) start).table.Sound localId slots := sound_fresh
  have sound : s'.table.Sound localId slots := (first.of_run reached).of_run later
  have resumed : Conversation.resume version s'.table s'.now answer
      (.calling ⟨.contact c.peer, request⟩) = Conversation.observe s'.table s'.now
        (sender.peerAt c.peer.address.ip) (some ⟨sender.peerAt c.peer.address.ip, response⟩) := by
    simp only [Conversation.resume, answered, Conversation.admits]
    rfl
  rw [resumed]
  by_cases own : sender.id = c.id ∧ c.id ∈ s'.table.ids
  · obtain ⟨same, present⟩ := own
    rw [sound.mem_ids_iff, ← same] at present
    obtain ⟨known, found⟩ := Option.isSome_iff_exists.1 present
    obtain ⟨t, c', done, look, good, seen⟩ := sound.refreshed usable s'.now
      (p := sender.peerAt c.peer.address.ip) found ⟨sender.peerAt c.peer.address.ip, response⟩
    refine ⟨t, _, done, fun _ _ => ⟨rfl, c', same ▸ look, good, s'.now, seen, ?_⟩, fun other => ?_⟩
    · exact Timed.now_le_of_run later
    · exact absurd same other
  · obtain ⟨t, progress, done, -⟩ := (sound.conversing usable).observes
      (sender.peerAt c.peer.address.ip) (some ⟨sender.peerAt c.peer.address.ip, response⟩)
    refine ⟨t, progress, done, fun same present => absurd ⟨same, present⟩ own, fun other => ?_⟩
    exact sound.unheard_conversation usable done other.symm

/-! A contact of which the table was only told is called, and answers itself; or somebody else has
its address by then. -/

namespace Rumours

/-- A peer answers a ping. -/
def pong (p : Peer) : Answer := .ok ⟨0, ⟨p.id, p.address.port, p.machine⟩, .response .ping⟩

def succeeded : Progress → Bool
  | .ended (some (.ok _)) => true
  | _ => false

theorem own_answer_refreshes :
    ∃ s s', Timed.run ⟨fresh ⟨1⟩ 2, 0⟩ [.offer (.hearsay loft)] = .ok s ∧
      s.run [.elapse 1] = .ok s' ∧ loft.id ∈ s'.table.ids ∧
      ∃ t, Conversation.resume 1 s'.table s'.now (pong loft) (.calling ⟨.contact loft, .ping⟩) =
          .ok (t, .ended (some (.ok ⟨loft, .ping⟩))) ∧
        ∃ c', t.find? loft.id = some c' ∧ c'.status s'.now = .good ∧
          ∃ seen, c'.lastActive = some seen ∧ s.now ≤ seen := by
  have start : (fresh ⟨1⟩ 2).Sound ⟨1⟩ 2 := sound_fresh
  obtain ⟨s, reached, sound⟩ :=
    Sound.run (s := ⟨fresh ⟨1⟩ 2, 0⟩) start (by decide) [.offer (.hearsay loft)]
  obtain ⟨s', later, -⟩ := sound.run (by decide) [.elapse 1]
  have outcome : ((Timed.run ⟨fresh ⟨1⟩ 2, 0⟩ [.offer (.hearsay loft)]).bind fun s =>
      s.run [.elapse 1]).toOption.map (fun s => decide (loft.id ∈ s.table.ids)) = some true := by
    decide +kernel
  rw [reached] at outcome
  have told : (Except.ok s : Except Fault Timed).bind (fun s => s.run [.elapse 1]) = .ok s' := later
  rw [told] at outcome
  have present : loft.id ∈ s'.table.ids := of_decide_eq_true (Option.some.inj outcome)
  obtain ⟨t, progress, done, own, -⟩ := answers_refresh_their_sender ⟨1⟩ 2 (by decide) 0
    [.offer (.hearsay loft)] [.elapse 1] s s' reached later (.hearsay loft) .ping 1 (pong loft)
    ⟨loft.id, 4400, "loft"⟩ .ping rfl
  obtain ⟨ended, refreshed⟩ := own rfl present
  exact ⟨s, s', reached, later, present, t, ended ▸ done, refreshed⟩

/-- The call has succeeded, and the contact that was called was never heard from. -/
theorem stranger_answers_in_place_of_contact :
    ∃ s, Timed.run ⟨fresh ⟨1⟩ 2, 0⟩ [.offer (.hearsay loft)] = .ok s ∧
      s.table.contacts = [.hearsay loft] ∧
      ∃ t reply, Conversation.resume 1 s.table s.now (pong cellar)
          (.calling ⟨.contact loft, .ping⟩) = .ok (t, .ended (some (.ok reply))) ∧
        t.find? loft.id = some (.hearsay loft) ∧
        (Contact.hearsay loft).status s.now = .questionable := by
  have start : (fresh ⟨1⟩ 2).Sound ⟨1⟩ 2 := sound_fresh
  obtain ⟨s, reached, -⟩ :=
    Sound.run (s := ⟨fresh ⟨1⟩ 2, 0⟩) start (by decide) [.offer (.hearsay loft)]
  have outcome : (Timed.run ⟨fresh ⟨1⟩ 2, 0⟩ [.offer (.hearsay loft)]).toOption.map (fun s =>
      (s.table.contacts, (Conversation.resume 1 s.table s.now (pong cellar)
        (.calling ⟨.contact loft, .ping⟩)).toOption.map fun result =>
          (result.1.find? loft.id, succeeded result.2))) =
      some ([.hearsay loft], some (some (.hearsay loft), true)) := by
    decide +kernel
  rw [reached] at outcome
  obtain ⟨contacts, answered⟩ := Prod.mk.inj (Option.some.inj outcome)
  cases resumed : Conversation.resume 1 s.table s.now (pong cellar)
    (.calling ⟨.contact loft, .ping⟩) with
  | error fault =>
    rw [resumed] at answered
    cases answered
  | ok result =>
    rw [resumed] at answered
    obtain ⟨look, ended⟩ := Prod.mk.inj (Option.some.inj answered)
    obtain ⟨t, progress⟩ := result
    unfold succeeded at ended
    split at ended
    · rename_i same
      obtain rfl : progress = _ := same
      exact ⟨s, reached, contacts, t, _, resumed, look, rfl⟩
    · cases ended

end Rumours
end LocalSwarm.RoutingTable
