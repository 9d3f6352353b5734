import LocalSwarm.Proofs.Tables.Effects

/-! Where the contacts of a table come from. Every contact after a turn was there before, maybe with
less known of it, or is the newcomer; and conversations bring no other newcomers than those who
talked to us or were told of. Main statements: `Sound.kept_of_goes` and `goes_resume`. -/
namespace LocalSwarm

theorem Answer.read_eq_ok_iff {operation : Operation} {answer : Answer} {sender : Sender}
    {response : Response} : answer.read operation = .ok (sender, response) ↔
      ∃ m, answer = .ok m ∧ m.sender = sender ∧ m.body = .response response ∧
        response.operation = operation := by
  constructor
  · intro heard
    unfold Answer.read at heard
    split at heard
    · cases heard
    · rename_i m
      split at heard
      · rename_i r body
        split at heard
        · rename_i same
          cases heard
          exact ⟨m, rfl, rfl, body, same⟩
        · cases heard
      · cases heard
      · cases heard
  · rintro ⟨m, rfl, rfl, body, rfl⟩
    simp [Answer.read, body]

namespace RoutingTable

variable {t t' : RoutingTable} {localId : Identifier} {slots : Nat} {now : Moment}

/-! ### What turns bring -/

/-- What a contact can be after a turn. -/
inductive Arises (s : Timed) : Turn → Contact → Prop
  | stays {turn : Turn} {c : Contact} : c ∈ s.table.contacts → Arises s turn c
  | enters {turn : Turn} {newcomer : Contact} : turn.newcomer? = some newcomer →
      Arises s turn newcomer
  | learns {turn : Turn} {newcomer known : Contact} : turn.newcomer? = some newcomer →
      known ∈ s.table.contacts → known.id = newcomer.id → Arises s turn (known.learn newcomer)
  | seen {c : Contact} : c ∈ s.table.contacts →
      Arises s (.markSeen c.id) (c.touch s.now c.peer.address)
  | failed {c : Contact} : c ∈ s.table.contacts → Arises s (.requestFailed c.id) c.fail

namespace Sound

variable {s s' : Timed} {turn : Turn}

theorem arises (h : s.table.Sound localId slots) (done : s.turn turn = .ok s') {c : Contact}
    (member : c ∈ s'.table.contacts) : Arises s turn c := by
  have found : s'.table.find? c.id = some c :=
    (h.of_turn done).find?_eq_some_iff.2 ⟨member, rfl⟩
  have old {id : Identifier} {c : Contact} (found : s.table.find? id = some c) :
      c ∈ s.table.contacts ∧ c.id = id := h.find?_eq_some_iff.1 found
  have effect := h.effect done
  generalize s'.table.find? = look at effect found
  cases effect with
  | @learns _ newcomer known offered present =>
    rw [Function.update_apply] at found
    split at found
    · cases found
      exact .learns offered (old present).1 (old present).2
    · exact .stays (old found).1
  | @enters _ newcomer offered =>
    rw [Function.update_apply] at found
    split at found
    · cases found
      exact .enters offered
    · exact .stays (old found).1
  | @exchanges _ newcomer leaver offered =>
    rw [Function.update_apply] at found
    split at found
    · cases found
      exact .enters offered
    · rw [Function.update_apply] at found
      split at found
      · cases found
      · exact .stays (old found).1
  | refuses => exact .stays (old found).1
  | sees id =>
    rw [Function.update_apply] at found
    split at found
    · obtain ⟨known, present, rfl⟩ := Option.map_eq_some_iff.1 found
      obtain ⟨inside, rfl⟩ := old present
      exact .seen inside
    · exact .stays (old found).1
  | fails id =>
    rw [Function.update_apply] at found
    split at found
    · obtain ⟨known, present, rfl⟩ := Option.map_eq_some_iff.1 found
      obtain ⟨inside, rfl⟩ := old present
      exact .failed inside
    · exact .stays (old found).1
  | elapses => exact .stays (old found).1

end Sound

/-- Newcomers are welcome peers of whom no failure is known, and failures are counted only of those
who are to blame. -/
def Turn.Within (welcome : Peer → Prop) (blamed : Identifier → Prop) : Turn → Prop
  | .offer newcomer => welcome newcomer.peer ∧ newcomer.failures = 0
  | .replace _ newcomer => welcome newcomer.peer ∧ newcomer.failures = 0
  | .markSeen _ => True
  | .requestFailed id => blamed id
  | .elapse _ => True

theorem Turn.Within.newcomer {welcome : Peer → Prop} {blamed : Identifier → Prop} {turn : Turn}
    (within : turn.Within welcome blamed) {newcomer : Contact}
    (offered : turn.newcomer? = some newcomer) : welcome newcomer.peer ∧ newcomer.failures = 0 := by
  cases turn with
  | offer | replace =>
    cases offered
    exact within
  | markSeen | requestFailed | elapse => cases offered

/-- From one to the other by such turns alone. -/
def Timed.Goes (welcome : Peer → Prop) (blamed : Identifier → Prop) (s s' : Timed) : Prop :=
  ∃ turns : List Turn, (∀ turn ∈ turns, turn.Within welcome blamed) ∧ s.run turns = .ok s'

variable {welcome : Peer → Prop} {blamed : Identifier → Prop}

namespace Timed

theorem Goes.refl (s : Timed) : s.Goes welcome blamed s := ⟨[], nofun, rfl⟩

theorem Goes.trans {s s' s'' : Timed} (first : s.Goes welcome blamed s')
    (second : s'.Goes welcome blamed s'') : s.Goes welcome blamed s'' := by
  obtain ⟨turns, within, done⟩ := first
  obtain ⟨more, within', done'⟩ := second
  refine ⟨turns ++ more, List.forall_mem_append.2 ⟨within, within'⟩, ?_⟩
  rw [run_append, done]
  exact done'

theorem goes_of_turn {s s' : Timed} (turn : Turn) (within : turn.Within welcome blamed)
    (done : s.turn turn = .ok s') : s.Goes welcome blamed s' := by
  refine ⟨[turn], List.forall_mem_singleton.2 within, ?_⟩
  rw [run, done]
  rfl

theorem Goes.sound {s s' : Timed} (goes : s.Goes welcome blamed s')
    (h : s.table.Sound localId slots) : s'.table.Sound localId slots := by
  obtain ⟨turns, -, done⟩ := goes
  exact h.of_run done

end Timed

/-- What holds of newcomers and of all that contacts become holds of all contacts of a table if it
did so before. -/
theorem Sound.kept_of_goes {s s' : Timed} (h : s.table.Sound localId slots) {P : Contact → Prop}
    (enters : ∀ c : Contact, welcome c.peer → c.failures = 0 → P c)
    (learns : ∀ known newcomer : Contact, P known → welcome newcomer.peer → newcomer.failures = 0 →
      known.id = newcomer.id → P (known.learn newcomer))
    (seen : ∀ (c : Contact) (now : Moment), P c → P (c.touch now c.peer.address))
    (failed : ∀ c : Contact, P c → blamed c.id → P c.fail) (goes : s.Goes welcome blamed s')
    (before : ∀ c ∈ s.table.contacts, P c) : ∀ c ∈ s'.table.contacts, P c := by
  obtain ⟨turns, within, done⟩ := goes
  induction turns generalizing s with
  | nil =>
    cases done
    exact before
  | cons turn turns ih =>
    obtain ⟨next, first, rest⟩ := Timed.run_cons_eq_ok_iff.1 done
    obtain ⟨allowed, later⟩ := List.forall_mem_cons.1 within
    refine ih (h.of_turn first) (fun c member => ?_) later rest
    cases h.arises first member with
    | stays old => exact before c old
    | enters offered =>
      obtain ⟨fit, blameless⟩ := allowed.newcomer offered
      exact enters c fit blameless
    | learns offered old same =>
      obtain ⟨fit, blameless⟩ := allowed.newcomer offered
      exact learns _ _ (before _ old) fit blameless same
    | seen old => exact seen _ _ (before _ old)
    | failed old => exact failed _ (before _ old) allowed

/-! ### What conversations bring -/

theorem goes_offer {newcomer : Contact} {outcome : Offer} (fit : welcome newcomer.peer)
    (blameless : newcomer.failures = 0) (done : t.offer now newcomer = .ok (t', outcome)) :
    Timed.Goes welcome blamed ⟨t, now⟩ ⟨t', now⟩ := by
  refine Timed.goes_of_turn (.offer newcomer) ⟨fit, blameless⟩ ?_
  rw [Timed.turn, done]
  rfl

theorem goes_addHearsay {ps : List Peer} (told : ∀ p ∈ ps, welcome p)
    (done : t.addHearsay now ps = .ok t') : Timed.Goes welcome blamed ⟨t, now⟩ ⟨t', now⟩ := by
  induction ps generalizing t with
  | nil =>
    cases done
    exact .refl _
  | cons p ps ih =>
    obtain ⟨fit, others⟩ := List.forall_mem_cons.1 told
    rw [addHearsay] at done
    split at done
    · rename_i next outcome offered
      exact (goes_offer fit rfl offered).trans (ih others done)
    · cases done

theorem goes_settle (challenge : Challenge) (met : Bool) (fit : welcome challenge.newcomer) :
    Timed.Goes welcome blamed ⟨t, now⟩ ⟨challenge.settle t now met, now⟩ := by
  cases met with
  | true => exact Timed.goes_of_turn (.markSeen challenge.oldest.id) trivial rfl
  | false =>
    exact Timed.goes_of_turn (.replace challenge.oldest.id (.heard now challenge.newcomer))
      ⟨fit, rfl⟩ rfl

/-- Whom a reply tells of is welcome. -/
def Told (welcome : Peer → Prop) (reply : Option Reply) : Prop :=
  ∀ r ∈ reply, ∀ p ∈ r.told, welcome p

/-- Whom a conversation may still bring to the table is welcome. -/
def Knows (welcome : Peer → Prop) : Conversation → Prop
  | .calling _ => True
  | .challenging challenge reply => welcome challenge.newcomer ∧ Told welcome reply

/-- Whoever answers, from whatever host, and all that the answer tells of are welcome. -/
structure Introduces (welcome : Peer → Prop) (m : Message) : Prop where
  sender : ∀ host, welcome (m.sender.peerAt host)
  told : ∀ p response, m.body = .response response → ∀ q ∈ (Reply.mk p response).told, welcome q

theorem Introduces.of_all (all : ∀ p, welcome p) (m : Message) : Introduces welcome m :=
  ⟨fun _ => all _, fun _ _ _ q _ => all q⟩

theorem goes_conclude {reply : Option Reply} {progress : Progress} (told : Told welcome reply)
    (done : Conversation.conclude t now reply = .ok (t', progress)) :
    Timed.Goes welcome blamed ⟨t, now⟩ ⟨t', now⟩ := by
  unfold Conversation.conclude at done
  cases heard : t.addHearsay now ((reply.map Reply.told).getD []) with
  | error fault =>
    rw [heard] at done
    cases done
  | ok next =>
    rw [heard] at done
    cases done
    refine goes_addHearsay (fun p member => ?_) heard
    cases reply with
    | none => cases member
    | some r => exact told r rfl p member

/-- Observing a peer brings that peer, and those that its reply tells of. -/
theorem goes_observe {p : Peer} (reply : Option Reply) {progress : Progress} (fit : welcome p)
    (told : Told welcome reply)
    (done : Conversation.observe t now p reply = .ok (t', progress)) :
    Timed.Goes welcome blamed ⟨t, now⟩ ⟨t', now⟩ ∧ ∀ c, progress = .waits c → Knows welcome c ∧
      ∃ challenge, c = .challenging challenge reply := by
  unfold Conversation.observe RoutingTable.observe at done
  cases offered : t.offer now (.heard now p) with
  | error fault =>
    rw [offered] at done
    cases done
  | ok result =>
    obtain ⟨next, outcome⟩ := result
    have goes : Timed.Goes welcome blamed ⟨t, now⟩ ⟨next, now⟩ := goes_offer fit rfl offered
    rw [offered] at done
    cases outcome with
    | full oldest =>
      cases done
      refine ⟨goes, ?_⟩
      rintro _ ⟨⟩
      exact ⟨⟨fit, told⟩, _, rfl⟩
    | ourselves | inserted | updated =>
      refine ⟨goes.trans (goes_conclude told done), ?_⟩
      rintro c rfl
      exact absurd done Conversation.conclude_ne_waits

/-- An answer brings who answered and those that it tells of, or else the newcomer of a challenge.
It is held against a contact if it is no answer to the call. -/
theorem goes_resume {version : UInt16} {answer : Answer} {c : Conversation} {progress : Progress}
    (knows : Knows welcome c) (brings : ∀ m, answer = .ok m → Introduces welcome m)
    (blames : ∀ p request e, c = .calling ⟨.contact p, request⟩ →
      answer.read request.operation = .error e → blamed p.id)
    (done : c.resume version t now answer = .ok (t', progress)) :
    Timed.Goes welcome blamed ⟨t, now⟩ ⟨t', now⟩ ∧
      ∀ c', progress = .waits c' → Knows welcome c' := by
  cases c with
  | calling call =>
    rw [Conversation.resume] at done
    split at done
    · rename_i e failed
      cases done
      refine ⟨?_, by rintro _ ⟨⟩⟩
      obtain ⟨callee, request⟩ := call
      cases callee with
      | contact p =>
        exact Timed.goes_of_turn (.requestFailed p.id) (blames p request e rfl failed) rfl
      | endpoint => exact .refl _
    · rename_i sender response read
      split at done
      · cases done
        exact ⟨.refl _, by rintro _ ⟨⟩⟩
      · obtain ⟨m, rfl, rfl, body, -⟩ := Answer.read_eq_ok_iff.1 read
        have brought := brings m rfl
        obtain ⟨goes, later⟩ := goes_observe (some ⟨_, response⟩) (brought.sender _)
          (by rintro _ ⟨⟩; exact brought.told _ _ body) done
        exact ⟨goes, fun c' waits => (later c' waits).1⟩
  | challenging challenge reply =>
    exact ⟨(goes_settle challenge _ knows.1).trans (goes_conclude knows.2 done),
      fun c' waits => absurd (waits ▸ done) Conversation.conclude_ne_waits⟩

end RoutingTable
end LocalSwarm
