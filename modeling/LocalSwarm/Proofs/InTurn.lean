import LocalSwarm.Proofs.Probes
import LocalSwarm.Proofs.Records
import LocalSwarm.Proofs.Tables.Rotations
import LocalSwarm.Simulation.World

/-! Plans whose calls end in the order in which they were made, in a world that does nothing else to
the node. Main statements: that is one of the ways in which a plan can go (`Calm.run_of_inTurn`), what
every call leaves to the next one is left by all that are gathered (`Carries.inTurn_gather`), and a
probe that is made again tells the same (`probing_twice_agrees`). -/
namespace LocalSwarm

theorem holders_eq_filter {file : FileQuery} {size : UInt64} {version : String}
    {candidates : List Peer} {outcomes : List (Nat × Outcome)} {h : List Happening}
    {holder : Peer → Bool}
    (g : Plan.Gathering (candidates.map fun p => ⟨.contact p, .checkFile file⟩) [] [] outcomes h)
    (told : ∀ slot p outcome, candidates[slot]? = some p → (slot, outcome) ∈ outcomes →
      Outcome.qualifies size version outcome = holder p) :
    holders size version candidates outcomes = candidates.filter holder := by
  have each : ∀ x ∈ candidates.zipIdx, ((outcomes.lookup x.2).bind Outcome.status?).any
      (DownloadRequest.qualifies size version) = holder x.1 := by
    rintro ⟨p, slot⟩ member
    have at' := List.mem_zipIdx_iff_getElem?.1 member
    obtain ⟨outcome, found⟩ := g.complete slot (by
      rw [List.length_map]
      exact (List.getElem?_eq_some_iff.1 at').1)
    rw [found, Option.bind_some]
    exact told slot p outcome at' (mem_of_lookup_eq_some found)
  rw [holders, List.filter_congr each]
  change (candidates.zipIdx.filter (holder ∘ Prod.fst)).map Prod.fst = _
  rw [← List.filter_map, List.zipIdx_map_fst]

namespace Simulation

/-- A call whose request is on its way. -/
structure Sent where
  slot : Nat
  call : Call
  message : Message

def Sent.slotted (x : Sent) : Nat × Call := (x.slot, x.call)

theorem Sent.eraseP_slotted (x : Sent) (xs : List (Nat × Call)) :
    (x.slotted :: xs).eraseP (·.1 == x.slot) = xs := List.eraseP_cons_of_pos BEq.rfl

namespace World

variable {ω : Type} (w : World ω)

/-- Calls go out, one after the other. -/
def sendAll (s : ω) : List (Nat × Call) → ω × List Sent
  | [] => (s, [])
  | (slot, call) :: calls =>
    let (s, message, _) := w.depart s (.calling call)
    let (s, sent) := sendAll s calls
    (s, ⟨slot, call, message⟩ :: sent)

/-- The answer to a call comes in, and its conversation is held to its end. -/
def settle (s : ω) (x : Sent) : Except Fault (ω × Option Outcome) :=
  match w.arrive s (.calling x.call) x.message with
  | .error fault => .error fault
  | .ok (s, .ended outcome) => .ok (s, outcome)
  | .ok (s, .waits c) => w.converse s c

/-- Carry out a plan whose calls end in the order in which they were made. There is no result if it
waits for nothing. -/
def inTurn {α : Type} : Plan α → List Sent → ω → Except Fault (ω × Option α)
  | .done result, _, s => .ok (s, some result)
  | .broken fault, _, _ => .error fault
  | .look next, sent, s => inTurn (next (w.site s)) sent s
  | .change effect next, sent, s => inTurn next sent (w.update s (effect (w.site s)))
  | .await _ calls _ next, sent, s =>
    let (s, more) := w.sendAll s calls
    match sent ++ more with
    | [] => .ok (s, none)
    | x :: sent =>
      match w.settle s x with
      | .error fault => .error fault
      | .ok (s, some outcome) => inTurn (next x.slot outcome) sent s
      | .ok (s, none) => .ok (s, none)

/-- Surroundings that leave a node and its files alone but for the answers that they give, and for
the time that passes until then. -/
structure Calm (w : World ω) : Prop where
  update : ∀ s site, w.site (w.update s site) = site
  send : ∀ s address message, w.site (w.send s address message).1 = w.site s
  receive : ∀ s s' address message answer, w.receive s address message = .ok (s', answer) →
    ∃ now, w.site s' = { w.site s with now }

variable {w}

theorem slotted_sendAll (s : ω) (calls : List (Nat × Call)) :
    (w.sendAll s calls).2.map Sent.slotted = calls := by
  induction calls generalizing s with
  | nil => rfl
  | cons x calls ih => exact congrArg _ (ih _)

/-! ### Conversations leave the files alone -/

section Files

variable {s s' : ω}

theorem Calm.files_depart (calm : w.Calm) (s : ω) (c : Conversation) :
    (w.site (w.depart s c).1).files = (w.site s).files := by
  rw [depart]
  dsimp only
  rw [calm.send, calm.update]

theorem Calm.files_sendAll (calm : w.Calm) (s : ω) (calls : List (Nat × Call)) :
    (w.site (w.sendAll s calls).1).files = (w.site s).files := by
  induction calls generalizing s with
  | nil => rfl
  | cons x calls ih => exact (ih _).trans (calm.files_depart s _)

theorem Calm.files_arrive (calm : w.Calm) {c : Conversation} {message : Message}
    {progress : Progress} (arrived : w.arrive s c message = .ok (s', progress)) :
    (w.site s').files = (w.site s).files := by
  unfold arrive at arrived
  split at arrived
  · cases arrived
  · rename_i received
    obtain ⟨now, same⟩ := calm.receive _ _ _ _ _ received
    dsimp only at arrived
    split at arrived
    · cases arrived
    · cases arrived
      rw [calm.update, same]

theorem Calm.files_converse (calm : w.Calm) {c : Conversation} {outcome : Option Outcome}
    (ended : w.converse s c = .ok (s', outcome)) : (w.site s').files = (w.site s).files := by
  induction deep : c.depth using Nat.strong_induction_on generalizing s c with
  | h depth ih =>
    rw [converse] at ended
    dsimp only at ended
    split at ended
    · cases ended
    · rename_i arrived
      cases ended
      rw [calm.files_arrive arrived, calm.files_depart]
    · rename_i arrived
      rw [ih _ (deep ▸ depth_arrive arrived) ended rfl, calm.files_arrive arrived, calm.files_depart]

theorem Calm.files_settle (calm : w.Calm) {x : Sent} {outcome : Option Outcome}
    (ended : w.settle s x = .ok (s', outcome)) : (w.site s').files = (w.site s).files := by
  unfold settle at ended
  split at ended
  · cases ended
  · rename_i arrived
    cases ended
    exact calm.files_arrive arrived
  · rename_i arrived
    rw [calm.files_converse ended, calm.files_arrive arrived]

end Files

/-- To carry out a plan in this way is one of the ways in which it can go. -/
theorem Calm.run_of_inTurn (calm : w.Calm) {α : Type} {p : Plan α} {sent : List Sent} {s s' : ω}
    {result : α} (done : w.inTurn p sent s = .ok (s', some result)) :
    ∃ h out, Run p ⟨sent.map Sent.slotted, w.site s⟩ h ⟨out, w.site s'⟩ (.ok result) := by
  induction p generalizing sent s with
  | done =>
    cases done
    exact ⟨[], _, .done _⟩
  | broken => cases done
  | look next ih =>
    obtain ⟨h, out, run⟩ := ih _ done
    exact ⟨h, out, .look run⟩
  | change effect next ih =>
    obtain ⟨h, out, run⟩ := ih done
    rw [calm.update] at run
    exact ⟨h, out, .change run⟩
  | await first calls dropped next ih =>
    rw [inTurn] at done
    dsimp only at done
    split at done
    · cases done
    · rename_i x rest queue
      have out : sent.map Sent.slotted ++ calls = x.slotted :: rest.map Sent.slotted := by
        rw [← slotted_sendAll (w := w) s calls, ← List.map_append, queue, List.map_cons]
      split at done
      · cases done
      · rename_i s₁ outcome settled
        obtain ⟨h, out', run⟩ := ih _ _ done
        let past : List Happening := [.elapsed (w.site s₁).node (w.site s₁).now]
        have passes : Passes (w.site s) past (w.site s₁) := by
          have files : (w.site s₁).files = (w.site s).files := by
            rw [calm.files_settle settled, calm.files_sendAll]
          refine .elapsed _ _ ?_
          rw [← files]
          exact .nothing _
        refine ⟨past ++ .answered x.slot x.call outcome :: h, out',
          .answered outcome ⟨passes, List.forall_mem_singleton.2 rfl⟩ ?_ ?_⟩
        · rw [out]
          exact List.mem_cons_self
        · rwa [out, x.eraseP_slotted]
      · cases done

/-! ### Calls that are gathered -/

/-- What holds while some calls have yet to end, if a request that goes out leaves it as it is and
the first of the calls ends as expected. -/
structure Carries (w : World ω) (Holds : List Call → ω → Prop) (Expected : Call → Outcome → Prop) :
    Prop where
  depart : ∀ calls s call, Holds calls s → Holds calls (w.depart s (.calling call)).1
  settle : ∀ call calls s slot message, Holds (call :: calls) s → message.body = .request call.request →
    ∃ s' outcome, w.settle s ⟨slot, call, message⟩ = .ok (s', some outcome) ∧
      Holds calls s' ∧ Expected call outcome

variable {Holds : List Call → ω → Prop} {Expected : Call → Outcome → Prop}

theorem body_sendAll (s : ω) (calls : List (Nat × Call)) :
    ∀ x ∈ (w.sendAll s calls).2, x.message.body = .request x.call.request := by
  induction calls generalizing s with
  | nil => exact fun _ member => absurd member List.not_mem_nil
  | cons x calls ih => exact List.forall_mem_cons.2 ⟨rfl, ih _⟩

theorem Carries.sendAll (carries : w.Carries Holds Expected) {left : List Call} {s : ω}
    (holds : Holds left s) (calls : List (Nat × Call)) : Holds left (w.sendAll s calls).1 := by
  induction calls generalizing s with
  | nil => exact holds
  | cons x calls ih => exact ih (carries.depart left s x.2 holds)

/-- Calls that are gathered all end as expected, and what holds of them comes to hold of none. -/
theorem Carries.inTurn_gather (carries : w.Carries Holds Expected) {calls : List Call}
    (first : Precedence) {width left : Nat} (wide : 0 < width) {waiting : List (Nat × Call)}
    {outcomes : List (Nat × Outcome)} {past : List Happening} {sent : List Sent} {s : ω}
    (g : Plan.Gathering calls (sent.map Sent.slotted) waiting outcomes past)
    (count : left = sent.length + waiting.length)
    (bodies : ∀ x ∈ sent, x.message.body = .request x.call.request)
    (holds : Holds ((sent.map Sent.slotted ++ waiting).map Prod.snd) s)
    (expected : ∀ x ∈ outcomes, ∃ call, calls[x.1]? = some call ∧ Expected call x.2) {α : Type}
    (f : List (Nat × Outcome) → Plan α) :
    ∃ s' all past', w.inTurn ((Plan.gather first width left waiting outcomes).bind f) sent s =
        w.inTurn (f all) [] s' ∧ Holds [] s' ∧ Plan.Gathering calls [] [] all past' ∧
      ∀ x ∈ all, ∃ call, calls[x.1]? = some call ∧ Expected call x.2 := by
  induction left generalizing waiting outcomes past sent s with
  | zero =>
    obtain ⟨rfl, rfl⟩ : sent = [] ∧ waiting = [] :=
      ⟨List.eq_nil_of_length_eq_zero (by omega), List.eq_nil_of_length_eq_zero (by omega)⟩
    exact ⟨s, outcomes, past, rfl, holds, g, expected⟩
  | succ left ih =>
    let mayGo (c : Nat × Call) : Bool := c.1 < Plan.firstOpen outcomes + width
    have slotted := slotted_sendAll (w := w) s (waiting.takeWhile mayGo)
    cases queue : sent ++ (w.sendAll s (waiting.takeWhile mayGo)).2 with
    | nil =>
      have none := congrArg (List.map Sent.slotted) queue
      rw [List.map_append, slotted] at none
      exact absurd none (g.busy wide (by rw [List.length_map]; omega))
    | cons x rest =>
      have out : sent.map Sent.slotted ++ waiting.takeWhile mayGo =
          x.slotted :: rest.map Sent.slotted := by
        rw [← slotted, ← List.map_append, queue, List.map_cons]
      have whole : sent.map Sent.slotted ++ waiting =
          x.slotted :: (rest.map Sent.slotted ++ waiting.dropWhile mayGo) := by
        rw [← List.cons_append, ← out, List.append_assoc, List.takeWhile_append_dropWhile]
      have body : ∀ y ∈ x :: rest, y.message.body = .request y.call.request := by
        rw [← queue]
        exact List.forall_mem_append.2 ⟨bodies, body_sendAll s _⟩
      have now := carries.sendAll holds (waiting.takeWhile mayGo)
      rw [whole] at now
      obtain ⟨s', outcome, settled, holds, fits⟩ := carries.settle x.call _ _ x.slot x.message now
        (body x List.mem_cons_self)
      have member : (x.slot, x.call) ∈ sent.map Sent.slotted ++ waiting.takeWhile mayGo := by
        rw [out]
        exact List.mem_cons_self
      obtain ⟨called, lengths, next⟩ := g.answer mayGo outcome member []
      rw [out, x.eraseP_slotted] at lengths next
      rw [List.length_map, List.length_map] at lengths
      obtain ⟨s'', all, past', run, ended⟩ := ih next (by omega)
        (fun y inside => body y (List.mem_cons_of_mem x inside)) holds
        (List.forall_mem_cons.2 ⟨⟨x.call, called, fits⟩, expected⟩)
      refine ⟨s'', all, past', ?_, ended⟩
      rw [← run]
      change w.inTurn (.await first (waiting.takeWhile mayGo) id _) sent s = _
      rw [inTurn]
      dsimp only
      rw [queue]
      dsimp only
      rw [settled]

/-- A probe names those of the candidates whose outcomes are expected to qualify. -/
theorem Carries.inTurn_probe (carries : w.Carries Holds Expected) {file : FileQuery} {size : UInt64}
    {version : String} (width : Nat) {s : ω} {holder : Peer → Bool}
    (told : ∀ p outcome, Expected ⟨.contact p, .checkFile file⟩ outcome →
      Outcome.qualifies size version outcome = holder p)
    (holds : Holds (((w.site s).node.table.online (w.site s).now).map
      fun p => ⟨.contact p, .checkFile file⟩) s) :
    ∃ s', w.inTurn (probe file size version width) [] s = .ok (s',
      some (((w.site s).node.table.online (w.site s).now).filter holder)) ∧ Holds [] s' := by
  let candidates := (w.site s).node.table.online (w.site s).now
  let calls : List Call := candidates.map fun p => ⟨.contact p, .checkFile file⟩
  have waiting : (([] : List Sent).map Sent.slotted ++ Plan.inSlots calls).map Prod.snd = calls := by
    rw [List.map_nil, List.nil_append, Plan.inSlots, List.map_map]
    exact List.zipIdx_map_fst 0 calls
  have wide : 0 < max width 1 := Nat.le_max_right width 1
  have count : calls.length = ([] : List Sent).length + (Plan.inSlots calls).length := by
    rw [Plan.length_inSlots, List.length_nil, Nat.zero_add]
  obtain ⟨s', all, past, run, holds', g, expected⟩ := carries.inTurn_gather .departure wide
    (.begin calls) count (fun _ member => absurd member List.not_mem_nil)
    (by rw [waiting]; exact holds) (fun _ member => absurd member List.not_mem_nil)
    fun outcomes => .done (holders size version candidates outcomes)
  refine ⟨s', run.trans ?_, holds'⟩
  rw [inTurn, holders_eq_filter g fun slot p outcome at' member => ?_]
  obtain ⟨call, called, fits⟩ := expected (slot, outcome) member
  rw [List.getElem?_map, at'] at called
  cases called
  exact told p outcome fits

/-! ### Probing twice -/

/-- What a peer answers whenever it is asked about a file: never anything of use, or always one
status, as one peer with its own identifier and at its own address. -/
inductive Tells (w : World ω) (file : FileQuery) (p : Peer) : Option (Peer × FileStatus) → Prop
  | silent : (∀ s message, message.body = .request (.checkFile file) →
      ∃ s' answer e, w.receive s p.address message = .ok (s', answer) ∧
        answer.read .checkFile = .error e) → Tells w file p none
  | status (q : Peer) (status : FileStatus) : q.id = p.id → q.address = p.address →
      (∀ s message, message.body = .request (.checkFile file) →
        ∃ s' answer sender, w.receive s p.address message = .ok (s', answer) ∧
          answer.read .checkFile = .ok (sender, .checkFile status) ∧
          sender.peerAt p.address.ip = q) → Tells w file p (some (q, status))

theorem resume_refused {version : UInt16} {t : RoutingTable} {now : Moment} {answer : Answer}
    {p : Peer} {request : Request} {e : CallError}
    (refused : answer.read request.operation = .error e) :
    (Conversation.calling ⟨.contact p, request⟩).resume version t now answer =
      .ok (t.requestFailed p.id, .ended (some (.error e))) := by
  rw [Conversation.resume, refused]
  rfl

/-- Somebody who is known answers a probe. Nobody has to be challenged for that. -/
theorem resume_known {version : UInt16} {t t' : RoutingTable} {now : Moment} {answer : Answer}
    {p q : Peer} {file : FileQuery} {sender : Sender} {status : FileStatus}
    (read : answer.read .checkFile = .ok (sender, .checkFile status))
    (peer : sender.peerAt p.address.ip = q) (offered : t.offer now (.heard now q) = .ok (t', .updated)) :
    (Conversation.calling ⟨.contact p, .checkFile file⟩).resume version t now answer =
      .ok (t', .ended (some (.ok ⟨q, .checkFile status⟩))) := by
  subst peer
  have observed : t.observe now (sender.peerAt p.address.ip) = .ok (t', none) := by
    rw [RoutingTable.observe, offered]
    rfl
  rw [Conversation.resume, Request.operation, read]
  dsimp only [Conversation.admits]
  rw [Conversation.observe, Callee.address, observed]
  rfl

theorem Calm.exists_settled (calm : w.Calm) {s s₁ : ω} {x : Sent} {answer : Answer}
    {t : RoutingTable} {outcome : Outcome}
    (received : w.receive s x.call.callee.address x.message = .ok (s₁, answer))
    (resumed : (Conversation.calling x.call).resume (w.site s).node.version (w.site s).node.table
      (w.site s₁).now answer = .ok (t, .ended (some outcome))) :
    ∃ s', w.settle s x = .ok (s', some outcome) ∧ (w.site s').node.table = t := by
  obtain ⟨later, same⟩ := calm.receive _ _ _ _ _ received
  have node : (w.site s₁).node = (w.site s).node := by rw [same]
  rw [← node] at resumed
  let s' := w.update s₁ { w.site s₁ with node := { (w.site s₁).node with table := t } }
  refine ⟨s', ?_, by rw [calm.update]⟩
  rw [settle, arrive, Conversation.request]
  dsimp only
  rw [received]
  dsimp only
  rw [resumed]

variable {t : RoutingTable} {localId : Identifier} {slots : Nat} {now : Moment} {file : FileQuery}
  {tells : Identifier → Option (Peer × FileStatus)}

/-- Whether a peer tells that it holds exactly the wanted copy. -/
def holdsWanted (tells : Identifier → Option (Peer × FileStatus)) (size : UInt64) (version : String)
    (p : Peer) : Bool :=
  (tells p.id).any fun told => DownloadRequest.qualifies size version told.2

theorem Calm.carries (calm : w.Calm) (sound : t.Sound localId slots)
    (steady : ∀ p ∈ t.online now, w.Tells file p (tells p.id)) (size : UInt64) (version : String) :
    w.Carries
      (fun calls s => ∃ done todo, calls = todo.map (fun p => ⟨.contact p, .checkFile file⟩) ∧
        (w.site s).node.table.Sound localId slots ∧
        t.Polling (fun id => (tells id).map Prod.fst) (t.online now) done todo (w.site s).node.table)
      fun call outcome => ∀ p, call = ⟨.contact p, .checkFile file⟩ →
        Outcome.qualifies size version outcome = holdsWanted tells size version p := by
  have distinct := sound.distinct_online now
  constructor
  case depart =>
    rintro calls s call ⟨done, todo, rest, sound, polling⟩
    have same : (w.site (w.depart s (.calling call)).1).node.table = (w.site s).node.table := by
      rw [depart]
      dsimp only
      rw [calm.send, calm.update]
      rfl
    exact ⟨done, todo, rest, same ▸ sound, same ▸ polling⟩
  case settle =>
    rintro call calls s slot message ⟨done, todo, rest, sound, polling⟩ body
    cases todo with
    | nil => cases rest
    | cons p todo =>
      cases rest
      have said := steady p polling.member
      generalize told : tells p.id = answer at said
      cases said with
      | silent answers =>
        obtain ⟨s₁, answer, e, received, refused⟩ := answers s message body
        obtain ⟨s', settled, table⟩ := calm.exists_settled
          (x := ⟨slot, ⟨.contact p, .checkFile file⟩, message⟩) received (resume_refused refused)
        refine ⟨s', .error e, settled, ⟨done ++ [p], todo, rfl, ?_, ?_⟩, ?_⟩
        · exact table ▸ sound.requestFailed p.id
        · exact table ▸ polling.silent distinct (by rw [told]; rfl)
        · intro other same
          cases same
          rw [holdsWanted, told]
          rfl
      | status q status same _ answers =>
        obtain ⟨s₁, answer, sender, received, read, peer⟩ := answers s message body
        obtain ⟨known, found, -⟩ := polling.peers p polling.member
        obtain ⟨t', offered, sound', heard⟩ := sound.exists_heard
          (Option.isSome_of_mem (same ▸ found)) (w.site s₁).now
        obtain ⟨s', settled, table⟩ := calm.exists_settled
          (x := ⟨slot, ⟨.contact p, .checkFile file⟩, message⟩) received
          (resume_known read peer offered)
        refine ⟨s', .ok ⟨q, .checkFile status⟩, settled, ⟨done ++ [p], todo, rfl, ?_, ?_⟩, ?_⟩
        · exact table ▸ sound'
        · exact table ▸ polling.answered distinct (by rw [told]; rfl) same heard
        · intro other same
          cases same
          rw [holdsWanted, told]
          rfl

/-- A peer tells the same under the name by which it goes now. -/
theorem Tells.renamed {p q : Peer} {status : FileStatus} (tells : w.Tells file p (some (q, status))) :
    w.Tells file q (some (q, status)) := by
  cases tells with
  | status _ _ _ address answers =>
    rw [← address] at answers
    exact .status q status rfl rfl answers

/-- A probe whose answers come in as the requests went out names just those online contacts that
hold the wanted copy, in the order of the table. That changes the table: who answered has moved, and
who did not may be lost. A second probe at once still names the same peers in the same order, at the
same addresses; and they are equal in all if nobody has taken another name. -/
theorem probing_twice_agrees (calm : w.Calm) {s : ω} (reached : (w.site s).node.table.Reachable)
    {file : FileQuery} {tells : Identifier → Option (Peer × FileStatus)}
    (steady : ∀ p ∈ (w.site s).node.table.online (w.site s).now, w.Tells file p (tells p.id))
    (size : UInt64) (version : String) (width : Nat) :
    ∃ first s' again s'',
      w.inTurn (probe file size version width) [] s = .ok (s', some first) ∧
      w.inTurn (probe file size version width) [] s' = .ok (s'', some again) ∧
      first = ((w.site s).node.table.online (w.site s).now).filter (holdsWanted tells size version) ∧
      again.map (fun p => (p.id, p.address)) = first.map (fun p => (p.id, p.address)) ∧
      ((∀ p ∈ first, ∀ q status, tells p.id = some (q, status) → q = p) → again = first) := by
  obtain ⟨localId, slots, sound⟩ := reached.sound
  let replies (id : Identifier) : Option Peer := (tells id).map Prod.fst
  obtain ⟨s', run, done, todo, none, sound', polling⟩ := (calm.carries sound steady size version).inTurn_probe
    width (fun p outcome expected => expected p rfl) ⟨[], _, rfl, sound, .begin sound replies _⟩
  obtain rfl := List.map_eq_nil_iff.1 none.symm
  have complete := polling.parts
  rw [List.append_nil] at complete
  subst complete
  have online {p : Peer} (member : p ∈ (w.site s').node.table.online (w.site s').now) :=
    polling.exists_online sound sound' member
  have steady' : ∀ p ∈ (w.site s').node.table.online (w.site s').now, w.Tells file p (tells p.id) := by
    intro p member
    obtain ⟨p₀, before, same, peer, -⟩ := online member
    have told := same ▸ steady p₀ before
    rcases peer with rfl | reply
    · exact told
    · obtain ⟨⟨_, status⟩, found, rfl⟩ := Option.map_eq_some_iff.1 reply
      rw [found] at told ⊢
      exact told.renamed
  obtain ⟨s'', run', -⟩ := (calm.carries sound' steady' size version).inTurn_probe
    width (fun p outcome expected => expected p rfl) ⟨[], _, rfl, sound', .begin sound' replies _⟩
  have answer (id : Identifier) (wanted : (tells id).any (fun told =>
      DownloadRequest.qualifies size version told.2) = true) : (replies id).isSome = true := by
    rw [Option.isSome_map]
    exact Option.isSome_of_any wanted
  refine ⟨_, s', _, s'', run, run', rfl, ?places, fun names => ?equal⟩
  case places =>
    refine polling.map_online sound sound' _ answer fun p member q reply => ?_
    obtain ⟨⟨_, status⟩, found, rfl⟩ := Option.map_eq_some_iff.1 reply
    have told := steady p (List.mem_filter.1 member).1
    rw [found] at told
    cases told with
    | status _ _ same address => rw [same, address]
  case equal =>
    have same := polling.map_online sound sound' (w.site s').now answer (f := id)
      fun p member q reply => by
        obtain ⟨⟨_, status⟩, found, rfl⟩ := Option.map_eq_some_iff.1 reply
        exact names p member _ status found
    rwa [List.map_id, List.map_id] at same

/-! Of three contacts one has left a request unanswered, and is silent now. -/

section Sample

open RoutingTable.Rumours

def earlier : List RoutingTable.Turn :=
  [.offer (.heard 0 cellar), .offer (.heard 0 studio), .offer (.hearsay loft),
    .requestFailed studio.id]

def sample : FileQuery := ⟨"maps", "north", "coast"⟩

def copy : FileStatus := ⟨true, true, 3, "v2"⟩

def informant (id : Identifier) : Option (Peer × FileStatus) :=
  if id = loft.id then some (loft, copy) else if id = cellar.id then some (cellar, copy) else none

/-- Time passes until an answer comes, and the studio is never heard. -/
def neighbours : World Site where
  site s := s
  update _ s := s
  send s _ _ := (s, 0)
  receive s address message :=
    let p := if address = loft.address then loft else cellar
    .ok ({ s with now := s.now + 1 },
      if address = studio.address then .error .timeout
      else .ok ⟨message.correlation, ⟨p.id, 4400, p.machine⟩, .response (.checkFile copy)⟩)

theorem calm_neighbours : neighbours.Calm where
  update _ _ := rfl
  send _ _ _ := rfl
  receive s s' address message answer received := by
    cases received
    exact ⟨s.now + 1, rfl⟩

theorem tells_neighbours : ∀ p ∈ [cellar, studio, loft], neighbours.Tells sample p (informant p.id) := by
  refine List.forall_mem_cons.2 ⟨?cellar, List.forall_mem_cons.2 ⟨?studio,
    List.forall_mem_singleton.2 ?loft⟩⟩
  case studio => exact .silent fun s _ _ => ⟨_, _, .transport .timeout, rfl, rfl⟩
  case cellar =>
    exact .status cellar copy rfl rfl fun s _ _ => ⟨_, _, ⟨cellar.id, 4400, "cellar"⟩, rfl, rfl, rfl⟩
  case loft =>
    exact .status loft copy rfl rfl fun s _ _ => ⟨_, _, ⟨loft.id, 4400, "loft"⟩, rfl, rfl, rfl⟩

theorem silent_contact_changes_nothing :
    ∃ s : Site, s.node.table.Reachable ∧ s.node.table.online s.now = [cellar, studio, loft] ∧
      ∃ s' s'', neighbours.inTurn (probe sample 3 "v2" 2) [] s = .ok (s', some [cellar, loft]) ∧
        neighbours.inTurn (probe sample 3 "v2" 2) [] s' = .ok (s'', some [cellar, loft]) := by
  obtain ⟨s, done, reached⟩ := RoutingTable.exists_reachable ⟨1⟩ 3 (by decide) 0 earlier
  have online : (RoutingTable.Timed.run ⟨RoutingTable.fresh ⟨1⟩ 3, 0⟩ earlier).toOption.map
      (fun s => s.table.online 7) = some [cellar, studio, loft] := by decide +kernel
  rw [done] at online
  let site : Site := ⟨Node.modest s.table, .empty, 7⟩
  have here : site.node.table.online site.now = [cellar, studio, loft] := Option.some.inj online
  obtain ⟨first, s', again, s'', run, run', named, -, equal⟩ :=
    probing_twice_agrees calm_neighbours (s := site) reached (here ▸ tells_neighbours) 3 "v2" 2
  obtain rfl : first = [cellar, loft] := by
    rw [named]
    change List.filter _ (site.node.table.online site.now) = _
    rw [here]
    decide
  have names : ∀ p ∈ [cellar, loft], ∀ q status, informant p.id = some (q, status) → q = p := by
    refine List.forall_mem_cons.2 ⟨?_, List.forall_mem_singleton.2 ?_⟩
    all_goals
      intro q status told
      cases told
      rfl
  rw [equal names] at run'
  exact ⟨site, reached, here, s', s'', run, run'⟩

end Sample

end World
end Simulation
end LocalSwarm
