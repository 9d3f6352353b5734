import LocalSwarm.Proofs.Batches
import LocalSwarm.Proofs.Lookups.Knowledge

/-! Courses of lookups, round after round. Peers answer as they like and in any order, and may fail;
what a lookup has come to after any rounds is an invariant of courses (`Course.stands`). -/
namespace LocalSwarm.Lookup

/-- What a lookup is for, and what it starts from. -/
structure Quest where
  kind : LookupKind
  limits : LookupLimits
  localId : Identifier
  target : Identifier
  seeds : List Peer

/-- A round: whom it asked, and what each of them answered. -/
abbrev Round := List (Peer × Heard)

/-- Those who answered and what they said, in the order of the answers. -/
def replies (kind : LookupKind) (h : List Happening) : List (Peer × Heard) :=
  h.filterMap fun
    | .answered _ ⟨.contact p, _⟩ outcome => some (p, heard kind outcome)
    | _ => none

@[simp] theorem replies_append (kind : LookupKind) (h k : List Happening) :
    replies kind (h ++ k) = replies kind h ++ replies kind k := List.filterMap_append

/-- Whatever was answered is this request to one of these contacts. -/
def Asks (request : Request) (batch : List Peer) (h : List Happening) : Prop :=
  ∀ slot call outcome, .answered slot call outcome ∈ h → ∃ p ∈ batch, call = ⟨.contact p, request⟩

namespace Quest

def blank (q : Quest) : Lookup := ⟨q.kind, q.limits, q.localId, q.target, 0, [], [], [], [], none⟩

def request (q : Quest) : Request := q.blank.request

def first (q : Quest) : LookupStage := (start q.kind q.limits q.localId q.target q.seeds).next

end Quest

/-- A course of a lookup: what has happened, the rounds that are over, and the stage. -/
inductive Course (q : Quest) : List Happening → List Round → LookupStage → Prop where
  | start : Course q [] [] q.first
  | round {past during : List Happening} {rounds : List Round} {l : Lookup} {batch : List Peer}
      {answers : Round} :
      Course q past rounds (.asking l batch) → answers.map Prod.fst = batch →
      (replies q.kind during).Perm answers → Asks q.request batch during →
      Course q (past ++ during) (rounds ++ [answers]) (l.finishRound answers)

/-- The contacts of the round that is under way. -/
def underway : LookupStage → List (List Peer)
  | .asking _ batch => [batch]
  | .ended _ => []

/-- The contacts that each round has asked, up to the one that is under way. -/
def batches (rounds : List Round) (stage : LookupStage) : List (List Peer) :=
  rounds.map (·.map Prod.fst) ++ underway stage

/-- A lookup asks everyone but ourselves at most once, somebody in each round, a few at a time and
for so many rounds. -/
structure Modest (q : Quest) (groups : List (List Peer)) : Prop where
  once : (groups.flatten.map Peer.id).Nodup
  foreign : ∀ p ∈ groups.flatten, p.id ≠ q.localId
  busy : ∀ g ∈ groups, g ≠ []
  narrow : ∀ g ∈ groups, g.length ≤ max q.limits.width 1
  few : groups.length ≤ q.limits.rounds

/-- No answer was a value. -/
def Quiet (said : List (Peer × Heard)) : Prop := ∀ p bytes, (p, some (.value bytes)) ∉ said

/-- A lookup between two rounds. -/
structure Ready (q : Quest) (rounds : List Round) (l : Lookup) : Prop where
  kind : l.kind = q.kind
  limits : l.limits = q.limits
  localId : l.localId = q.localId
  target : l.target = q.target
  round : l.round = rounds.length
  knows : Knows q.seeds rounds.flatten l
  asked : ∀ id, id ∈ l.asked ↔ ∃ x ∈ rounds.flatten, x.1.id = id
  quiet : Quiet rounds.flatten
  modest : Modest q (rounds.map (·.map Prod.fst))

/-- How a lookup has ended: with a value of its last round, or with those that responded, and then
all of the closest candidates were asked unless there was no round left. -/
inductive Ended (q : Quest) (rounds : List Round) : LookupOutcome → Prop where
  | found {front : List Round} {last : Round} {p : Peer} {bytes : Bytes} :
      rounds = front ++ [last] → Quiet front.flatten → (p, some (.value bytes)) ∈ last →
      Ended q rounds (.value bytes)
  | listed {l : Lookup} : Ready q rounds l →
      (rounds.length < q.limits.rounds →
        ∀ p ∈ l.candidates.take q.limits.count, l.isAsked p = true) →
      Ended q rounds l.result

/-- What a lookup has come to at a stage. -/
inductive Stands (q : Quest) (rounds : List Round) : LookupStage → Prop where
  | asking {l : Lookup} : Ready q rounds l → rounds.length < q.limits.rounds → l.batch ≠ [] →
      Stands q rounds (.asking l.ask l.batch)
  | ended {outcome : LookupOutcome} : Ended q rounds outcome → Stands q rounds (.ended outcome)

variable {q : Quest} {rounds : List Round} {l : Lookup} {batch : List Peer} {answers : Round}
  {p : Peer} {past h : List Happening} {stage : LookupStage}

theorem mem_batch (member : p ∈ l.batch) : p ∈ l.candidates ∧ l.isAsked p = false := by
  obtain ⟨candidate, new⟩ := List.mem_filter.1 (List.mem_of_mem_take member)
  exact ⟨candidate, by simpa using new⟩

theorem isAsked_of_batch_eq_nil (none : l.batch = []) (member : p ∈ l.candidates) :
    l.isAsked p = true := by
  by_contra new
  have waits : p ∈ l.candidates.filter fun p => !l.isAsked p :=
    List.mem_filter.2 ⟨member, by simpa using new⟩
  rw [batch, List.take_eq_nil_iff] at none
  rcases none with zero | empty
  · omega
  · rw [empty] at waits
    cases waits

theorem isAsked_iff : l.isAsked p = true ↔ p.id ∈ l.asked := List.contains_iff_mem

theorem flatten_batches (rounds : List Round) :
    (rounds.map (·.map Prod.fst)).flatten = rounds.flatten.map Prod.fst := List.map_flatten.symm

namespace Ready

theorem modest_batch (r : Ready q rounds l) (more : rounds.length < q.limits.rounds)
    (some : l.batch ≠ []) : Modest q (rounds.map (·.map Prod.fst) ++ [l.batch]) where
  once := by
    rw [List.flatten_append, List.flatten_singleton, List.map_append]
    refine List.nodup_append.2 ⟨r.modest.once, ?_, ?_⟩
    · refine (nodup_ids r.knows.keeps.ordered).sublist (List.Sublist.map _ ?_)
      exact (List.take_sublist _ _).trans List.filter_sublist
    · intro id before id' now
      obtain ⟨p, member, rfl⟩ := List.mem_map.1 now
      obtain ⟨x, old, rfl⟩ := List.mem_map.1 before
      rw [flatten_batches] at old
      obtain ⟨y, answered, rfl⟩ := List.mem_map.1 old
      intro same
      have known : p.id ∈ l.asked := (r.asked p.id).2 ⟨y, answered, same⟩
      rw [← isAsked_iff, (mem_batch member).2] at known
      cases known
  foreign := by
    intro p member
    rw [List.flatten_append, List.flatten_singleton] at member
    rcases List.mem_append.1 member with before | now
    · exact r.modest.foreign p before
    · exact r.localId ▸ r.knows.keeps.foreign (mem_batch now).1
  busy := by
    intro g member
    rcases List.mem_append.1 member with before | now
    · exact r.modest.busy g before
    · rwa [List.mem_singleton.1 now]
  narrow := by
    intro g member
    rcases List.mem_append.1 member with before | now
    · exact r.modest.narrow g before
    · rw [List.mem_singleton.1 now, ← r.limits]
      exact List.length_take_le _ _
  few := by
    rw [List.length_append, List.length_map]
    exact more

theorem stands (r : Ready q rounds l) : Stands q rounds l.next := by
  unfold next
  split
  · next stops =>
    refine .ended (.listed r fun more p member => ?_)
    rw [Bool.or_eq_true, decide_eq_true_eq, List.isEmpty_iff, r.limits, r.round] at stops
    have none := stops.resolve_left (Nat.not_le.2 more)
    exact isAsked_of_batch_eq_nil none (List.mem_of_mem_take member)
  · next goes =>
    rw [Bool.or_eq_true, decide_eq_true_eq, List.isEmpty_iff, not_or, r.limits, r.round] at goes
    exact .asking r (Nat.not_le.1 goes.1) goes.2

end Ready

/-! ### Rounds -/

theorem valueIn_eq_some {bytes : Bytes} (found : valueIn answers = some bytes) :
    ∃ p, (p, some (.value bytes)) ∈ answers := by
  obtain ⟨x, member, value⟩ := List.mem_filterMap.1 (List.mem_of_getLast? found)
  split at value
  · next p _ =>
    cases value
    exact ⟨p, member⟩
  · cases value

theorem quiet_of_valueIn (without : valueIn answers = none) : Quiet answers := by
  intro p bytes member
  rw [valueIn, List.getLast?_eq_none_iff, List.filterMap_eq_nil_iff] at without
  cases without _ member

theorem quiet_concat :
    Quiet (rounds ++ [answers]).flatten ↔ Quiet rounds.flatten ∧ Quiet answers := by
  simp [Quiet, List.mem_append, forall_and]

namespace Ready

/-- What the contacts of a batch answer is known in the end. -/
theorem knows_takeAll (r : Ready q rounds l) (batch : answers.map Prod.fst = l.batch) :
    Knows q.seeds (rounds ++ [answers]).flatten (l.ask.takeAll answers) := by
  have inBatch (x : Peer × Heard) (member : x ∈ answers) : x.1 ∈ l.batch :=
    batch ▸ List.mem_map_of_mem member
  rw [List.flatten_append, List.flatten_singleton]
  refine (r.knows.congr _ _ _).takeAll (fun x member => (mem_batch (inBatch x member)).1) ?_ ?_
  · intro x old y now same
    have isAsked : y.1.id ∈ l.asked := (r.asked y.1.id).2 ⟨x, old, same⟩
    rw [← isAsked_iff, (mem_batch (inBatch y now)).2] at isAsked
    cases isAsked
  · have ordered : (answers.map Prod.fst).Pairwise (Closer l.target) := by
      rw [batch]
      exact r.knows.keeps.ordered.sublist ((List.take_sublist _ _).trans List.filter_sublist)
    exact (List.pairwise_map.1 ordered).imp Closer.id_ne

/-- A round without a value leads to the next one. -/
theorem finish (r : Ready q rounds l) (more : rounds.length < q.limits.rounds)
    (some : l.batch ≠ []) (batch : answers.map Prod.fst = l.batch) (quiet : Quiet answers)
    (closest : Option Distance) :
    Ready q (rounds ++ [answers])
      { l.ask.takeAll answers with closest, round := (l.ask.takeAll answers).round + 1 } := by
  have same := continues_takeAll l.ask answers
  refine ⟨same.kind.trans r.kind, same.limits.trans r.limits, same.localId.trans r.localId,
    same.target.trans r.target, ?round, (r.knows_takeAll batch).congr _ _ _, ?asked,
    quiet_concat.2 ⟨r.quiet, quiet⟩, ?modest⟩
  case round =>
    rw [List.length_append, List.length_singleton, ← r.round]
    exact congrArg (· + 1) same.round
  case asked =>
    intro id
    change id ∈ (l.ask.takeAll answers).asked ↔ _
    rw [same.asked, ask, List.mem_append, r.asked, ← batch, List.flatten_append,
      List.flatten_singleton]
    simp only [List.mem_append, or_and_right, exists_or, List.mem_map, exists_exists_and_eq_and]
    exact or_comm
  case modest =>
    rw [List.map_append, List.map_singleton, batch]
    exact r.modest_batch more some

end Ready

theorem Stands.finish (stands : Stands q rounds (.asking l batch))
    (answered : answers.map Prod.fst = batch) :
    Stands q (rounds ++ [answers]) (l.finishRound answers) := by
  cases stands with
  | @asking l r more some =>
    unfold finishRound
    dsimp only
    split
    · next bytes found =>
      obtain ⟨p, member⟩ := valueIn_eq_some found
      exact .ended (.found rfl r.quiet member)
    · next without =>
      have ready := r.finish more some answered (quiet_of_valueIn without)
      split
      · next stops =>
        rw [Bool.and_eq_true, Bool.not_eq_true', hasPending, List.any_eq_false] at stops
        have ended := Ended.listed (ready none) fun _ p member => by
          rw [← (ready none).limits] at member
          have isAsked : (l.ask.takeAll answers).isAsked p = true := by simpa using stops.2 p member
          exact isAsked
        exact .ended ended
      · exact (ready _).stands

theorem stands_first (q : Quest) : Stands q [] q.first := by
  have same := continues_learnAll q.blank q.seeds
  refine Ready.stands (l := start q.kind q.limits q.localId q.target q.seeds) ?_
  refine ⟨same.kind, same.limits, same.localId, same.target, same.round,
    .start q.kind q.limits q.localId q.target q.seeds, fun id => ?_, fun _ _ member => ?_, ?_⟩
  · change id ∈ (q.seeds.foldl learn q.blank).asked ↔ _
    rw [same.asked]
    simp [Quest.blank]
  · cases member
  · exact ⟨List.nodup_nil, nofun, nofun, nofun, Nat.zero_le _⟩

theorem Course.stands (course : Course q past rounds stage) : Stands q rounds stage := by
  induction course with
  | start => exact stands_first q
  | round _ answered _ _ ih => exact ih.finish answered

/-- The rounds and the batch that is under way. -/
theorem Course.modest (course : Course q past rounds stage) : Modest q (batches rounds stage) := by
  have soFar : Modest q (rounds.map (·.map Prod.fst)) := by
    cases course with
    | start => exact ⟨List.nodup_nil, nofun, nofun, nofun, Nat.zero_le _⟩
    | round before answered =>
      cases before.stands with
      | asking r more some =>
        rw [List.map_append, List.map_singleton, answered]
        exact r.modest_batch more some
  cases course.stands with
  | asking r more some => exact r.modest_batch more some
  | ended => rwa [batches, underway, List.append_nil]

/-- What was answered in the past is what the rounds have brought. -/
theorem Course.replies_perm (course : Course q past rounds stage) :
    (replies q.kind past).Perm rounds.flatten := by
  induction course with
  | start => exact .nil
  | round _ _ said _ ih =>
    rw [replies_append, List.flatten_append, List.flatten_singleton]
    exact ih.append said

/-- There were no more rounds than answers. -/
theorem Course.length_le (course : Course q past rounds stage) :
    rounds.length ≤ (replies q.kind past).length := by
  have busy (n : Nat) (member : n ∈ rounds.map List.length) : 1 ≤ n := by
    obtain ⟨answers, ended, rfl⟩ := List.mem_map.1 member
    have asked : answers.map Prod.fst ∈ batches rounds stage :=
      List.mem_append_left _ (List.mem_map_of_mem ended)
    exact List.length_pos_iff.2 fun none => course.modest.busy _ asked (none ▸ List.map_nil)
  calc
    rounds.length = (rounds.map List.length).length := (List.length_map List.length).symm
    _ ≤ (rounds.map List.length).sum := List.length_le_sum_of_one_le _ busy
    _ = (replies q.kind past).length := by
      rw [course.replies_perm.length_eq, List.length_flatten]

/-- Whatever was answered in the past is the request, and one of the contacts was asked. -/
theorem Course.asks (course : Course q past rounds stage) :
    Asks q.request (batches rounds stage).flatten past := by
  have soFar : Asks q.request (rounds.map (·.map Prod.fst)).flatten past := by
    induction course with
    | start => exact fun _ _ _ member => absurd member List.not_mem_nil
    | round _ answered _ asks ih =>
      intro slot call outcome member
      rw [List.map_append, List.map_singleton, List.flatten_append, List.flatten_singleton, answered]
      rcases List.mem_append.1 member with early | late
      · obtain ⟨p, old, same⟩ := ih slot call outcome early
        exact ⟨p, List.mem_append_left _ old, same⟩
      · obtain ⟨p, now, same⟩ := asks slot call outcome late
        exact ⟨p, List.mem_append_right _ now, same⟩
  intro slot call outcome member
  obtain ⟨p, old, same⟩ := soFar slot call outcome member
  refine ⟨p, ?_, same⟩
  rw [batches, List.flatten_append]
  exact List.mem_append_left _ old

end LocalSwarm.Lookup
