import LocalSwarm.Proofs.Lookups.Course

/-! Lookups keep to their courses: in every run the answers of a round are those of its batch, each
contact once, and the run ends as the last stage of its course says. Main statement: `run_search`. -/
namespace LocalSwarm.Lookup

theorem map_fst_answers (kind : LookupKind) (batch : List Peer) (outcomes : List (Nat × Outcome)) :
    (answers kind batch outcomes).map Prod.fst = batch := by
  rw [answers, List.map_map]
  exact List.zipIdx_map_fst 0 batch

theorem answers_eq_filterMap (kind : LookupKind) (batch : List Peer)
    (outcomes : List (Nat × Outcome)) :
    answers kind batch outcomes = (List.range batch.length).filterMap fun slot =>
      batch[slot]?.map fun p => (p, (outcomes.lookup slot).bind (heard kind)) := by
  have places := Partition.filterMap_getElem?_range batch.zipIdx (Nat.le_of_eq List.length_zipIdx)
  rw [answers, ← places, List.map_filterMap]
  refine List.filterMap_congr fun slot _ => ?_
  rw [List.getElem?_zipIdx, Option.map_map, Nat.zero_add]
  rfl

/-- What the contact in a slot has said. -/
def saidIn (kind : LookupKind) (batch : List Peer) (x : Nat × Outcome) : Option (Peer × Heard) :=
  batch[x.1]?.map fun p => (p, heard kind x.2)

theorem replies_eq_filterMap {kind : LookupKind} {request : Request} {batch : List Peer}
    {h : List Happening}
    (called : ∀ slot call outcome, .answered slot call outcome ∈ h →
      (batch.map fun p => (⟨.contact p, request⟩ : Call))[slot]? = some call) :
    replies kind h = (Happening.outcomes h).filterMap (saidIn kind batch) := by
  rw [Happening.outcomes, List.filterMap_filterMap]
  refine List.filterMap_congr fun x member => ?_
  cases x with
  | answered slot call outcome =>
    have made := called slot call outcome member
    rw [List.getElem?_map] at made
    obtain ⟨p, there, rfl⟩ := Option.map_eq_some_iff.1 made
    simp [saidIn, there]
  | created => rfl
  | elapsed => rfl
  | disrupted => rfl

/-- What happens in a round is, up to order, what the contacts of its batch answer. -/
theorem replies_perm_answers {kind : LookupKind} {request : Request} {batch : List Peer}
    {h : List Happening} {all : List (Nat × Outcome)}
    (called : ∀ slot call outcome, .answered slot call outcome ∈ h →
      (batch.map fun p => (⟨.contact p, request⟩ : Call))[slot]? = some call)
    (kept : all = (Happening.outcomes h).reverse)
    (slots : (all.map Prod.fst).Perm (List.range batch.length)) :
    (replies kind h).Perm (answers kind batch all) := by
  have some (slot : Nat) (below : slot ∈ List.range batch.length) :
      ∃ outcome, all.lookup slot = some outcome :=
    Option.isSome_iff_exists.1 (isSome_lookup_iff.2 (slots.mem_iff.2 below))
  have inSlots : ((List.range batch.length).filterMap fun slot =>
      (all.lookup slot).map fun outcome => (slot, outcome)).filterMap (saidIn kind batch) =
        answers kind batch all := by
    rw [answers_eq_filterMap, List.filterMap_filterMap]
    refine List.filterMap_congr fun slot below => ?_
    obtain ⟨outcome, found⟩ := some slot below
    rw [found]
    rfl
  calc
    replies kind h = (Happening.outcomes h).filterMap (saidIn kind batch) :=
      replies_eq_filterMap called
    List.Perm _ (all.filterMap (saidIn kind batch)) := by
      rw [kept]
      exact (List.reverse_perm _).symm.filterMap _
    List.Perm _ (answers kind batch all) := by
      rw [← inSlots]
      exact (perm_lookup_range slots).filterMap _

/-! ### Runs -/

theorem follow_ended (outcome : LookupOutcome) : follow (.ended outcome) = .done outcome := by
  rw [follow]

theorem follow_asking (l : Lookup) (batch : List Peer) :
    follow (.asking l batch) = (Plan.together (batch.map fun p => ⟨.contact p, l.request⟩)).bind
      fun outcomes => follow (l.finishRound (answers l.kind batch outcomes)) := by
  rw [follow]
  congr 1
  funext outcomes
  split
  · next ended => rw [ended, follow_ended]
  · next more => exact congrArg follow more.symm

/-- What a run of a lookup comes to: a course of it that has ended, or that was given up while some
contacts of a batch had not answered. -/
inductive Conducted (q : Quest) : List Happening → Except Cut LookupOutcome → Prop where
  | ended {h : List Happening} {rounds : List Round} {outcome : LookupOutcome} :
      Course q h rounds (.ended outcome) → Conducted q h (.ok outcome)
  | dropped {past during : List Happening} {rounds : List Round} {l : Lookup} {batch : List Peer} :
      Course q past rounds (.asking l batch) → Asks q.request batch during →
      Conducted q (past ++ during) (.error .dropped)

/-- Whether a lookup ends or is given up, it has been modest, and nobody but those whom it asked has
answered. -/
theorem Conducted.modest {q : Quest} {h : List Happening} {e : Except Cut LookupOutcome}
    (conducted : Conducted q h e) :
    ∃ past during rounds stage, h = past ++ during ∧ Course q past rounds stage ∧
      Modest q (batches rounds stage) ∧ Asks q.request (batches rounds stage).flatten h ∧
      ∀ outcome, e = .ok outcome → during = [] ∧ stage = .ended outcome := by
  cases conducted with
  | @ended h rounds outcome course =>
    refine ⟨h, [], rounds, _, (List.append_nil h).symm, course, course.modest, course.asks, ?_⟩
    intro _ same
    cases same
    exact ⟨rfl, rfl⟩
  | @dropped past during rounds l batch course asks =>
    refine ⟨past, during, rounds, _, rfl, course, course.modest, ?_, nofun⟩
    intro slot call outcome member
    rcases List.mem_append.1 member with before | now
    · exact course.asks slot call outcome before
    · obtain ⟨p, member, same⟩ := asks slot call outcome now
      refine ⟨p, ?_, same⟩
      rw [batches, List.flatten_append]
      exact List.mem_append_right _ (List.mem_flatten_of_mem List.mem_cons_self member)

theorem Course.same {q : Quest} {past : List Happening} {rounds : List Round} {l : Lookup}
    {batch : List Peer} (course : Course q past rounds (.asking l batch)) :
    l.kind = q.kind ∧ l.request = q.request ∧ rounds.length < q.limits.rounds := by
  cases course.stands with
  | @asking before r more _ =>
    refine ⟨r.kind, ?_, more⟩
    change Lookup.request before = _
    rw [Quest.request, Lookup.request, Lookup.request, r.kind, r.limits, r.target]
    rfl

/-- However often a lookup goes on, its run is a course of it. -/
theorem run_follow {q : Quest} {past h : List Happening} {rounds : List Round} {stage : LookupStage}
    {s : Site} {c' : Situation} {e : Except Cut LookupOutcome} (course : Course q past rounds stage)
    (run : Run (follow stage) ⟨[], s⟩ h c' e) : Conducted q (past ++ h) e := by
  -- With every batch there is one round less to come.
  induction left : q.limits.rounds - rounds.length using Nat.strong_induction_on
    generalizing past h rounds stage s with
  | _ left ih =>
    subst left
    cases stage with
    | ended outcome =>
      rw [follow_ended] at run
      cases run
      rw [List.append_nil]
      exact .ended course
    | asking l batch =>
      obtain ⟨kind, request, more⟩ := course.same
      rw [follow_asking, kind, request] at run
      have asks {during : List Happening}
          (called : ∀ slot call outcome, .answered slot call outcome ∈ during →
            (batch.map fun p => (⟨.contact p, q.request⟩ : Call))[slot]? = some call) :
          Asks q.request batch during := by
        intro slot call outcome member
        obtain ⟨p, inBatch, rfl⟩ := List.mem_map.1 (List.mem_of_getElem? (called _ _ _ member))
        exact ⟨p, inBatch, rfl⟩
      rcases run.of_bind with ⟨during, later, c₁, all, rfl, together, rest⟩ | ⟨cut, rfl, together⟩
      · obtain ⟨nobody, called, ended⟩ := Plan.run_together together
        rcases ended with ended | ⟨_, same, kept, slots⟩
        · cases ended
        · cases same
          rw [List.length_map] at slots
          obtain ⟨out, s₁⟩ := c₁
          subst nobody
          rw [← List.append_assoc]
          have next := course.round (map_fst_answers q.kind batch all)
            (replies_perm_answers called kept slots) (asks called)
          refine ih _ ?_ next rest rfl
          rw [List.length_append, List.length_singleton]
          omega
      · obtain ⟨-, called, ended⟩ := Plan.run_together together
        rcases ended with ended | ⟨_, same, -⟩
        · cases ended
          exact .dropped course (asks called)
        · cases same

/-- What a lookup at a site is for. -/
def questAt (s : Site) (kind : LookupKind) (pace : LookupPace) (target : Identifier)
    (seeds : List Peer) : Quest :=
  ⟨kind, ⟨pace.width, pace.rounds, s.node.count⟩, s.node.self.id, target, seeds⟩

/-- Every run of a lookup is a course of it. -/
theorem run_search {kind : LookupKind} {pace : LookupPace} {target : Identifier} {seeds : List Peer}
    {s : Site} {h : List Happening} {c' : Situation} {e : Except Cut LookupOutcome}
    (run : Run (search kind pace target seeds) ⟨[], s⟩ h c' e) :
    Conducted (questAt s kind pace target seeds) h e := by
  cases run with
  | look run => exact run_follow .start run

/-! A node that wants two contacts, asks two at a time and knows one to begin with. Peers are as far
from the target as their number says. -/
namespace Sample

def peer (n : Nat) : Peer := ⟨⟨BitVec.ofNat 160 n⟩, "", .v4 0 0⟩

def near : Peer := peer 1

def silent : Peer := peer 2

def middle : Peer := peer 4

def ourselves : Peer := peer 7

def far : Peer := peer 12

def target : Identifier := ⟨0⟩

def pace : LookupPace := ⟨2, 5⟩

def table : RoutingTable :=
  ⟨ourselves.id, (Vector.replicate 160 (Bucket.empty 2)).set 156 ⟨2, [.hearsay far]⟩⟩

def site : Site :=
  ⟨⟨⟨ourselves.id, 0, ""⟩, 0, 2, table, .initial, .standard, .nothing, 0⟩, .empty, 0⟩

end Sample
end LocalSwarm.Lookup
