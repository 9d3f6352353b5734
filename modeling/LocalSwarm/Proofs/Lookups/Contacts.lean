import LocalSwarm.Proofs.Lookups.Conduct

/-! The contacts that a lookup returns. They are ordered by distance, all of them have answered, and
a lookup that had rounds left returns the nearest of all contacts it was told of. Main statements:
`contact_lookups_are_safe`, `contact_lookups_are_exhaustive`. -/
namespace LocalSwarm.Lookup

/-- An identifier other than our own that a lookup was told of, and that did not fail when asked. -/
structure Eligible (q : Quest) (said : List (Peer × Heard)) (id : Identifier) : Prop where
  foreign : id ≠ q.localId
  told : ∃ p ∈ learned q.seeds said, p.id = id
  stands : ¬ Failed said id

/-- Contacts in order, no more than wanted and not ourselves, each of which named contacts. -/
structure Answered (q : Quest) (said : List (Peer × Heard)) (ps : List Peer) : Prop where
  ordered : ps.Pairwise (Closer q.target)
  few : ps.length ≤ q.limits.count
  foreign : ∀ p ∈ ps, p.id ≠ q.localId
  answered : ∀ p ∈ ps, ∃ told, (p, some (.closer told)) ∈ said

/-- The nearest of all that a lookup was told of, and whoever would be nearer was asked. -/
structure Exhausts (q : Quest) (said : List (Peer × Heard)) (ps : List Peer) : Prop where
  nearest : Nearest q.target q.limits.count (Eligible q said) ps
  learned : ∀ p ∈ ps, p ∈ learned q.seeds said
  asked : ∀ p ∈ Lookup.learned q.seeds said, p.id ≠ q.localId →
    ps.length < q.limits.count ∨ (∃ r ∈ ps, Closer q.target p r) → ∃ x ∈ said, x.1.id = p.id

variable {q : Quest} {rounds : List Round} {l : Lookup} {p : Peer} {ps : List Peer}
  {said said' : List (Peer × Heard)} {past h : List Happening}

theorem mem_learned {seeds : List Peer} :
    p ∈ learned seeds said ↔ p ∈ seeds ∨ ∃ x ∈ said, p ∈ named x.2 := by
  rw [learned, List.mem_append, List.mem_flatMap]

/-! ### The order of the answers -/

theorem Eligible.perm {id : Identifier} (same : said.Perm said') (eligible : Eligible q said id) :
    Eligible q said' id := by
  obtain ⟨p, told, rfl⟩ := eligible.told
  refine ⟨eligible.foreign, ⟨p, ?_, rfl⟩, fun ⟨r, failed, here⟩ => ?_⟩
  · simpa only [mem_learned, same.mem_iff] using told
  · exact eligible.stands ⟨r, same.mem_iff.2 failed, here⟩

theorem eligible_perm (same : said.Perm said') : Eligible q said = Eligible q said' :=
  funext fun _ => propext ⟨.perm same, .perm same.symm⟩

theorem Answered.perm (same : said.Perm said') (answered : Answered q said ps) :
    Answered q said' ps where
  ordered := answered.ordered
  few := answered.few
  foreign := answered.foreign
  answered := by simpa only [same.mem_iff] using answered.answered

theorem Exhausts.perm (same : said.Perm said') (exhausts : Exhausts q said ps) :
    Exhausts q said' ps where
  nearest := eligible_perm same ▸ exhausts.nearest
  learned := by simpa only [mem_learned, same.mem_iff] using exhausts.learned
  asked := by simpa only [mem_learned, same.mem_iff] using exhausts.asked

/-! ### Lookups that have ended -/

namespace Ready

theorem answered (r : Ready q rounds l) :
    Answered q rounds.flatten (l.responded.take q.limits.count) where
  ordered := by
    rw [← r.target]
    exact r.knows.orderedResponded.sublist (List.take_sublist _ _)
  few := List.length_take_le _ _
  foreign := by
    intro p member
    obtain ⟨told, answered⟩ := (r.knows.responded p).1 (List.mem_of_mem_take member)
    rw [← r.localId]
    exact r.knows.keeps.foreign (r.knows.alive p _ answered nofun)
  answered := fun p member => (r.knows.responded p).1 (List.mem_of_mem_take member)

/-- The candidates are the eligible contacts. -/
theorem exists_candidate_iff (r : Ready q rounds l) (id : Identifier) :
    (∃ p ∈ l.candidates, p.id = id) ↔ Eligible q rounds.flatten id := by
  rw [r.knows.keeps.candidates, r.knows.keeps.seen, r.localId]
  exact ⟨fun ⟨⟨foreign, told⟩, stands⟩ => ⟨foreign, told, stands⟩,
    fun ⟨foreign, told, stands⟩ => ⟨⟨foreign, told⟩, stands⟩⟩

/-- If the closest candidates were all asked, they are those that responded. -/
theorem take_responded (r : Ready q rounds l)
    (all : ∀ p ∈ l.candidates.take q.limits.count, l.isAsked p = true) :
    l.responded.take q.limits.count = l.candidates.take q.limits.count := by
  rw [r.knows.responded_eq r.quiet r.asked]
  exact take_filter all

theorem exhausts (r : Ready q rounds l)
    (all : ∀ p ∈ l.candidates.take q.limits.count, l.isAsked p = true) :
    Exhausts q rounds.flatten (l.responded.take q.limits.count) := by
  have ordered := r.knows.keeps.ordered
  rw [r.target] at ordered
  have nearest : Nearest q.target q.limits.count (Eligible q rounds.flatten)
      (l.responded.take q.limits.count) := by
    rw [r.take_responded all]
    exact nearest_take ordered r.exists_candidate_iff _
  refine ⟨nearest, fun p member => ?_, fun p told foreign nearer => ?_⟩
  · rw [r.take_responded all] at member
    exact r.knows.keeps.known p (List.mem_of_mem_take member)
  · by_cases failed : Failed rounds.flatten p.id
    · obtain ⟨x, member, same⟩ := failed
      exact ⟨_, member, same⟩
    · have eligible : Eligible q rounds.flatten p.id := ⟨foreign, ⟨p, told, rfl⟩, failed⟩
      rcases nearest.rest p.id eligible with ⟨x, listed, same⟩ | ⟨full, beyond⟩
      · obtain ⟨told, answered⟩ := r.answered.answered x listed
        exact ⟨_, answered, same⟩
      · rcases nearer with short | ⟨x, listed, closer⟩
        · exact absurd full (Nat.ne_of_lt short)
        · exact absurd rfl (closer.trans (beyond x listed)).id_ne

end Ready

/-- A lookup that ends with contacts lists those that responded. -/
theorem Course.listed (course : Course q past rounds (.ended (.contacts ps))) :
    ∃ l, Ready q rounds l ∧ ps = l.responded.take q.limits.count ∧
      (rounds.length < q.limits.rounds →
        ∀ p ∈ l.candidates.take q.limits.count, l.isAsked p = true) := by
  cases course.stands with
  | ended ended =>
    generalize same : LookupOutcome.contacts ps = outcome at ended
    cases ended with
    | found => cases same
    | @listed l ready all =>
      rw [← ready.limits]
      exact ⟨l, ready, LookupOutcome.contacts.inj same, by rwa [ready.limits]⟩

theorem Course.answered (course : Course q past rounds (.ended (.contacts ps))) :
    Answered q (replies q.kind past) ps := by
  obtain ⟨l, ready, rfl, -⟩ := course.listed
  exact ready.answered.perm course.replies_perm.symm

/-- A lookup that ends with contacts was told no value. -/
theorem Course.quiet (course : Course q past rounds (.ended (.contacts ps))) :
    Quiet (replies q.kind past) := by
  obtain ⟨l, ready, -⟩ := course.listed
  exact fun p bytes member => ready.quiet p bytes (course.replies_perm.mem_iff.1 member)

/-- A lookup that had rounds left has found the nearest contacts. -/
theorem Course.exhausts (course : Course q past rounds (.ended (.contacts ps)))
    (early : rounds.length < q.limits.rounds) : Exhausts q (replies q.kind past) ps := by
  obtain ⟨l, ready, rfl, all⟩ := course.listed
  exact (ready.exhausts (all early)).perm course.replies_perm.symm

/-! ### Lookups of contacts -/

/-- Nobody who is asked for contacts tells a value. -/
theorem quiet_replies (h : List Happening) : Quiet (replies .node h) := by
  intro p bytes member
  obtain ⟨x, -, said⟩ := List.mem_filterMap.1 member
  split at said
  · next outcome =>
    obtain ⟨-, value⟩ := Prod.mk.inj (Option.some.inj said)
    cases outcome with
    | error => cases value
    | ok reply =>
      rw [heard] at value
      cases response : reply.response <;> rw [response] at value <;> cases value
  · cases said

/-- A value with which a lookup ends was told in its last round. Nobody had told one before. -/
theorem Course.found {bytes : Bytes} (course : Course q past rounds (.ended (.value bytes))) :
    ∃ front last, rounds = front ++ [last] ∧ Quiet front.flatten ∧
      ∃ p, (p, some (.value bytes)) ∈ last := by
  cases course.stands with
  | ended ended =>
    generalize same : LookupOutcome.value bytes = outcome at ended
    cases ended with
    | listed => cases same
    | @found front last p _ last' quiet member =>
      cases same
      exact ⟨front, last, last', quiet, p, member⟩

/-- A value is told before a lookup ends with it. -/
theorem Course.told {bytes : Bytes} (course : Course q past rounds (.ended (.value bytes))) :
    ∃ p, (p, some (.value bytes)) ∈ replies q.kind past := by
  obtain ⟨front, last, rfl, -, p, member⟩ := course.found
  refine ⟨p, course.replies_perm.mem_iff.2 ?_⟩
  rw [List.flatten_append, List.flatten_singleton]
  exact List.mem_append_right _ member

/-! The seeds are one contact, twice, and ourselves. Of the two contacts that it names besides, one
does not answer, and the other one names a contact that nobody told of before. -/
namespace Sample

def names (slot : Nat) (p : Peer) (told : List Peer) : Happening :=
  .answered slot ⟨.contact p, .findNode target 2⟩ (.ok ⟨p, .findNode told⟩)

def fails (slot : Nat) (p : Peer) : Happening :=
  .answered slot ⟨.contact p, .findNode target 2⟩ (.error (.transport .timeout))

def walk : List Happening :=
  [names 0 far [near, silent, ourselves, far], fails 1 silent, names 0 near [middle, silent],
    names 0 middle [near]]

def seeds : List Peer := [far, far, ourselves]

def wanted : Quest := questAt site .node pace target seeds

theorem run_walk :
    ∃ c', Run (findNodeFrom pace target seeds) ⟨[], site⟩ walk c' (.ok [near, middle]) :=
  Plan.run_of_result (by decide +kernel)

end Sample

variable {pace : LookupPace} {target : Identifier} {seeds : List Peer} {s : Site} {c' : Situation}
  {e : Except Cut (List Peer)}

/-- A lookup of contacts that is not given up ends with contacts. -/
theorem run_findNodeFrom (run : Run (findNodeFrom pace target seeds) ⟨[], s⟩ h c' e) :
    ∃ e', Conducted (questAt s .node pace target seeds) h e' ∧
      (e' = .error .dropped ∧ e = .error .dropped ∨
        ∃ ps, e' = .ok (.contacts ps) ∧ e = .ok ps) := by
  unfold findNodeFrom at run
  rcases run.of_bind with ⟨h₁, h₂, c₁, outcome, rfl, search, rest⟩ | ⟨cut, rfl, search⟩
  · cases rest
    rw [List.append_nil]
    have conducted := run_search search
    refine ⟨_, conducted, .inr ?_⟩
    cases outcome with
    | contacts ps => exact ⟨ps, rfl, rfl⟩
    | value bytes =>
      cases conducted with
      | ended course =>
        obtain ⟨p, told⟩ := course.told
        exact absurd told (quiet_replies _ p bytes)
  · have conducted := run_search search
    refine ⟨_, conducted, .inl ?_⟩
    cases conducted with
    | dropped => exact ⟨rfl, rfl⟩

/-- A lookup of contacts asks everyone at most once, ourselves never, a few at a time and for so
many rounds, whoever answers or fails, and then lists contacts that have answered, closest first. -/
theorem contact_lookups_are_safe
    (run : Run (findNodeFrom pace target seeds) ⟨[], s⟩ h c' e) :
    ∃ past during rounds stage, h = past ++ during ∧
      Course (questAt s .node pace target seeds) past rounds stage ∧
      Modest (questAt s .node pace target seeds) (batches rounds stage) ∧
      Asks (.findNode target (UInt16.ofNat s.node.count)) (batches rounds stage).flatten h ∧
      (e = .error .dropped ∨ ∃ ps, e = .ok ps ∧ during = [] ∧ stage = .ended (.contacts ps) ∧
        ((replies .node h).map Prod.fst).Perm (batches rounds stage).flatten ∧
        Answered (questAt s .node pace target seeds) (replies .node h) ps) := by
  obtain ⟨e', conducted, ends⟩ := run_findNodeFrom run
  obtain ⟨past, during, rounds, stage, rfl, course, modest, asks, whole⟩ := conducted.modest
  refine ⟨past, during, rounds, stage, rfl, course, modest, asks, ?_⟩
  rcases ends with ⟨-, rfl⟩ | ⟨ps, rfl, rfl⟩
  · exact .inl rfl
  · obtain ⟨rfl, rfl⟩ := whole _ rfl
    have once := course.replies_perm.map Prod.fst
    rw [← flatten_batches, ← List.append_nil (List.map _ rounds)] at once
    rw [List.append_nil]
    exact .inr ⟨ps, rfl, rfl, rfl, once, course.answered⟩

theorem walk_is_safe :
    ∃ c', Run (findNodeFrom Sample.pace Sample.target Sample.seeds) ⟨[], Sample.site⟩ Sample.walk c'
        (.ok [Sample.near, Sample.middle]) ∧
      ∃ rounds, Modest Sample.wanted
          (batches rounds (.ended (.contacts [Sample.near, Sample.middle]))) ∧
        Answered Sample.wanted (replies .node Sample.walk) [Sample.near, Sample.middle] := by
  obtain ⟨c', run⟩ := Sample.run_walk
  obtain ⟨_, _, rounds, _, -, -, modest, -, cut | ⟨_, same, -, rfl, -, answered⟩⟩ :=
    contact_lookups_are_safe run
  · cases cut
  · cases same
    exact ⟨c', run, rounds, modest, answered⟩

/-- A lookup of contacts that ends before its rounds are used up has found the nearest of all
contacts that anybody told of, but ourselves and those that failed. -/
theorem contact_lookups_are_exhaustive
    (run : Run (findNodeFrom pace target seeds) ⟨[], s⟩ h c' e) :
    e = .error .dropped ∨ ∃ rounds ps, e = .ok ps ∧
      Course (questAt s .node pace target seeds) h rounds (.ended (.contacts ps)) ∧
      (rounds.length < pace.rounds →
        Exhausts (questAt s .node pace target seeds) (replies .node h) ps) := by
  obtain ⟨e', conducted, ⟨-, rfl⟩ | ⟨ps, rfl, rfl⟩⟩ := run_findNodeFrom run
  · exact .inl rfl
  · cases conducted with
    | @ended _ rounds _ course => exact .inr ⟨rounds, ps, rfl, course, course.exhausts⟩

theorem walk_is_exhaustive :
    ∃ c', Run (findNodeFrom Sample.pace Sample.target Sample.seeds) ⟨[], Sample.site⟩ Sample.walk c'
        (.ok [Sample.near, Sample.middle]) ∧
      Exhausts Sample.wanted (replies .node Sample.walk) [Sample.near, Sample.middle] := by
  obtain ⟨c', run⟩ := Sample.run_walk
  rcases contact_lookups_are_exhaustive run with cut | ⟨rounds, _, same, course, exhausts⟩
  · cases cut
  · cases same
    -- Four answers leave one of the five rounds unused.
    exact ⟨c', run, exhausts (Nat.lt_of_le_of_lt course.length_le (by decide))⟩

end LocalSwarm.Lookup
