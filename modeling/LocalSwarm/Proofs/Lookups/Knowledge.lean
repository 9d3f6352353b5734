import LocalSwarm.Lookup.Plan
import LocalSwarm.Proofs.Lookups.Nearest

/-! What a lookup knows after some answers: its candidates are the contacts that it was told of, in
order and once each, but ourselves and those that failed; those that responded are the ones that named
contacts. Main statement: every answer keeps this so (`Knows.take`). -/
namespace LocalSwarm.Lookup

/-- The contacts that an answer names. -/
def named : Heard → List Peer
  | some (.closer ps) => ps
  | _ => []

/-- All contacts that a lookup was told of, by its seeds or by answers. -/
def learned (seeds : List Peer) (said : List (Peer × Heard)) : List Peer :=
  seeds ++ said.flatMap fun x => named x.2

/-- A contact with this identifier was asked and did not answer. -/
def Failed (said : List (Peer × Heard)) (id : Identifier) : Prop := ∃ p, (p, none) ∈ said ∧ p.id = id

variable {l : Lookup} {known seeds : List Peer} {Gone : Identifier → Prop} {p q : Peer}
  {said : List (Peer × Heard)} {heard : Heard}

/-- Candidates are kept in order: one for each identifier that was told of and is not gone. -/
structure Keeps (known : List Peer) (Gone : Identifier → Prop) (l : Lookup) : Prop where
  seen : ∀ id, id ∈ l.seen ↔ id ≠ l.localId ∧ ∃ p ∈ known, p.id = id
  ordered : l.candidates.Pairwise (Closer l.target)
  known : ∀ p ∈ l.candidates, p ∈ known
  candidates : ∀ id, (∃ p ∈ l.candidates, p.id = id) ↔ id ∈ l.seen ∧ ¬ Gone id
  gone : ∀ id, Gone id → id ∈ l.seen

namespace Keeps

theorem mem_seen (k : Keeps known Gone l) (member : p ∈ l.candidates) : p.id ∈ l.seen :=
  ((k.candidates p.id).1 ⟨p, member, rfl⟩).1

theorem foreign (k : Keeps known Gone l) (member : p ∈ l.candidates) : p.id ≠ l.localId :=
  ((k.seen p.id).1 (k.mem_seen member)).1

theorem learn (k : Keeps known Gone l) (p : Peer) : Keeps (known ++ [p]) Gone (l.learn p) := by
  have more (id : Identifier) : (∃ q ∈ known ++ [p], q.id = id) ↔
      (∃ q ∈ known, q.id = id) ∨ p.id = id := by
    simp only [List.mem_append, List.mem_singleton, or_and_right, exists_or, exists_eq_left]
  unfold Lookup.learn
  split
  · next old =>
    rw [Bool.or_eq_true, decide_eq_true_eq, List.contains_iff_mem] at old
    refine { k with seen := fun id => ?_, known := fun q member => ?_ }
    · rw [more, k.seen, and_congr_right_iff]
      intro foreign
      refine (or_iff_left_of_imp ?_).symm
      rintro rfl
      exact ((k.seen p.id).1 (old.resolve_left foreign)).2
    · exact List.mem_append_left _ (k.known q member)
  · next new =>
    rw [Bool.or_eq_true, decide_eq_true_eq, List.contains_iff_mem, not_or] at new
    obtain ⟨foreign, unseen⟩ := new
    refine ⟨fun id => ?seen, ?ordered, fun q member => ?known, fun id => ?candidates, ?gone⟩
    case seen =>
      rw [List.mem_cons, more, k.seen]
      constructor
      · rintro (rfl | ⟨other, told⟩)
        · exact ⟨foreign, .inr rfl⟩
        · exact ⟨other, .inl told⟩
      · rintro ⟨other, told | rfl⟩
        · exact .inr ⟨other, told⟩
        · exact .inl rfl
    case ordered =>
      refine ordered_insertByDistance k.ordered fun q member same => ?_
      exact unseen (same ▸ k.mem_seen member)
    case known =>
      rcases mem_insertByDistance.1 member with rfl | old
      · exact List.mem_append_right _ (List.mem_singleton_self q)
      · exact List.mem_append_left _ (k.known q old)
    case candidates =>
      have here : (∃ q ∈ insertByDistance l.target p l.candidates, q.id = id) ↔
          p.id = id ∨ ∃ q ∈ l.candidates, q.id = id := by
        simp only [mem_insertByDistance, or_and_right, exists_or, exists_eq_left]
      rw [here, k.candidates, List.mem_cons]
      constructor
      · rintro (rfl | ⟨old, present⟩)
        · exact ⟨.inl rfl, fun gone => unseen (k.gone p.id gone)⟩
        · exact ⟨.inr old, present⟩
      · rintro ⟨rfl | old, present⟩
        · exact .inl rfl
        · exact .inr ⟨old, present⟩
    case gone => exact fun id gone => List.mem_cons_of_mem _ (k.gone id gone)

theorem learnAll (k : Keeps known Gone l) (ps : List Peer) :
    Keeps (known ++ ps) Gone (ps.foldl Lookup.learn l) := by
  induction ps generalizing known l with
  | nil => rwa [List.append_nil]
  | cons p ps ih =>
    rw [← List.singleton_append, ← List.append_assoc]
    exact ih (k.learn p)

/-- Who responded is noted apart from the candidates. -/
theorem respond (k : Keeps known Gone l) (ps : List Peer) :
    Keeps known Gone { l with responded := ps } :=
  ⟨k.seen, k.ordered, k.known, k.candidates, k.gone⟩

/-- A contact that failed is gone. -/
theorem fail (k : Keeps known Gone l) (seen : p.id ∈ l.seen) :
    Keeps known (fun id => Gone id ∨ p.id = id) (l.take p none) where
  seen := k.seen
  ordered := k.ordered.filter _
  known := fun q member => k.known q (List.mem_of_mem_filter member)
  candidates := by
    intro id
    have here : (∃ q ∈ l.candidates.filter (·.id ≠ p.id), q.id = id) ↔
        id ≠ p.id ∧ ∃ q ∈ l.candidates, q.id = id := by
      constructor
      · rintro ⟨q, member, rfl⟩
        obtain ⟨old, other⟩ := List.mem_filter.1 member
        exact ⟨of_decide_eq_true other, q, old, rfl⟩
      · rintro ⟨other, q, old, rfl⟩
        exact ⟨q, List.mem_filter.2 ⟨old, decide_eq_true other⟩, rfl⟩
    change (∃ q ∈ l.candidates.filter (·.id ≠ p.id), q.id = id) ↔ _
    rw [here, k.candidates, not_or, ne_comm]
    exact ⟨fun ⟨other, old, present⟩ => ⟨old, present, other⟩,
      fun ⟨old, present, other⟩ => ⟨other, old, present⟩⟩
  gone := by
    rintro id (gone | rfl)
    · exact k.gone id gone
    · exact seen

end Keeps

theorem mem_candidates_learnAll (member : q ∈ l.candidates) (ps : List Peer) :
    q ∈ (ps.foldl learn l).candidates := by
  induction ps generalizing l with
  | nil => exact member
  | cons p ps ih =>
    refine ih ?_
    unfold learn
    split
    · exact member
    · exact mem_insertByDistance.2 (.inr member)

/-- No answer but its own failure costs a candidate its place. -/
theorem mem_candidates_take (member : q ∈ l.candidates) (stays : heard ≠ none ∨ q.id ≠ p.id) :
    q ∈ (l.take p heard).candidates := by
  match heard with
  | some (.closer ps) =>
    change q ∈ (ps.foldl learn _).candidates
    refine mem_candidates_learnAll ?_ ps
    exact member
  | some (.value _) => exact member
  | none =>
    have other : q.id ≠ p.id := stays.resolve_left fun some => some rfl
    exact List.mem_filter.2 ⟨member, decide_eq_true other⟩

theorem responded_learnAll (l : Lookup) (ps : List Peer) :
    (ps.foldl learn l).responded = l.responded := by
  induction ps generalizing l with
  | nil => rfl
  | cons p ps ih =>
    refine (ih (l.learn p)).trans ?_
    unfold learn
    split <;> rfl

/-- What a lookup knows of its seeds and of the answers so far. -/
structure Knows (seeds : List Peer) (said : List (Peer × Heard)) (l : Lookup) : Prop where
  keeps : Keeps (learned seeds said) (Failed said) l
  alive : ∀ p heard, (p, heard) ∈ said → heard ≠ none → p ∈ l.candidates
  orderedResponded : l.responded.Pairwise (Closer l.target)
  responded : ∀ p, p ∈ l.responded ↔ ∃ ps, (p, some (.closer ps)) ∈ said

theorem failed_append_some {found : Found} : Failed (said ++ [(p, some found)]) = Failed said := by
  funext id
  simp [Failed, List.mem_append]

theorem failed_append_none :
    Failed (said ++ [(p, none)]) = fun id => Failed said id ∨ p.id = id := by
  funext id
  simp [Failed, List.mem_append, or_and_right, exists_or]

theorem learned_append :
    learned seeds (said ++ [(p, heard)]) = learned seeds said ++ named heard := by
  rw [learned, List.flatMap_append, List.flatMap_singleton, learned, List.append_assoc]

namespace Knows

/-- A candidate that was not asked before answers. -/
theorem take (k : Knows seeds said l) (member : p ∈ l.candidates)
    (new : ∀ x ∈ said, x.1.id ≠ p.id) (heard : Heard) :
    Knows seeds (said ++ [(p, heard)]) (l.take p heard) where
  keeps := by
    rw [learned_append]
    match heard with
    | some (.closer ps) =>
      rw [failed_append_some]
      exact (k.keeps.respond _).learnAll ps
    | some (.value _) =>
      rw [failed_append_some]
      exact (List.append_nil (learned seeds said)).symm ▸ k.keeps
    | none =>
      rw [failed_append_none]
      exact (List.append_nil (learned seeds said)).symm ▸ k.keeps.fail (k.keeps.mem_seen member)
  alive := by
    intro q answer inside some
    rcases List.mem_append.1 inside with old | now
    · exact mem_candidates_take (k.alive q answer old some) (.inr (new _ old))
    · cases List.mem_singleton.1 now
      exact mem_candidates_take member (.inl some)
  orderedResponded := by
    match heard with
    | some (.closer ps) =>
      change (ps.foldl Lookup.learn _).responded.Pairwise (Closer (ps.foldl Lookup.learn _).target)
      rw [responded_learnAll, (continues_learnAll _ ps).target]
      refine ordered_insertByDistance k.orderedResponded fun q inside => ?_
      obtain ⟨told, earlier⟩ := (k.responded q).1 inside
      exact new _ earlier
    | some (.value _) => exact k.orderedResponded
    | none => exact k.orderedResponded
  responded := by
    intro q
    simp only [List.mem_append, List.mem_singleton, Prod.mk.injEq, exists_or, ← k.responded]
    match heard with
    | some (.closer ps) =>
      change q ∈ (ps.foldl Lookup.learn _).responded ↔ _
      rw [responded_learnAll, mem_insertByDistance, or_comm]
      simp
    | some (.value _) => simp [Lookup.take]
    | none => simp [Lookup.take]

/-- The contacts of a batch answer, one after the other. -/
theorem takeAll {answers : List (Peer × Heard)} (k : Knows seeds said l)
    (members : ∀ x ∈ answers, x.1 ∈ l.candidates)
    (new : ∀ x ∈ said, ∀ y ∈ answers, x.1.id ≠ y.1.id)
    (distinct : answers.Pairwise fun x y => x.1.id ≠ y.1.id) :
    Knows seeds (said ++ answers) (l.takeAll answers) := by
  induction answers generalizing said l with
  | nil => rwa [List.append_nil]
  | cons a answers ih =>
    obtain ⟨p, heard⟩ := a
    obtain ⟨member, members⟩ := List.forall_mem_cons.1 members
    obtain ⟨apart, distinct⟩ := List.pairwise_cons.1 distinct
    rw [← List.singleton_append, ← List.append_assoc]
    refine ih (k.take member (fun x old => new x old _ List.mem_cons_self) heard) ?_ ?_ distinct
    · intro y later
      exact mem_candidates_take (members y later) (.inr (apart y later).symm)
    · intro x old y later
      rcases List.mem_append.1 old with earlier | now
      · exact new x earlier y (List.mem_cons_of_mem _ later)
      · cases List.mem_singleton.1 now
        exact apart y later

/-- What a lookup knows does not hang on whom it has asked, nor on the round. -/
theorem congr (k : Knows seeds said l) (asked : List Identifier) (round : Nat)
    (closest : Option Distance) : Knows seeds said { l with asked, round, closest } where
  keeps := ⟨k.keeps.seen, k.keeps.ordered, k.keeps.known, k.keeps.candidates, k.keeps.gone⟩
  alive := k.alive
  orderedResponded := k.orderedResponded
  responded := k.responded

/-- Before anybody was asked a lookup knows its seeds. -/
theorem start (kind : LookupKind) (limits : LookupLimits) (localId target : Identifier)
    (seeds : List Peer) : Knows seeds [] (start kind limits localId target seeds) := by
  have blank : Keeps [] (Failed []) ⟨kind, limits, localId, target, 0, [], [], [], [], none⟩ := by
    refine ⟨?_, .nil, nofun, ?_, nofun⟩ <;> simp [Failed]
  have keeps := blank.learnAll seeds
  have responded := responded_learnAll ⟨kind, limits, localId, target, 0, [], [], [], [], none⟩ seeds
  refine ⟨?_, nofun, ?_, ?_⟩
  · rw [learned, List.flatMap_nil, List.append_nil]
    exact ⟨keeps.seen, keeps.ordered, keeps.known, keeps.candidates, keeps.gone⟩
  · change (seeds.foldl learn _).responded.Pairwise _
    rw [responded]
    exact .nil
  · intro p
    change p ∈ (seeds.foldl learn _).responded ↔ _
    rw [responded]
    simp

/-- Those that named contacts are the candidates that were asked, if nobody had a value. -/
theorem responded_eq (k : Knows seeds said l)
    (quiet : ∀ p bytes, (p, some (.value bytes)) ∉ said)
    (asked : ∀ id, id ∈ l.asked ↔ ∃ x ∈ said, x.1.id = id) :
    l.responded = l.candidates.filter l.isAsked := by
  refine List.Pairwise.eq_of_mem_iff k.orderedResponded (k.keeps.ordered.filter _) fun p => ?_
  rw [k.responded, List.mem_filter, isAsked, List.contains_iff_mem, asked]
  constructor
  · rintro ⟨ps, answered⟩
    exact ⟨k.alive p _ answered nofun, _, answered, rfl⟩
  · rintro ⟨candidate, ⟨q, heard⟩, answered, same⟩
    match heard with
    | none => exact absurd ⟨q, answered, same⟩ ((k.keeps.candidates p.id).1 ⟨p, candidate, rfl⟩).2
    | some (.value bytes) => exact absurd answered (quiet q bytes)
    | some (.closer ps) =>
      have there := k.alive q _ answered nofun
      rw [← eq_of_id_eq k.keeps.ordered there candidate same]
      exact ⟨ps, answered⟩

end Knows
end LocalSwarm.Lookup
