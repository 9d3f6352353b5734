import LocalSwarm.Proofs.Lookups.Contacts

/-! Lookups of values, from the closest contacts of the table. A value is found when anybody who is
asked has one, and then no round follows; without one the nearest contacts were all asked. Main
statement: `value_lookups_find_what_is_told`. -/
namespace LocalSwarm.Lookup

/-- What a node looks for when it wants a value. -/
def valueQuest (s : Site) (pace : LookupPace) (key : Identifier) : Quest :=
  questAt s .value pace key (s.node.table.closest s.now key s.node.count)

deriving instance DecidableEq for LookupOutcome

/-! Three things that a contact may answer, and three lookups from the one contact of the table: one
that finds a value, one that finds none, and one in which we are told of ourselves. -/
namespace Sample

def refers (slot : Nat) (p : Peer) (told : List Peer) : Happening :=
  .answered slot ⟨.contact p, .findValue target 2⟩ (.ok ⟨p, .findValue (.closer told)⟩)

def holds (slot : Nat) (p : Peer) (value : Bytes) : Happening :=
  .answered slot ⟨.contact p, .findValue target 2⟩ (.ok ⟨p, .findValue (.value value)⟩)

def refuses (slot : Nat) (p : Peer) : Happening :=
  .answered slot ⟨.contact p, .findValue target 2⟩ (.error (.remote ""))

def hit : List Happening :=
  [refers 0 far [near, middle, silent], refers 1 silent [], holds 0 near [9]]

def miss : List Happening :=
  [refers 0 far [near, silent, ourselves], refuses 1 silent, refers 0 near [middle],
    refers 0 middle []]

def mirror : List Happening := [refers 0 far [ourselves]]

def sought : Quest := valueQuest site pace target

theorem run_hit : ∃ c', Run (findValue pace target) ⟨[], site⟩ hit c' (.ok (.value [9])) :=
  Plan.run_of_result (by decide +kernel)

theorem run_miss :
    ∃ c', Run (findValue pace target) ⟨[], site⟩ miss c' (.ok (.contacts [near, middle])) :=
  Plan.run_of_result (by decide +kernel)

theorem run_mirror :
    ∃ c', Run (findValue pace target) ⟨[], site⟩ mirror c' (.ok (.contacts [far])) :=
  Plan.run_of_result (by decide +kernel)

end Sample

variable {s : Site} {pace : LookupPace} {key : Identifier} {h : List Happening} {c' : Situation}
  {e : Except Cut LookupOutcome}

theorem run_findValue (run : Run (findValue pace key) ⟨[], s⟩ h c' e) :
    Conducted (valueQuest s pace key) h e := by
  cases run with
  | look search => exact run_search search

/-- A lookup ends with a value if anybody has told one. -/
theorem Course.value_iff {q : Quest} {rounds : List Round} {outcome : LookupOutcome}
    (course : Course q h rounds (.ended outcome)) :
    (∃ bytes, outcome = .value bytes) ↔ ∃ p bytes, (p, some (.value bytes)) ∈ replies q.kind h := by
  cases outcome with
  | value bytes =>
    obtain ⟨p, told⟩ := course.told
    exact ⟨fun _ => ⟨p, bytes, told⟩, fun _ => ⟨bytes, rfl⟩⟩
  | contacts ps => exact ⟨nofun, fun ⟨p, bytes, told⟩ => absurd told (course.quiet p bytes)⟩

/-- A lookup of a value returns one just if somebody who was asked has told one. Then the round in
which it was told is the last. A lookup that ends early without a value has asked the nearest of all
contacts that anybody told of, but ourselves and those that failed, and they named others instead. -/
theorem value_lookups_find_what_is_told (run : Run (findValue pace key) ⟨[], s⟩ h c' e) :
    e = .error .dropped ∨ ∃ rounds outcome, e = .ok outcome ∧
      Course (valueQuest s pace key) h rounds (.ended outcome) ∧
      ((∃ bytes, outcome = .value bytes) ↔
        ∃ p bytes, (p, some (.value bytes)) ∈ replies .value h) ∧
      (∀ bytes, outcome = .value bytes → ∃ front last, rounds = front ++ [last] ∧
        Quiet front.flatten ∧ ∃ p, (p, some (.value bytes)) ∈ last) ∧
      ∀ ps, outcome = .contacts ps → rounds.length < pace.rounds →
        Exhausts (valueQuest s pace key) (replies .value h) ps ∧
          Answered (valueQuest s pace key) (replies .value h) ps := by
  cases run_findValue run with
  | dropped => exact .inl rfl
  | @ended _ rounds outcome course =>
    refine .inr ⟨rounds, outcome, rfl, course, course.value_iff, ?value, ?contacts⟩
    case value =>
      rintro bytes rfl
      exact course.found
    case contacts =>
      rintro ps rfl early
      exact ⟨course.exhausts early, course.answered⟩

theorem sample_lookups_find_what_is_told :
    (∃ c', Run (findValue Sample.pace Sample.target) ⟨[], Sample.site⟩ Sample.hit c'
        (.ok (.value [9])) ∧
      ∃ p bytes, (p, some (.value bytes)) ∈ replies .value Sample.hit) ∧
    ∃ c', Run (findValue Sample.pace Sample.target) ⟨[], Sample.site⟩ Sample.miss c'
        (.ok (.contacts [Sample.near, Sample.middle])) ∧
      Exhausts Sample.sought (replies .value Sample.miss) [Sample.near, Sample.middle] ∧
      Answered Sample.sought (replies .value Sample.miss) [Sample.near, Sample.middle] := by
  constructor
  · obtain ⟨c', run⟩ := Sample.run_hit
    rcases value_lookups_find_what_is_told run with cut | ⟨_, _, same, -, told, -⟩
    · cases cut
    · cases same
      exact ⟨c', run, told.1 ⟨[9], rfl⟩⟩
  · obtain ⟨c', run⟩ := Sample.run_miss
    rcases value_lookups_find_what_is_told run with cut | ⟨rounds, _, same, course, -, -, ended⟩
    · cases cut
    · cases same
      obtain ⟨exhausts, answered⟩ :=
        ended _ rfl (Nat.lt_of_le_of_lt course.length_le (by decide))
      exact ⟨c', run, exhausts, answered⟩

/-- A contact may name ourselves. We may then be among the nearest of all that anybody told of, yet
we are not asked. -/
theorem ourselves_may_be_nearest_unasked :
    ∃ c', Run (findValue Sample.pace Sample.target) ⟨[], Sample.site⟩ Sample.mirror c'
        (.ok (.contacts [Sample.far])) ∧
      ∃ rounds, Course Sample.sought Sample.mirror rounds (.ended (.contacts [Sample.far])) ∧
        rounds.length < Sample.pace.rounds ∧
        Nearest Sample.target Sample.sought.limits.count
          (fun id => (∃ p ∈ learned Sample.sought.seeds (replies .value Sample.mirror), p.id = id) ∧
            ¬ Failed (replies .value Sample.mirror) id) [Sample.ourselves, Sample.far] ∧
        ∀ x ∈ replies .value Sample.mirror, x.1.id ≠ Sample.ourselves.id := by
  obtain ⟨c', run⟩ := Sample.run_mirror
  obtain ⟨past, during, rounds, stage, all, course, -, -, whole⟩ := (run_findValue run).modest
  obtain ⟨rfl, rfl⟩ := whole _ rfl
  rw [List.append_nil] at all
  subst all
  have seeds : Sample.sought.seeds = [Sample.far] := by decide +kernel
  have told : replies .value Sample.mirror =
      [(Sample.far, some (.closer [Sample.ourselves]))] := rfl
  refine ⟨c', run, rounds, course, Nat.lt_of_le_of_lt course.length_le (by decide), ?nearest, ?_⟩
  case nearest =>
    rw [seeds, told]
    refine ⟨by decide +kernel, by decide, ?_, ?_⟩
    · simp [learned, named, Failed]
    · simpa [learned, named, Failed] using fun _ same => .inl same.symm
  rw [told]
  decide

end LocalSwarm.Lookup
