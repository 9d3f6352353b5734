import LocalSwarm.Proofs.Downloads.Content
import LocalSwarm.Proofs.Downloads.Rounds

/-! Downloads from contacts of which one is honest. A round that leaves something missing has met a
contact that failed, and a contact that fails in no more than one round can spoil no more than one.
So with rounds for all but one contact, the file is saved. A contact that may fail in every round, and
still says to hold the file, can spoil them all. -/
namespace LocalSwarm.Download

/-- The contact that has not said that it holds the wanted copy. -/
def denial? (d : Download) : Happening → Option Identifier
  | .answered _ ⟨.contact p, .checkFile _⟩ outcome =>
    if Outcome.qualifies d.request.size d.request.version outcome then none else some p.id
  | _ => none

/-- The contacts that did not have the wanted copy when they were asked, first one first. -/
def denials (d : Download) (h : List Happening) : List Identifier := h.filterMap d.denial?

/-- The contact that has not delivered the chunk that it was asked for. -/
def failure? (d : Download) : Happening → Option Identifier
  | .answered _ ⟨.contact p, .download _ range⟩ outcome =>
    if (d.accepted range outcome.chunk?).isNone then some p.id else none
  | _ => none

def failures (d : Download) (h : List Happening) : List Identifier := h.filterMap d.failure?

/-- A contact that holds the wanted copy whenever it is asked and delivers every chunk of it. -/
structure Honest (d : Download) (id : Identifier) (h : List Happening) : Prop where
  holds : id ∉ d.denials h
  delivers : id ∉ d.failures h

/-- No contact fails both before and after an answer to a probe, so none fails in two rounds. -/
def FailsOnce (d : Download) (h : List Happening) : Prop :=
  ∀ before x after, h = before ++ x :: after → x.isCheck = true →
    (d.failures before).Disjoint (d.failures after)

/-- The contacts that are online are few enough and known, and the one is among them. -/
structure Present (id : Identifier) (known : List Identifier) (contacts : List Peer) : Prop where
  online : ∃ p ∈ contacts, p.id = id
  known : ∀ p ∈ contacts, p.id ∈ known
  few : contacts.length ≤ Partition.handLimit

theorem failures_append (d : Download) (h k : List Happening) :
    d.failures (h ++ k) = d.failures h ++ d.failures k := List.filterMap_append

theorem failures_accepted {d : Download} {range : ByteRange} {outcome : Outcome} {data : Bytes}
    (taken : d.accepted range outcome.chunk? = some data) (h : List Happening) (slot : Nat)
    (p : Peer) : d.failures (h ++ [d.chunkAnswer slot p range outcome]) = d.failures h := by
  rw [failures_append]
  simp [failures, chunkAnswer, failure?, taken]

theorem failures_refused {d : Download} {range : ByteRange} {outcome : Outcome}
    (refused : d.accepted range outcome.chunk? = none) (h : List Happening) (slot : Nat) (p : Peer) :
    d.failures (h ++ [d.chunkAnswer slot p range outcome]) = d.failures h ++ [p.id] := by
  rw [failures_append]
  simp [failures, chunkAnswer, failure?, refused]

theorem failures_of_noChunk {d : Download} {h : List Happening}
    (noChunk : ∀ x ∈ h, x.isChunk = false) : d.failures h = [] := by
  refine List.filterMap_eq_nil_iff.2 fun x member => ?_
  have other := noChunk x member
  unfold failure?
  split
  · cases other
  · rfl

theorem Honest.of_append {d : Download} {id : Identifier} {h k : List Happening}
    (honest : Honest d id (h ++ k)) : Honest d id h := by
  refine ⟨fun denied => honest.holds ?_, fun failed => honest.delivers ?_⟩
  · rw [denials, List.filterMap_append]
    exact List.mem_append_left _ denied
  · rw [failures_append]
    exact List.mem_append_left _ failed

theorem FailsOnce.of_append {d : Download} {h k : List Happening} (once : FailsOnce d (h ++ k)) :
    FailsOnce d h := by
  intro before x after split check id first second
  refine once before x (after ++ k) ?_ check first ?_
  · rw [split, List.append_assoc, List.cons_append]
  · rw [failures_append]
    exact List.mem_append_left _ second

/-- Who does not fail twice at all does not fail in two rounds. -/
theorem failsOnce_of_nodup {d : Download} {h : List Happening} (nodup : (d.failures h).Nodup) :
    FailsOnce d h := by
  rintro before x after rfl -
  rw [failures_append] at nodup
  have apart := List.disjoint_of_nodup_append nodup
  intro id first second
  refine apart first ?_
  exact (List.Sublist.filterMap d.failure? (List.sublist_cons_self x after)).subset second

/-- The contacts that have spoiled a number of rounds, each a round of its own. -/
structure Culprits (d : Download) (h : List Happening) (round : Nat) (ids : List Identifier) :
    Prop where
  nodup : ids.Nodup
  failed : ids ⊆ d.failures h
  each : ids.length = round

/-- Every round that is over has been spoiled by a contact. The answer that parts them from the
round that is under way belongs to the most recent probe. -/
def Spoiled (d : Download) (h : List Happening) : Stage → Prop
  | .probing => True
  | .filling _ round fill =>
    ∃ before x after ids, h = before ++ x :: after ∧ x.isCheck = true ∧
      Culprits d before round ids ∧ (fill.undelivered ≠ [] → d.failures after ≠ [])
  | .probingAgain _ round _ => ∃ ids, Culprits d h round ids
  | .ended (.ok path) => path = d.request.destination
  | .ended (.error (.file _)) => True
  | _ => False

/-- A round that leaves something missing is spoiled by a contact that has spoiled none before. -/
theorem Culprits.grow {d : Download} {before after : List Happening} {x : Happening} {round : Nat}
    {ids : List Identifier} (culprits : Culprits d before round ids) (check : x.isCheck = true)
    (once : FailsOnce d (before ++ x :: after)) (failed : d.failures after ≠ []) :
    ∃ id, Culprits d (before ++ x :: after) (round + 1) (id :: ids) := by
  obtain ⟨id, member⟩ := List.exists_mem_of_ne_nil _ failed
  have later : id ∈ d.failures (before ++ x :: after) := by
    rw [failures_append]
    refine List.mem_append_right _ ?_
    exact (List.Sublist.filterMap d.failure? (List.sublist_cons_self x after)).subset member
  have earlier : ids ⊆ d.failures (before ++ x :: after) := by
    intro other old
    rw [failures_append]
    exact List.mem_append_left _ (culprits.failed old)
  refine ⟨id, ?_, ?_, ?_⟩
  · refine List.nodup_cons.2 ⟨fun old => ?_, culprits.nodup⟩
    exact once before x after rfl check (culprits.failed old) member
  · exact List.cons_subset.2 ⟨later, earlier⟩
  · rw [List.length_cons, culprits.each]

/-- The honest contact spoils no round, so there are fewer spoiled rounds than contacts. -/
theorem Culprits.few {d : Download} {h : List Happening} {round : Nat} {ids known : List Identifier}
    {id : Identifier} (culprits : Culprits d h round ids) (honest : Honest d id h)
    (listed : id ∈ known) (asked : d.failures h ⊆ known) : round < known.length := by
  have nodup : (id :: ids).Nodup := by
    refine List.nodup_cons.2 ⟨fun guilty => ?_, culprits.nodup⟩
    exact honest.delivers (culprits.failed guilty)
  have subset : id :: ids ⊆ known :=
    List.cons_subset.2 ⟨listed, fun other guilty => asked (culprits.failed guilty)⟩
  have := (nodup.subperm subset).length_le
  rw [List.length_cons, culprits.each] at this
  exact this

/-- What a course from an honest contact comes to at a stage: nobody but known contacts is asked, and
each round that is over was spoiled by one of them. -/
structure Bearing (d : Download) (known : List Identifier) (h : List Happening) (stage : Stage) :
    Prop where
  asked : ∀ p ∈ stage.contacts, p.id ∈ known
  failed : d.failures h ⊆ known
  spoiled : Spoiled d h stage

theorem Bearing.append {d : Download} {known : List Identifier} {h : List Happening} {stage : Stage}
    (b : Bearing d known h stage) {x : Happening} (nothing : d.failure? x = none) :
    Bearing d known (h ++ [x]) stage := by
  have same : ∀ k, d.failures (k ++ [x]) = d.failures k := by
    intro k
    rw [failures_append]
    simp [failures, nothing]
  refine ⟨b.asked, by rw [same]; exact b.failed, ?_⟩
  have spoiled := b.spoiled
  cases stage with
  | probing => trivial
  | whole => exact spoiled
  | filling part round fill =>
    obtain ⟨before, y, after, ids, rfl, check, culprits, left⟩ := spoiled
    refine ⟨before, y, after ++ [x], ids, ?_, check, culprits, ?_⟩
    · exact List.append_assoc _ _ _
    · rw [same]
      exact left
  | probingAgain part round pending =>
    obtain ⟨ids, culprits⟩ := spoiled
    refine ⟨ids, culprits.nodup, ?_, culprits.each⟩
    rw [same]
    exact culprits.failed
  | ended result =>
    cases result with
    | ok path => exact spoiled
    | error e => cases e <;> exact spoiled

section

variable {d : Download} {id : Identifier} {known : List Identifier} {t t' : Files.Tree}

/-- A round that ends without the file has spoiled no more than the rounds that there are. -/
theorem spoiled_settled {part : Files.Location} {round : Nat} {fill : Fill} {next : Stage}
    {before after : List Happening} {x : Happening} {ids : List Identifier}
    (settled : Settled d t part round fill t' next) (check : x.isCheck = true)
    (culprits : Culprits d before round ids) (left : fill.undelivered ≠ [] → d.failures after ≠ [])
    (once : FailsOnce d (before ++ x :: after)) (honest : Honest d id (before ++ x :: after))
    (listed : id ∈ known) (failed : d.failures (before ++ x :: after) ⊆ known)
    (enough : known.length ≤ d.rounds + 1) : Spoiled d (before ++ x :: after) next := by
  have undelivered : fill.pending ≠ [] → fill.undelivered ≠ [] := by
    intro some none
    have same := fill.pending_perm
    rw [none] at same
    exact some same.eq_nil
  cases settled with
  | goesOn => exact ⟨before, x, after, ids, rfl, check, culprits, left⟩
  | saved => rfl
  | failed | unsaved => trivial
  | givenUp _ _ some last =>
    obtain ⟨_, more⟩ := culprits.grow check once (left (undelivered some))
    have few := more.few honest listed failed
    omega
  | again _ _ some =>
    obtain ⟨other, more⟩ := culprits.grow check once (left (undelivered some))
    exact ⟨other :: ids, more⟩

theorem probed_honest {older checks : List Happening} {candidates contacts : List Peer}
    (probed : Probed d.request.query d.request.size d.request.version candidates checks contacts)
    (present : Present id known candidates) (honest : Honest d id (older ++ checks)) :
    ∃ p ∈ contacts, p.id = id := by
  obtain ⟨p, online, same⟩ := present.online
  rcases probed.others p online with found | ⟨slot, outcome, heard, denied⟩
  · exact ⟨p, found, same⟩
  · refine absurd ?_ honest.holds
    refine List.mem_filterMap.2 ⟨_, List.mem_append_right _ heard, ?_⟩
    simp only [denial?, denied, Bool.false_eq_true, if_false, same]

/-- A round begins with nothing undelivered, after an answer to a probe. -/
theorem spoiled_start {part : Files.Location} {round : Nat} {contacts candidates : List Peer}
    {pieces : List (List ByteRange)} {next : Stage} {older checks : List Happening}
    {ids : List Identifier}
    (settled : Settled d t part round (Fill.start contacts pieces d.width) t' next)
    (noChunk : ∀ x ∈ checks, x.isChunk = false)
    (probed : Probed d.request.query d.request.size d.request.version candidates checks contacts)
    (present : Present id known candidates) (culprits : Culprits d (older ++ checks) round ids)
    (once : FailsOnce d (older ++ checks)) (honest : Honest d id (older ++ checks))
    (listed : id ∈ known) (failed : d.failures (older ++ checks) ⊆ known)
    (enough : known.length ≤ d.rounds + 1) : Spoiled d (older ++ checks) next := by
  obtain ⟨p, found, -⟩ := probed_honest probed present honest
  obtain ⟨slot, outcome, heard, -⟩ := probed.qualified p found
  obtain ⟨first, last, rfl⟩ := List.append_of_mem heard
  have earlier : Culprits d (older ++ first) round ids := by
    refine ⟨culprits.nodup, ?_, culprits.each⟩
    have none := failures_of_noChunk (d := d) noChunk
    have same := culprits.failed
    rw [failures_append, none, List.append_nil] at same
    intro other guilty
    rw [failures_append]
    exact List.mem_append_left _ (same guilty)
  have nothing : (Fill.start contacts pieces d.width).undelivered ≠ [] → d.failures last ≠ [] :=
    fun some => absurd rfl some
  rw [← List.append_assoc older first] at once honest failed ⊢
  exact spoiled_settled settled rfl earlier nothing once honest listed failed enough

/-- No answer spoils a round unless a contact has failed in it. -/
theorem spoiled_answered {part : Files.Location} {round : Nat} {fill fill' : Fill} {next : Stage}
    {h : List Happening} {x : Happening} (spoiled : Spoiled d h (.filling part round fill))
    (settled : Settled d t part round fill' t' next)
    (left : ∀ after, (fill.undelivered ≠ [] → d.failures after ≠ []) →
      fill'.undelivered ≠ [] → d.failures (after ++ [x]) ≠ [])
    (once : FailsOnce d (h ++ [x])) (honest : Honest d id (h ++ [x])) (listed : id ∈ known)
    (failed : d.failures (h ++ [x]) ⊆ known) (enough : known.length ≤ d.rounds + 1) :
    Spoiled d (h ++ [x]) next := by
  obtain ⟨before, check, after, ids, rfl, probed, culprits, still⟩ := spoiled
  rw [List.append_assoc, List.cons_append] at once honest failed ⊢
  exact spoiled_settled settled probed culprits (left after still) once honest listed failed enough

theorem Course.bearing {online : List Peer → Prop} {t₀ : Files.Tree} {h : List Happening}
    {rounds : List Round} {stage : Stage} (course : Course d online t₀ h rounds t stage)
    (present : ∀ contacts, online contacts → Present id known contacts) (listed : id ∈ known)
    (enough : known.length ≤ d.rounds + 1) (large : d.chunkSize < d.size) (honest : Honest d id h)
    (once : FailsOnce d h) : Bearing d known h stage := by
  induction course with
  | start => exact ⟨fun _ member => absurd member List.not_mem_nil, List.nil_subset _, trivial⟩
  | created _ _ _ _ _ ih => exact (ih honest.of_append once.of_append).append rfl
  | elapsed _ _ _ _ ih => exact (ih honest.of_append once.of_append).append rfl
  | disrupted _ _ _ ih => exact (ih honest.of_append once.of_append).append rfl
  | checked _ _ _ _ _ ih => exact (ih honest.of_append once.of_append).append rfl
  | @probed older checks _ _ _ stage next candidates contacts course probing noChunk asked probed
      step ih =>
    obtain ⟨-, failed, spoiled⟩ := ih honest once
    have here := present candidates asked
    obtain ⟨p, found, -⟩ := probed_honest probed here honest
    have turn := turn_of_step (awaits_probed probing contacts) step
    refine ⟨fun p member => ?_, failed, ?_⟩
    · exact here.known p (probed.sublist.subset (contacts_of_probed turn member))
    · cases turn with
      | notFound => cases found
      | asksWhole small => exact absurd large (Nat.not_lt.2 small)
      | blocked | unfit => trivial
      | begins _ _ _ _ _ settled =>
        exact spoiled_start settled noChunk probed here ⟨.nil, List.nil_subset _, rfl⟩ once honest
          listed failed enough
      | exhausted => cases found
      | resumes _ _ settled =>
        obtain ⟨ids, culprits⟩ := spoiled
        exact spoiled_start settled noChunk probed here culprits once honest listed failed enough
  | @chunk h _ _ _ stage next slot p range outcome course asked step ih =>
    obtain ⟨contacts, failed, spoiled⟩ := ih honest.of_append once.of_append
    have account := course.accounted.account
    have turn := turn_of_step (awaits_chunk asked _) step
    have known' : ∀ q ∈ next.contacts, q.id ∈ known := fun q member =>
      contacts q (contacts_of_chunk turn member)
    cases turn with
    | saved | unsaved | lost | asksNext | nobodyLeft => exact spoiled.elim
    | @delivered part round _ fill x _ _ _ _ found taken _ settled =>
      obtain ⟨rfl, rfl⟩ := at?_of_asked account.orderly asked found
      rw [← failures_accepted taken h slot x.contact] at failed
      refine ⟨known', failed, ?_⟩
      refine spoiled_answered spoiled settled (fun after left => ?_) once honest listed failed enough
      rw [Fill.undelivered_deliver, failures_accepted taken]
      exact left
    | @abandoned part round _ _ fill x _ _ _ _ _ found taken _ settled =>
      obtain ⟨rfl, rfl⟩ := at?_of_asked account.orderly asked found
      rw [← failures_accepted taken h slot x.contact] at failed
      refine ⟨known', failed, ?_⟩
      refine spoiled_answered spoiled settled (fun after left => ?_) once honest listed failed enough
      rw [Fill.undelivered_abandon, failures_accepted taken]
      exact left
    | @refused part round _ fill x _ _ _ found refused settled =>
      obtain ⟨rfl, rfl⟩ := at?_of_asked account.orderly asked found
      have failed' : d.failures (h ++ [d.chunkAnswer slot x.contact (x.chunk d.chunkSize) outcome]) ⊆
          known := by
        rw [failures_refused refused]
        refine List.append_subset.2 ⟨failed, ?_⟩
        exact List.cons_subset.2 ⟨contacts _ (contact_of_asked asked), List.nil_subset _⟩
      refine ⟨known', failed', ?_⟩
      refine spoiled_answered spoiled settled (fun after _ _ => ?_) once honest listed failed' enough
      rw [failures_refused refused]
      exact List.append_ne_nil_of_right_ne_nil _ (List.cons_ne_nil _ _)

end

/-- One honest contact suffices for a large file, if no contact fails in two rounds and there are
rounds for all contacts that are ever online. -/
theorem one_honest_contact_suffices {d : Download} {s : Site} {c' : Situation} {h : List Happening}
    {e : Except Cut (Except DownloadError String)} {id : Identifier} {known : List Identifier}
    (valid : d.request.validate s.files = .ok ()) (large : d.chunkSize < d.size)
    (run : Run d.plan ⟨[], s⟩ h c' e)
    (first : Present id known (s.node.table.online s.now))
    (later : ∀ node now, .elapsed node now ∈ h → Present id known (node.table.online now))
    (honest : Honest d id h) (once : FailsOnce d h) (enough : known.length ≤ d.rounds)
    (whole : e ≠ .error .dropped) (writable : ∀ cause, e ≠ .ok (.error (.file cause))) :
    e = .ok (.ok d.request.destination) := by
  have listed : id ∈ known := by
    obtain ⟨p, online, rfl⟩ := first.online
    exact first.known p online
  rcases run_plan (Present id known) first later run with ⟨flaw, refused, -⟩ | ⟨-, conducted⟩
  · rw [valid] at refused
    cases refused
  · cases conducted with
    | @ended rounds result course =>
      have spoiled := (course.bearing (fun _ present => present) listed (Nat.le_succ_of_le enough)
        large honest once).spoiled
      cases result with
      | ok path =>
        obtain rfl : path = d.request.destination := spoiled
        rfl
      | error error =>
        cases error with
        | file cause => exact absurd rfl (writable cause)
        | _ => exact spoiled.elim
    | dropped => exact absurd rfl whole
    | broken _ course probing present probed failed =>
      have many := course.fault probing failed
      have few := probed.sublist.length_le.trans present.few
      omega

namespace Sample

/-- One peer fails in every round, and still says that it has the file. -/
def stubborn : List Happening :=
  [answers 0 idle true, answers 1 honest true, fails 0 idle first, delivers 1 honest second 9,
    answers 0 idle true, answers 1 honest true, fails 0 idle first,
    answers 0 idle true, answers 1 honest true, fails 0 idle first]

theorem stubborn_timeless (node : Node) (now : Moment) : .elapsed node now ∉ stubborn := by
  simp [stubborn, answers, delivers, fails, checkAnswer, chunkAnswer]

theorem present :
    Present honest.id [idle.id, honest.id] (site.node.table.online site.now) := by
  rw [online_site]
  refine ⟨⟨honest, by simp, rfl⟩, by simp, ?_⟩
  rw [Partition.handLimit]
  decide

end Sample

/-- The honest contact and one that fails once, in two rounds. -/
theorem one_honest_contact_suffices_beside_another :
    ∃ c', Run Sample.download.plan ⟨[], Sample.site⟩ Sample.happenings c'
      (.ok (.ok Sample.download.request.destination)) := by
  obtain ⟨c', run⟩ := Sample.run
  have saved := one_honest_contact_suffices (by decide +kernel) (by decide) run Sample.present
    (fun node now elapsed => absurd elapsed (Sample.happenings_timeless node now))
    ⟨by decide +kernel, by decide +kernel⟩ (failsOnce_of_nodup (by decide +kernel))
    (Nat.le_refl 2) nofun nofun
  rw [← saved]
  exact ⟨c', run⟩

/-- A contact that fails in every round and goes on saying that it holds the file is asked for the
same chunk again and again. -/
theorem one_honest_contact_is_not_enough :
    Sample.download.request.validate Sample.site.files = .ok () ∧
    Sample.download.chunkSize < Sample.download.size ∧
    Present Sample.honest.id [Sample.idle.id, Sample.honest.id]
      (Sample.site.node.table.online Sample.site.now) ∧
    [Sample.idle.id, Sample.honest.id].length ≤ Sample.download.rounds ∧
    Honest Sample.download Sample.honest.id Sample.stubborn ∧
    (∀ node now, .elapsed node now ∉ Sample.stubborn) ∧
    ∃ c', Run Sample.download.plan ⟨[], Sample.site⟩ Sample.stubborn c'
      (.ok (.error (.incomplete 1))) := by
  refine ⟨by decide +kernel, by decide, Sample.present, Nat.le_refl 2, ?_, ?_, ?_⟩
  · exact ⟨by decide +kernel, by decide +kernel⟩
  · exact Sample.stubborn_timeless
  · exact run_of_replay (by decide +kernel)

end LocalSwarm.Download
