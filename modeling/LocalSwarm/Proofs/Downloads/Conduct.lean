import LocalSwarm.Proofs.Downloads.Account

/-! The conduct of a download. Every run of its plan, in any surroundings, is a course of the download
(`run_plan`). The plan never waits in vain, since every chunk that is asked for is out. -/
namespace LocalSwarm.Download

/-- What a plan does with an event that goes on with `further`. -/
def resume (d : Download) (further : Stage → List Nat → Plan (Except DownloadError String))
    (stage : Stage) (event : Event) (out : List Nat) : Plan (Except DownloadError String) :=
  .look fun site =>
    match d.step site.files stage event with
    | .error fault => .broken fault
    | .ok (files, next) =>
      if stage.awaits event = true then
        .change (fun site => { site with files }) (further next out)
      else .done (.error .cancelled)

/-- The proof that the step comes nearer to the end is of no account for what the plan does. -/
theorem look_eq_resume (d : Download) (stage : Stage) (event : Event) (out : List Nat) :
    (Plan.look fun site =>
      match _h : d.step site.files stage event with
      | .error fault => .broken fault
      | .ok (files, next) =>
        if _awaited : stage.awaits event = true then
          .change (fun site => { site with files }) (d.follow next out)
        else .done (.error .cancelled)) = d.resume d.follow stage event out := by
  refine congrArg Plan.look (funext fun site => ?_)
  split
  · next same => rw [same]
  · next same =>
    rw [same]
    rfl

theorem follow_ended (d : Download) (result : Except DownloadError String) (out : List Nat) :
    d.follow (.ended result) out = .done result := by
  rw [follow]

theorem follow_of_isProbing (d : Download) {stage : Stage} (h : stage.isProbing = true)
    (out : List Nat) :
    d.follow stage out =
      (Plan.onDrop (d.dropAt stage)
        (probe d.request.query d.request.size d.request.version d.width)).bind fun contacts =>
          d.resume d.follow stage (.probed contacts) [] := by
  cases stage with
  | probing =>
    rw [follow]
    exact congrArg (Plan.bind _) (funext fun contacts => look_eq_resume d _ (.probed contacts) [])
  | probingAgain =>
    rw [follow]
    exact congrArg (Plan.bind _) (funext fun contacts => look_eq_resume d _ (.probed contacts) [])
  | whole => cases h
  | filling => cases h
  | ended => cases h

def Stage.isAsking : Stage → Bool
  | .whole .. => true
  | .filling .. => true
  | _ => false

theorem follow_of_isAsking (d : Download) {stage : Stage} (h : stage.isAsking = true)
    (out : List Nat) :
    d.follow stage out =
      .await .departure (((d.asked stage).filter fun a => !out.contains a.1).map d.chunkCall)
        (d.dropAt stage) fun number outcome =>
          d.resume d.follow stage (.chunk number outcome.chunk?)
            (((d.asked stage).map (·.1)).erase number) := by
  cases stage with
  | whole =>
    rw [follow]
    refine congrArg (Plan.await _ _ _) (funext fun number => funext fun outcome => ?_)
    exact look_eq_resume d _ (.chunk number outcome.chunk?) _
  | filling =>
    rw [follow]
    refine congrArg (Plan.await _ _ _) (funext fun number => funext fun outcome => ?_)
    exact look_eq_resume d _ (.chunk number outcome.chunk?) _
  | probing => cases h
  | probingAgain => cases h
  | ended => cases h

/-- The plan of a download for a number of events. After them it breaks. -/
def unroll (d : Download) : Nat → Stage → List Nat → Plan (Except DownloadError String)
  | 0, _, _ => .broken .overflow
  | n + 1, stage, out =>
    match stage with
    | .ended result => .done result
    | .probing | .probingAgain .. =>
      (Plan.onDrop (d.dropAt stage)
        (probe d.request.query d.request.size d.request.version d.width)).bind fun contacts =>
          d.resume (d.unroll n) stage (.probed contacts) []
    | .whole .. | .filling .. =>
      .await .departure (((d.asked stage).filter fun a => !out.contains a.1).map d.chunkCall)
        (d.dropAt stage) fun number outcome =>
          d.resume (d.unroll n) stage (.chunk number outcome.chunk?)
            (((d.asked stage).map (·.1)).erase number)

theorem extends_resume {d : Download}
    {f g : Stage → List Nat → Plan (Except DownloadError String)}
    (longer : ∀ stage out, Plan.Extends (f stage out) (g stage out)) (stage : Stage) (event : Event)
    (out : List Nat) : Plan.Extends (d.resume f stage event out) (d.resume g stage event out) := by
  refine .look fun site => ?_
  cases d.step site.files stage event with
  | error fault => exact .broken fault _
  | ok result =>
    dsimp only
    split
    · exact .change _ (longer _ _)
    · exact .done _

theorem extends_unroll (d : Download) (n : Nat) (stage : Stage) (out : List Nat) :
    Plan.Extends (d.unroll n stage out) (d.follow stage out) := by
  induction n generalizing stage out with
  | zero => exact .broken _ _
  | succ n ih =>
    have probing : ∀ {stage : Stage}, stage.isProbing = true → Plan.Extends
        ((Plan.onDrop (d.dropAt stage)
          (probe d.request.query d.request.size d.request.version d.width)).bind fun contacts =>
            d.resume (d.unroll n) stage (.probed contacts) []) (d.follow stage out) := by
      intro stage waits
      rw [d.follow_of_isProbing waits]
      exact Plan.extends_bind fun contacts => extends_resume ih _ _ _
    have asking : ∀ {stage : Stage}, stage.isAsking = true → Plan.Extends
        (.await .departure (((d.asked stage).filter fun a => !out.contains a.1).map d.chunkCall)
          (d.dropAt stage) fun number outcome =>
            d.resume (d.unroll n) stage (.chunk number outcome.chunk?)
              (((d.asked stage).map (·.1)).erase number)) (d.follow stage out) := by
      intro stage waits
      rw [d.follow_of_isAsking waits]
      exact .await _ _ _ fun number outcome => extends_resume ih _ _ _
    cases stage with
    | probing => exact probing rfl
    | probingAgain => exact probing rfl
    | whole => exact asking rfl
    | filling => exact asking rfl
    | ended result =>
      rw [follow_ended]
      exact .done result

def replay (d : Download) (s : Site) (h : List Happening) :
    Option (Situation × Except DownloadError String) :=
  (d.unroll (h.length + 1) (d.start s.files) []).replay ⟨[], s⟩ h

theorem run_of_replay {d : Download} {s : Site} {h : List Happening}
    {r : Except DownloadError String} (played : (d.replay s h).map Prod.snd = some r) :
    ∃ c', Run d.plan ⟨[], s⟩ h c' (.ok r) := by
  obtain ⟨⟨c', r'⟩, ended, rfl⟩ := Option.map_eq_some_iff.1 played
  refine ⟨c', .look ?_⟩
  exact (d.extends_unroll _ _ _).run (Plan.run_of_replay ended)

/-- The calls that are out at a stage when chunks are on their way for some of its transfers. -/
def Outstanding (d : Download) (stage : Stage) (out : List Nat) (calls : List (Nat × Call)) : Prop :=
  calls.Perm (((d.asked stage).filter fun a => out.contains a.1).map d.chunkCall)

/-- With the calls that the plan adds, every chunk that is asked for is out. -/
theorem Outstanding.all {d : Download} {stage : Stage} {out : List Nat} {calls : List (Nat × Call)}
    (outstanding : d.Outstanding stage out calls) :
    (calls ++ ((d.asked stage).filter fun a => !out.contains a.1).map d.chunkCall).Perm
      ((d.asked stage).map d.chunkCall) := by
  refine (outstanding.append_right _).trans ?_
  rw [← List.map_append]
  exact (List.filter_append_perm _ _).map _

def chunkCalls (d : Download) (xs : List (Nat × Transfer)) : List (Nat × Call) :=
  xs.map fun x => d.chunkCall (x.1, x.2.contact, x.2.chunk d.chunkSize)

theorem chunkCalls_asked (d : Download) (part : Files.Location) (round : Nat) (fill : Fill) :
    (d.asked (.filling part round fill)).map d.chunkCall = d.chunkCalls fill.active := by
  rw [asked, List.map_map]
  rfl

/-- Once an answer has come, the calls of the other transfers are out. -/
theorem outstanding_keeps {d : Download} (part : Files.Location) (round : Nat) {number : Nat}
    {f g : Fill} {calls : List (Nat × Call)} {x : Transfer} (orderly : f.Orderly)
    (found : f.at? number = some x)
    (keeps : f.Keeps g number) (all : calls.Perm (d.chunkCalls f.active)) :
    d.Outstanding (.filling part round g)
        (((d.asked (.filling part round f)).map (·.1)).erase number)
        (calls.eraseP (·.1 == number)) ∧
      (g.isOver = true → calls.eraseP (·.1 == number) = []) := by
  have distinct := orderly.active_nodup
  have numbers : ((d.asked (.filling part round f)).map (·.1)).erase number =
      (f.others number).map (·.1) := by
    have same : (d.asked (.filling part round f)).map (·.1) = f.active.map (·.1) := by
      rw [asked, List.map_map]
      rfl
    rw [same, List.erase_eq_eraseP, List.eraseP_map]
    congr 2
    funext y
    exact Bool.beq_comm
  have left : (calls.eraseP (·.1 == number)).Perm (d.chunkCalls (f.others number)) := by
    have once : calls.Pairwise fun a b => (a.1 == number) = true → (b.1 == number) = true → False := by
      have slots : (calls.map Prod.fst).Nodup := by
        rw [(all.map Prod.fst).nodup_iff, chunkCalls, List.map_map]
        exact distinct
      refine (List.pairwise_map.1 slots).imp fun differ first second => differ ?_
      rw [eq_of_beq first, eq_of_beq second]
    have erased := List.Perm.eraseP _ once all
    rwa [chunkCalls, List.eraseP_map] at erased
  have apart : ((f.others number).map (·.1)).Nodup := by
    have apart := (orderly.cons_nodup found).of_cons
    rw [List.map_append] at apart
    exact apart.of_append_left
  constructor
  · rw [Outstanding, numbers]
    refine left.trans ?_
    have kept := ((keeps.perm apart).symm.map fun x =>
      d.chunkCall (x.1, x.2.contact, x.2.chunk d.chunkSize))
    rwa [asked, List.filter_map, List.map_map]
  · intro ends
    rw [keeps.none_of_isOver ends] at left
    exact left.eq_nil

/-- The calls that are out when a chunk has come, unless the download has ended. -/
theorem outstanding_chunk {d : Download} {t t' : Files.Tree} {stage next : Stage} {slot : Nat}
    {p : Peer} {range : ByteRange} {answer : Option (FileStatus × Bytes)} {calls : List (Nat × Call)}
    {written : List ByteRange} (account : Account d written stage)
    (asked : (slot, p, range) ∈ d.asked stage)
    (step : d.step t stage (.chunk slot answer) = .ok (t', next))
    (all : calls.Perm ((d.asked stage).map d.chunkCall)) (more : next.isOpen = true) :
    d.Outstanding next (((d.asked stage).map (·.1)).erase slot) (calls.eraseP (·.1 == slot)) := by
  have settled : ∀ {part round f x g t₁}, stage = .filling part round f → f.at? slot = some x →
      f.Orderly → f.Keeps g slot → Settled d t₁ part round g t' next →
      d.Outstanding next (((d.asked stage).map (·.1)).erase slot) (calls.eraseP (·.1 == slot)) := by
    rintro part round f x g t₁ rfl found orderly keeps settled
    rw [chunkCalls_asked] at all
    obtain ⟨out, none⟩ := outstanding_keeps part round orderly found keeps all
    cases settled with
    | goesOn => exact out
    | again ends =>
      rw [none ends]
      exact List.Perm.nil
    | failed | saved | unsaved | givenUp => cases more
  cases turn_of_step (awaits_chunk asked _) step with
  | saved | unsaved | lost | nobodyLeft => cases more
  | asksNext =>
    -- The only call that was out is the one that has been answered.
    obtain ⟨rfl, -⟩ := all_of_asked asked
    have none : calls.eraseP (·.1 == 0) = [] := by
      rw [List.perm_singleton.1 all]
      rfl
    rw [none]
    exact List.Perm.nil
  | delivered found _ _ next =>
    exact settled rfl found account.orderly (Fill.keeps_deliver account.orderly found _) next
  | abandoned found _ _ next =>
    exact settled rfl found account.orderly (Fill.keeps_abandon account.orderly found _) next
  | refused found _ next =>
    exact settled rfl found account.orderly (Fill.keeps_refuse account.orderly found) next

/-- What a run of the plan of a download comes to, from a course of it on. -/
inductive Conducted (d : Download) (online : List Peer → Prop) (t₀ : Files.Tree)
    (h : List Happening) (t : Files.Tree) : Except Cut (Except DownloadError String) → Prop where
  | ended {rounds : List Round} {result : Except DownloadError String} :
      Course d online t₀ h rounds t (.ended result) → Conducted d online t₀ h t (.ok result)
  | dropped {rounds : List Round} {t' : Files.Tree} {stage : Stage} :
      Course d online t₀ h rounds t' stage → stage.isOpen = true →
      d.step t' stage .cancel = .ok (t, .ended (.error .cancelled)) →
      Conducted d online t₀ h t (.error .dropped)
  | broken {older checks : List Happening} {rounds : List Round} {stage : Stage}
      {candidates contacts : List Peer} {fault : Fault} : h = older ++ checks →
      Course d online t₀ h rounds t stage → stage.isProbing = true → online candidates →
      Probed d.request.query d.request.size d.request.version candidates checks contacts →
      d.step t stage (.probed contacts) = .error fault →
      Conducted d online t₀ h t (.error (.broken fault))

/-- However a download that was begun ends, it has taken some course up to there. -/
theorem Conducted.course {d : Download} {online : List Peer → Prop} {t₀ t : Files.Tree}
    {h : List Happening} {e : Except Cut (Except DownloadError String)}
    (conducted : Conducted d online t₀ h t e) :
    ∃ rounds t' stage, Course d online t₀ h rounds t' stage := by
  cases conducted with
  | ended course => exact ⟨_, _, _, course⟩
  | dropped course => exact ⟨_, _, _, course⟩
  | broken _ course => exact ⟨_, _, _, course⟩

/-- A course goes on while things happen that are no answers to requests for chunks. -/
theorem Course.passes {d : Download} {online : List Peer → Prop} {t₀ : Files.Tree} {s s' : Site}
    {past h : List Happening} {rounds : List Round} {stage : Stage}
    (course : Course d online t₀ past rounds s.files stage) (more : stage.isOpen = true)
    (passes : Passes s h s')
    (answers : ∀ slot call outcome, .answered slot call outcome ∈ h →
      stage.isProbing = true ∧ ∃ p, call = ⟨.contact p, .checkFile d.request.query⟩) :
    Course d online t₀ (past ++ h) rounds s'.files stage := by
  induction passes generalizing past with
  | nothing => rwa [List.append_nil]
  | @answered s s' h slot call outcome _ ih =>
    obtain ⟨probing, p, rfl⟩ := answers slot call outcome List.mem_cons_self
    rw [List.append_cons]
    exact ih (.checked slot p outcome course probing) fun slot call outcome member =>
      answers slot call outcome (List.mem_cons_of_mem _ member)
  | created entry vacant within _ ih =>
    rw [List.append_cons]
    exact ih (.created entry course more vacant within) fun slot call outcome member =>
      answers slot call outcome (List.mem_cons_of_mem _ member)
  | elapsed node now _ ih =>
    rw [List.append_cons]
    exact ih (.elapsed node now course more) fun slot call outcome member =>
      answers slot call outcome (List.mem_cons_of_mem _ member)
  | disrupted disk _ ih =>
    rw [List.append_cons]
    exact ih (.disrupted disk course more) fun slot call outcome member =>
      answers slot call outcome (List.mem_cons_of_mem _ member)

/-- A course goes on while a probe is answered. -/
theorem Course.heard {d : Download} {online : List Peer → Prop} {t₀ : Files.Tree} {s s' : Site}
    {past h : List Happening} {rounds : List Round} {stage : Stage} {candidates : List Peer}
    (course : Course d online t₀ past rounds s.files stage) (probing : stage.isProbing = true)
    (passes : Passes s h s')
    (answers : ∀ slot call outcome, .answered slot call outcome ∈ h →
      ∃ p ∈ candidates, call = ⟨.contact p, .checkFile d.request.query⟩) :
    Course d online t₀ (past ++ h) rounds s'.files stage := by
  refine course.passes (Stage.isOpen_of_isProbing probing) passes ?_
  intro slot call outcome member
  obtain ⟨p, -, same⟩ := answers slot call outcome member
  exact ⟨probing, p, same⟩

theorem Course.meanwhile {d : Download} {online : List Peer → Prop} {t₀ : Files.Tree} {s s' : Site}
    {past h : List Happening} {rounds : List Round} {stage : Stage}
    (course : Course d online t₀ past rounds s.files stage) (more : stage.isOpen = true)
    (meanwhile : Meanwhile s h s') : Course d online t₀ (past ++ h) rounds s'.files stage := by
  refine course.passes more meanwhile.passes fun slot call outcome member => ?_
  cases meanwhile.noAnswer _ member

theorem files_dropAt (d : Download) (s : Site) {stage : Stage} (h : stage.isOpen = true) :
    d.step s.files stage .cancel =
      .ok ((d.dropAt stage s).files, .ended (.error .cancelled)) := by
  have step := d.step_cancel s.files h
  rw [dropAt, step]

theorem run_resume {d : Download} {stage : Stage} {event : Event} {out : List Nat}
    {c c' : Situation} {h : List Happening} {e : Except Cut (Except DownloadError String)}
    (awaited : stage.awaits event = true) (run : Run (d.resume d.follow stage event out) c h c' e) :
    (∃ fault, d.step c.site.files stage event = .error fault ∧ h = [] ∧ c' = c ∧
      e = .error (.broken fault)) ∨
    ∃ t next, d.step c.site.files stage event = .ok (t, next) ∧
      Run (d.follow next out) { c with site := { c.site with files := t } } h c' e := by
  unfold resume at run
  cases run with
  | look run =>
    dsimp only at run
    cases stepped : d.step c.site.files stage event with
    | error fault =>
      rw [stepped] at run
      cases run
      exact .inl ⟨fault, rfl, rfl, rfl, rfl⟩
    | ok result =>
      obtain ⟨t, next⟩ := result
      rw [stepped] at run
      dsimp only at run
      rw [if_pos awaited] at run
      cases run with
      | change run => exact .inr ⟨t, next, rfl, run⟩

theorem run_of_step {d : Download} {stage next : Stage} {event : Event} {out : List Nat}
    {c c' : Situation} {h : List Happening} {t : Files.Tree}
    {e : Except Cut (Except DownloadError String)} (awaited : stage.awaits event = true)
    (step : d.step c.site.files stage event = .ok (t, next))
    (run : Run (d.follow next out) { c with site := { c.site with files := t } } h c' e) :
    Run (d.resume d.follow stage event out) c h c' e := by
  refine .look ?_
  rw [step]
  dsimp only
  rw [if_pos awaited]
  exact .change run

theorem Stage.cases_waits (stage : Stage) :
    stage.isProbing = true ∨ stage.isAsking = true ∨ ∃ result, stage = .ended result := by
  cases stage with
  | probing => exact .inl rfl
  | whole => exact .inr (.inl rfl)
  | filling => exact .inr (.inl rfl)
  | probingAgain => exact .inl rfl
  | ended result => exact .inr (.inr ⟨result, rfl⟩)

theorem Stage.isOpen_of_isAsking {stage : Stage} (h : stage.isAsking = true) :
    stage.isOpen = true := by
  cases stage <;> first | rfl | cases h

theorem asked_of_isProbing (d : Download) {stage : Stage} (h : stage.isProbing = true) :
    d.asked stage = [] := by
  cases stage <;> first | rfl | cases h

theorem Course.not_over {d : Download} {online : List Peer → Prop} {t₀ t : Files.Tree}
    {h : List Happening} {rounds : List Round} {stage : Stage}
    (course : Course d online t₀ h rounds t stage) {part : Files.Location} {round : Nat} {fill : Fill}
    (filling : stage = .filling part round fill) : fill.isOver = false := by
  have goesOn : ∀ {t t' part' round' fill'},
      Settled d t part' round' fill' t' (.filling part round fill) → fill.isOver = false := by
    intro t t' part' round' fill' settled
    cases settled with
    | goesOn more => exact more
  induction course with
  | start => cases filling
  | created _ _ _ _ _ ih => exact ih filling
  | elapsed _ _ _ _ ih => exact ih filling
  | disrupted _ _ _ ih => exact ih filling
  | checked _ _ _ _ _ ih => exact ih filling
  | probed _ probing _ _ _ step _ =>
    subst filling
    cases turn_of_step (awaits_probed probing _) step with
    | begins _ _ _ _ _ settled => exact goesOn settled
    | resumes _ _ settled => exact goesOn settled
  | chunk outcome _ asked step _ =>
    subst filling
    cases turn_of_step (awaits_chunk asked _) step with
    | delivered _ _ _ settled => exact goesOn settled
    | abandoned _ _ _ settled => exact goesOn settled
    | refused _ _ settled => exact goesOn settled

theorem Course.asked_ne_nil {d : Download} {online : List Peer → Prop} {t₀ t : Files.Tree}
    {h : List Happening} {rounds : List Round} {stage : Stage}
    (course : Course d online t₀ h rounds t stage) (asking : stage.isAsking = true) :
    d.asked stage ≠ [] := by
  cases stage with
  | whole => exact List.cons_ne_nil _ _
  | filling part round fill =>
    intro none
    have ends := course.not_over rfl
    have idle : fill.active = [] := List.map_eq_nil_iff.1 none
    rw [Fill.isOver, idle, course.accounted.account.orderly.busy idle] at ends
    cases ends
  | probing => cases asking
  | probingAgain => cases asking
  | ended => cases asking

theorem step_chunk_isOk (d : Download) (t : Files.Tree) (stage : Stage) (number : Nat)
    (answer : Option (FileStatus × Bytes)) :
    ∃ next, d.step t stage (.chunk number answer) = .ok next := by
  cases stage with
  | whole contact others =>
    change ∃ next, d.takeWhole t others answer = .ok next
    unfold takeWhole askWhole fail
    split
    · split <;> exact ⟨_, rfl⟩
    · split <;> exact ⟨_, rfl⟩
  | filling part round fill =>
    change ∃ next, d.takeChunk t part round fill number answer = .ok next
    unfold takeChunk
    split
    · exact ⟨_, rfl⟩
    · dsimp only
      split
      · split <;> exact d.settle_isOk _ _ _ _
      · exact d.settle_isOk _ _ _ _
  | probing => exact ⟨_, rfl⟩
  | probingAgain => exact ⟨_, rfl⟩
  | ended => exact ⟨_, rfl⟩

/-- A run goes on in good order from a stage that is nearer to the end. -/
structure Forward (d : Download) (online : List Peer → Prop) (t₀ : Files.Tree) (stage : Stage)
    (past : List Happening) (next : Stage) (out : List Nat) (c : Situation) : Prop where
  course : ∃ rounds, Course d online t₀ past rounds c.site.files next
  nearer : Prod.Lex (· < ·) (· < ·) (d.rank next) (d.rank stage)
  outstanding : next.isOpen = true → d.Outstanding next out c.out
  online : online (c.site.node.table.online c.site.now)

section

variable {d : Download} {online : List Peer → Prop} {t₀ : Files.Tree} {stage : Stage}
  {past h : List Happening} {rounds : List Round} {c' : Situation}
  {e : Except Cut (Except DownloadError String)}

theorem run_probing {s : Site} {out : List Nat} (course : Course d online t₀ past rounds s.files stage)
    (probing : stage.isProbing = true) (first : online (s.node.table.online s.now))
    (later : ∀ node now, .elapsed node now ∈ h → online (node.table.online now))
    (run : Run (d.follow stage out) ⟨[], s⟩ h c' e) :
    Conducted d online t₀ (past ++ h) c'.site.files e ∨
      ∃ h₁ h₂ next out' c, h = h₁ ++ h₂ ∧ Forward d online t₀ stage (past ++ h₁) next out' c ∧
        Run (d.follow next out') c h₂ c' e := by
  have more := Stage.isOpen_of_isProbing probing
  rw [d.follow_of_isProbing probing] at run
  rcases run.of_bind with ⟨h₁, h₂, c₁, contacts, rfl, first', rest⟩ | ⟨cut, rfl, first'⟩
  · rcases first'.of_onDrop with ⟨probe, -⟩ | ⟨dropped, -⟩
    · obtain ⟨passes, none, answers, ended⟩ := run_probe probe
      have course₁ := course.heard probing passes answers
      have noChunk : ∀ x ∈ h₁, x.isChunk = false := by
        intro x member
        cases x with
        | answered slot call outcome =>
          obtain ⟨p, -, rfl⟩ := answers slot call outcome member
          rfl
        | created | elapsed | disrupted => rfl
      rcases ended with dropped | ⟨contacts', same, probed⟩
      · cases dropped
      · cases same
        rcases run_resume (awaits_probed probing contacts) rest with
          ⟨fault, failed, rfl, rfl, rfl⟩ | ⟨t, next, stepped, rest⟩
        · left
          rw [List.append_nil]
          exact .broken rfl course₁ probing first probed failed
        · refine .inr ⟨h₁, h₂, next, [], _, rfl, ⟨?_, ?_, ?_, ?_⟩, rest⟩
          · exact ⟨_, .probed course₁ probing noChunk first probed stepped⟩
          · exact rank_step (awaits_probed probing contacts) stepped
          · intro _
            rw [none, Outstanding, List.filter_eq_nil_iff.2 fun a _ => by simp]
            exact List.Perm.nil
          · exact passes.online first fun node now member =>
              later node now (List.mem_append_left _ member)
    · cases dropped
  · left
    rcases first'.of_onDrop with ⟨probe, kept⟩ | ⟨dropped, s', probe, same⟩
    · obtain ⟨-, -, -, ended⟩ := run_probe probe
      rcases ended with dropped | ⟨contacts, same, -⟩
      · cases dropped
        exact absurd rfl kept
      · cases same
    · cases dropped
      obtain ⟨passes, -, answers, -⟩ := run_probe probe
      have course₁ := course.heard probing passes answers
      rw [same]
      exact .dropped course₁ more (d.files_dropAt s' more)

theorem run_asking {c : Situation} {out : List Nat}
    (course : Course d online t₀ past rounds c.site.files stage) (asking : stage.isAsking = true)
    (outstanding : d.Outstanding stage out c.out)
    (first : online (c.site.node.table.online c.site.now))
    (later : ∀ node now, .elapsed node now ∈ h → online (node.table.online now))
    (run : Run (d.follow stage out) c h c' e) :
    Conducted d online t₀ (past ++ h) c'.site.files e ∨
      ∃ h₁ h₂ next out' c, h = h₁ ++ h₂ ∧ Forward d online t₀ stage (past ++ h₁) next out' c ∧
        Run (d.follow next out') c h₂ c' e := by
  have more := Stage.isOpen_of_isAsking asking
  have all := outstanding.all
  rw [d.follow_of_isAsking asking] at run
  cases run with
  | @answered _ _ _ _ _ _ before h s' slot call _ outcome meanwhile out rest =>
    obtain ⟨⟨slot, p, range⟩, asked, same⟩ := List.mem_map.1 (all.mem_iff.1 out)
    cases same
    have course₁ := course.meanwhile more meanwhile
    rcases run_resume (awaits_chunk asked _) rest with ⟨fault, failed, -⟩ | ⟨t, next, stepped, rest⟩
    · obtain ⟨next, stepped⟩ := d.step_chunk_isOk s'.files stage slot outcome.chunk?
      dsimp only at failed
      rw [stepped] at failed
      cases failed
    · refine .inr ⟨before ++ [d.chunkAnswer slot p range outcome], h, next, _, _, ?_,
        ⟨?_, ?_, ?_, ?_⟩, rest⟩
      · exact List.append_cons _ _ _
      · rw [← List.append_assoc]
        exact ⟨_, .chunk outcome course₁ asked stepped⟩
      · exact rank_step (awaits_chunk asked _) stepped
      · exact outstanding_chunk course₁.accounted.account asked stepped all
      · exact meanwhile.passes.online first fun node now member =>
          later node now (List.mem_append_left _ member)
  | dropped meanwhile =>
    exact .inl (.dropped (course.meanwhile more meanwhile) more (d.files_dropAt _ more))
  | stuck none =>
    rw [none] at all
    exact absurd (List.map_eq_nil_iff.1 all.nil_eq.symm) (course.asked_ne_nil asking)

end

/-- The plan keeps to courses from any stage on. -/
theorem run_follow {d : Download} {online : List Peer → Prop} {t₀ : Files.Tree} (stage : Stage)
    {out : List Nat} {c c' : Situation} {past h : List Happening} {rounds : List Round}
    {e : Except Cut (Except DownloadError String)}
    (course : Course d online t₀ past rounds c.site.files stage)
    (outstanding : stage.isOpen = true → d.Outstanding stage out c.out)
    (first : online (c.site.node.table.online c.site.now))
    (later : ∀ node now, .elapsed node now ∈ h → online (node.table.online now))
    (run : Run (d.follow stage out) c h c' e) :
    Conducted d online t₀ (past ++ h) c'.site.files e := by
  have onward : Conducted d online t₀ (past ++ h) c'.site.files e ∨
      ∃ h₁ h₂ next out' c, h = h₁ ++ h₂ ∧ Forward d online t₀ stage (past ++ h₁) next out' c ∧
        Run (d.follow next out') c h₂ c' e := by
    rcases stage.cases_waits with probing | asking | ⟨result, rfl⟩
    · obtain ⟨calls, s⟩ := c
      have out := outstanding (Stage.isOpen_of_isProbing probing)
      rw [Outstanding, d.asked_of_isProbing probing] at out
      obtain rfl : calls = [] := out.eq_nil
      exact run_probing course probing first later run
    · exact run_asking course asking (outstanding (Stage.isOpen_of_isAsking asking)) first later run
    · rw [follow_ended] at run
      cases run
      rw [List.append_nil]
      exact .inl (.ended course)
  rcases onward with conducted | ⟨h₁, h₂, next, out', c₁, rfl, forward, rest⟩
  · exact conducted
  · obtain ⟨⟨rounds', course'⟩, nearer, outstanding', online'⟩ := forward
    rw [← List.append_assoc]
    refine run_follow next course' outstanding' online' ?_ rest
    exact fun node now member => later node now (List.mem_append_right _ member)
termination_by d.rank stage
decreasing_by assumption

/-- The plan of a download keeps to its courses, unless the request is refused at once. -/
theorem run_plan {d : Download} (online : List Peer → Prop) {s : Site} {c' : Situation}
    {h : List Happening} {e : Except Cut (Except DownloadError String)}
    (first : online (s.node.table.online s.now))
    (later : ∀ node now, .elapsed node now ∈ h → online (node.table.online now))
    (run : Run d.plan ⟨[], s⟩ h c' e) :
    (∃ flaw, d.request.validate s.files = .error flaw ∧ h = [] ∧ c'.site = s ∧
      e = .ok (.error flaw)) ∨
    d.request.validate s.files = .ok () ∧ Conducted d online s.files h c'.site.files e := by
  unfold plan at run
  cases run with
  | look run =>
    dsimp only [start] at run
    cases valid : d.request.validate s.files with
    | error flaw =>
      rw [valid] at run
      dsimp only at run
      rw [follow_ended] at run
      cases run
      exact .inl ⟨flaw, rfl, rfl, rfl, rfl⟩
    | ok =>
      rw [valid] at run
      refine .inr ⟨rfl, ?_⟩
      rw [← List.nil_append h]
      exact run_follow (c := ⟨[], s⟩) .probing (.start valid) (fun _ => List.Perm.nil) first later run

theorem run_of_follow {d : Download} {s : Site} {c : Situation} {h : List Happening}
    {e : Except Cut (Except DownloadError String)} (valid : d.request.validate s.files = .ok ())
    (run : Run (d.follow .probing []) ⟨[], s⟩ h c e) : Run d.plan ⟨[], s⟩ h c e := by
  refine .look ?_
  rw [start, valid]
  exact run

/-! A download of two bytes, one at a time, by a node that knows two peers. -/
namespace Sample

def idle : Peer := ⟨⟨1 <<< 159⟩, "idle", .v4 0 1⟩

def honest : Peer := ⟨⟨1⟩, "honest", .v4 0 2⟩

def download : Download := ⟨⟨"out", "b", "", "f", 2, "v"⟩, 1, 2, 2, 0⟩

def table : RoutingTable :=
  ⟨⟨0⟩, ((Vector.replicate 160 (Bucket.empty 1)).set 0 ⟨1, [.hearsay idle]⟩).set 159
    ⟨1, [.hearsay honest]⟩⟩

def site : Site :=
  ⟨⟨⟨⟨0⟩, 0, ""⟩, 0, 0, table, .initial, .standard, .nothing, 0⟩,
    { entries := [(["out"], .folder)] }, 0⟩

def status : FileStatus := ⟨true, true, 2, "v"⟩

def first : ByteRange := ⟨0, 0, by decide, by decide⟩

def second : ByteRange := ⟨1, 1, by decide, by decide⟩

def answers (slot : Nat) (p : Peer) (holds : Bool) : Happening :=
  download.checkAnswer slot p (.ok ⟨p, .checkFile (if holds then status else .missing)⟩)

def delivers (slot : Nat) (p : Peer) (range : ByteRange) (byte : UInt8) : Happening :=
  download.chunkAnswer slot p range (.ok ⟨p, .download status [byte]⟩)

def fails (slot : Nat) (p : Peer) (range : ByteRange) : Happening :=
  download.chunkAnswer slot p range (.error (.remote ""))

/-- One peer fails and then does not have the file any more. Meanwhile somebody makes a folder. -/
def happenings : List Happening :=
  [answers 0 idle true, answers 1 honest true, fails 0 idle first,
    .created ["out", "x"] .folder, delivers 1 honest second 9, answers 0 idle false,
    answers 1 honest true, delivers 0 honest first 7]

theorem happenings_timeless (node : Node) (now : Moment) : .elapsed node now ∉ happenings := by
  simp [happenings, answers, delivers, fails, checkAnswer, chunkAnswer]

theorem happenings_undisrupted {holds : Files.Disk → Prop} (willing : holds .willing) :
    Happening.Always holds site.files.disk happenings :=
  ⟨willing, fun _ member => by
    simp [happenings, answers, delivers, fails, checkAnswer, chunkAnswer] at member⟩

/-- The same, but there is no room on the disk for the last chunk. -/
def cramped : List Happening :=
  happenings.dropLast ++
    [.disrupted ⟨none, none, some (.noSpace, 0), none⟩, delivers 0 honest first 7]

theorem online_site : site.node.table.online site.now = [idle, honest] := by
  decide +kernel

theorem run : ∃ c', Run download.plan ⟨[], site⟩ happenings c' (.ok (.ok "out/f")) :=
  run_of_replay (by decide +kernel)

theorem run_cramped :
    ∃ c', Run download.plan ⟨[], site⟩ cramped c' (.ok (.error (.file .noSpace))) :=
  run_of_replay (by decide +kernel)

end Sample
end LocalSwarm.Download
