import LocalSwarm.Proofs.Downloads.Cuts

/-! Small files. The contacts that a probe has found are asked for the whole file one after the other,
until one of them delivers it or nobody is left. Main statement: `small_file_is_asked_for_in_turn`. -/
namespace LocalSwarm

/-- While things happen only others change the tree. -/
theorem Passes.files {s s' : Site} {h : List Happening} (passes : Passes s h s') :
    s'.files = Download.withoutUs s.files h := by
  induction passes with
  | nothing s => exact (Download.withoutUs_nil _).symm
  | answered _ _ _ _ ih => exact ih
  | @created s s' h place entry vacant _ _ ih =>
    rw [ih, Download.withoutUs, Files.Tree.entries_set vacant, List.append_assoc]
    rfl
  | elapsed _ _ _ ih => exact ih
  | disrupted _ _ ih => exact ih

namespace Download
open Files (Tree)

variable {d : Download} {p : Peer} {ps contacts : List Peer} {s : Site} {c' : Situation}
  {h : List Happening} {e : Except Cut (Except DownloadError String)}

theorem withoutUs_append (t₀ : Tree) (h k : List Happening) :
    withoutUs (withoutUs t₀ h) k = withoutUs t₀ (h ++ k) := by
  rw [withoutUs, withoutUs, withoutUs, Happening.creations_append, List.append_assoc,
    Happening.disk_append]

/-- An answer by itself changes nothing. -/
theorem withoutUs_after (t₀ : Tree) (before : List Happening) (d : Download) (p : Peer)
    (outcome : Outcome) (later : List Happening) :
    withoutUs (withoutUs t₀ before) later =
      withoutUs t₀ (before ++ d.chunkAnswer 0 p d.all outcome :: later) := by
  have split : before ++ d.chunkAnswer 0 p d.all outcome :: later =
      (before ++ [d.chunkAnswer 0 p d.all outcome]) ++ later := by
    rw [List.append_assoc, List.singleton_append]
  rw [split, ← withoutUs_append, chunkAnswer, withoutUs_answered]

/-! ### The plan after the probe -/

/-- Ask contacts for the whole file. -/
def fetch (d : Download) (contacts : List Peer) : Plan (Except DownloadError String) :=
  .look fun site =>
    match d.askWhole site.files contacts with
    | .error fault => .broken fault
    | .ok (files, next) => .change (fun site => { site with files }) (d.follow next [])

/-- The contacts that a probe has found are asked for a small file as a whole. -/
theorem resume_probed (small : d.size ≤ d.chunkSize) (some : contacts ≠ []) :
    d.resume d.follow .probing (.probed contacts) [] = d.fetch contacts := by
  refine congrArg Plan.look (funext fun site => ?_)
  have proceeds : d.step site.files .probing (.probed contacts) = d.askWhole site.files contacts := by
    change d.proceed site.files contacts = _
    rw [proceed, if_neg (by simpa using some)]
    exact if_pos small
  rw [proceeds]
  rfl

/-- When an answer is refused the other contacts are asked. -/
theorem resume_refused {answer : Option (FileStatus × Bytes)} (refused : d.accepted d.all answer = none)
    (p : Peer) (ps : List Peer) :
    d.resume d.follow (.whole p ps) (.chunk 0 answer) [] = d.fetch ps := by
  refine congrArg Plan.look (funext fun site => ?_)
  have asks : d.step site.files (.whole p ps) (.chunk 0 answer) = d.askWhole site.files ps := by
    change d.takeWhole site.files ps answer = _
    rw [takeWhole, refused]
  rw [asks]
  rfl

theorem run_fetch_nil (run : Run (d.fetch []) ⟨[], s⟩ h c' e) :
    h = [] ∧ c' = ⟨[], s⟩ ∧ e = .ok (.error (.incomplete d.size)) := by
  cases run with
  | look run =>
    cases run with
    | change run =>
      rw [follow_ended] at run
      cases run
      exact ⟨rfl, rfl, rfl⟩

/-- The first contact is asked, and answers unless the download is given up. -/
theorem run_fetch_cons (run : Run (d.fetch (p :: ps)) ⟨[], s⟩ h c' e) :
    e = .error .dropped ∨ ∃ before s₁ outcome later,
      h = before ++ d.chunkAnswer 0 p d.all outcome :: later ∧ Meanwhile s before s₁ ∧
      Run (d.resume d.follow (.whole p ps) (.chunk 0 outcome.chunk?) []) ⟨[], s₁⟩ later c' e := by
  cases run with
  | look run =>
    cases run with
    | change run =>
      rw [follow_of_isAsking d rfl] at run
      cases run with
      | answered outcome meanwhile out rest =>
        cases List.mem_singleton.1 out
        exact .inr ⟨_, _, outcome, _, rfl, meanwhile, rest⟩
      | dropped => exact .inl rfl
      | stuck none => cases none

/-- Whether the file can be made at its destination, and is kept there. -/
structure Savable (d : Download) (t : Tree) : Prop where
  free : d.Free t
  able : t.disk.make = none
  keeps : t.disk.loses = none

theorem Savable.save {t : Tree} (can : d.Savable t) (data : Bytes) :
    ∃ target, t.Leads d.request.destination target ∧ t.entry? target = none ∧
      t.save d.request.destination data = (t.set target (Tree.finished data), none) := by
  obtain ⟨⟨target, leads, vacant⟩, able, keeps⟩ := can
  refine ⟨target, leads, vacant, ?_⟩
  rw [Tree.save, leads.create vacant able]
  dsimp only
  rw [keeps]

/-- The file is made of an answer that is accepted, if it can be saved. -/
theorem step_taken {answer : Option (FileStatus × Bytes)} {data : Bytes}
    (taken : d.accepted d.all answer = some data) (t : Tree) (p : Peer) (ps : List Peer) :
    ∃ t' result, d.step t (.whole p ps) (.chunk 0 answer) = .ok (t', .ended result) ∧
      (d.Savable t → result = .ok d.request.destination ∧
        ∃ place file, Saved d t data t' place file) := by
  change ∃ t' result, d.takeWhole t ps answer = _ ∧ _
  rw [takeWhole, taken]
  dsimp only
  split
  · rename_i t' made
    refine ⟨t', _, rfl, fun can => ?_⟩
    obtain ⟨target, leads, vacant, saves⟩ := can.save data
    cases saves.symm.trans made
    exact ⟨rfl, target, _, vacant, leads.parent, rfl, rfl, rfl, rfl, leads.lookup_set vacant _⟩
  · rename_i t' cause lost
    refine ⟨t', _, rfl, fun can => ?_⟩
    obtain ⟨target, -, -, saves⟩ := can.save data
    cases saves.symm.trans lost

theorem run_taken {outcome : Outcome} {data : Bytes}
    (taken : d.accepted d.all outcome.chunk? = some data)
    (run : Run (d.resume d.follow (.whole p ps) (.chunk 0 outcome.chunk?) []) ⟨[], s⟩ h c' e) :
    h = [] ∧ c'.out = [] ∧ (d.Savable s.files → e = .ok (.ok d.request.destination) ∧
      ∃ place file, Saved d s.files data c'.site.files place file) := by
  obtain ⟨t, result, ends, saved⟩ := step_taken taken s.files p ps
  rcases run_resume rfl run with ⟨fault, broken, -⟩ | ⟨t', next, stepped, run⟩
  · cases ends.symm.trans broken
  · cases ends.symm.trans stepped
    rw [follow_ended] at run
    cases run
    refine ⟨rfl, rfl, fun can => ?_⟩
    obtain ⟨rfl, file⟩ := saved can
    exact ⟨rfl, file⟩

/-! ### Whom it asks, and what comes of that -/

/-- What those who were asked have delivered. -/
def delivered (d : Download) (asked : List (Peer × Outcome)) : Option Bytes :=
  asked.findSome? fun x => d.accepted d.all x.2.chunk?

/-- Some of the contacts were asked for the whole file, in their order, and nobody after one that
delivered it. A file of just what was delivered is saved, if it can be made and is kept; or else all
were asked, and nothing is left of it. -/
structure Fetched (d : Download) (contacts : List Peer) (t₀ : Tree) (h : List Happening)
    (c' : Situation) (e : Except Cut (Except DownloadError String))
    (asked : List (Peer × Outcome)) : Prop where
  order : asked.map Prod.fst <+: contacts
  answers : h.filter Happening.isAnswer = asked.map fun x => d.chunkAnswer 0 x.1 d.all x.2
  refused : asked.Pairwise fun x _ => d.accepted d.all x.2.chunk? = none
  out : c'.out = []
  saved : ∀ data, d.delivered asked = some data → data.length = d.size ∧
    (d.Savable (withoutUs t₀ h) → e = .ok (.ok d.request.destination) ∧
      ∃ place file, Saved d (withoutUs t₀ h) data c'.site.files place file)
  nobody : d.delivered asked = none → asked.map Prod.fst = contacts ∧
    e = .ok (.error (.incomplete d.size)) ∧ c'.site.files = withoutUs t₀ h

theorem filter_isAnswer {before later : List Happening} {slot : Nat} {call : Call}
    {outcome : Outcome} (noAnswer : ∀ x ∈ before, x.isAnswer = false) :
    (before ++ .answered slot call outcome :: later).filter Happening.isAnswer =
      .answered slot call outcome :: later.filter Happening.isAnswer := by
  have none : before.filter Happening.isAnswer = [] :=
    List.filter_eq_nil_iff.2 fun x member => by rw [noAnswer x member]; exact Bool.false_ne_true
  rw [List.filter_append, none, List.nil_append]
  exact List.filter_cons_of_pos rfl

theorem Fetched.nobody_left (d : Download) (s : Site) :
    d.Fetched [] s.files [] ⟨[], s⟩ (.ok (.error (.incomplete d.size))) [] :=
  ⟨List.nil_prefix, rfl, .nil, rfl, nofun,
    fun _ => ⟨rfl, rfl, (withoutUs_nil _).symm⟩⟩

/-- A contact was asked before the others, and what it has answered was refused. -/
theorem Fetched.after {asked : List (Peer × Outcome)} {before later : List Happening} {t₀ : Tree}
    {outcome : Outcome} (fetched : d.Fetched ps (withoutUs t₀ before) later c' e asked)
    (noAnswer : ∀ x ∈ before, x.isAnswer = false)
    (refused : d.accepted d.all outcome.chunk? = none) :
    d.Fetched (p :: ps) t₀ (before ++ d.chunkAnswer 0 p d.all outcome :: later) c' e
      ((p, outcome) :: asked) := by
  have others := withoutUs_after t₀ before d p outcome later
  have same : d.delivered ((p, outcome) :: asked) = d.delivered asked := by
    rw [delivered, List.findSome?_cons, refused]
    rfl
  refine ⟨List.cons_prefix_cons.2 ⟨rfl, fetched.order⟩, ?answers,
    .cons (fun _ _ => refused) fetched.refused, fetched.out, ?saved, ?nobody⟩
  case answers =>
    rw [chunkAnswer, filter_isAnswer noAnswer, fetched.answers]
    rfl
  case saved =>
    rw [same, ← others]
    exact fetched.saved
  case nobody =>
    rw [same, ← others]
    intro none
    obtain ⟨all, fails, files⟩ := fetched.nobody none
    exact ⟨congrArg (List.cons p) all, fails, files⟩

/-- A contact was asked, and has delivered. -/
theorem fetched_of_taken {outcome : Outcome} {data : Bytes} {before : List Happening} {t₀ : Tree}
    (pos : 0 < d.size) (noAnswer : ∀ x ∈ before, x.isAnswer = false)
    (taken : d.accepted d.all outcome.chunk? = some data) (out : c'.out = [])
    (saved : d.Savable (withoutUs t₀ before) → e = .ok (.ok d.request.destination) ∧
      ∃ place file, Saved d (withoutUs t₀ before) data c'.site.files place file) :
    d.Fetched (p :: ps) t₀ (before ++ [d.chunkAnswer 0 p d.all outcome]) c' e [(p, outcome)] := by
  have here : d.delivered [(p, outcome)] = some data := by
    rw [delivered, List.findSome?_cons, taken]
  refine ⟨List.cons_prefix_cons.2 ⟨rfl, List.nil_prefix⟩, ?answers, List.pairwise_singleton _ _, out,
    ?saved, fun none => ?nobody⟩
  case answers =>
    rw [chunkAnswer, filter_isAnswer noAnswer]
    rfl
  case saved =>
    intro data' there
    cases here.symm.trans there
    obtain ⟨-, -, -, length⟩ := length_of_accepted taken
    rw [chunkAnswer, withoutUs_answered]
    exact ⟨length.trans (length_all pos), saved⟩
  case nobody => cases here.symm.trans none

/-- What a run of the plan after the probe comes to. -/
theorem run_fetch (pos : 0 < d.size) (run : Run (d.fetch contacts) ⟨[], s⟩ h c' e)
    (kept : e ≠ .error .dropped) : ∃ asked, d.Fetched contacts s.files h c' e asked := by
  induction contacts generalizing s h with
  | nil =>
    obtain ⟨rfl, rfl, rfl⟩ := run_fetch_nil run
    exact ⟨[], .nobody_left d s⟩
  | cons p ps ih =>
    rcases run_fetch_cons run with dropped | ⟨before, s₁, outcome, later, rfl, meanwhile, rest⟩
    · exact absurd dropped kept
    · have files := meanwhile.passes.files
      cases taken : d.accepted d.all outcome.chunk? with
      | none =>
        rw [resume_refused taken] at rest
        obtain ⟨asked, fetched⟩ := ih rest
        exact ⟨_, (files ▸ fetched).after meanwhile.noAnswer taken⟩
      | some data =>
        obtain ⟨rfl, out, saved⟩ := run_taken taken rest
        exact ⟨_, fetched_of_taken pos meanwhile.noAnswer taken out (files ▸ saved)⟩

/-- However the contacts answer, the plan after the probe has a run in which they do so. -/
theorem exists_run_fetch (contacts : List Peer) {outcomes : List Outcome}
    (each : outcomes.length = contacts.length) (s : Site) :
    ∃ asked c' result, asked <+: contacts.zip outcomes ∧
      Run (d.fetch contacts) ⟨[], s⟩ (asked.map fun x => d.chunkAnswer 0 x.1 d.all x.2) c'
        (.ok result) := by
  induction contacts generalizing outcomes s with
  | nil =>
    refine ⟨[], ⟨[], s⟩, .error (.incomplete d.size), List.nil_prefix, .look (.change ?_)⟩
    rw [follow_ended]
    exact .done _
  | cons p ps ih =>
    obtain ⟨outcome, outcomes, rfl⟩ := List.exists_cons_of_length_eq_add_one each
    have asks {asked : List Happening} {c' : Situation} {result : Except DownloadError String}
        (run : Run (d.resume d.follow (.whole p ps) (.chunk 0 outcome.chunk?) []) ⟨[], s⟩ asked c'
          (.ok result)) :
        Run (d.fetch (p :: ps)) ⟨[], s⟩ (d.chunkAnswer 0 p d.all outcome :: asked) c' (.ok result) := by
      refine .look (.change ?_)
      rw [follow_of_isAsking d rfl]
      exact .answered_first List.mem_cons_self run
    cases taken : d.accepted d.all outcome.chunk? with
    | none =>
      obtain ⟨asked, c', result, order, run⟩ := ih (Nat.succ.inj each) s
      rw [← resume_refused taken p ps] at run
      exact ⟨(p, outcome) :: asked, c', result, List.cons_prefix_cons.2 ⟨rfl, order⟩, asks run⟩
    | some data =>
      obtain ⟨t, result, ends, -⟩ := step_taken taken s.files p ps
      refine ⟨[(p, outcome)], ⟨[], { s with files := t }⟩, result,
        List.cons_prefix_cons.2 ⟨rfl, List.nil_prefix⟩, asks (run_of_step rfl ends ?_)⟩
      rw [follow_ended]
      exact .done _

/-- The plan probes, and fetches a small file from the contacts that it has found. -/
theorem run_small (small : d.size ≤ d.chunkSize) (valid : d.request.validate s.files = .ok ())
    (run : Run d.plan ⟨[], s⟩ h c' e) (kept : e ≠ .error .dropped) :
    ∃ checks contacts s₁ later, h = checks ++ later ∧ Passes s checks s₁ ∧
      Probed d.request.query d.request.size d.request.version
        (s.node.table.online s.now) checks contacts ∧
      (contacts = [] ∧ later = [] ∧ e = .ok (.error .notFound) ∨
        contacts ≠ [] ∧ Run (d.fetch contacts) ⟨[], s₁⟩ later c' e) := by
  cases run with
  | look run =>
    dsimp only [start] at run
    rw [valid] at run
    dsimp only at run
    rw [follow_of_isProbing d rfl] at run
    rcases run.of_bind with ⟨checks, later, c₁, contacts, rfl, probing, rest⟩ | ⟨cut, rfl, probing⟩
    · rcases probing.of_onDrop with ⟨probe, -⟩ | ⟨dropped, -⟩
      · obtain ⟨passes, none, -, ended⟩ := run_probe probe
        obtain ⟨out, s₁⟩ := c₁
        obtain rfl : out = [] := none
        rcases ended with dropped | ⟨_, same, probed⟩
        · cases dropped
        cases same
        refine ⟨checks, contacts, s₁, later, rfl, passes, probed, ?_⟩
        by_cases found : contacts = []
        · subst found
          left
          rcases run_resume rfl rest with ⟨fault, broken, -⟩ | ⟨t, next, stepped, rest⟩
          · cases broken
          · cases stepped
            rw [follow_ended] at rest
            cases rest
            exact ⟨rfl, rfl, rfl⟩
        · rw [resume_probed small found] at rest
          exact .inr ⟨found, rest⟩
      · cases dropped
    · rcases probing.of_onDrop with ⟨probe, goesOn⟩ | ⟨dropped, -⟩
      · obtain ⟨-, -, -, dropped | ⟨_, same, -⟩⟩ := run_probe probe
        · cases dropped
          exact absurd rfl kept
        · cases same
      · cases dropped
        exact absurd rfl kept

/-- A small file is fetched by asking the contacts that the probe has found, one after the other, for
all of it. However they answer, that comes to an end: with a file that consists of the first answer
that is valid, if it can be made at the destination and is kept, and nobody was asked after that; or,
when all were asked in vain, without a file and all of it missing. -/
theorem small_file_is_asked_for_in_turn {d : Download} {s : Site} (small : d.size ≤ d.chunkSize)
    (valid : d.request.validate s.files = .ok ()) :
    (∀ h c' e, Run d.plan ⟨[], s⟩ h c' e → e ≠ .error .dropped →
      ∃ checks contacts s₁ later, h = checks ++ later ∧ Passes s checks s₁ ∧
        Probed d.request.query d.request.size d.request.version
          (s.node.table.online s.now) checks contacts ∧
        (contacts = [] ∧ later = [] ∧ e = .ok (.error .notFound) ∨
          contacts ≠ [] ∧ Run (d.fetch contacts) ⟨[], s₁⟩ later c' e)) ∧
    ∀ contacts s₁,
      (∀ outcomes : List Outcome, outcomes.length = contacts.length →
        ∃ asked c' result, asked <+: contacts.zip outcomes ∧
          Run (d.fetch contacts) ⟨[], s₁⟩ (asked.map fun x => d.chunkAnswer 0 x.1 d.all x.2) c'
            (.ok result)) ∧
      ∀ h c' e, Run (d.fetch contacts) ⟨[], s₁⟩ h c' e → e ≠ .error .dropped →
        ∃ asked, d.Fetched contacts s₁.files h c' e asked := by
  have pos := size_pos_of_validate valid
  refine ⟨fun h c' e run kept => run_small small valid run kept, fun contacts s₁ => ⟨?_, ?_⟩⟩
  · exact fun outcomes each => exists_run_fetch contacts each s₁
  · exact fun h c' e run kept => run_fetch pos run kept

/-! Two peers have told that they hold the file. The first one fails to send it. -/

namespace Sample

def fallback : List (Peer × Outcome) :=
  [(idle, .error (.remote "")), (honest, .ok ⟨honest, .download status [7, 9]⟩)]

def fallbacks : List Happening :=
  fallback.map fun x => (named "f" 2).chunkAnswer 0 x.1 (named "f" 2).all x.2

theorem second_contact_delivers :
    ∃ c', Run ((named "f" 2).fetch [idle, honest]) ⟨[], site⟩ fallbacks c' (.ok (.ok "out/f")) ∧
      ∃ place file, c'.site.files.lookup "out/f" = .ok (place, .file file) ∧
        file.content = [7, 9] := by
  have valid : (named "f" 2).request.validate site.files = .ok () := by decide +kernel
  obtain ⟨-, path⟩ := small_file_is_asked_for_in_turn (d := named "f" 2) (s := site) (by decide) valid
  obtain ⟨c', run⟩ : ∃ c', Run ((named "f" 2).unroll 3 (.whole idle [honest]) []) ⟨[], site⟩ fallbacks
      c' (.ok (.ok "out/f")) := Plan.run_of_result (by decide +kernel)
  have fetch : Run ((named "f" 2).fetch [idle, honest]) ⟨[], site⟩ fallbacks c' (.ok (.ok "out/f")) :=
    .look (.change ((extends_unroll _ 3 _ _).run run))
  have can : (named "f" 2).Savable (withoutUs site.files fallbacks) := by
    have possible : (site.files.create (named "f" 2).request.destination .folder).toOption.isSome =
      true := by decide +kernel
    have still : withoutUs site.files fallbacks = site.files := rfl
    rw [still]
    cases made : site.files.create (named "f" 2).request.destination .folder with
    | error fault =>
      rw [made] at possible
      cases possible
    | ok result =>
      obtain ⟨leads, vacant, -⟩ := Tree.create_ok made
      exact ⟨⟨_, leads, vacant⟩, rfl, rfl⟩
  obtain ⟨asked, fetched⟩ := (path [idle, honest] site).2 fallbacks c' _ fetch nofun
  have apart : Function.Injective fun x : Peer × Outcome =>
      (named "f" 2).chunkAnswer 0 x.1 (named "f" 2).all x.2 := by
    rintro ⟨p, outcome⟩ ⟨q, outcome'⟩ same
    cases same
    rfl
  obtain rfl : fallback = asked := List.map_injective_iff.2 apart fetched.answers
  have brought : (named "f" 2).delivered fallback = some [7, 9] := by decide +kernel
  obtain ⟨-, saved⟩ := fetched.saved _ brought
  obtain ⟨-, place, file, saved⟩ := saved can
  exact ⟨c', fetch, place, file, saved.found, saved.holds⟩

end Sample
end Download
end LocalSwarm
