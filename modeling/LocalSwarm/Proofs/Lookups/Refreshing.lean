import LocalSwarm.Proofs.Lookups.Contacts
import LocalSwarm.Proofs.Lookups.Seeds
import LocalSwarm.Proofs.Promises
import LocalSwarm.Proofs.Tables.Company

/-! What refreshing the buckets of a table achieves among residents. Every lookup asks somebody of
the bucket that it is for, as long as anybody there is online, and whoever is asked leaves a good
contact there. Main statement: `achieves_refresh`. -/
namespace LocalSwarm
open RoutingTable

/-- A node that wants contacts at all, and whose table is in good company. -/
structure Site.AtHome (lives : Identifier → SocketAddr → Prop) (localId : Identifier) (slots : Nat)
    (s : Site) : Prop where
  ours : s.node.self.id = localId
  wanted : 1 ≤ s.node.count
  settled : s.node.table.Settled lives localId slots

/-- From one site to the other nobody was harmed, and no time has passed. -/
structure Site.Thrives (lives : Identifier → SocketAddr → Prop) (localId : Identifier) (slots : Nat)
    (s s' : Site) : Prop where
  before : s.AtHome lives localId slots
  after : s'.AtHome lives localId slots
  files : s'.files = s.files
  now : s'.now = s.now
  prospers : s.node.table.Prospers s.now s'.node.table

namespace Site

variable {lives : Identifier → SocketAddr → Prop} {localId : Identifier} {slots : Nat}
  {s s' s'' : Site} {i : Fin 160}

/-- Somebody in a bucket is good. -/
def HasGood (s : Site) (i : Fin 160) : Prop := (s.node.table.bucket i).HasGood s.now

/-- Somebody in a bucket is online. -/
def HasOnline (s : Site) (i : Fin 160) : Prop :=
  ∃ c ∈ (s.node.table.bucket i).contacts, c.isOnline s.now = true

theorem AtHome.refl (home : s.AtHome lives localId slots) : s.Thrives lives localId slots s :=
  ⟨home, home, rfl, rfl, .refl _ _⟩

namespace Thrives

theorem trans (first : s.Thrives lives localId slots s')
    (second : s'.Thrives lives localId slots s'') : s.Thrives lives localId slots s'' :=
  ⟨first.before, second.after, second.files.trans first.files, second.now.trans first.now,
    first.prospers.trans (first.now ▸ second.prospers)⟩

theorem hasGood (thrives : s.Thrives lives localId slots s') (good : s.HasGood i) :
    s'.HasGood i := by
  rw [HasGood, thrives.now]
  exact thrives.before.settled.sound.hasGood thrives.after.settled.sound thrives.prospers good

theorem hasOnline (thrives : s.Thrives lives localId slots s') (online : s.HasOnline i) :
    s'.HasOnline i := by
  obtain ⟨c, member, online⟩ := online
  have sound := thrives.before.settled.sound
  have sound' := thrives.after.settled.sound
  obtain ⟨c', found, online', -⟩ := thrives.prospers c.id c (sound.find?_of_mem member) online
  have index : s'.node.table.index? c.id = some i :=
    (sound.index?_eq sound' c.id).trans (sound.index_of_mem member)
  rw [find?_of_index index] at found
  exact ⟨c', Bucket.mem_of_find? found, thrives.now.symm ▸ online'⟩

end Thrives
end Site

/-- Residents are asked for contacts. They name residents, and leave a good contact in their
bucket. -/
def Promise.residential (lives : Identifier → SocketAddr → Prop) (localId : Identifier)
    (slots : Nat) : Promise where
  asks call := ∃ p target count, call = ⟨.contact p, .findNode target count⟩ ∧ p.id ≠ localId ∧
    lives p.id p.address
  passes := Site.Thrives lives localId slots
  answers s call outcome := ∃ reply ps, outcome = .ok reply ∧ reply.response = .findNode ps ∧
    (∀ q ∈ ps, Resident lives localId q) ∧
      ∀ p request, call = ⟨.contact p, request⟩ → ∀ i : Fin 160, localId.Shares p.id i → s.HasGood i
  files := Site.Thrives.files
  trans := Site.Thrives.trans
  lasts := by
    rintro s s' call outcome ⟨reply, ps, answered, named, residents, good⟩ thrives
    exact ⟨reply, ps, answered, named, residents, fun p request called i shares =>
      thrives.hasGood (good p request called i shares)⟩

namespace Lookup

variable {lives : Identifier → SocketAddr → Prop} {localId : Identifier} {slots : Nat} {s : Site}

/-- A lookup of contacts that is under way asks residents. -/
theorem Stands.asks {q : Quest} {rounds : List Round} {l : Lookup} {batch : List Peer}
    (stands : Stands q rounds (.asking l batch)) (slots : Nat) (searches : q.kind = .node)
    (residents : ∀ p ∈ learned q.seeds rounds.flatten, Resident lives q.localId p) :
    l.kind = .node ∧ batch ≠ [] ∧ rounds.length < q.limits.rounds ∧
      ∀ call ∈ batch.map fun p => (⟨.contact p, l.request⟩ : Call),
        (Promise.residential lives q.localId slots).asks call := by
  cases stands with
  | @asking before r more busy =>
    have kind : before.kind = .node := r.kind.trans searches
    have request : before.ask.request = .findNode before.target (.ofNat before.limits.count) := by
      rw [request, ask]
      dsimp only
      rw [kind]
    refine ⟨kind, busy, more, fun call member => ?_⟩
    obtain ⟨p, asked, rfl⟩ := List.mem_map.1 member
    have candidate := (mem_batch asked).1
    have foreign : p.id ≠ q.localId := r.localId ▸ r.knows.keeps.foreign candidate
    exact ⟨p, _, _, by rw [request], foreign, residents p (r.knows.keeps.known p candidate) foreign⟩

theorem residents_of_answers {batch : List Peer} {request : Request}
    {outcomes : List (Nat × Outcome)}
    (answered : Plan.Answered (.residential lives localId slots)
      (batch.map fun p => ⟨.contact p, request⟩) outcomes s) :
    ∀ x ∈ answers .node batch outcomes, ∀ p ∈ named x.2, Resident lives localId p := by
  intro x member
  obtain ⟨⟨p, slot⟩, numbered, rfl⟩ := List.mem_map.1 member
  have here := List.mem_zipIdx_iff_getElem?.1 numbered
  obtain ⟨_, found, reply, ps, rfl, said, residents, -⟩ :=
    answered slot ⟨.contact p, request⟩ (by rw [List.getElem?_map, here]; rfl)
  have told : named ((outcomes.lookup slot).bind (heard .node)) = ps := by
    rw [found, Option.bind_some, heard, said]
    rfl
  exact told.symm ▸ residents

theorem hasGood_of_answers {batch : List Peer} {request : Request}
    {outcomes : List (Nat × Outcome)}
    (answered : Plan.Answered (.residential lives localId slots)
      (batch.map fun p => ⟨.contact p, request⟩) outcomes s) {p : Peer} (member : p ∈ batch)
    {i : Fin 160} (shares : localId.Shares p.id i) : s.HasGood i := by
  obtain ⟨slot, inside, rfl⟩ := List.getElem_of_mem member
  obtain ⟨_, -, _, _, -, -, -, good⟩ := answered slot ⟨.contact batch[slot], request⟩ <| by
    rw [List.getElem?_map, List.getElem?_eq_getElem inside]
    rfl
  exact good _ _ rfl i shares

/-- A lookup among residents ends, and the buckets of all whom it asks first have a good contact. -/
theorem achieves_follow {q : Quest} {rounds : List Round} {stage : LookupStage}
    (stands : Stands q rounds stage) (searches : q.kind = .node)
    (residents : ∀ p ∈ learned q.seeds rounds.flatten, Resident lives q.localId p)
    (home : s.AtHome lives q.localId slots) :
    (follow stage).Achieves (.residential lives q.localId slots)
      (fun _ s' => s.Thrives lives q.localId slots s' ∧
        ∀ l batch, stage = .asking l batch → ∀ p ∈ batch, ∀ i : Fin 160, q.localId.Shares p.id i →
          s'.HasGood i) ⟨[], s⟩ := by
  -- With every batch there is one round less to come.
  induction left : q.limits.rounds - rounds.length using Nat.strong_induction_on
    generalizing rounds stage s with
  | _ left ih =>
    subst left
    cases stage with
    | ended outcome =>
      rw [follow_ended]
      exact .done ⟨home.refl, nofun⟩
    | asking l batch =>
      obtain ⟨kind, busy, more, asks⟩ := stands.asks slots searches residents
      rw [follow_asking, kind]
      have together := Plan.achieves_together (mt List.map_eq_nil_iff.1 busy) asks home.refl
      refine together.bind ?_
      rintro outcomes s' ⟨thrives, answered⟩
      have next := stands.finish (map_fst_answers .node batch outcomes)
      refine (ih _ ?_ next ?_ thrives.after rfl).mono ?_
      · rw [List.length_append, List.length_singleton]
        omega
      · intro p member
        rw [List.flatten_append, List.flatten_singleton, learned, List.flatMap_append,
          ← List.append_assoc] at member
        rcases List.mem_append.1 member with old | new
        · exact residents p old
        · obtain ⟨x, said, told⟩ := List.mem_flatMap.1 new
          exact residents_of_answers answered x said p told
      · rintro _ s'' ⟨thrives', -⟩
        refine ⟨thrives.trans thrives', ?_⟩
        rintro _ _ ⟨⟩ p member i shares
        exact thrives'.hasGood (hasGood_of_answers answered member shares)

/-- A lookup for a bucket leaves a good contact there, if anybody there was online. -/
theorem achieves_findNode {pace : LookupPace} (rounds : 1 ≤ pace.rounds) (i : Fin 160)
    (random : Identifier) (home : s.AtHome lives localId slots) :
    (findNode pace (localId.divergingAt i random)).Achieves (.residential lives localId slots)
      (fun _ s' => s.Thrives lives localId slots s' ∧ (s.HasOnline i → s'.HasGood i)) ⟨[], s⟩ := by
  obtain rfl := home.ours
  let target := s.node.self.id.divergingAt i random
  let q := questAt s .node pace target (s.node.table.closest s.now target s.node.count)
  have towards : q.localId.Shares q.target i := Identifier.shares_divergingAt i.isLt _ random
  have residents : ∀ p ∈ learned q.seeds [], Resident lives q.localId p := by
    intro p member
    obtain seed | ⟨x, none, -⟩ := mem_learned.1 member
    · obtain ⟨c, listed, rfl⟩ := mem_contacts_of_closest seed
      exact home.settled.residents c listed
    · cases none
  have follows := achieves_follow (stands_first q) rfl residents home
  have searches : (searchHere .node pace target).Achieves (.residential lives q.localId slots)
      (fun _ s' => s.Thrives lives q.localId slots s' ∧ (s.HasOnline i → s'.HasGood i))
      ⟨[], s⟩ := by
    refine .look (.look (follows.mono ?_))
    rintro _ s' ⟨thrives, good⟩
    refine ⟨thrives, ?_⟩
    rintro ⟨c, member, online⟩
    obtain ⟨p, seed, near⟩ :=
      home.settled.sound.exists_seed towards member online home.wanted
    obtain ⟨l, batch, asks, p, member, near⟩ :=
      q.exists_asked towards seed near rounds home.wanted
    exact good l batch asks p member i near
  exact searches.bind fun _ s' achieved => .done achieved

variable {pace : LookupPace} (rounds : 1 ≤ pace.rounds)
include rounds

theorem achieves_refreshBucket (random : Identifier) (i : Fin 160)
    (home : s.AtHome lives localId slots) :
    (refreshBucket pace random i).Achieves (.residential lives localId slots)
      (fun _ s' => s.Thrives lives localId slots s' ∧ (s.HasOnline i → s'.HasGood i)) ⟨[], s⟩ := by
  obtain rfl := home.ours
  have finds := achieves_findNode rounds i random home
  exact .look (finds.bind fun _ s' achieved => .done achieved)

variable (random : Fin 160 → Identifier)

theorem achieves_refreshAll (stale : List (Fin 160)) (home : s.AtHome lives localId slots) :
    (stale.forM fun i => refreshBucket pace (random i) i).Achieves
      (.residential lives localId slots)
      (fun _ s' => s.Thrives lives localId slots s' ∧ ∀ i ∈ stale, s.HasOnline i → s'.HasGood i)
      ⟨[], s⟩ := by
  induction stale generalizing s with
  | nil => exact .done ⟨home.refl, nofun⟩
  | cons i stale ih =>
    refine (achieves_refreshBucket rounds (random i) i home).bind ?_
    rintro _ s₁ ⟨thrives, good⟩
    refine (ih thrives.after).mono ?_
    rintro _ s' ⟨thrives', later⟩
    refine ⟨thrives.trans thrives', List.forall_mem_cons.2 ⟨fun online => ?_, ?_⟩⟩
    · exact thrives'.hasGood (good online)
    · exact fun j member online => later j member (thrives.hasOnline online)

/-- Refreshing among residents ends, tells how many buckets were stale, and leaves a good contact in
each of them in which anybody was online. -/
theorem achieves_refresh (home : s.AtHome lives localId slots) :
    (refresh pace random).Achieves (.residential lives localId slots)
      (fun count s' => count = (s.node.table.stale s.now).length ∧
        s.Thrives lives localId slots s' ∧
          ∀ i ∈ s.node.table.stale s.now, s.HasOnline i → s'.HasGood i) ⟨[], s⟩ := by
  refine .look ((achieves_refreshAll rounds random _ home).bind ?_)
  exact fun _ s' achieved => .done ⟨rfl, achieved⟩

omit rounds in
/-- Whatever happens meanwhile, the number told is that of the buckets that were stale at first. -/
theorem eq_stale_of_refresh {out : List (Nat × Call)} {h : List Happening} {c : Situation} {n : Nat}
    (run : Run (refresh pace random) ⟨out, s⟩ h c (.ok n)) :
    n = (s.node.table.stale s.now).length := by
  let stale := s.node.table.stale s.now
  cases run with
  | look run =>
    have run : Run ((stale.forM fun i => refreshBucket pace (random i) i).bind fun _ =>
        .done stale.length) ⟨out, s⟩ h c (.ok n) := run
    rcases run.of_bind with ⟨_, _, _, _, -, -, last⟩ | ⟨_, cut, -⟩
    · cases last
      rfl
    · cases cut

end Lookup
end LocalSwarm
