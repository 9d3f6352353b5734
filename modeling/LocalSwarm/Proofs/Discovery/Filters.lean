import Mathlib.Data.List.Induction
import LocalSwarm.Discovery.Filter
import LocalSwarm.Proofs.Discovery.Windows
import LocalSwarm.Proofs.Wire.Messages

/-! What a filter makes of the datagrams that arrive over time, told from those datagrams and what
came of them: which announcements make a peer known, where it is reached, and how many datagrams
came to nothing and why. Main statement: `filter_refines_history`. -/
namespace LocalSwarm

/-- Flow label and scope of an address. Addresses of the fourth version have neither. -/
def SocketAddr.zone : SocketAddr → Option (UInt32 × UInt32)
  | .v4 .. => none
  | .v6 _ _ flow scope => some (flow, scope)

theorem SocketAddr.eq_withPort_iff {address source : SocketAddr} {port : UInt16} :
    address = source.withPort port ↔
      address.ip = source.ip ∧ address.zone = source.zone ∧ address.port = port := by
  constructor
  · rintro rfl
    exact ⟨ip_withPort source port, by cases source <;> rfl, port_withPort source port⟩
  · rintro ⟨host, zone, rfl⟩
    cases address <;> cases source <;> cases host <;> cases zone <;> rfl

namespace Discovery

/-- A datagram that a listener has received. -/
structure Arrival where
  moment : Moment
  source : SocketAddr
  datagram : Bytes

/-- The peer that an announcement makes known: at the host and in the zone that it was sent from, and
at the port that it tells of. -/
structure Announces (source : SocketAddr) (a : Announcement) (p : DiscoveredPeer) : Prop where
  machine : p.machine = a.machine
  correlation : p.correlation = a.correlation
  host : p.address.ip = source.ip
  zone : p.address.zone = source.zone
  port : p.address.port = a.port

theorem announces_iff {source : SocketAddr} {a : Announcement} {p : DiscoveredPeer} :
    Announces source a p ↔ p = ⟨source.withPort a.port, a.machine, a.correlation⟩ := by
  rw [DiscoveredPeer.mk.injEq, SocketAddr.eq_withPort_iff]
  exact ⟨fun h => ⟨⟨h.host, h.zone, h.port⟩, h.machine, h.correlation⟩,
    fun ⟨⟨host, zone, port⟩, machine, correlation⟩ => ⟨machine, correlation, host, zone, port⟩⟩

namespace Filter

variable {f : Filter} {arrival : Arrival}

theorem concerns_iff {a : Announcement} :
    f.concerns a = true ↔ a.version = f.version ∧ a.machine ≠ f.machine := by
  simp [concerns]

/-- What can become of a datagram. -/
inductive Handled (f : Filter) (arrival : Arrival) : Filter → Option DiscoveredPeer → Prop
  | malformed {e : DecodeError} : Announcement.decode arrival.datagram = .error e →
      Handled f arrival
        { f with stats := { f.stats with malformed := f.stats.malformed + 1 } } none
  | ignored {a : Announcement} : Announcement.decode arrival.datagram = .ok a →
      ¬ f.concerns a = true → Handled f arrival
        { f with stats := { f.stats with ignored := f.stats.ignored + 1 } } none
  | duplicate {a : Announcement} : Announcement.decode arrival.datagram = .ok a →
      f.concerns a = true → ¬ (f.window.insert arrival.moment (a.machine, a.correlation)).2 = true →
      Handled f arrival
        { f with
          window := (f.window.insert arrival.moment (a.machine, a.correlation)).1
          stats := { f.stats with duplicates := f.stats.duplicates + 1 } } none
  | received {a : Announcement} : Announcement.decode arrival.datagram = .ok a →
      f.concerns a = true → (f.window.insert arrival.moment (a.machine, a.correlation)).2 = true →
      Handled f arrival
        { f with
          window := (f.window.insert arrival.moment (a.machine, a.correlation)).1
          stats := { f.stats with received := f.stats.received + 1 } }
        (some ⟨arrival.source.withPort a.port, a.machine, a.correlation⟩)

theorem handled_accept (f : Filter) (arrival : Arrival) :
    Handled f arrival (f.accept arrival.moment arrival.datagram arrival.source).1
      (f.accept arrival.moment arrival.datagram arrival.source).2 := by
  unfold accept
  split
  · rename_i e broken
    exact .malformed broken
  · rename_i a read
    split
    · rename_i concerned
      dsimp only
      split
      · rename_i fresh
        exact .received read concerned fresh
      · rename_i old
        exact .duplicate read concerned old
    · rename_i foreign
      exact .ignored read foreign

theorem Handled.settings {f' : Filter} {peer : Option DiscoveredPeer}
    (handled : Handled f arrival f' peer) :
    f'.machine = f.machine ∧ f'.version = f.version ∧ f'.window.span = f.window.span := by
  cases handled with
  | malformed | ignored => exact ⟨rfl, rfl, rfl⟩
  | duplicate | received => exact ⟨rfl, rfl, DuplicateWindow.span_insert _ _ _⟩

theorem Handled.announces {f' : Filter} {peer : DiscoveredPeer}
    (handled : Handled f arrival f' (some peer)) :
    ∃ a, Announcement.decode arrival.datagram = .ok a ∧ Announces arrival.source a peer := by
  cases handled with
  | received read => exact ⟨_, read, announces_iff.2 rfl⟩

/-! ### Filters and their past -/

/-- A filter together with the datagrams that it was given and what came of them. -/
structure Recorded where
  filter : Filter
  past : List (Arrival × Option DiscoveredPeer)

namespace Recorded

variable {r : Recorded} {machine : String} {version : UInt16} {window : Span} {now later : Moment}

def receive (r : Recorded) (arrival : Arrival) : Recorded :=
  let result := r.filter.accept arrival.moment arrival.datagram arrival.source
  ⟨result.1, r.past ++ [(arrival, result.2)]⟩

/-- A filter that was given these datagrams, one after the other. -/
def after (machine : String) (version : UInt16) (window : Span) (arrivals : List Arrival) : Recorded :=
  arrivals.foldl receive ⟨create machine version window, []⟩

theorem after_concat (machine : String) (version : UInt16) (window : Span) (arrivals : List Arrival)
    (arrival : Arrival) : after machine version window (arrivals ++ [arrival]) =
      (after machine version window arrivals).receive arrival := by
  rw [after, List.foldl_append]
  rfl

theorem past_concat (machine : String) (version : UInt16) (window : Span) (arrivals : List Arrival)
    (arrival : Arrival) : (after machine version window (arrivals ++ [arrival])).past =
      (after machine version window arrivals).past ++
        [(arrival, ((after machine version window arrivals).filter.accept arrival.moment
          arrival.datagram arrival.source).2)] := by
  rw [after_concat]
  rfl

/-- An announcement repeats an earlier one that has led to a peer less than the window ago. -/
def Repeats (r : Recorded) (window : Span) (now : Moment) (a : Announcement) : Prop :=
  ∃ earlier peer b, (earlier, some peer) ∈ r.past ∧ Announcement.decode earlier.datagram = .ok b ∧
    b.machine = a.machine ∧ b.correlation = a.correlation ∧ now - earlier.moment < window

/-- The keys of the announcements that have led to a peer, and when. -/
def passed (r : Recorded) : List (Moment × AnnouncementKey) :=
  r.past.filterMap fun (arrival, peer) => peer.map fun p => (arrival.moment, p.machine, p.correlation)

theorem mem_passed_iff {moment : Moment} {key : AnnouncementKey} : (moment, key) ∈ r.passed ↔
    ∃ earlier peer, (earlier, some peer) ∈ r.past ∧ earlier.moment = moment ∧
      (peer.machine, peer.correlation) = key := by
  simp only [passed, List.mem_filterMap, Option.map_eq_some_iff, Prod.exists, Prod.mk.injEq]
  constructor
  · rintro ⟨earlier, _, member, peer, rfl, same⟩
    exact ⟨earlier, peer, member, same⟩
  · rintro ⟨earlier, peer, member, same⟩
    exact ⟨earlier, _, member, peer, rfl, same⟩

theorem passed_concat {f : Filter} {arrival : Arrival} {peer : Option DiscoveredPeer} :
    passed ⟨f, r.past ++ [(arrival, peer)]⟩ = r.passed ++
      (peer.map fun p => (arrival.moment, p.machine, p.correlation)).toList := by
  rw [passed, List.filterMap_append]
  cases peer <;> rfl

/-- Every datagram is counted once, and as received if it has led to a peer. -/
structure Counted (r : Recorded) : Prop where
  all : r.filter.stats.malformed + r.filter.stats.ignored + r.filter.stats.duplicates +
    r.filter.stats.received = r.past.length
  received : r.filter.stats.received = r.past.countP fun (_, peer) => peer.isSome

theorem Counted.handled {f : Filter} {arrival : Arrival} {peer : Option DiscoveredPeer}
    (h : r.Counted) (handled : Handled r.filter arrival f peer) :
    Counted ⟨f, r.past ++ [(arrival, peer)]⟩ := by
  have all := h.all
  have received := h.received
  cases handled
  all_goals
    constructor
    · simp only [List.length_append, List.length_singleton]
      omega
    · simp only [List.countP_append, List.countP_singleton]
      simpa using received

theorem counted_after (machine : String) (version : UInt16) (window : Span)
    (arrivals : List Arrival) : (after machine version window arrivals).Counted := by
  induction arrivals using List.reverseRecOn with
  | nil => exact ⟨rfl, rfl⟩
  | append_singleton arrivals arrival ih =>
    rw [after_concat]
    exact ih.handled (handled_accept _ arrival)

theorem past_after (machine : String) (version : UInt16) (window : Span)
    (arrivals : List Arrival) :
    (after machine version window arrivals).past.map Prod.fst = arrivals := by
  induction arrivals using List.reverseRecOn with
  | nil => rfl
  | append_singleton arrivals arrival ih =>
    rw [past_concat, List.map_append, ih]
    rfl

/-- As time does not go back, the window of a filter agrees with what has led to a peer. -/
structure Faithful (r : Recorded) (machine : String) (version : UInt16) (window : Span)
    (now : Moment) : Prop where
  machine : r.filter.machine = machine
  version : r.filter.version = version
  span : r.filter.window.span = window
  agrees : r.filter.window.Agrees r.passed now
  announced : ∀ earlier peer, (earlier, some peer) ∈ r.past → ∃ a,
    Announcement.decode earlier.datagram = .ok a ∧ Announces earlier.source a peer

namespace Faithful

theorem mono (h : r.Faithful machine version window now) (le : now ≤ later) :
    r.Faithful machine version window later :=
  { h with agrees := h.agrees.mono le }

theorem repeats_iff (h : r.Faithful machine version window now) {a : Announcement} :
    r.Repeats window now a ↔ ∃ moment, (moment, a.machine, a.correlation) ∈ r.passed ∧
      now - moment < r.filter.window.span := by
  simp only [mem_passed_iff, Prod.mk.injEq, h.span]
  constructor
  · rintro ⟨earlier, peer, b, member, read, sameMachine, sameNumber, young⟩
    obtain ⟨b', read', announced⟩ := h.announced earlier peer member
    cases read.symm.trans read'
    exact ⟨_, ⟨earlier, peer, member, rfl, announced.machine.trans sameMachine,
      announced.correlation.trans sameNumber⟩, young⟩
  · rintro ⟨_, ⟨earlier, peer, member, rfl, sameMachine, sameNumber⟩, young⟩
    obtain ⟨b, read, announced⟩ := h.announced earlier peer member
    exact ⟨earlier, peer, b, member, read, announced.machine.symm.trans sameMachine,
      announced.correlation.symm.trans sameNumber, young⟩

theorem fresh_iff (h : r.Faithful machine version window now) (a : Announcement) :
    (r.filter.window.insert now (a.machine, a.correlation)).2 = true ↔ ¬ r.Repeats window now a := by
  rw [h.agrees.insert_iff, h.repeats_iff]

theorem handled {f : Filter} {arrival : Arrival} {peer : Option DiscoveredPeer}
    (h : r.Faithful machine version window arrival.moment)
    (handled : Handled r.filter arrival f peer) :
    Faithful ⟨f, r.past ++ [(arrival, peer)]⟩ machine version window arrival.moment := by
  obtain ⟨sameMachine, sameVersion, sameSpan⟩ := handled.settings
  refine ⟨sameMachine.trans h.machine, sameVersion.trans h.version, sameSpan.trans h.span,
    ?agrees, ?announced⟩
  case agrees =>
    rw [passed_concat]
    cases handled with
    | malformed | ignored => simpa using h.agrees
    | @duplicate a _ _ old =>
      have agrees := h.agrees.insert (a.machine, a.correlation)
      rw [if_neg old] at agrees
      simpa using agrees
    | @received a _ _ fresh =>
      have agrees := h.agrees.insert (a.machine, a.correlation)
      rw [if_pos fresh] at agrees
      exact agrees
  case announced =>
    intro earlier p member
    rcases List.mem_append.1 member with old | last
    · exact h.announced earlier p old
    · cases List.mem_singleton.1 last
      exact handled.announces

/-- A datagram makes a peer known just if it announces one of another machine in our own version,
and repeats nothing. -/
theorem yields_iff {f : Filter} {arrival : Arrival} {result : Option DiscoveredPeer}
    (h : r.Faithful machine version window arrival.moment)
    (handled : Handled r.filter arrival f result) {peer : DiscoveredPeer} :
    result = some peer ↔ ∃ a, Announcement.decode arrival.datagram = .ok a ∧
      a.version = version ∧ a.machine ≠ machine ∧ ¬ r.Repeats window arrival.moment a ∧
      Announces arrival.source a peer := by
  rw [← h.machine, ← h.version]
  constructor
  · rintro rfl
    cases handled with
    | received read concerned fresh =>
      obtain ⟨ours, foreign⟩ := concerns_iff.1 concerned
      exact ⟨_, read, ours, foreign, (h.fresh_iff _).1 fresh, announces_iff.2 rfl⟩
  · rintro ⟨a, read, ours, foreign, fresh, announced⟩
    have concerned := concerns_iff.2 ⟨ours, foreign⟩
    cases handled with
    | malformed broken => cases read.symm.trans broken
    | ignored read' unconcerned =>
      cases read.symm.trans read'
      exact absurd concerned unconcerned
    | duplicate read' _ old =>
      cases read.symm.trans read'
      exact absurd ((h.fresh_iff a).2 fresh) old
    | received read' =>
      cases read.symm.trans read'
      rw [announces_iff.1 announced]

end Faithful

theorem faithful_after {machine : String} {version : UInt16} {window : Span}
    {arrivals : List Arrival} {now : Moment}
    (ordered : (arrivals.map Arrival.moment ++ [now]).Pairwise (· ≤ ·)) :
    (after machine version window arrivals).Faithful machine version window now := by
  induction arrivals using List.reverseRecOn generalizing now with
  | nil => exact ⟨rfl, rfl, rfl, DuplicateWindow.agrees_create window now, nofun⟩
  | append_singleton arrivals arrival ih =>
    rw [List.map_append] at ordered
    obtain ⟨earlier, -, before⟩ := List.pairwise_append.1 ordered
    have le : arrival.moment ≤ now :=
      before arrival.moment (by simp) now (List.mem_singleton_self now)
    rw [after_concat]
    exact ((ih earlier).handled (handled_accept _ arrival)).mono le

end Recorded

/-- Of datagrams that arrive in the order of time, those make a peer known that announce one of
another machine in our own version, unless an announcement with the same machine and number has made
a peer known less than the window ago. Every datagram is counted once, as received just if it has
made a peer known. -/
theorem filter_refines_history (machine : String) (version : UInt16) (window : Span)
    (arrivals : List Arrival) (ordered : (arrivals.map Arrival.moment).Pairwise (· ≤ ·)) :
    (∀ before arrival later, arrivals = before ++ arrival :: later →
      let r := Recorded.after machine version window before
      ∀ peer, (r.filter.accept arrival.moment arrival.datagram arrival.source).2 = some peer ↔
        ∃ a, Announcement.decode arrival.datagram = .ok a ∧ a.version = version ∧
          a.machine ≠ machine ∧ ¬ r.Repeats window arrival.moment a ∧
          Announces arrival.source a peer) ∧
    ∀ before, before <+: arrivals →
      let r := Recorded.after machine version window before
      r.past.map Prod.fst = before ∧
      r.filter.stats.malformed + r.filter.stats.ignored + r.filter.stats.duplicates +
        r.filter.stats.received = before.length ∧
      r.filter.stats.received = r.past.countP fun (_, peer) => peer.isSome := by
  constructor
  · rintro before arrival later rfl r peer
    rw [List.append_cons, List.map_append, List.map_append] at ordered
    have faithful : r.Faithful machine version window arrival.moment :=
      Recorded.faithful_after (List.pairwise_append.1 ordered).1
    exact faithful.yields_iff (handled_accept _ arrival)
  · intro before _ r
    have past : r.past.map Prod.fst = before := Recorded.past_after machine version window before
    have counted : r.Counted := Recorded.counted_after machine version window before
    refine ⟨past, ?_, counted.received⟩
    rw [counted.all, ← past, List.length_map]

/-! An announcement that comes three times. The second one is suppressed, and the third one comes
when the window of the first one is just over. -/

namespace Thrice

def announcement : Announcement := ⟨7, 1, 4400, "studio"⟩

def hello (moment : Moment) : Arrival :=
  ⟨moment, .v6 0xfe800000000000000000000000000003 5353 0 2, announcement.encode⟩

def peer : DiscoveredPeer := ⟨.v6 0xfe800000000000000000000000000003 4400 0 2, "studio", 7⟩

theorem read (moment : Moment) : Announcement.decode (hello moment).datagram = .ok announcement :=
  Announcement.decode_eq_ok_iff.2 ⟨Wire.plain_of_all (by decide) (by decide +kernel), rfl⟩

theorem announces (moment : Moment) : Announces (hello moment).source announcement peer :=
  ⟨rfl, rfl, rfl, rfl, rfl⟩

theorem third_greeting_is_received :
    ([hello 0, hello 20, hello 30].map Arrival.moment).Pairwise (· ≤ ·) ∧
      (Recorded.after "loft" 1 30 [hello 0, hello 20, hello 30]).past =
        [(hello 0, some peer), (hello 20, none), (hello 30, some peer)] := by
  have ordered : ([hello 0, hello 20, hello 30].map Arrival.moment).Pairwise (· ≤ ·) := by decide
  obtain ⟨yields, -⟩ := filter_refines_history "loft" 1 30 _ ordered
  have foreign : announcement.machine ≠ "loft" := by decide
  have first : (Recorded.after "loft" 1 30 [hello 0]).past = [(hello 0, some peer)] := by
    have greeted := (yields [] (hello 0) _ rfl peer).2 ⟨_, read 0, rfl, foreign, ?_, announces 0⟩
    · exact congrArg (fun result => [(hello 0, result)]) greeted
    · rintro ⟨_, _, _, member, -⟩
      cases member
  have second : (Recorded.after "loft" 1 30 [hello 0, hello 20]).past =
      [(hello 0, some peer), (hello 20, none)] := by
    have suppressed := Option.eq_none_iff_forall_ne_some.2 fun p greeted => by
      obtain ⟨a, read', -, -, fresh, -⟩ := (yields [hello 0] (hello 20) _ rfl p).1 greeted
      cases (read 20).symm.trans read'
      exact fresh ⟨hello 0, peer, _, by rw [first]; exact .head _, read 0, rfl, rfl, by decide⟩
    refine (Recorded.past_concat "loft" 1 30 [hello 0] (hello 20)).trans ?_
    rw [first, suppressed]
    rfl
  refine ⟨ordered, ?_⟩
  have third := (yields [hello 0, hello 20] (hello 30) _ rfl peer).2
    ⟨_, read 30, rfl, foreign, ?_, announces 30⟩
  · refine (Recorded.past_concat "loft" 1 30 [hello 0, hello 20] (hello 30)).trans ?_
    rw [second, third]
    rfl
  · rintro ⟨earlier, p, -, member, -, -, -, young⟩
    rw [second] at member
    rcases List.mem_pair.1 member with same | same
    · cases same
      exact absurd young (by decide)
    · cases same

end Thrice
end Filter
end Discovery
end LocalSwarm
