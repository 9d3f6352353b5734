import LocalSwarm.Proofs.Activities.Invariants

/-! Whether others understand what a service announces, asks and answers. They do if the name of
its machine and those of its buckets can be written; nothing else that it repeats, learned from
others or read from files, is ever in the way. Main statement: `plain_names_are_understood`. -/
namespace LocalSwarm
open Wire (Plain shortLimit blobLimit)

/-! ### Answers -/

namespace Node

variable {n : Node} {files : Files.Tree} {now : Moment} {requester : Peer}

/-- What a node knows and keeps can be written. -/
structure Clear (n : Node) : Prop where
  contacts : ∀ c ∈ n.table.contacts, c.peer.Fits
  values : ∀ key value t, (key, value, t) ∈ n.store.entries → value.length < blobLimit

theorem Clear.nearest (clear : n.Clear) (target : Identifier) (count : UInt16) :
    Peer.AllFit (n.nearest now target count requester) := by
  rw [Node.nearest]
  refine ⟨?_, fun p member => ?_⟩
  · refine (List.length_take_le ..).trans ((Nat.min_le_left ..).trans ?_)
    exact Nat.le_of_lt_succ count.toNat_lt
  · have close := (List.mem_filter.1 (List.mem_of_mem_take member)).1
    obtain ⟨c, inside, rfl⟩ := RoutingTable.mem_contacts_of_closest close
    exact clear.contacts c inside

theorem fits_fileAnswer {α : Type} {found : Except Files.FileError α} {response : α → Response}
    {operation : Operation} (fits : ∀ a, found = .ok a → (response a).Fits) :
    (answerBody operation (fileAnswer response found)).Fits := by
  cases found with
  | ok a => exact fits a rfl
  | error e => exact e.plain_message

/-- Answers can be written. For greetings this is not known. -/
theorem Clear.answer (clear : n.Clear) (dated : files.Dated) {r : Request}
    (other : r.operation ≠ .acknowledge) :
    (answerBody r.operation (n.respond files now requester r).2).Fits := by
  cases r with
  | acknowledge => exact absurd rfl other
  | ping | store => trivial
  | findNode target count => exact clear.nearest target count
  | findValue key count =>
    rw [respond]
    rcases got : n.store.get now key with ⟨store, _ | value⟩
    · exact clear.nearest key count
    · obtain ⟨t, member⟩ := ValueStore.mem_of_get_eq_some (congrArg Prod.snd got)
      exact clear.values key value t member
  | checkFile file =>
    exact fits_fileAnswer fun status told => Files.Provider.fits_of_status dated told
  | download file range =>
    refine fits_fileAnswer ?_
    rintro ⟨status, data⟩ read
    have small : Files.SharedFolders.servedLimit < blobLimit := by decide
    exact ⟨Files.Provider.fits_of_read dated read,
      (Files.Provider.length_read_le read).trans_lt small⟩

end Node

/-! ### Requests -/

/-- The texts of a request can be written, or they are those of a greeting. -/
def Request.Clear (greeting : Greeting) : Request → Prop
  | .acknowledge g => g = greeting
  | .checkFile file => file.Fits
  | .download file _ => file.Fits
  | _ => True

/-- What keeps a message in clear words from being read: a greeting that cannot be written, or a
range that is longer than what a frame could carry back. -/
def Body.Readable (greeting : Greeting) : Body → Prop
  | .request (.acknowledge _) => greeting.Fits
  | .request (.download _ range) => range.stop - range.start < Frame.limit
  | .response (.acknowledge _) => greeting.Fits
  | _ => True

theorem Request.Clear.fits_iff {greeting : Greeting} {r : Request} (clear : r.Clear greeting)
    {m : Message} (asks : m.body = .request r) (short : m.encode.length ≤ Frame.limit) :
    m.body.Fits ↔ m.body.Readable greeting := by
  rw [asks]
  cases r with
  | acknowledge g =>
    obtain rfl : g = greeting := clear
    exact Iff.rfl
  | ping | findNode | findValue => exact Iff.rfl
  | store key value =>
    have length : value.length < blobLimit := by
      have limits : Frame.limit < blobLimit := by decide
      rw [Message.length_encode, asks, Wire.body, Wire.request, List.length_append,
        Wire.length_blob] at short
      omega
    exact iff_of_true length trivial
  | checkFile file => exact iff_of_true clear trivial
  | download file range => exact and_iff_right clear

theorem Node.readable_answer {n : Node} {files : Files.Tree} {now : Moment} {requester : Peer}
    {r : Request} {greeting : Greeting} (other : r.operation ≠ .acknowledge) :
    (answerBody r.operation (n.respond files now requester r).2).Readable greeting := by
  cases answered : (n.respond files now requester r).2 with
  | error text => trivial
  | ok response =>
    have same := operation_respond answered
    cases response with
    | acknowledge g => exact absurd same.symm other
    | _ => trivial

/-! ### Everything -/

/-- A regime under which nothing is told or asked, and no file is shared, that could not be put into
words. -/
def Regime.clear (start : Node) (began : Moment) : Regime where
  start
  began
  files := Files.Tree.Dated
  welcome := Peer.Fits
  blamed _ := True
  asks c := c.request.Clear start.greeting
  breaks _ := True

namespace Regime

variable {start : Node} {began : Moment} {localId : Identifier} {slots : Nat}

theorem lawful_clear (sound : start.table.Sound localId slots) : (clear start began).Lawful := by
  refine ⟨⟨localId, slots, sound, .inr fun _ => trivial⟩, fun body m decoded => ?_⟩
  obtain ⟨plain, fits⟩ := (Message.decode_eq_ok_iff.1 decoded).1
  refine ⟨fun host => ⟨plain, ?_⟩, fun p response responds q told => ?_⟩
  · cases host with
    | v4 => trivial
    | v6 => exact ⟨rfl, rfl⟩
  · rw [responds] at fits
    cases response with
    | findNode ps => exact fits.each q told
    | findValue found =>
      cases found with
      | value => cases told
      | closer ps => exact fits.each q told
    | acknowledge | ping | store | checkFile | download => cases told

theorem Becomes.clear {n : Node} {now : Moment} (sound : start.table.Sound localId slots)
    (before : ∀ c ∈ start.table.contacts, c.peer.Fits) (empty : start.store.entries = [])
    (becomes : (clear start began).Becomes n now) : n.Clear := by
  constructor
  · refine RoutingTable.Sound.kept_of_goes (s := ⟨start.table, began⟩) sound ?enters ?learns ?seen
      ?failed becomes.goes before
    case enters =>
      intro c fit _
      exact fit
    case learns =>
      intro known newcomer fit fit' _ _
      unfold Contact.learn
      split
      · exact fit'
      · split
        · exact ⟨fit.machine, fit'.address⟩
        · exact fit
    case seen =>
      intro c _ fit
      exact fit
    case failed =>
      intro c fit _
      exact fit
  · intro key value t member
    obtain ⟨past, reached⟩ := becomes.reached
    obtain ⟨m, -, stores, fits, -⟩ := reached.stored empty member
    have body := fits.body
    rw [stores] at body
    exact body

/-- Whether what a node says can be written is up to its own names and to the range it asks for. -/
theorem Says.fits_iff (sound : start.table.Sound localId slots)
    (before : ∀ c ∈ start.table.contacts, c.peer.Fits) (empty : start.store.entries = [])
    {m : Message} (said : (clear start began).Says m) (short : m.encode.length ≤ Frame.limit) :
    m.Fits ↔ Plain start.self.machine ∧ m.body.Readable start.greeting := by
  have fits_iff (sender : m.sender = start.self)
      (body : m.body.Fits ↔ m.body.Readable start.greeting) :
      m.Fits ↔ Plain start.self.machine ∧ m.body.Readable start.greeting := by
    rw [← sender, ← body]
    exact ⟨fun fits => ⟨fits.sender, fits.body⟩, fun fits => ⟨fits.1, fits.2⟩⟩
  cases said with
  | pings sender asks =>
    exact fits_iff sender (Request.Clear.fits_iff (r := .ping) trivial asks short)
  | calls sender asks clear => exact fits_iff sender (Request.Clear.fits_iff clear asks short)
  | @replies n now files asked host body becomes dated decoded replied =>
    obtain ⟨k, sender, r | response | ⟨operation, text⟩⟩ := asked
    · obtain rfl := Option.some.inj (replied.symm.trans (Node.reply_react k sender r))
      have steady : start.Steady n := becomes.steady
      refine fits_iff steady.self ?_
      by_cases greets : r.operation = .acknowledge
      · cases r with
        | acknowledge g => exact iff_of_eq (congrArg Greeting.Fits steady.greeting)
        | _ => cases greets
      · exact iff_of_true (becomes.clear sound before empty |>.answer dated greets)
          (Node.readable_answer greets)
    · cases replied
    · cases replied

end Regime

/-- What comes from elsewhere can be put into words: what is asked for others, whom they tell of,
and when shared files were changed. -/
def Occurrence.Clear (greeting : Greeting) : Occurrence → Prop
  | .began (.call c) => c.request.Clear greeting
  | .told peers => ∀ p ∈ peers, p.Fits
  | .asked _ _ files => files.Dated
  | _ => True

theorem Regime.permits_clear {start : Node} {began : Moment} {s : Service} {o : Occurrence}
    (allowed : o.Clear start.greeting) : (Regime.clear start began).Permits s o := by
  cases o with
  | began task =>
    refine Task.conforms ⟨fun _ _ _ => trivial, fun _ _ _ => trivial⟩ ?_
    cases task with
    | call c => exact allowed
    | join address =>
      intro site site' here there
      have same := here.greeting
      have same' := there.greeting
      exact congrArg₂ Greeting.mk (congrArg Greeting.version same') (congrArg Greeting.buckets same)
    | store =>
      intro p
      trivial
    | download request suffix =>
      intro t valid
      have fits := DownloadRequest.fits_of_validate valid
      exact ⟨fun _ => fits, fun _ _ _ => fits, fun _ => trivial⟩
    | bootstrap | refresh | findNode | findValue => trivial
  | answered =>
    intro p request m e asks sender body failed
    trivial
  | told | asked => exact allowed
  | departed | abandoned | observed | elapsed | changed => trivial

/-- An announcement survives a listener that reads no more than its limit if the name is plain and
leaves room for the other fields. -/
theorem Announcement.decode_take_iff (a : Announcement) :
    decode (a.encode.take datagramLimit) = .ok a ↔
      Plain a.machine ∧ a.machine.utf8ByteSize ≤ 1490 := by
  have length : a.encode.length = 8 + (Wire.text a.machine).length := by
    simp only [encode, Wire.word32, Wire.word16, List.length_append, Bytes.length_ofNat]
  have room (plain : Plain a.machine) :
      a.encode.length ≤ datagramLimit ↔ a.machine.utf8ByteSize ≤ 1490 := by
    have limit : datagramLimit = 1500 := rfl
    rw [length, plain.length_text]
    omega
  rw [decode_eq_ok_iff, List.take_eq_self_iff]
  exact and_congr_right room

/-- A service is understood by others just if the name of its machine is plain, and short enough for
a datagram where it announces itself. Besides, its buckets have to fit a greeting, and it must not
ask for more at once than a frame could carry. -/
theorem plain_names_are_understood (settings : Settings) (id : Identifier) (port : Nat)
    (provider : Files.Provider) (listening : Option Discovery.Listening) (s : Service)
    (created : Service.create settings id port provider listening = .ok s) :
    let machine := settings.machine.getD ""
    let greeting : Greeting := ⟨settings.version, provider.buckets⟩
    (∀ k, Announcement.decode ((s.announcement k).encode.take Announcement.datagramLimit) =
        .ok (s.announcement k) ↔ Plain machine ∧ machine.utf8ByteSize ≤ 1490) ∧
      ∀ files now os a, (∀ o ∈ os, o.Clear greeting) →
        Activity.run s (.idle ⟨s.node, files, now⟩) os = .ok a →
          ∀ m ∈ a.sent, m.encode.length ≤ Frame.limit →
            (Message.decode m.encode = .ok m ↔ Plain machine ∧ m.body.Readable greeting) := by
  intro machine greeting
  rw [Service.create_eq] at created
  split at created
  · cases created
  obtain rfl := Except.ok.inj created
  refine ⟨fun k => Announcement.decode_take_iff _, fun files now os a clear done m sent short => ?_⟩
  let s := Service.allocated settings id port provider listening
  have sound : s.node.table.Sound id settings.bucketSlots := RoutingTable.sound_fresh
  have kept := ((Regime.clear s.node now).kept_idle files).run (Regime.lawful_clear sound) s os
    fun o member => Regime.permits_clear (clear o member)
  have nobody : ∀ c ∈ s.node.table.contacts, c.peer.Fits := by
    change ∀ c ∈ (RoutingTable.fresh id settings.bucketSlots).contacts, c.peer.Fits
    rw [RoutingTable.contacts_fresh]
    exact List.forall_mem_nil _
  have said := (kept.of_ok done).sent m sent
  refine Iff.trans ?_ (said.fits_iff sound nobody rfl short)
  exact ⟨fun read => (Message.decode_eq_ok_iff.1 read).1, Message.decode_encode⟩

/-! A service announces itself and greets a peer. -/

namespace Introduction

def settings (machine : String) : Settings := { Settings.standard with machine := some machine }

def provider : Files.Provider := .folders ⟨[("music", "shared")]⟩

def service (machine : String) : Service := .allocated (settings machine) ⟨1⟩ 4400 provider none

def greeting : Greeting := ⟨1, ["music"]⟩

def greet : List Occurrence :=
  [.began (.call ⟨.endpoint (.v4 0x0a000003 4400), .acknowledge greeting⟩), .departed 0 0]

def greets (machine : String) : Except Fault Activity :=
  Activity.run (service machine) (.idle ⟨(service machine).node, .empty, 0⟩) greet

def message (machine : String) : Message :=
  ⟨0, ⟨⟨1⟩, 4400, machine⟩, .request (.acknowledge greeting)⟩

theorem clear_greet : ∀ o ∈ greet, o.Clear greeting := by
  intro o member
  rcases List.mem_pair.1 member with rfl | rfl
  · exact rfl
  · trivial

theorem fits_greeting : greeting.Fits := by
  refine ⟨by decide, fun bucket member => ?_⟩
  obtain rfl := List.mem_singleton.1 member
  exact Wire.plain_of_all (by decide) (by decide +kernel)

theorem studio_is_understood :
    Service.create (settings "studio") ⟨1⟩ 4400 provider none = .ok (service "studio") ∧
      (∀ k, Announcement.decode (((service "studio").announcement k).encode.take
        Announcement.datagramLimit) = .ok ((service "studio").announcement k)) ∧
      (∀ o ∈ greet, o.Clear greeting) ∧
      ∃ a, greets "studio" = .ok a ∧ a.sent = [message "studio"] ∧
        (message "studio").encode.length ≤ Frame.limit ∧
        Message.decode (message "studio").encode = .ok (message "studio") := by
  have plain : Plain ((settings "studio").machine.getD "") := Wire.plain_studio
  have created :
      Service.create (settings "studio") ⟨1⟩ 4400 provider none = .ok (service "studio") := rfl
  have own : Greeting.mk (settings "studio").version provider.buckets = greeting := by
    decide +kernel
  have short : (message "studio").encode.length ≤ Frame.limit := by decide +kernel
  have known : (greets "studio").toOption.map (·.sent) = some [message "studio"] := by
    decide +kernel
  obtain ⟨announced, sent⟩ := plain_names_are_understood (settings "studio") ⟨1⟩ 4400 provider none
    (service "studio") created
  rw [own] at sent
  cases done : greets "studio" with
  | error fault =>
    rw [done] at known
    cases known
  | ok a =>
    rw [done] at known
    have only : a.sent = [message "studio"] := Option.some.inj known
    have readable : (message "studio").body.Readable greeting := fits_greeting
    refine ⟨created, fun k => (announced k).2 ⟨plain, by decide +kernel⟩, clear_greet, a, rfl, only,
      short, ?_⟩
    exact (sent .empty 0 greet a clear_greet done _ (only ▸ List.mem_singleton_self _) short).2
      ⟨plain, readable⟩

/-- Nobody can read a name with a letter that is not ASCII, and yet a service starts under it. -/
theorem buero_is_not_understood :
    Service.create (settings "büro") ⟨1⟩ 4400 provider none = .ok (service "büro") ∧
      Announcement.decode (((service "büro").announcement 7).encode.take
        Announcement.datagramLimit) = .error .nonAscii ∧
      ∃ a, greets "büro" = .ok a ∧ a.sent = [message "büro"] ∧
        (message "büro").encode.length ≤ Frame.limit ∧
        Message.decode (message "büro").encode = .error .nonAscii := by
  have known : (greets "büro").toOption.map (·.sent) = some [message "büro"] := by decide +kernel
  refine ⟨rfl, by decide +kernel, ?_⟩
  cases done : greets "büro" with
  | error fault =>
    rw [done] at known
    cases known
  | ok a =>
    rw [done] at known
    exact ⟨a, rfl, Option.some.inj known, by decide +kernel, by decide +kernel⟩

end Introduction

end LocalSwarm
