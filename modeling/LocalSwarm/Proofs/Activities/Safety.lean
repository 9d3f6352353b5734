import LocalSwarm.Proofs.Activities.Invariants

/-! No settings break a service, as long as its buckets have slots at all: whatever it does and
whatever it is answered, only want of memory can end it. Main statement:
`only_memory_limits_settings`. -/
namespace LocalSwarm

/-- A regime under which everything is allowed but to break off for another reason than memory. -/
def Regime.lenient (start : Node) (began : Moment) : Regime where
  start
  began
  files _ := True
  welcome _ := True
  blamed _ := True
  asks _ := True
  breaks fault := ∃ count, fault = .tooManySlots count

namespace Regime

/-- Anything may be asked, and anybody be blamed; and memory may be wanting. -/
structure Free (r : Regime) : Prop where
  files : ∀ files, r.files files
  blamed : ∀ id, r.blamed id
  asks : ∀ c, r.asks c
  breaks : ∀ count, r.breaks (.tooManySlots count)

namespace Free

variable {r : Regime}

theorem serves (free : r.Free) (s : Service) (task : Task) : r.terms.Serves s task := by
  cases task with
  | call c => exact free.asks c
  | join => exact fun _ _ _ _ => free.asks _
  | store => exact fun _ => free.asks _
  | download => exact fun _ _ => ⟨fun _ => free.asks _, fun _ _ _ => free.asks _, free.breaks⟩
  | bootstrap | refresh | findNode | findValue => trivial

/-- All that is left to mind is who is told of. -/
theorem permits (free : r.Free) (s : Service) {o : Occurrence}
    (told : ∀ peers, o = .told peers → ∀ p ∈ peers, r.welcome p) : r.Permits s o := by
  cases o with
  | began task =>
    exact Task.conforms ⟨fun _ _ _ => free.asks _, fun _ _ _ => free.asks _⟩ (free.serves s task)
  | answered => exact fun p _ _ _ _ _ _ _ => free.blamed p.id
  | asked body host files => exact free.files files
  | told peers => exact told peers rfl
  | departed | abandoned | observed | elapsed | changed => trivial

end Free

theorem free_lenient (start : Node) (began : Moment) : (lenient start began).Free where
  files _ := trivial
  blamed _ := trivial
  asks _ := trivial
  breaks count := ⟨count, rfl⟩

end Regime

/-- With settings that leave a slot in the buckets, a service does whatever it is asked to in any
surroundings, and breaks off only where lists would need more memory than there can be. -/
theorem only_memory_limits_settings (settings : Settings) (usable : settings.bucketSlots ≠ 0)
    (id : Identifier) (port : Nat) (provider : Files.Provider)
    (listening : Option Discovery.Listening) (files : Files.Tree) (now : Moment)
    (os : List Occurrence) :
    let s := Service.allocated settings id port provider listening
    let start : Activity := .idle ⟨s.node, files, now⟩
    Service.create settings id port provider listening =
        (if RoutingTable.slotLimit < settings.bucketSlots then
          .error (.tooManySlots settings.bucketSlots)
        else .ok s) ∧
      ((∃ a, start.run s os = .ok a) ∨ ∃ count, start.run s os = .error (.tooManySlots count)) := by
  intro s start
  refine ⟨Service.create_eq settings id port provider listening, ?_⟩
  let r := Regime.lenient s.node now
  have lawful : r.Lawful :=
    ⟨⟨id, settings.bucketSlots, RoutingTable.sound_fresh, .inl (Nat.pos_of_ne_zero usable)⟩,
      fun _ m _ => .of_all (fun _ => trivial) m⟩
  have free := Regime.free_lenient s.node now
  have kept := (r.kept_idle files).run lawful s os fun o _ =>
    free.permits s fun _ _ _ _ => trivial
  cases ends : start.run s os with
  | ok a => exact .inl ⟨a, rfl⟩
  | error fault =>
    obtain ⟨count, rfl⟩ : r.breaks fault := kept.of_error ends
    exact .inr ⟨count, rfl⟩

/-! A service calls a peer that answers it. -/

namespace Cramped

open RoutingTable.Contention (first)

def settings (slots : Nat) : Settings := { Settings.standard with bucketSlots := slots }

def service (slots : Nat) : Service := .allocated (settings slots) ⟨1⟩ 4400 .nothing none

def answers : Surroundings := fun _ m =>
  .ok (Message.mk m.correlation ⟨first.id, 4400, first.machine⟩ (.response .ping)).encode

def ping : List Occurrence :=
  [.began (.call ⟨.contact first, .ping⟩), .departed 0 0, .answered 0 0 answers]

def pinged (slots : Nat) : Except Fault Activity :=
  Activity.run (service slots) (.idle ⟨(service slots).node, .empty, 0⟩) ping

theorem one_slot_is_enough :
    (settings 1).bucketSlots ≠ 0 ∧
      Service.create (settings 1) ⟨1⟩ 4400 .nothing none = .ok (service 1) ∧
      ∃ a, pinged 1 = .ok a ∧ a.site.node.table.contacts = [.heard 0 first] := by
  obtain ⟨created, ends⟩ := only_memory_limits_settings (settings 1) (by decide) ⟨1⟩ 4400 .nothing
    none .empty 0 ping
  have known : (pinged 1).toOption.map (fun a => a.site.node.table.contacts) =
      some [.heard 0 first] := by decide +kernel
  refine ⟨by decide, created, ?_⟩
  rcases ends with ⟨a, done⟩ | ⟨count, failed⟩
  · refine ⟨a, done, ?_⟩
    rw [pinged, service, done] at known
    exact Option.some.inj known
  · rw [pinged, service, failed] at known
    cases known

/-- Without slots there is none for whoever answers, and nobody whom to challenge. -/
theorem no_slot_is_too_few :
    (settings 0).bucketSlots = 0 ∧
      Service.create (settings 0) ⟨1⟩ 4400 .nothing none = .ok (service 0) ∧
      pinged 0 = .error .noContact := by
  have fault : (match pinged 0 with | .ok _ => none | .error f => some f) = some .noContact := by
    decide +kernel
  refine ⟨rfl, rfl, ?_⟩
  split at fault
  · cases fault
  · rename_i failed
    rw [failed, Option.some.inj fault]

end Cramped
end LocalSwarm
