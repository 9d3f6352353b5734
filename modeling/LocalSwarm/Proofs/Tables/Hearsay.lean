import Mathlib.Data.List.Forall2
import LocalSwarm.Proofs.Tables.Effects

/-! What others tell of peers cannot harm what was observed of them. Whoever is online stays, and
keeps its place among the others that are; one that was ever heard from keeps all that is known of
it. Main statement: `hearsay_harms_nobody_online`. -/
namespace LocalSwarm

namespace Contact

/-- What hearsay leaves of a contact. Only the address can change, and only while nothing was heard
from the contact itself. -/
structure Spared (c c' : Contact) : Prop where
  id : c'.id = c.id
  machine : c'.peer.machine = c.peer.machine
  lastActive : c'.lastActive = c.lastActive
  failures : c'.failures = c.failures
  address : c.lastActive.isSome = true → c'.peer.address = c.peer.address

theorem Spared.refl (c : Contact) : c.Spared c := ⟨rfl, rfl, rfl, rfl, fun _ => rfl⟩

theorem Spared.trans {c c' c'' : Contact} (first : c.Spared c') (second : c'.Spared c'') :
    c.Spared c'' where
  id := second.id.trans first.id
  machine := second.machine.trans first.machine
  lastActive := second.lastActive.trans first.lastActive
  failures := second.failures.trans first.failures
  address heard := (second.address (first.lastActive ▸ heard)).trans (first.address heard)

instance : Std.Refl Spared := ⟨Spared.refl⟩

instance : IsTrans Contact Spared := ⟨fun _ _ _ => Spared.trans⟩

theorem Spared.isOnline {c c' : Contact} (spared : c.Spared c') (now : Moment) :
    c'.isOnline now = c.isOnline now := by
  rw [Contact.isOnline, Contact.isOnline, status, status, spared.failures, spared.lastActive]

theorem spared_learn {other : Contact} (hearsay : other.lastActive.isSome = false) (c : Contact) :
    c.Spared (c.learn other) := by
  rw [learn, hearsay, if_neg Bool.false_ne_true]
  split
  · rename_i silent
    refine ⟨rfl, rfl, rfl, rfl, fun heard => ?_⟩
    rw [Option.isNone_iff_eq_none.1 silent] at heard
    cases heard
  · exact .refl c

theorem isOnline_iff {c : Contact} {now : Moment} : c.isOnline now = true ↔ c.status now ≠ .bad :=
  bne_iff_ne

end Contact

namespace Bucket

variable {slots : Nat} {Admits : Identifier → Prop} {b b' b'' : Bucket} {now : Moment}

/-- Those who are online stay, each of them spared, and stand among the others in their order. -/
def Spares (now : Moment) (b b' : Bucket) : Prop :=
  List.SublistForall₂ Contact.Spared (b.online now) (b'.online now)

theorem Spares.refl (now : Moment) (b : Bucket) : b.Spares now b :=
  List.Sublist.sublistForall₂ (.refl _)

theorem Spares.trans (first : b.Spares now b') (second : b'.Spares now b'') : b.Spares now b'' :=
  IsTrans.trans (r := List.SublistForall₂ Contact.Spared) _ _ _ first second

/-- One comes to the end of a list in which all who are online have stayed. -/
theorem spares_concat {rest : List Contact}
    (kept : rest.filter (·.isOnline now) = b.online now) (c : Contact) :
    b.Spares now { b with contacts := rest ++ [c] } := by
  have grown : online { b with contacts := rest ++ [c] } now =
      b.online now ++ [c].filter (·.isOnline now) := by
    rw [← kept, online, List.filter_append]
  rw [Spares, grown]
  exact (List.sublist_append_left _ _).sublistForall₂

theorem Spares.exists_spared (spares : b.Spares now b') {c : Contact}
    (member : c ∈ b.online now) : ∃ c' ∈ b'.online now, c.Spared c' := by
  rw [Spares] at spares
  generalize b.online now = before at spares member
  generalize b'.online now = after at spares
  induction spares with
  | nil => cases member
  | cons spared _ ih =>
    rcases List.mem_cons.1 member with rfl | member
    · exact ⟨_, List.mem_cons_self, spared⟩
    · obtain ⟨c', member', spared'⟩ := ih member
      exact ⟨c', List.mem_cons_of_mem _ member', spared'⟩
  | cons_right _ ih =>
    obtain ⟨c', member', spared'⟩ := ih member
    exact ⟨c', List.mem_cons_of_mem _ member', spared'⟩

theorem forall₂_modify {f : Contact → Contact} (spared : ∀ c : Contact, c.Spared (f c))
    (cs : List Contact) (i : Nat) : List.Forall₂ Contact.Spared cs (cs.modify i f) := by
  induction cs generalizing i with
  | nil => rw [List.modify_nil]; exact .nil
  | cons c rest ih =>
    cases i with
    | zero => exact .cons (spared c) (List.forall₂_refl rest)
    | succ i => exact .cons (.refl c) (ih i)

theorem spares_modify {id : Identifier} {f : Contact → Contact}
    (spared : ∀ c : Contact, c.Spared (f c)) : b.Spares now (b.modify id f) := by
  have related := forall₂_modify spared b.contacts (b.contacts.findIdx (·.id = id))
  have online : List.Forall₂ Contact.Spared (b.online now) ((b.modify id f).online now) := by
    refine List.rel_filter (fun c c' spared => ?_) related
    exact iff_of_eq (congrArg (· = true) (spared.isOnline now).symm)
  exact List.sublistForall₂_iff.2 ⟨_, online, .refl _⟩

theorem Sound.online_others (h : b.Sound slots Admits) {bad : Contact} (member : bad ∈ b.contacts)
    (offline : bad.isOnline now = false) :
    (b.others bad.id).filter (·.isOnline now) = b.online now := by
  obtain ⟨c, before, after, -, same, split, rest⟩ :=
    List.exists_of_eraseP (p := fun c => decide (c.id = bad.id)) member (decide_eq_true rfl)
  have here : c = bad := List.inj_on_of_nodup_map h.distinct (split ▸ by simp) member
    (of_decide_eq_true same)
  rw [others, rest, online, split, List.filter_append, List.filter_append, List.filter_cons, here,
    offline, if_neg Bool.false_ne_true]

theorem Sound.spares (h : b.Sound slots Admits) {newcomer : Contact} {outcome : Offer}
    (hearsay : newcomer.lastActive.isSome = false) (offered : b.Offered now newcomer b' outcome) :
    b.Spares now b' := by
  cases offered with
  | heard _ heard =>
    rw [hearsay] at heard
    cases heard
  | told => exact spares_modify (Contact.spared_learn hearsay)
  | free => exact spares_concat rfl newcomer
  | @instead bad _ _ found =>
    have offline : bad.isOnline now = false := by simpa [Contact.isOnline] using List.find?_some found
    exact spares_concat (h.online_others (List.mem_of_find?_eq_some found) offline) newcomer
  | full => exact .refl now b

end Bucket

namespace RoutingTable

variable {t t' : RoutingTable} {localId : Identifier} {slots : Nat} {now : Moment}

/-- Whoever is not bad stays, in the order of its bucket and with all that was observed of it. -/
structure Unharmed (now : Moment) (t t' : RoutingTable) : Prop where
  ordered : ∀ i, (t.bucket i).Spares now (t'.bucket i)
  stays : ∀ c ∈ t.contacts, c.status now ≠ .bad → ∃ c', t'.find? c.id = some c' ∧ c.Spared c'

theorem Sound.spares_offer (h : t.Sound localId slots) {newcomer : Contact} {outcome : Offer}
    (hearsay : newcomer.lastActive.isSome = false)
    (done : t.offer now newcomer = .ok (t', outcome)) (i : Fin 160) :
    (t.bucket i).Spares now (t'.bucket i) := by
  rcases offer_cases done with ⟨-, rfl, -⟩ | ⟨j, b, -, rfl, offered⟩
  · exact .refl now _
  · rw [bucket_setBucket]
    split
    · rename_i here
      exact here ▸ (h.bucket j).spares hearsay offered
    · exact .refl now _

theorem Sound.spares_addHearsay (h : t.Sound localId slots) {ps : List Peer}
    (done : t.addHearsay now ps = .ok t') :
    t'.Sound localId slots ∧ ∀ i, (t.bucket i).Spares now (t'.bucket i) := by
  induction ps generalizing t with
  | nil =>
    cases done
    exact ⟨h, fun _ => .refl now _⟩
  | cons p ps ih =>
    rw [RoutingTable.addHearsay] at done
    split at done
    · rename_i next outcome offered
      obtain ⟨sound, spares⟩ := ih (h.of_offer offered) done
      exact ⟨sound, fun i => (h.spares_offer rfl offered i).trans (spares i)⟩
    · cases done

theorem Sound.unharmed (h : t.Sound localId slots) {ps : List Peer}
    (done : t.addHearsay now ps = .ok t') : Unharmed now t t' := by
  obtain ⟨sound, spares⟩ := h.spares_addHearsay done
  refine ⟨spares, fun c member online => ?_⟩
  obtain ⟨i, inside⟩ := mem_contacts_iff.1 member
  obtain ⟨c', inside', spared⟩ :=
    (spares i).exists_spared (List.mem_filter.2 ⟨inside, Contact.isOnline_iff.2 online⟩)
  exact ⟨c', spared.id ▸ sound.find?_of_mem (List.mem_filter.1 inside').1, spared⟩

/-- Whatever was done with a table before, hearsay harms nobody who is online. Only a table without
slots, where nobody is, has no answer to it. -/
theorem hearsay_harms_nobody_online (localId : Identifier) (slots : Nat) (now : Moment)
    (turns : List Turn) (s : Timed) (reached : Timed.run ⟨fresh localId slots, now⟩ turns = .ok s)
    (ps : List Peer) :
    (1 ≤ slots → ∃ t', s.table.addHearsay s.now ps = .ok t') ∧
      (slots = 0 → s.table.contacts = []) ∧
      ∀ t', s.table.addHearsay s.now ps = .ok t' → Unharmed s.now s.table t' := by
  have sound : s.table.Sound localId slots :=
    Sound.of_run (s := ⟨fresh localId slots, now⟩) sound_fresh reached
  refine ⟨?answered, ?nobody, fun t' => sound.unharmed⟩
  case answered =>
    intro usable
    obtain ⟨t', done, -⟩ := sound.addHearsay usable s.now ps
    exact ⟨t', done⟩
  case nobody =>
    rintro rfl
    refine List.eq_nil_iff_forall_not_mem.2 fun c member => ?_
    obtain ⟨i, inside⟩ := mem_contacts_iff.1 member
    have few := (sound.bucket i).few
    exact absurd (List.length_pos_of_mem inside) (Nat.not_lt.2 few)

/-! Rumours that would lead all calls to a stray address. One contact was heard from, one is known
by hearsay, and one has failed to answer; they share a bucket that has no other slot. -/

namespace Rumours

def studio : Peer := ⟨⟨4⟩, "studio", .v4 0x0a000004 4400⟩

def loft : Peer := ⟨⟨5⟩, "loft", .v4 0x0a000005 4400⟩

def cellar : Peer := ⟨⟨6⟩, "cellar", .v4 0x0a000006 4400⟩

def turns : List Turn :=
  [.offer (.heard 0 cellar), .offer (.heard 0 studio), .offer (.hearsay loft),
    .requestFailed loft.id, .requestFailed cellar.id, .elapse 7, .requestFailed cellar.id]

def stray : SocketAddr := .v4 0x0a000063 9

def rumours : List Peer :=
  [⟨studio.id, "stray", stray⟩, ⟨loft.id, "stray", stray⟩, ⟨⟨7⟩, "stray", stray⟩,
    ⟨⟨7⟩, "attic", stray⟩]

/-- Of the three contacts the bad one has lost its slot, and one has another address. -/
def kept : List Contact :=
  [.heard 0 studio, (Contact.hearsay { loft with address := stray }).fail,
    .hearsay ⟨⟨7⟩, "stray", stray⟩]

theorem rumours_harm_nobody_online :
    ∃ s, Timed.run ⟨fresh ⟨1⟩ 3, 0⟩ turns = .ok s ∧
      ∃ t', s.table.addHearsay s.now rumours = .ok t' ∧ Unharmed s.now s.table t' ∧
        t'.contacts = kept := by
  have start : (fresh ⟨1⟩ 3).Sound ⟨1⟩ 3 := sound_fresh
  obtain ⟨s, reached, -⟩ := Sound.run (s := ⟨fresh ⟨1⟩ 3, 0⟩) start (by decide) turns
  obtain ⟨answered, -, unharmed⟩ := hearsay_harms_nobody_online ⟨1⟩ 3 0 turns s reached rumours
  obtain ⟨t', done⟩ := answered (by decide)
  have contacts : (Timed.run ⟨fresh ⟨1⟩ 3, 0⟩ turns >>= fun s =>
      s.table.addHearsay s.now rumours).toOption.map RoutingTable.contacts = some kept := by
    decide +kernel
  have told : (Except.ok s >>= fun s : Timed => s.table.addHearsay s.now rumours) = .ok t' := done
  rw [reached, told] at contacts
  exact ⟨s, reached, t', done, unharmed t' done, Option.some.inj contacts⟩

end Rumours
end RoutingTable
end LocalSwarm
