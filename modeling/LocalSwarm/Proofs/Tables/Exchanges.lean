import Mathlib.Data.Finset.Option
import LocalSwarm.Proofs.Tables.Effects

/-! Who comes to a table in a turn, and who goes. Nobody goes but in exchange for a newcomer to the
same bucket, and whatever is refused leaves the table as it was. Main statement:
`no_contact_goes_without_exchange`. -/
namespace LocalSwarm.RoutingTable

variable {t t' : RoutingTable} {localId : Identifier} {slots : Nat} {now : Moment}

/-- The identifiers of the contacts in a table. -/
def ids (t : RoutingTable) : Finset Identifier := (t.contacts.map Contact.id).toFinset

theorem Sound.mem_ids_iff (h : t.Sound localId slots) {id : Identifier} :
    id ∈ t.ids ↔ (t.find? id).isSome = true := by
  simp only [ids, List.mem_toFinset, List.mem_map, Option.isSome_iff_exists, h.find?_eq_some_iff]

/-- Of whom a table knows, at most one has come and at most one has gone for it. -/
structure Exchange (s : Timed) (turn : Turn) (s' : Timed) (gained lost : Option Identifier) :
    Prop where
  ids : s'.table.ids = s.table.ids \ lost.toFinset ∪ gained.toFinset
  new : ∀ id ∈ gained, id ∉ s.table.ids ∧ ∃ newcomer ∈ turn.newcomer?, newcomer.id = id
  known : ∀ id ∈ lost, ∃ leaver ∈ s.table.contacts, leaver.id = id ∧ GivesWay s leaver turn
  exchanged : lost.isSome = true → gained.isSome = true

variable {s s' : Timed} {turn : Turn}

/-- A turn that changes no more than what is under identifiers that are known keeps them all. -/
theorem exchange_none (same : s'.table.ids = s.table.ids) : Exchange s turn s' none none where
  ids := by rw [same, Option.toFinset_none, Finset.sdiff_empty, Finset.union_empty]
  new := nofun
  known := nofun
  exchanged := id

theorem isSome_update {look : Identifier → Option Contact} {id : Identifier} {c : Option Contact}
    (same : c.isSome = (look id).isSome) (k : Identifier) :
    (Function.update look id c k).isSome = (look k).isSome := by
  rw [Function.update_apply]
  split
  · rename_i here
    rw [here, same]
  · rfl

theorem Sound.exchange (h : s.table.Sound localId slots) (done : s.turn turn = .ok s') :
    ∃ gained lost, Exchange s turn s' gained lost := by
  have effect := h.effect done
  have sound := h.of_turn done
  have unchanged (same : ∀ id, (s'.table.find? id).isSome = (s.table.find? id).isSome) :
      ∃ gained lost, Exchange s turn s' gained lost := by
    refine ⟨none, none, exchange_none ?_⟩
    ext id
    rw [sound.mem_ids_iff, h.mem_ids_iff, same]
  have comes {newcomer : Contact} (offered : turn.newcomer? = some newcomer)
      (absent : s.table.find? newcomer.id = none) : ∀ id ∈ some newcomer.id,
      id ∉ s.table.ids ∧ ∃ newcomer ∈ turn.newcomer?, newcomer.id = id := by
    rintro id ⟨⟩
    rw [h.mem_ids_iff, absent]
    exact ⟨Bool.false_ne_true, newcomer, offered, rfl⟩
  generalize look : s'.table.find? = after at effect
  cases effect with
  | learns _ found =>
    rw [look] at unchanged
    exact unchanged (isSome_update (by rw [found]; rfl))
  | @enters _ newcomer offered absent =>
    refine ⟨some newcomer.id, none, ?_, comes offered absent, nofun, nofun⟩
    ext id
    simp only [sound.mem_ids_iff, look, Function.update_apply, Option.toFinset_none,
      Option.toFinset_some, Finset.sdiff_empty, Finset.mem_union, Finset.mem_singleton,
      h.mem_ids_iff]
    split <;> simp [*]
  | @exchanges _ newcomer leaver offered absent found gives =>
    have other : leaver.id ≠ newcomer.id := by
      intro same
      rw [same, absent] at found
      cases found
    refine ⟨some newcomer.id, some leaver.id, ?_, comes offered absent, ?_, fun _ => rfl⟩
    · ext id
      simp only [sound.mem_ids_iff, look, Function.update_apply, Option.toFinset_some,
        Finset.mem_union, Finset.mem_sdiff, Finset.mem_singleton, h.mem_ids_iff]
      split
      · simp [*]
      · split <;> simp [*]
    · rintro id ⟨⟩
      exact ⟨leaver, (h.find?_eq_some_iff.1 found).1, rfl, gives⟩
  | refuses => exact unchanged fun id => by rw [look]
  | sees =>
    rw [look] at unchanged
    exact unchanged (isSome_update Option.isSome_map)
  | fails =>
    rw [look] at unchanged
    exact unchanged (isSome_update Option.isSome_map)
  | elapses => exact unchanged fun id => by rw [look]

theorem Exchange.ids_eq {gained lost : Option Identifier} {newcomer : Contact}
    (exchange : Exchange s turn s' gained lost) (offered : turn.newcomer? = some newcomer)
    (present : newcomer.id ∈ s.table.ids) : s'.table.ids = s.table.ids := by
  have noneGained : gained = none := by
    refine Option.eq_none_iff_forall_ne_some.2 fun id some => ?_
    obtain ⟨new, newcomer', offered', same⟩ := exchange.new id some
    cases offered.symm.trans offered'
    exact new (same ▸ present)
  have noneLost : lost = none := by
    rw [← Option.not_isSome_iff_eq_none]
    intro some
    have exchanged := exchange.exchanged some
    rw [noneGained] at exchanged
    cases exchanged
  rw [exchange.ids, noneGained, noneLost, Option.toFinset_none, Finset.sdiff_empty,
    Finset.union_empty]

/-! ### What is refused -/

theorem eq_of_offer_full {newcomer oldest : Contact}
    (done : t.offer now newcomer = .ok (t', .full oldest)) : t' = t := by
  rcases offer_cases done with ⟨-, same, -⟩ | ⟨i, b, -, rfl, offered⟩
  · exact same
  · cases offered
    exact setBucket_bucket i

theorem Sound.eq_of_replace_false (h : t.Sound localId slots) {oldest : Identifier} {newcomer : Contact}
    (refused : (t.replace oldest newcomer).2 = false) : (t.replace oldest newcomer).1 = t := by
  rw [RoutingTable.replace] at refused ⊢
  split
  · rename_i i index
    rw [index] at refused
    have replaced := (t.bucket i).replaced_replace oldest newcomer
    dsimp only at refused ⊢
    rw [refused] at replaced
    generalize ((t.bucket i).replace oldest newcomer).1 = b at replaced ⊢
    cases replaced with
    | full _ full => exact (h.bucket i).others_of_full full ▸ setBucket_bucket i
  · rfl

/-! ### Any turn of any table -/

/-- A table gives away no slot but in exchange, and what it refuses leaves no trace. -/
structure Exchanging (s : Timed) : Prop where
  turns : ∀ turn, ∃ s' gained lost, s.turn turn = .ok s' ∧ Exchange s turn s' gained lost
  full : ∀ newcomer t' oldest, s.table.offer s.now newcomer = .ok (t', .full oldest) → t' = s.table
  refused : ∀ oldest newcomer, (s.table.replace oldest newcomer).2 = false →
    (s.table.replace oldest newcomer).1 = s.table
  present : ∀ oldest newcomer, newcomer.id ∈ s.table.ids →
    (s.table.replace oldest newcomer).1.ids = s.table.ids

theorem Sound.exchanging (h : s.table.Sound localId slots) (usable : 1 ≤ slots) :
    Exchanging s where
  turns turn := by
    obtain ⟨s', done, -⟩ := h.turn usable turn
    obtain ⟨gained, lost, exchange⟩ := h.exchange done
    exact ⟨s', gained, lost, done, exchange⟩
  full _ _ _ := eq_of_offer_full
  refused _ _ := h.eq_of_replace_false
  present oldest newcomer present := by
    have done : s.turn (.replace oldest newcomer) =
        .ok ⟨(s.table.replace oldest newcomer).1, s.now⟩ := rfl
    obtain ⟨gained, lost, exchange⟩ := h.exchange done
    exact exchange.ids_eq rfl present

theorem no_contact_goes_without_exchange (localId : Identifier) (slots : Nat) (usable : 1 ≤ slots)
    (now : Moment) (turns : List Turn) :
    ∃ s, Timed.run ⟨fresh localId slots, now⟩ turns = .ok s ∧ Exchanging s := by
  obtain ⟨s, done, sound⟩ :=
    Sound.run (s := ⟨fresh localId slots, now⟩) sound_fresh usable turns
  exact ⟨s, done, sound.exchanging usable⟩

namespace Contention

theorem slot_is_exchanged :
    1 ≤ 1 ∧ ∃ s, Timed.run ⟨fresh ourselves.id 1, 0⟩ [.offer (.heard 0 first)] = .ok s ∧
      Exchanging s ∧ (s.table.replace ourselves.id (.heard 0 second)).2 = false ∧
      (s.table.replace first.id (.heard 0 second)).1.contacts = [.heard 0 second] := by
  obtain ⟨s, done, exchanging⟩ :=
    no_contact_goes_without_exchange ourselves.id 1 (by decide) 0 [.offer (.heard 0 first)]
  refine ⟨by decide, s, done, exchanging, ?_⟩
  have outcomes : (Timed.run ⟨fresh ourselves.id 1, 0⟩ [.offer (.heard 0 first)]).toOption.map
      (fun s => ((s.table.replace ourselves.id (.heard 0 second)).2,
        (s.table.replace first.id (.heard 0 second)).1.contacts)) =
      some (false, [.heard 0 second]) := by decide +kernel
  rw [done] at outcomes
  exact Prod.mk.inj (Option.some.inj outcomes)

end Contention
end LocalSwarm.RoutingTable
