import LocalSwarm.Proofs.Tables.Exchanges
import LocalSwarm.Proofs.Tables.Hearsay

/-! Challenges that are out while others work on the table. What comes of a challenge depends on how
it is answered and on who is in the table by then, and not on what was heard from the challenged
contact meanwhile. Main statement: `challenges_decide`; that a contact may be heard from in time and
lose its slot all the same is `heard_contact_may_give_way`. -/
namespace LocalSwarm.RoutingTable

variable {t t' : RoutingTable} {localId : Identifier} {slots : Nat} {now : Moment}

/-! ### Replacing a contact by one that is not in the table -/

theorem Sound.ids_eq (h : t.Sound localId slots) (h' : t'.Sound localId slots)
    (same : ∀ id, (t'.find? id).isSome = (t.find? id).isSome) : t'.ids = t.ids := by
  ext id
  rw [h'.mem_ids_iff, h.mem_ids_iff, same]

theorem Sound.ids_markSeen (h : t.Sound localId slots) (now : Moment) (id : Identifier) :
    (t.markSeen now id).ids = t.ids := by
  refine h.ids_eq (h.markSeen now id) fun id' => ?_
  rw [h.find?_markSeen]
  exact isSome_update Option.isSome_map id'

/-- A newcomer takes the slot of a contact of its bucket. It gets none only if that one is gone. -/
theorem Sound.replace_absent (h : t.Sound localId slots) {i : Fin 160} {oldest : Identifier}
    {newcomer : Contact} (index : t.index? newcomer.id = some i) (near : t.index? oldest = some i)
    (absent : t.find? newcomer.id = none) :
    (t.replace oldest newcomer).1.find? = Function.update (Function.update t.find? oldest none)
        newcomer.id (some newcomer) ∨
      t.find? oldest = none ∧ (t.replace oldest newcomer).1 = t := by
  have sound := h.bucket i
  have replaced := (t.bucket i).replaced_replace oldest newcomer
  rw [find?_of_index index] at absent
  rw [RoutingTable.replace, index]
  dsimp only
  generalize ((t.bucket i).replace oldest newcomer).1 = b at replaced ⊢
  generalize ((t.bucket i).replace oldest newcomer).2 = done at replaced
  cases replaced with
  | told found => cases found.symm.trans absent
  | instead unknown => exact .inl (find?_setBucket_exchange near index (sound.find?_put unknown oldest))
  | full _ full =>
    have same := sound.others_of_full full
    rw [same]
    refine .inr ⟨?_, setBucket_bucket i⟩
    rw [find?_of_index near]
    by_contra found
    obtain ⟨known, found⟩ := Option.ne_none_iff_exists'.1 found
    -- Had it been there, it would have left a slot.
    have fewer := Bucket.length_others (Bucket.mem_of_find? found)
    rw [Bucket.id_of_find? found, same] at fewer
    omega

theorem Sound.gone_of_replace_absent (h : t.Sound localId slots) {i : Fin 160}
    {oldest : Identifier} {newcomer : Contact} (index : t.index? newcomer.id = some i)
    (near : t.index? oldest = some i) (absent : t.find? newcomer.id = none) :
    t.ids \ (t.replace oldest newcomer).1.ids = t.ids ∩ {oldest} := by
  ext id
  rw [Finset.mem_sdiff, Finset.mem_inter, Finset.mem_singleton]
  refine and_congr_right fun member => ?_
  rw [h.mem_ids_iff] at member
  rw [(h.replace oldest newcomer).mem_ids_iff]
  rcases h.replace_absent index near absent with changed | ⟨gone, same⟩
  · have other : id ≠ newcomer.id := by
      rintro rfl
      rw [absent] at member
      cases member
    rw [changed, Function.update_of_ne other, Function.update_apply]
    split
    · rename_i here
      exact iff_of_true Bool.false_ne_true here
    · rename_i elsewhere
      exact iff_of_false (fun goes => goes member) elsewhere
  · rw [same]
    refine iff_of_false (fun goes => goes member) ?_
    rintro rfl
    rw [gone] at member
    cases member

end RoutingTable

/-! ### What a challenge decides -/

deriving instance DecidableEq for Challenge

namespace Challenge

variable {localId : Identifier} {slots : Nat} {s : RoutingTable.Timed} {c : Challenge}

/-- The table after a challenge was answered. -/
def outcome (c : Challenge) (s : RoutingTable.Timed) (answer : Answer) : RoutingTable :=
  c.settle s.table s.now (c.isMet answer)

/-- Who goes when a challenge is answered: nobody if it is met or if the newcomer is in the table
already, and else the challenged contact, should it still be there. -/
structure Decides (c : Challenge) (s : RoutingTable.Timed) (answer : Answer) : Prop where
  met : c.isMet answer = true → (c.outcome s answer).ids = s.table.ids
  known : c.newcomer.id ∈ s.table.ids → (c.outcome s answer).ids = s.table.ids
  unmet : c.isMet answer = false → c.newcomer.id ∉ s.table.ids →
    s.table.ids \ (c.outcome s answer).ids = s.table.ids ∩ {c.oldest.id}

/-- Both belong into one bucket of whoever has the identifier. -/
def Local (localId : Identifier) (c : Challenge) : Prop :=
  ∃ i : Fin 160, localId.Shares c.newcomer.id i ∧ localId.Shares c.oldest.id i

theorem decides (sound : s.table.Sound localId slots) (near : c.Local localId) (answer : Answer) :
    c.Decides s answer where
  met met := by
    rw [outcome, settle, if_pos met]
    exact sound.ids_markSeen s.now c.oldest.id
  known known := by
    rw [outcome, settle]
    split
    · exact sound.ids_markSeen s.now c.oldest.id
    · have done : s.turn (.replace c.oldest.id (.heard s.now c.newcomer)) =
          .ok ⟨(s.table.replace c.oldest.id (.heard s.now c.newcomer)).1, s.now⟩ := rfl
      obtain ⟨gained, lost, exchange⟩ := sound.exchange done
      exact exchange.ids_eq rfl known
  unmet unmet absent := by
    obtain ⟨i, shares, shares'⟩ := near
    have index : s.table.index? c.newcomer.id = some i :=
      RoutingTable.index?_eq_some_iff.2 (sound.ours.symm ▸ shares)
    have index' : s.table.index? c.oldest.id = some i :=
      RoutingTable.index?_eq_some_iff.2 (sound.ours.symm ▸ shares')
    rw [sound.mem_ids_iff, Option.not_isSome_iff_eq_none] at absent
    rw [outcome, settle, unmet, if_neg Bool.false_ne_true]
    exact sound.gone_of_replace_absent index index' absent

end Challenge

/-! ### Many observers at a time -/

namespace RoutingTable

variable {t t' : RoutingTable} {localId : Identifier} {slots : Nat} {now : Moment}

/-- A table, and the challenges that are out. -/
structure Contested extends Timed where
  challenges : List Challenge

/-- What happens to a table on which many observe peers. -/
inductive Act where
  /-- A peer has just talked to us. -/
  | observe (peer : Peer)
  /-- A challenge is answered, or fails. -/
  | answer (slot : Nat) (answer : Answer)
  /-- Anything else that is done with the table, or time passes. -/
  | turn (turn : Turn)

namespace Contested

variable {s s' : Contested}

def act (s : Contested) : Act → Except Fault Contested
  | .observe p => do
    let (table, challenge) ← s.table.observe s.now p
    return { s with table, challenges := s.challenges ++ challenge.toList }
  | .answer slot answer =>
    match s.challenges[slot]? with
    | some c => .ok { s with
        table := c.outcome s.toTimed answer
        challenges := s.challenges.eraseIdx slot }
    | none => .ok s
  | .turn turn => do
    let timed ← s.toTimed.turn turn
    return { s with toTimed := timed }

def run (s : Contested) : List Act → Except Fault Contested
  | [] => .ok s
  | act :: acts => do
    let s ← s.act act
    s.run acts

/-- A table without contacts, and without challenges. -/
def start (localId : Identifier) (slots : Nat) (now : Moment) : Contested :=
  ⟨⟨fresh localId slots, now⟩, []⟩

structure Sound (localId : Identifier) (slots : Nat) (s : Contested) : Prop where
  table : s.table.Sound localId slots
  challenges : ∀ c ∈ s.challenges, c.Local localId

theorem sound_start : (start localId slots now).Sound localId slots := ⟨sound_fresh, nofun⟩

end Contested

/-- A contact is challenged for a newcomer to its own bucket. -/
theorem Sound.local_of_observe (h : t.Sound localId slots) {p : Peer} {c : Challenge}
    (done : t.observe now p = .ok (t', some c)) : c.Local localId := by
  rw [RoutingTable.observe] at done
  cases offered : t.offer now (.heard now p) with
  | error fault =>
    rw [offered] at done
    cases done
  | ok result =>
    obtain ⟨t'', outcome⟩ := result
    rw [offered] at done
    cases outcome with
    | full oldest =>
      cases done
      rcases offer_cases offered with ⟨-, -, ourselves⟩ | ⟨i, b, index, -, offered⟩
      · cases ourselves
      · cases offered with
        | full _ _ _ first =>
          exact ⟨i, h.admitted index,
            (h.bucket i).admitted oldest (first ▸ List.mem_cons_self)⟩
    | ourselves | inserted | updated => cases done

namespace Contested

variable {s s' : Contested}

theorem Sound.act (h : s.Sound localId slots) (usable : 1 ≤ slots) (act : Act) :
    ∃ s', s.act act = .ok s' ∧ s'.Sound localId slots := by
  cases act with
  | observe p =>
    obtain ⟨t', challenge, done, -, sound⟩ := h.table.observe usable s.now p
    refine ⟨{ s with table := t', challenges := s.challenges ++ challenge.toList }, ?_, sound, ?_⟩
    · rw [Contested.act, done]
      rfl
    · intro c member
      rcases List.mem_append.1 member with old | new
      · exact h.challenges c old
      · rw [Option.mem_toList] at new
        exact h.table.local_of_observe (new ▸ done)
  | answer slot answer =>
    rw [Contested.act]
    split
    · rename_i c _
      refine ⟨_, rfl, ?_, fun c member => h.challenges c (List.mem_of_mem_eraseIdx member)⟩
      exact h.table.reached usable (reaches_settle c s.table s.now (c.isMet answer))
    · exact ⟨s, rfl, h⟩
  | turn turn =>
    obtain ⟨timed, done, sound⟩ := h.table.turn usable turn
    exact ⟨{ s with toTimed := timed }, by rw [Contested.act, done]; rfl, sound, h.challenges⟩

theorem Sound.run (h : s.Sound localId slots) (usable : 1 ≤ slots) (acts : List Act) :
    ∃ s', s.run acts = .ok s' ∧ s'.Sound localId slots := by
  induction acts generalizing s with
  | nil => exact ⟨s, rfl, h⟩
  | cons act acts ih =>
    obtain ⟨next, done, sound⟩ := h.act usable act
    obtain ⟨last, rest, sound⟩ := ih sound
    exact ⟨last, by rw [Contested.run, done]; exact rest, sound⟩

end Contested

/-- Whatever happens while a challenge is out, nobody but the challenged contact goes when it is
answered, and that one only if the answer does not meet the challenge and the newcomer is not in the
table yet. -/
theorem challenges_decide (localId : Identifier) (slots : Nat) (usable : 1 ≤ slots) (now : Moment)
    (acts : List Act) :
    ∃ s, (Contested.start localId slots now).run acts = .ok s ∧
      ∀ c ∈ s.challenges, ∀ answer, c.Decides s.toTimed answer := by
  obtain ⟨s, done, sound⟩ := Contested.sound_start.run usable acts
  exact ⟨s, done, fun c member => Challenge.decides sound.table (sound.challenges c member)⟩

/-! Three peers observed within a bucket of one slot. -/

namespace Rumours

/-- Two peers wait for the slot of a third one. The first challenge times out. -/
def rivals : List Act :=
  [.observe studio, .observe loft, .observe cellar, .turn (.elapse 1), .answer 0 (.error .timeout)]

/-- That the contact of the second challenge has gone meanwhile harms nobody else. -/
theorem second_challenge_harms_nobody :
    1 ≤ 1 ∧ ∃ s, (Contested.start ⟨1⟩ 1 0).run rivals = .ok s ∧
      s.challenges = [⟨.heard 0 studio, cellar⟩] ∧ s.table.contacts = [.heard 1 loft] ∧
      ∀ c ∈ s.challenges, c.Decides s.toTimed (.error .timeout) ∧
        (c.outcome s.toTimed (.error .timeout)).contacts = [.heard 1 loft] := by
  obtain ⟨s, done, decides⟩ := challenges_decide ⟨1⟩ 1 (by decide) 0 rivals
  have outcome : ((Contested.start ⟨1⟩ 1 0).run rivals).toOption.map (fun s => (s.challenges,
      s.table.contacts, s.challenges.map fun c =>
        (c.outcome s.toTimed (.error .timeout)).contacts)) =
      some ([⟨.heard 0 studio, cellar⟩], [.heard 1 loft], [[.heard 1 loft]]) := by
    decide +kernel
  rw [done] at outcome
  simp only [Except.toOption, Option.map_some, Option.some.injEq, Prod.mk.injEq] at outcome
  obtain ⟨challenges, contacts, outcomes⟩ := outcome
  refine ⟨by decide, s, done, challenges, contacts, fun c member => ⟨decides c member _, ?_⟩⟩
  have kept := List.mem_map_of_mem (f := fun c : Challenge =>
    (c.outcome s.toTimed (.error .timeout)).contacts) member
  rw [outcomes] at kept
  exact List.mem_singleton.1 kept

/-- The first peer, which has moved to another address. -/
def moved : Peer := { studio with address := .v4 0x0a000009 4400 }

/-- The first peer is heard from at its new address while the ping to its old one is out. -/
def move : List Act :=
  [.observe studio, .observe loft, .turn (.elapse 1), .observe moved]

/-- Nothing was heard later than from this contact, which loses its slot to the challenge. -/
theorem heard_contact_may_give_way :
    ∃ s, (Contested.start ⟨1⟩ 1 0).run move = .ok s ∧
      s.challenges = [⟨.heard 0 studio, loft⟩] ∧ s.table.find? studio.id = some (.heard 1 moved) ∧
      ∃ s', s.run [.turn (.elapse 1), .answer 0 (.error .timeout)] = .ok s' ∧
        s'.table.find? studio.id = none ∧ s'.table.contacts = [.heard 2 loft] := by
  have sound : (Contested.start ⟨1⟩ 1 0).Sound ⟨1⟩ 1 := Contested.sound_start
  obtain ⟨s, done, sound⟩ := sound.run (by decide) move
  obtain ⟨s', done', -⟩ := sound.run (by decide) [.turn (.elapse 1), .answer 0 (.error .timeout)]
  have before : ((Contested.start ⟨1⟩ 1 0).run move).toOption.map (fun s => (s.challenges,
      s.table.find? studio.id)) =
      some ([⟨.heard 0 studio, loft⟩], some (.heard 1 moved)) := by
    decide +kernel
  have after : (((Contested.start ⟨1⟩ 1 0).run move).bind fun s =>
      s.run [.turn (.elapse 1), .answer 0 (.error .timeout)]).toOption.map
        (fun s => (s.table.find? studio.id, s.table.contacts)) =
      some (none, [.heard 2 loft]) := by
    decide +kernel
  rw [done] at before after
  have told : (Except.ok s : Except Fault Contested).bind (fun s =>
      s.run [.turn (.elapse 1), .answer 0 (.error .timeout)]) = .ok s' := done'
  rw [told] at after
  obtain ⟨challenges, heard⟩ := Prod.mk.inj (Option.some.inj before)
  obtain ⟨gone, contacts⟩ := Prod.mk.inj (Option.some.inj after)
  exact ⟨s, done, challenges, heard, s', done', gone, contacts⟩

end Rumours
end RoutingTable
end LocalSwarm
