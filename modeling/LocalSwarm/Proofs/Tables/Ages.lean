import LocalSwarm.Proofs.Tables.Hearsay

/-! In which order the contacts of a bucket were last heard from. They stand in it as long as no
replacement finds a newcomer that was just heard in the table already: that one learns where it
stands. Main statement: `buckets_stay_chronological`; without the condition it is refuted by
`refreshed_newcomer_stays_in_front`. -/
namespace LocalSwarm

/-- A contact was heard from just now, if ever. -/
def Contact.Timely (now : Moment) (c : Contact) : Prop :=
  c.lastActive = none ∨ c.lastActive = some now

instance (now : Moment) (c : Contact) : Decidable (c.Timely now) :=
  inferInstanceAs (Decidable (_ ∨ _))

namespace Bucket

variable {b b' : Bucket} {now : Moment} {newcomer : Contact} {outcome : Offer}

/-- When the contacts of a bucket that were ever heard from were so last, in the order in which they
stand. -/
def hearings (b : Bucket) : List Moment := b.contacts.filterMap Contact.lastActive

structure Chronological (now : Moment) (b : Bucket) : Prop where
  past : ∀ seen ∈ b.hearings, seen ≤ now
  ordered : b.hearings.Pairwise (· ≤ ·)

theorem chronological_empty (slots : Nat) : (empty slots).Chronological now := ⟨nofun, .nil⟩

theorem Chronological.later (h : b.Chronological now) {later : Moment} (le : now ≤ later) :
    b.Chronological later :=
  ⟨fun seen member => Nat.le_trans (h.past seen member) le, h.ordered⟩

theorem Chronological.drop (h : b.Chronological now) {rest : List Contact}
    (sub : rest.Sublist b.contacts) : Chronological now { b with contacts := rest } := by
  have fewer := sub.filterMap Contact.lastActive
  exact ⟨fun seen member => h.past seen (fewer.subset member), h.ordered.sublist fewer⟩

theorem Chronological.put (h : b.Chronological now) {rest : List Contact} {c : Contact}
    (sub : rest.Sublist b.contacts) (timely : c.Timely now) :
    Chronological now { b with contacts := rest ++ [c] } := by
  have kept := h.drop sub
  rcases timely with silent | heard
  · have same : hearings { b with contacts := rest ++ [c] } =
        hearings { b with contacts := rest } := by
      simp [hearings, silent]
    exact ⟨same ▸ kept.past, same ▸ kept.ordered⟩
  · have longer : hearings { b with contacts := rest ++ [c] } =
        hearings { b with contacts := rest } ++ [now] := by
      simp [hearings, heard]
    constructor
    · intro seen member
      rw [longer, List.mem_append, List.mem_singleton] at member
      exact member.elim (kept.past seen) Nat.le_of_eq
    · rw [longer, List.pairwise_append]
      refine ⟨kept.ordered, List.pairwise_singleton _ _, fun seen member last same => ?_⟩
      rw [List.mem_singleton.1 same]
      exact kept.past seen member

theorem hearings_modify {f : Contact → Contact} (keeps : ∀ c, (f c).lastActive = c.lastActive)
    (id : Identifier) : (b.modify id f).hearings = b.hearings := by
  simp only [hearings, modify]
  generalize b.contacts.findIdx (·.id = id) = i
  induction b.contacts generalizing i with
  | nil => rw [List.modify_nil]
  | cons c rest ih =>
    cases i with
    | zero => rw [List.modify_zero_cons, List.filterMap_cons, List.filterMap_cons, keeps]
    | succ i => rw [List.modify_succ_cons, List.filterMap_cons, List.filterMap_cons, ih]

theorem Chronological.modify (h : b.Chronological now) {f : Contact → Contact}
    (keeps : ∀ c, (f c).lastActive = c.lastActive) (id : Identifier) :
    (b.modify id f).Chronological now := by
  have same := hearings_modify (b := b) keeps id
  exact ⟨same ▸ h.past, same ▸ h.ordered⟩

theorem Chronological.offered (h : b.Chronological now)
    (timely : newcomer.Timely now) (offered : b.Offered now newcomer b' outcome) :
    b'.Chronological now := by
  cases offered with
  | @heard known _ talked =>
    refine h.put (others_sublist b known.id) ?_
    rw [Contact.Timely, Contact.learn, if_pos talked]
    exact timely
  | told _ silent => exact h.modify (fun c => (Contact.spared_learn silent c).lastActive) _
  | free => exact h.put (.refl _) timely
  | @instead bad => exact h.put (others_sublist b bad.id) timely
  | full => exact h

theorem Chronological.replaced (h : b.Chronological now) {oldest : Identifier} {done : Bool}
    (timely : newcomer.Timely now)
    (apart : newcomer.lastActive = none ∨ b.find? newcomer.id = none)
    (replaced : b.Replaced oldest newcomer b' done) : b'.Chronological now := by
  cases replaced with
  | told found =>
    have silent : newcomer.lastActive.isSome = false := by
      rcases apart with never | absent
      · rw [never]
        rfl
      · cases found.symm.trans absent
    exact h.modify (fun c => (Contact.spared_learn silent c).lastActive) _
  | instead => exact h.put (others_sublist b oldest) timely
  | full => exact h.drop (others_sublist b oldest)

theorem Chronological.markSeen (h : b.Chronological now) (id : Identifier) :
    (b.markSeen now id).Chronological now := by
  rw [Bucket.markSeen]
  split
  · exact h.put (others_sublist b id) (.inr rfl)
  · exact h

/-- Of the contacts that were heard from nobody was so before the first one. -/
theorem Chronological.first (h : b.Chronological now) {oldest : Contact} {rest : List Contact}
    (first : b.contacts = oldest :: rest) {seen : Moment} (heard : oldest.lastActive = some seen) :
    ∀ c ∈ b.contacts, ∀ last, c.lastActive = some last → seen ≤ last := by
  intro c member last heard'
  have ordered := h.ordered
  rw [hearings, first, List.filterMap_cons_some heard, List.pairwise_cons] at ordered
  rcases List.mem_cons.1 (first ▸ member) with rfl | behind
  · exact Nat.le_of_eq (Option.some.inj (heard.symm.trans heard'))
  · exact ordered.1 last (List.mem_filterMap.2 ⟨c, behind, heard'⟩)

end Bucket

namespace RoutingTable

variable {t t' : RoutingTable} {localId : Identifier} {slots : Nat} {s s' : Timed}

/-- Contacts come to a table as soon as they were heard, if ever, and a replacement does not find
one that was just heard there already. -/
def Turn.InOrder (s : Timed) : Turn → Prop
  | .offer newcomer => newcomer.Timely s.now
  | .replace _ newcomer => newcomer.Timely s.now ∧
      (newcomer.lastActive = none ∨ s.table.find? newcomer.id = none)
  | .markSeen _ => True
  | .requestFailed _ => True
  | .elapse _ => True

instance (s : Timed) (turn : Turn) : Decidable (turn.InOrder s) :=
  match turn with
  | .offer _ => inferInstanceAs (Decidable (Contact.Timely _ _))
  | .replace _ _ => inferInstanceAs (Decidable (_ ∧ (_ ∨ _)))
  | .markSeen _ => .isTrue trivial
  | .requestFailed _ => .isTrue trivial
  | .elapse _ => .isTrue trivial

/-- Whether every turn is in order when it comes. -/
def Timed.InOrder (s : Timed) : List Turn → Prop
  | [] => True
  | turn :: turns => turn.InOrder s ∧
      match s.turn turn with
      | .ok next => next.InOrder turns
      | .error _ => True

instance Timed.decidableInOrder (s : Timed) (turns : List Turn) : Decidable (s.InOrder turns) :=
  match turns with
  | [] => .isTrue trivial
  | turn :: turns =>
    have : Decidable (match s.turn turn with
        | .ok next => next.InOrder turns
        | .error _ => True) :=
      match s.turn turn with
      | .ok next => decidableInOrder next turns
      | .error _ => .isTrue trivial
    inferInstanceAs (Decidable (turn.InOrder s ∧ _))

def Chronological (now : Moment) (t : RoutingTable) : Prop :=
  ∀ i, (t.bucket i).Chronological now

theorem chronological_fresh (now : Moment) : (fresh localId slots).Chronological now := by
  intro i
  rw [bucket, fresh, Fin.getElem_fin, Vector.getElem_replicate]
  exact Bucket.chronological_empty slots

theorem Chronological.setBucket {now : Moment} (h : t.Chronological now) {i : Fin 160} {b : Bucket}
    (chronological : b.Chronological now) : (t.setBucket i b).Chronological now := by
  intro j
  rw [bucket_setBucket]
  split
  · exact chronological
  · exact h j

theorem Chronological.turn (h : s.table.Chronological s.now) {turn : Turn}
    (inOrder : turn.InOrder s) (done : s.turn turn = .ok s') : s'.table.Chronological s'.now := by
  cases turn with
  | offer newcomer =>
    obtain ⟨outcome, offered, now⟩ := Timed.offer_of_turn done
    rw [now]
    rcases offer_cases offered with ⟨-, same, -⟩ | ⟨i, b, -, changed, offered⟩
    · exact same ▸ h
    · exact changed ▸ h.setBucket ((h i).offered inOrder offered)
  | replace oldest newcomer =>
    cases done
    dsimp only
    rw [RoutingTable.replace]
    split
    · rename_i i index
      obtain ⟨timely, apart⟩ := inOrder
      rw [find?_of_index index] at apart
      exact h.setBucket ((h i).replaced timely apart (Bucket.replaced_replace _ oldest newcomer))
    · exact h
  | markSeen id =>
    cases done
    dsimp only
    rw [RoutingTable.markSeen]
    split
    · exact h.setBucket ((h _).markSeen id)
    · exact h
  | requestFailed id =>
    cases done
    dsimp only
    rw [RoutingTable.requestFailed, RoutingTable.modify]
    split
    · exact h.setBucket ((h _).modify (f := Contact.fail) (fun _ => rfl) id)
    · exact h
  | elapse span =>
    cases done
    exact fun i => (h i).later (Nat.le_add_right s.now span)

theorem Chronological.run (h : s.table.Chronological s.now) {turns : List Turn}
    (inOrder : s.InOrder turns) (done : s.run turns = .ok s') :
    s'.table.Chronological s'.now := by
  induction turns generalizing s with
  | nil =>
    cases done
    exact h
  | cons turn turns ih =>
    obtain ⟨next, first, rest⟩ := Timed.run_cons_eq_ok_iff.1 done
    obtain ⟨here, later⟩ := inOrder
    rw [first] at later
    exact ih (h.turn here first) later rest

/-- Nobody in the newcomer's bucket was heard from before the contact that it would have to
challenge, if that was ever heard from itself. -/
def LongestUnheard (t : RoutingTable) (newcomer oldest : Contact) : Prop :=
  ∃ i, t.index? newcomer.id = some i ∧ oldest ∈ (t.bucket i).contacts ∧
    ∀ seen, oldest.lastActive = some seen →
      ∀ c ∈ (t.bucket i).contacts, ∀ last, c.lastActive = some last → seen ≤ last

theorem Chronological.longestUnheard {now : Moment} (h : t.Chronological now)
    {newcomer oldest : Contact} (done : t.offer now newcomer = .ok (t', .full oldest)) :
    t.LongestUnheard newcomer oldest := by
  rcases offer_cases done with ⟨-, -, ourselves⟩ | ⟨i, b, index, -, offered⟩
  · cases ourselves
  · cases offered with
    | full _ _ _ first =>
      exact ⟨i, index, first ▸ List.mem_cons_self, fun _ heard => (h i).first first heard⟩

/-- Contacts that were heard from stand in the order in which they were so last. -/
theorem buckets_stay_chronological (localId : Identifier) (slots : Nat) (now : Moment)
    (turns : List Turn) (inOrder : Timed.InOrder ⟨fresh localId slots, now⟩ turns) (s : Timed)
    (reached : Timed.run ⟨fresh localId slots, now⟩ turns = .ok s) :
    (∀ i, (s.table.bucket i).hearings.Pairwise (· ≤ ·)) ∧
      ∀ newcomer t' oldest, s.table.offer s.now newcomer = .ok (t', .full oldest) →
        s.table.LongestUnheard newcomer oldest := by
  have start : (Timed.mk (fresh localId slots) now).table.Chronological now :=
    chronological_fresh now
  have chronological := start.run inOrder reached
  exact ⟨fun i => (chronological i).ordered, fun _ _ _ => chronological.longestUnheard⟩

/-! Two contacts that a bucket keeps while others come and go, and whom a third one would have to
challenge. Then one of them comes late: a replacement finds it where it was, in front of the other. -/

namespace Rumours

/-- A contact is heard of, and is replaced by one that is heard itself; the first one is seen again. -/
def punctual : List Turn :=
  [.offer (.heard 0 studio), .elapse 1, .offer (.hearsay loft), .replace loft.id (.heard 1 cellar),
    .elapse 1, .markSeen studio.id]

theorem seen_again_is_challenged_last :
    ∃ s, Timed.run ⟨fresh ⟨1⟩ 2, 0⟩ punctual = .ok s ∧
      Timed.InOrder ⟨fresh ⟨1⟩ 2, 0⟩ punctual ∧
      (∀ i, (s.table.bucket i).hearings.Pairwise (· ≤ ·)) ∧
      s.table.contacts = [.heard 1 cellar, .heard 2 studio] := by
  have start : (fresh ⟨1⟩ 2).Sound ⟨1⟩ 2 := sound_fresh
  obtain ⟨s, done, -⟩ := Sound.run (s := ⟨fresh ⟨1⟩ 2, 0⟩) start (by decide) punctual
  have inOrder : Timed.InOrder ⟨fresh ⟨1⟩ 2, 0⟩ punctual := by decide +kernel
  have contacts : (Timed.run ⟨fresh ⟨1⟩ 2, 0⟩ punctual).toOption.map (fun s => s.table.contacts) =
      some [.heard 1 cellar, .heard 2 studio] := by
    decide +kernel
  rw [done] at contacts
  exact ⟨s, done, inOrder, (buckets_stay_chronological ⟨1⟩ 2 0 punctual inOrder s done).1,
    Option.some.inj contacts⟩

/-- All that is done happens at its time, and there is no other newcomer that is known already. -/
def lateArrival : List Turn :=
  [.offer (.heard 0 studio), .elapse 1, .offer (.heard 1 loft), .elapse 1,
    .replace loft.id (.heard 2 studio)]

/-- The contact in front was heard from last, and is challenged in spite of it. -/
theorem refreshed_newcomer_stays_in_front :
    ∃ s, Timed.run ⟨fresh ⟨1⟩ 2, 0⟩ lateArrival = .ok s ∧
      s.table.contacts = [.heard 2 studio, .heard 1 loft] ∧
      (∃ i, (s.table.bucket i).hearings = [2, 1]) ∧
      ∃ t', s.table.offer s.now (.heard s.now cellar) = .ok (t', .full (.heard 2 studio)) ∧
        ¬ s.table.LongestUnheard (.heard s.now cellar) (.heard 2 studio) := by
  have start : (fresh ⟨1⟩ 2).Sound ⟨1⟩ 2 := sound_fresh
  obtain ⟨s, done, -⟩ := Sound.run (s := ⟨fresh ⟨1⟩ 2, 0⟩) start (by decide) lateArrival
  have outcome : (Timed.run ⟨fresh ⟨1⟩ 2, 0⟩ lateArrival).toOption.map (fun s =>
      (s.table.contacts, (s.table.bucket 157).contacts, s.table.index? cellar.id,
        (s.table.offer s.now (.heard s.now cellar)).toOption.map Prod.snd)) =
      some ([.heard 2 studio, .heard 1 loft], [.heard 2 studio, .heard 1 loft], some 157,
        some (.full (.heard 2 studio))) := by
    decide +kernel
  rw [done] at outcome
  simp only [Except.toOption, Option.map_some, Option.some.injEq, Prod.mk.injEq] at outcome
  obtain ⟨contacts, inBucket, index, offered⟩ := outcome
  refine ⟨s, done, contacts, ⟨157, by rw [Bucket.hearings, inBucket]; rfl⟩, ?_⟩
  split at offered
  · rename_i result accepted
    refine ⟨result.1, ?_, ?_⟩
    · rw [accepted, ← Option.some.inj offered]
    · rintro ⟨i, here, -, first⟩
      obtain rfl : (157 : Fin 160) = i := Option.some.inj (index.symm.trans here)
      have late : Contact.heard 1 loft ∈ (s.table.bucket 157).contacts := by
        rw [inBucket]
        exact List.mem_cons_of_mem _ List.mem_cons_self
      exact absurd (first 2 rfl _ late 1 rfl) (by decide)
  · cases offered

end Rumours
end RoutingTable
end LocalSwarm
