import LocalSwarm.Proofs.Tables.Hearsay

/-! The status of a contact, told from what has happened to it since it came to the table: when it
was last heard from, and how many requests it has left unanswered since. Main statement:
`status_follows_story`. -/
namespace LocalSwarm

namespace Contact

variable {c : Contact} {now : Moment}

theorem status_eq_bad_iff : c.status now = .bad ↔ failureLimit ≤ c.failures := by
  unfold status
  split
  · rename_i silent
    exact iff_of_true rfl silent
  · rename_i answered
    refine iff_of_false ?_ answered
    split
    · split <;> nofun
    · nofun

theorem status_eq_good_iff : c.status now = .good ↔
    c.failures < failureLimit ∧ ∃ seen, c.lastActive = some seen ∧ now - seen < freshness := by
  unfold status
  split
  · rename_i silent
    exact iff_of_false nofun fun h => absurd silent (Nat.not_le.2 h.1)
  · rename_i answered
    rw [and_iff_right (Nat.not_le.1 answered)]
    split
    · rename_i seen heard
      rw [heard]
      simp
    · rename_i never
      rw [never]
      simp

theorem status_eq_questionable_iff : c.status now = .questionable ↔
    c.failures < failureLimit ∧ ∀ seen, c.lastActive = some seen → freshness ≤ now - seen := by
  have neither : c.status now = .questionable ↔ ¬ c.status now = .bad ∧ ¬ c.status now = .good := by
    cases c.status now <;> decide
  rw [neither, status_eq_bad_iff, status_eq_good_iff, Nat.not_le]
  refine and_congr_right fun answered => ?_
  simp [answered]

end Contact

namespace RoutingTable

/-- A peer was heard itself, or others told of it. -/
inductive Account where
  | heard
  | told
deriving DecidableEq

def Account.contact (now : Moment) (p : Peer) : Account → Contact
  | heard => .heard now p
  | told => .hearsay p

/-- What is done with a table. -/
inductive Deed where
  | offer (account : Account) (peer : Peer)
  | replace (oldest : Identifier) (account : Account) (peer : Peer)
  | markSeen (id : Identifier)
  | requestFailed (id : Identifier)
deriving DecidableEq

namespace Deed

def turn (now : Moment) : Deed → Turn
  | offer account p => .offer (account.contact now p)
  | replace oldest account p => .replace oldest (account.contact now p)
  | markSeen id => .markSeen id
  | requestFailed id => .requestFailed id

/-- Whether a contact is heard from. -/
def hears (id : Identifier) : Deed → Bool
  | offer account p => p.id = id ∧ account = .heard
  | replace _ account p => p.id = id ∧ account = .heard
  | markSeen seen => seen = id
  | requestFailed _ => false

end Deed

/-! ### Stories -/

/-- What was done since a contact came to the table, latest first. -/
abbrev Story := List (Moment × Deed)

namespace Story

variable {id : Identifier} {now : Moment} {deed : Deed}

/-- When the contact was last heard from. -/
def heardAt? (id : Identifier) (story : Story) : Option Moment :=
  (story.find? fun (_, deed) => deed.hears id).map Prod.fst

/-- How many requests the contact has left unanswered since it was last heard from. -/
def unanswered (id : Identifier) (story : Story) : Nat :=
  (story.takeWhile fun (_, deed) => !deed.hears id).countP fun (_, deed) => deed = .requestFailed id

theorem heardAt?_cons (story : Story) : heardAt? id ((now, deed) :: story) =
    if deed.hears id then some now else heardAt? id story := by
  cases heard : deed.hears id <;> simp [heardAt?, heard]

theorem unanswered_cons (story : Story) : unanswered id ((now, deed) :: story) =
    if deed.hears id then 0
    else unanswered id story + if deed = .requestFailed id then 1 else 0 := by
  cases heard : deed.hears id <;> simp [unanswered, heard, List.countP_cons]

end Story

/-! ### What becomes of one contact -/

/-- A deed bears on a contact that is heard from or leaves a request unanswered. -/
def Deed.Concerns (id : Identifier) (deed : Deed) : Prop :=
  deed.hears id = true ∨ deed = .requestFailed id

/-- What a deed makes of the contact under an identifier. -/
inductive Fate (now : Moment) (deed : Deed) (id : Identifier) :
    Option Contact → Option Contact → Prop
  | heard {before : Option Contact} {c : Contact} : deed.hears id = true →
      c.lastActive = some now → c.failures = 0 → Fate now deed id before (some c)
  | failed {c : Contact} : deed = .requestFailed id → Fate now deed id (some c) (some c.fail)
  | entered {c : Contact} : ¬ deed.Concerns id → c.lastActive = none → c.failures = 0 →
      Fate now deed id none (some c)
  | kept {c c' : Contact} : ¬ deed.Concerns id → c.Spared c' → Fate now deed id (some c) (some c')
  | absent {before : Option Contact} : Fate now deed id before none

section Fates

variable {now : Moment} {deed : Deed} {id : Identifier} {newcomer : Contact} {t : RoutingTable}

theorem fate_unchanged (unconcerned : ¬ deed.Concerns id) (c : Option Contact) :
    Fate now deed id c c := by
  cases c with
  | none => exact .absent
  | some c => exact .kept unconcerned (.refl c)

/-- A newcomer has just been heard, or it was only told of and concerns nobody. -/
inductive Brings (now : Moment) (deed : Deed) (newcomer : Contact) : Prop
  | heard : deed.hears newcomer.id = true → newcomer.lastActive = some now →
      newcomer.failures = 0 → (∀ id, id ≠ newcomer.id → ¬ deed.Concerns id) →
      Brings now deed newcomer
  | told : newcomer.lastActive = none → newcomer.failures = 0 → (∀ id, ¬ deed.Concerns id) →
      Brings now deed newcomer

theorem brings_account {account : Account} {p : Peer}
    (hears : ∀ id, deed.hears id = decide (p.id = id ∧ account = .heard))
    (asks : ∀ id, deed ≠ .requestFailed id) : Brings now deed (account.contact now p) := by
  cases account with
  | heard =>
    refine .heard ?_ rfl rfl fun id other => ?_
    · rw [hears]
      exact decide_eq_true ⟨rfl, rfl⟩
    · rintro (heard | failed)
      · rw [hears] at heard
        exact other (of_decide_eq_true heard).1.symm
      · exact asks id failed
  | told =>
    refine .told rfl rfl fun id => ?_
    rintro (heard | failed)
    · rw [hears] at heard
      cases (of_decide_eq_true heard).2
    · exact asks id failed

theorem brings_newcomer (offered : (deed.turn now).newcomer? = some newcomer) :
    Brings now deed newcomer := by
  cases deed with
  | offer account p =>
    cases offered
    exact brings_account (fun _ => rfl) nofun
  | replace oldest account p =>
    cases offered
    exact brings_account (fun _ => rfl) nofun
  | markSeen seen => cases offered
  | requestFailed failed => cases offered

theorem Brings.unconcerned (brings : Brings now deed newcomer) (other : id ≠ newcomer.id) :
    ¬ deed.Concerns id := by
  cases brings with
  | heard _ _ _ others => exact others id other
  | told _ _ nobody => exact nobody id

theorem Brings.learned (brings : Brings now deed newcomer) (known : Contact) :
    Fate now deed newcomer.id (some known) (some (known.learn newcomer)) := by
  cases brings with
  | heard hears talked =>
    exact .heard hears (by simp [Contact.learn, talked]) (by simp [Contact.learn, talked])
  | told silent _ nobody =>
    exact .kept (nobody _) (Contact.spared_learn (by rw [silent]; rfl) known)

theorem Brings.entered (brings : Brings now deed newcomer) :
    Fate now deed newcomer.id none (some newcomer) := by
  cases brings with
  | heard hears talked answered => exact .heard hears talked answered
  | told silent answered nobody => exact .entered (nobody _) silent answered

theorem concerned_of_markSeen {seen : Identifier} (concerned : (Deed.markSeen seen).Concerns id) :
    id = seen := by
  rcases concerned with heard | failed
  · exact (of_decide_eq_true heard).symm
  · cases failed

theorem concerned_of_requestFailed {failed : Identifier}
    (concerned : (Deed.requestFailed failed).Concerns id) : id = failed := by
  rcases concerned with heard | same
  · cases heard
  · cases same
    rfl

theorem fate_update {look : Identifier → Option Contact} {key : Identifier} {c : Option Contact}
    (here : Fate now deed key (look key) c) (others : ∀ id, id ≠ key → ¬ deed.Concerns id)
    (id : Identifier) : Fate now deed id (look id) (Function.update look key c id) := by
  rw [Function.update_apply]
  split
  · rename_i same
    exact same ▸ here
  · rename_i other
    exact fate_unchanged (others id other) (look id)

theorem Effect.fate {look : Identifier → Option Contact}
    (effect : Effect ⟨t, now⟩ (deed.turn now) look) (id : Identifier) :
    Fate now deed id (t.find? id) (look id) := by
  generalize same : deed.turn now = turn at effect
  cases effect with
  | @learns _ newcomer known offered found =>
    have brings := brings_newcomer (same ▸ offered)
    exact fate_update (found ▸ brings.learned known) (fun _ => brings.unconcerned) id
  | @enters _ newcomer offered absent =>
    have brings := brings_newcomer (same ▸ offered)
    exact fate_update (absent ▸ brings.entered) (fun _ => brings.unconcerned) id
  | @exchanges _ newcomer leaver offered absent =>
    have brings := brings_newcomer (same ▸ offered)
    rw [Function.update_apply, Function.update_apply]
    split
    · rename_i here
      rw [here, absent]
      exact brings.entered
    · rename_i other
      split
      · exact .absent
      · exact fate_unchanged (brings.unconcerned other) _
  | @refuses _ newcomer offered absent =>
    have brings := brings_newcomer (same ▸ offered)
    by_cases here : id = newcomer.id
    · rw [here, absent]
      exact .absent
    · exact fate_unchanged (brings.unconcerned here) _
  | sees seen =>
    cases deed <;> cases same
    refine fate_update ?_ (fun _ => mt concerned_of_markSeen) id
    cases t.find? seen with
    | none => exact .absent
    | some known => exact .heard (decide_eq_true rfl) rfl rfl
  | fails failed =>
    cases deed <;> cases same
    refine fate_update ?_ (fun _ => mt concerned_of_requestFailed) id
    cases t.find? failed with
    | none => exact .absent
    | some known => exact .failed rfl
  | elapses => cases deed <;> cases same

end Fates

/-! ### Contacts are as their stories tell -/

namespace Story

variable {now : Moment} {deed : Deed} {id : Identifier} {story : Story}

/-- A contact is as its story tells, and who is not in the table has none. -/
def Tells (id : Identifier) (story : Story) : Option Contact → Prop
  | some c => c.lastActive = story.heardAt? id ∧ c.failures = story.unanswered id
  | none => story = []

theorem heardAt?_of_unconcerned (unconcerned : ¬ deed.Concerns id) :
    heardAt? id ((now, deed) :: story) = story.heardAt? id := by
  rw [heardAt?_cons, if_neg fun heard => unconcerned (.inl heard)]

theorem unanswered_of_unconcerned (unconcerned : ¬ deed.Concerns id) :
    unanswered id ((now, deed) :: story) = story.unanswered id := by
  rw [unanswered_cons, if_neg fun heard => unconcerned (.inl heard),
    if_neg fun failed => unconcerned (.inr failed), Nat.add_zero]

theorem tells_heard {c : Contact} (hears : deed.hears id = true) (seen : c.lastActive = some now)
    (answered : c.failures = 0) : Tells id ((now, deed) :: story) (some c) := by
  refine ⟨?_, ?_⟩
  · rw [heardAt?_cons, if_pos hears, seen]
  · rw [unanswered_cons, if_pos hears, answered]

theorem Tells.failed {c : Contact} (tells : story.Tells id (some c)) :
    Tells id ((now, .requestFailed id) :: story) (some c.fail) := by
  obtain ⟨seen, failures⟩ := tells
  refine ⟨?_, ?_⟩
  · rw [heardAt?_cons, if_neg nofun]
    exact seen
  · rw [unanswered_cons, if_neg nofun, if_pos rfl, ← failures]
    rfl

theorem Tells.kept {c c' : Contact} (tells : story.Tells id (some c))
    (unconcerned : ¬ deed.Concerns id) (spared : c.Spared c') :
    Tells id ((now, deed) :: story) (some c') := by
  obtain ⟨seen, failures⟩ := tells
  refine ⟨?_, ?_⟩
  · rw [heardAt?_of_unconcerned unconcerned, ← seen, spared.lastActive]
  · rw [unanswered_of_unconcerned unconcerned, ← failures, spared.failures]

theorem tells_entered {c : Contact} (unconcerned : ¬ deed.Concerns id)
    (silent : c.lastActive = none) (answered : c.failures = 0) :
    Tells id [(now, deed)] (some c) := by
  refine ⟨?_, ?_⟩
  · rw [heardAt?_of_unconcerned unconcerned, silent]
    rfl
  · rw [unanswered_of_unconcerned unconcerned, answered]
    rfl

theorem Tells.fate {before after : Option Contact} (tells : story.Tells id before)
    (fate : Fate now deed id before after) :
    Tells id (if after.isSome then (now, deed) :: story else []) after := by
  cases fate with
  | heard hears seen answered => exact tells_heard hears seen answered
  | failed same =>
    subst same
    exact tells.failed
  | entered unconcerned silent answered =>
    obtain rfl : story = [] := tells
    exact tells_entered unconcerned silent answered
  | kept unconcerned spared => exact tells.kept unconcerned spared
  | absent => rfl

end Story

/-! ### Tables with the stories of their contacts -/

/-- A table together with the stories of the contacts in it. -/
structure Recorded where
  table : RoutingTable
  story : Identifier → Story

namespace Recorded

variable {r r' : Recorded} {localId : Identifier} {slots : Nat}

/-- Every story goes on with what is done, and that of a contact ends when it leaves. -/
def act (r : Recorded) (now : Moment) (deed : Deed) : Except Fault Recorded := do
  let s ← Timed.turn ⟨r.table, now⟩ (deed.turn now)
  return ⟨s.table, fun id =>
    if (s.table.find? id).isSome then (now, deed) :: r.story id else []⟩

def run (r : Recorded) : List (Moment × Deed) → Except Fault Recorded
  | [] => .ok r
  | (now, deed) :: deeds => do
    let r ← r.act now deed
    r.run deeds

/-- A table without contacts, and so without stories. -/
def start (localId : Identifier) (slots : Nat) : Recorded := ⟨fresh localId slots, fun _ => []⟩

structure Faithful (localId : Identifier) (slots : Nat) (r : Recorded) : Prop where
  sound : r.table.Sound localId slots
  tells : ∀ id, (r.story id).Tells id (r.table.find? id)

theorem faithful_start : (start localId slots).Faithful localId slots := by
  refine ⟨sound_fresh, fun id => ?_⟩
  rw [start, find?_fresh]
  rfl

namespace Faithful

theorem act (h : r.Faithful localId slots) {now : Moment} {deed : Deed}
    (done : r.act now deed = .ok r') : r'.Faithful localId slots := by
  rw [Recorded.act] at done
  cases turned : Timed.turn ⟨r.table, now⟩ (deed.turn now) with
  | error fault =>
    rw [turned] at done
    cases done
  | ok s =>
    rw [turned] at done
    cases done
    have sound : (Timed.mk r.table now).table.Sound localId slots := h.sound
    exact ⟨sound.of_turn turned, fun id => (h.tells id).fate ((sound.effect turned).fate id)⟩

theorem run (h : r.Faithful localId slots) {deeds : List (Moment × Deed)}
    (done : r.run deeds = .ok r') : r'.Faithful localId slots := by
  induction deeds generalizing r with
  | nil =>
    cases done
    exact h
  | cons deed deeds ih =>
    rw [Recorded.run] at done
    cases acted : r.act deed.1 deed.2 with
    | error fault =>
      rw [acted] at done
      cases done
    | ok next =>
      rw [acted] at done
      exact ih (h.act acted) done

theorem exists_run (h : r.Faithful localId slots) (usable : 1 ≤ slots)
    (deeds : List (Moment × Deed)) : ∃ r', r.run deeds = .ok r' := by
  induction deeds generalizing r with
  | nil => exact ⟨r, rfl⟩
  | cons deed deeds ih =>
    have sound : (Timed.mk r.table deed.1).table.Sound localId slots := h.sound
    obtain ⟨s, turned, -⟩ := sound.turn usable (deed.2.turn deed.1)
    have acted : r.act deed.1 deed.2 = .ok ⟨s.table, fun id =>
        if (s.table.find? id).isSome then deed :: r.story id else []⟩ := by
      rw [Recorded.act, turned]
      rfl
    obtain ⟨r', rest⟩ := ih (h.act acted)
    exact ⟨r', by rw [Recorded.run, acted]; exact rest⟩

end Faithful
end Recorded

/-! ### The status of a contact -/

/-- After two requests without an answer a contact is bad; before that it is good for fifteen
minutes after it was last heard from, and else questionable. -/
structure Befits (story : Story) (id : Identifier) (now : Moment) (status : Status) : Prop where
  bad : status = .bad ↔ 2 ≤ story.unanswered id
  good : status = .good ↔ story.unanswered id < 2 ∧
    ∃ seen, story.heardAt? id = some seen ∧ now - seen < Span.ofMinutes 15
  questionable : status = .questionable ↔ story.unanswered id < 2 ∧
    ∀ seen, story.heardAt? id = some seen → Span.ofMinutes 15 ≤ now - seen

theorem Story.Tells.befits {id : Identifier} {story : Story} {c : Contact}
    (tells : story.Tells id (some c)) (now : Moment) : Befits story id now (c.status now) := by
  obtain ⟨seen, failures⟩ := tells
  refine ⟨?_, ?_, ?_⟩
  · rw [Contact.status_eq_bad_iff, failures]
    rfl
  · rw [Contact.status_eq_good_iff, failures, seen]
    rfl
  · rw [Contact.status_eq_questionable_iff, failures, seen]
    rfl

/-- Whatever was done with a table, and whenever, the status of each of its contacts is the one that
befits its story. -/
theorem status_follows_story (localId : Identifier) (slots : Nat)
    (deeds : List (Moment × Deed)) (now : Moment) :
    (1 ≤ slots → ∃ r, (Recorded.start localId slots).run deeds = .ok r) ∧
      ∀ r, (Recorded.start localId slots).run deeds = .ok r → ∀ c ∈ r.table.contacts,
        Befits (r.story c.id) c.id now (c.status now) := by
  refine ⟨fun usable => Recorded.faithful_start.exists_run usable deeds, ?_⟩
  intro r done c member
  have faithful : r.Faithful localId slots := Recorded.faithful_start.run done
  have tells := faithful.tells c.id
  rw [faithful.sound.find?_eq_some_iff.2 ⟨member, rfl⟩] at tells
  exact tells.befits now

namespace Contention

/-- The first peer fails, loses its slot to the second one, and gets it back when that has failed as
well. -/
def deeds : List (Moment × Deed) :=
  [(0, .offer .heard first), (1, .requestFailed first.id), (2, .requestFailed first.id),
    (3, .offer .told second), (4, .requestFailed second.id), (5, .requestFailed second.id),
    (6, .offer .told first), (7, .requestFailed first.id), (8, .markSeen first.id),
    (9, .requestFailed first.id)]

def stay : Story :=
  [(9, .requestFailed first.id), (8, .markSeen first.id), (7, .requestFailed first.id),
    (6, .offer .told first)]

theorem returned_contact_is_good :
    ∃ r, (Recorded.start ourselves.id 1).run deeds = .ok r ∧ r.story first.id = stay ∧
      ∃ c ∈ r.table.contacts, c.id = first.id ∧ Befits stay c.id 10 (c.status 10) ∧
        c.status 10 = .good := by
  obtain ⟨done, follows⟩ := status_follows_story ourselves.id 1 deeds 10
  obtain ⟨r, done⟩ := done (by decide)
  have outcome : ((Recorded.start ourselves.id 1).run deeds).toOption.map
      (fun r => (r.table.contacts, r.story first.id)) = some ([⟨first, some 8, 1⟩], stay) := by
    decide +kernel
  rw [done] at outcome
  obtain ⟨contacts, story⟩ := Prod.mk.inj (Option.some.inj outcome)
  have member : Contact.mk first (some 8) 1 ∈ r.table.contacts := by
    rw [contacts]
    exact List.mem_singleton_self _
  have befits := follows r done _ member
  rw [Contact.id, story] at befits
  exact ⟨r, done, story, _, member, rfl, befits,
    befits.good.2 ⟨by decide, 8, by decide, by decide⟩⟩

end Contention
end RoutingTable
end LocalSwarm
