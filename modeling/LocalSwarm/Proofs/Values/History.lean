import Mathlib.Data.Finset.Card
import LocalSwarm.Proofs.Records
import LocalSwarm.ValueStore

/-! What a store answers, told from the puts that it has accepted. Expired entries stay in a store
until they are asked for or room is needed, and an overwritten key needs no room; but no answer
depends on which of them are still there. Main statement: `store_refines_history`. -/
namespace LocalSwarm.ValueStore

/-- The puts that were accepted, latest one first: keys, values and when they were stored. -/
abbrev History := List (Identifier × Bytes × Moment)

namespace History

def latest? (h : History) (key : Identifier) : Option (Bytes × Moment) := h.lookup key

/-- Whether the latest put of a key is younger than the expiry. -/
def isLive (h : History) (expiry : Span) (now : Moment) (key : Identifier) : Bool :=
  (h.latest? key).any fun (_, storedAt) => now - storedAt < expiry

/-- The live keys besides one. -/
def others (h : History) (expiry : Span) (now : Moment) (key : Identifier) : Finset Identifier :=
  ((h.map Prod.fst).toFinset.filter fun k => h.isLive expiry now k).erase key

theorem latest?_cons (h : History) (key : Identifier) (value : Bytes) (now : Moment)
    (k : Identifier) :
    latest? ((key, value, now) :: h) k = if k = key then some (value, now) else h.latest? k := by
  by_cases same : k = key
  · rw [if_pos same, same, latest?, List.lookup_cons_self]
  · rw [if_neg same, latest?, List.lookup_cons, beq_eq_false_iff_ne.2 same]
    rfl

theorem isLive_iff {h : History} {expiry : Span} {now : Moment} {key : Identifier} :
    h.isLive expiry now key = true ↔
      ∃ value storedAt, h.latest? key = some (value, storedAt) ∧ now - storedAt < expiry := by
  simp [isLive, Option.any_eq_true]

theorem mem_others {h : History} {expiry : Span} {now : Moment} {key k : Identifier} :
    k ∈ h.others expiry now key ↔ k ≠ key ∧ h.isLive expiry now k = true := by
  rw [others, Finset.mem_erase, Finset.mem_filter, List.mem_toFinset, and_congr_right_iff,
    and_iff_right_iff_imp]
  intro _ live
  obtain ⟨value, storedAt, found, -⟩ := isLive_iff.1 live
  exact List.mem_map_of_mem (f := Prod.fst) (mem_of_lookup_eq_some found)

end History

/-! ### Entries of a store -/

variable {s : ValueStore} {h : History} {now later : Moment} {key k : Identifier}
  {item : Bytes × Moment}

/-- The keys in a store. -/
def keys (s : ValueStore) : List Identifier := s.entries.map Prod.fst

theorem mem_keys_iff : key ∈ s.keys ↔ ∃ item, (key, item) ∈ s.entries := by
  simp [keys]

/-- A put goes ahead at once if its key is there already or a slot is free. -/
theorem hasRoom_iff : ((s.lookup? key).isSome || decide (s.size < s.limit)) = true ↔
    key ∈ s.keys ∨ s.size < s.limit := by
  rw [Bool.or_eq_true, decide_eq_true_eq, lookup?, isSome_lookup_iff, keys]

theorem lookup?_eq_some_iff (distinct : s.keys.Nodup) :
    s.lookup? key = some item ↔ (key, item) ∈ s.entries := lookup_eq_some_iff_mem distinct

theorem keys_erase : (s.erase key).keys = s.keys.erase key := by
  rw [keys, keys, List.erase_eq_eraseP', List.eraseP_map]
  rfl

theorem mem_erase_iff (distinct : s.keys.Nodup) :
    (k, item) ∈ (s.erase key).entries ↔ k ≠ key ∧ (k, item) ∈ s.entries := by
  constructor
  · intro member
    have kept := mem_keys_iff.2 ⟨item, member⟩
    rw [keys_erase, distinct.mem_erase_iff] at kept
    exact ⟨kept.1, List.mem_of_mem_eraseP member⟩
  · rintro ⟨other, member⟩
    exact (List.mem_eraseP_of_neg (by simpa using other)).2 member

theorem keys_withoutExpired_sublist : (s.withoutExpired now).keys.Sublist s.keys :=
  List.filter_sublist.map Prod.fst

theorem mem_withoutExpired_iff :
    (key, item) ∈ (s.withoutExpired now).entries ↔
      (key, item) ∈ s.entries ∧ now - item.2 < s.expiry := by
  simp [withoutExpired, isLive, List.mem_filter]

/-! ### Stores and histories -/

/-- Each entry is the latest put of its key, and of the latest puts only expired ones are gone. -/
structure Agrees (s : ValueStore) (h : History) (now : Moment) : Prop where
  few : s.size ≤ s.limit
  distinct : s.keys.Nodup
  held : ∀ {key item}, (key, item) ∈ s.entries → h.latest? key = some item
  lost : ∀ {key item}, h.latest? key = some item →
    (key, item) ∈ s.entries ∨ s.expiry ≤ now - item.2

namespace Agrees

theorem create (limit : Nat) (expiry : Span) (now : Moment) : (create limit expiry).Agrees [] now where
  few := Nat.zero_le limit
  distinct := List.nodup_nil
  held := fun member => absurd member List.not_mem_nil
  lost := fun found => nomatch found

theorem mono (a : s.Agrees h now) (le : now ≤ later) : s.Agrees h later where
  few := a.few
  distinct := a.distinct
  held := a.held
  lost := fun found => (a.lost found).imp_right fun expired => expired.trans (Nat.sub_le_sub_right le _)

/-- What of a store is live is what of its history is. -/
theorem isLive_iff (a : s.Agrees h now) :
    h.isLive s.expiry now key = true ↔ key ∈ (s.withoutExpired now).keys := by
  rw [History.isLive_iff, mem_keys_iff]
  constructor
  · rintro ⟨value, storedAt, found, young⟩
    refine ⟨(value, storedAt), mem_withoutExpired_iff.2 ⟨?_, young⟩⟩
    exact (a.lost found).resolve_right (Nat.not_le.2 young)
  · rintro ⟨⟨value, storedAt⟩, member⟩
    obtain ⟨inside, young⟩ := mem_withoutExpired_iff.1 member
    exact ⟨value, storedAt, a.held inside, young⟩

theorem others_eq (a : s.Agrees h now) (key : Identifier) :
    h.others s.expiry now key = (s.withoutExpired now).keys.toFinset.erase key := by
  ext k
  rw [History.mem_others, Finset.mem_erase, List.mem_toFinset, a.isLive_iff]

theorem erase (a : s.Agrees h now)
    (expired : ∀ {item}, (key, item) ∈ s.entries → s.expiry ≤ now - item.2) :
    (s.erase key).Agrees h now where
  few := (List.eraseP_sublist.length_le).trans a.few
  distinct := by
    rw [keys_erase]
    exact a.distinct.erase key
  held := fun member => a.held ((mem_erase_iff a.distinct).1 member).2
  lost := by
    intro k item found
    rcases a.lost found with inside | gone
    · by_cases same : k = key
      · subst same
        exact .inr (expired inside)
      · exact .inl ((mem_erase_iff a.distinct).2 ⟨same, inside⟩)
    · exact .inr gone

theorem withoutExpired (a : s.Agrees h now) : (s.withoutExpired now).Agrees h now where
  few := List.filter_sublist.length_le.trans a.few
  distinct := keys_withoutExpired_sublist.nodup a.distinct
  held := fun member => a.held (mem_withoutExpired_iff.1 member).1
  lost := by
    intro key item found
    rcases a.lost found with inside | gone
    · rcases Nat.lt_or_ge (now - item.2) s.expiry with young | old
      · exact .inl (mem_withoutExpired_iff.2 ⟨inside, young⟩)
      · exact .inr old
    · exact .inr gone

/-- A put for which there is room. -/
theorem insert (a : s.Agrees h now) (value : Bytes) (room : key ∈ s.keys ∨ s.size < s.limit) :
    Agrees { s with entries := (key, value, now) :: (s.erase key).entries }
      ((key, value, now) :: h) now where
  few := by
    change (s.erase key).entries.length + 1 ≤ s.limit
    have few := a.few
    have size : (s.erase key).entries.length = (s.keys.erase key).length := by
      rw [← keys_erase, keys, List.length_map]
    have total : s.keys.length = s.size := List.length_map _
    rcases room with inside | room
    · have := List.length_pos_of_mem inside
      rw [size, List.length_erase_of_mem inside]
      omega
    · have := (List.erase_sublist (a := key) (l := s.keys)).length_le
      omega
  distinct := by
    change (key :: (s.erase key).keys).Nodup
    rw [keys_erase]
    exact List.nodup_cons.2 ⟨a.distinct.not_mem_erase, a.distinct.erase key⟩
  held := by
    intro k item member
    rw [History.latest?_cons]
    rcases List.mem_cons.1 member with same | old
    · cases same
      exact if_pos rfl
    · obtain ⟨other, inside⟩ := (mem_erase_iff a.distinct).1 old
      rw [if_neg other]
      exact a.held inside
  lost := by
    intro k item found
    rw [History.latest?_cons] at found
    split at found
    · next same =>
      cases found
      exact .inl (same ▸ List.mem_cons_self)
    · next other =>
      refine (a.lost found).imp_left fun inside => List.mem_cons_of_mem _ ?_
      exact (mem_erase_iff a.distinct).2 ⟨other, inside⟩

/-! ### The operations -/

theorem get_eq_some_iff (a : s.Agrees h now) (key : Identifier) (value : Bytes) :
    (s.get now key).2 = some value ↔
      ∃ storedAt, h.latest? key = some (value, storedAt) ∧ now - storedAt < s.expiry := by
  unfold ValueStore.get
  split
  · next v storedAt found =>
    have inside := (lookup?_eq_some_iff a.distinct).1 found
    rw [a.held inside]
    by_cases young : now - storedAt < s.expiry
    · simp [ValueStore.isLive, young]
    · simp [ValueStore.isLive, young]
  · next absent =>
    refine iff_of_false nofun ?_
    rintro ⟨storedAt, latest, young⟩
    have inside := (a.lost latest).resolve_right (Nat.not_le.2 young)
    rw [(lookup?_eq_some_iff a.distinct).2 inside] at absent
    cases absent

theorem get (a : s.Agrees h now) (key : Identifier) : (s.get now key).1.Agrees h now := by
  unfold ValueStore.get
  split
  · next value storedAt found =>
    split
    · exact a
    · next old =>
      refine a.erase fun {item} inside => ?_
      have same : (value, storedAt) = item := by
        rw [← Option.some.injEq, ← found, (lookup?_eq_some_iff a.distinct).2 inside]
      cases same
      simpa [ValueStore.isLive] using old
  · exact a

theorem card_others (a : s.Agrees h now) (key : Identifier) :
    (h.others s.expiry now key).card = ((s.withoutExpired now).keys.erase key).length := by
  have distinct := a.withoutExpired.distinct
  rw [← List.toFinset_card_of_nodup (distinct.erase key), a.others_eq]
  congr 1
  ext k
  rw [Finset.mem_erase, List.mem_toFinset, List.mem_toFinset, distinct.mem_erase_iff]

/-- There is room for a key just if its history leaves room. Entries that have expired take none:
they go when a store is full, and a key that is in the store has a slot of its own. -/
theorem room_iff (a : s.Agrees h now) (key : Identifier) :
    (key ∈ s.keys ∨ s.size < s.limit) ∨ (s.withoutExpired now).size < s.limit ↔
      (h.others s.expiry now key).card < s.limit ∨ h.isLive s.expiry now key = true := by
  have few := a.few
  have kept : (s.withoutExpired now).keys.Sublist s.keys := keys_withoutExpired_sublist
  have live : (s.withoutExpired now).keys.length = (s.withoutExpired now).size := List.length_map _
  have all : s.keys.length = s.size := List.length_map _
  rw [a.card_others, a.isLive_iff]
  constructor
  · intro room
    left
    rcases room with (inside | room) | room
    · have less := (kept.erase key).length_le
      have := List.length_pos_of_mem inside
      rw [List.length_erase_of_mem inside] at less
      omega
    · have less := ((List.erase_sublist (a := key)).trans kept).length_le
      omega
    · have less := (List.erase_sublist (a := key) (l := (s.withoutExpired now).keys)).length_le
      omega
  · intro room
    by_cases inside : key ∈ s.keys
    · exact .inl (.inl inside)
    · have absent : key ∉ (s.withoutExpired now).keys := fun member => inside (kept.subset member)
      rw [List.erase_of_not_mem absent, live] at room
      exact .inr (room.resolve_right absent)

/-- What a put comes to. -/
theorem put (a : s.Agrees h now) (key : Identifier) (value : Bytes) :
    ((s.put now key value).2 = true ↔
      (h.others s.expiry now key).card < s.limit ∨ h.isLive s.expiry now key = true) ∧
    (s.put now key value).1.Agrees
      (if (s.put now key value).2 then (key, value, now) :: h else h) now := by
  rw [← a.room_iff]
  unfold ValueStore.put
  dsimp only
  by_cases room : key ∈ s.keys ∨ s.size < s.limit
  · rw [if_pos (hasRoom_iff.2 room), if_pos (hasRoom_iff.2 room)]
    exact ⟨iff_of_true rfl (.inl room), a.insert value room⟩
  · rw [if_neg (mt hasRoom_iff.1 room), or_iff_right room]
    by_cases freed : (s.withoutExpired now).size < s.limit
    · rw [if_pos (hasRoom_iff.2 (.inr freed))]
      exact ⟨iff_of_true rfl freed, a.withoutExpired.insert value (.inr freed)⟩
    · have full : ¬ (key ∈ (s.withoutExpired now).keys ∨ (s.withoutExpired now).size < s.limit) :=
        not_or.2 ⟨fun kept => room (.inl (keys_withoutExpired_sublist.subset kept)), freed⟩
      rw [if_neg (mt hasRoom_iff.1 full)]
      exact ⟨iff_of_false nofun freed, a.withoutExpired⟩

end Agrees

/-! ### Uses of a store -/

inductive Use where
  | put (key : Identifier) (value : Bytes)
  | get (key : Identifier)

/-- A store together with its history. -/
structure Recorded where
  store : ValueStore
  accepted : History

namespace Recorded

/-- Use a store. What it says of a put decides whether the put is recorded. -/
def use (r : Recorded) (now : Moment) : Use → Recorded
  | .put key value =>
    let (store, done) := r.store.put now key value
    ⟨store, if done then (key, value, now) :: r.accepted else r.accepted⟩
  | .get key => { r with store := (r.store.get now key).1 }

/-- A store that was used at these moments, one after the other. -/
def after (limit : Nat) (expiry : Span) (uses : List (Moment × Use)) : Recorded :=
  uses.foldl (fun r (now, use) => r.use now use) ⟨create limit expiry, []⟩

theorem after_concat (limit : Nat) (expiry : Span) (uses : List (Moment × Use)) (now : Moment)
    (use : Use) :
    after limit expiry (uses ++ [(now, use)]) = (after limit expiry uses).use now use := by
  rw [after, List.foldl_append]
  rfl

theorem limits_use (r : Recorded) (now : Moment) (use : Use) :
    (r.use now use).store.limit = r.store.limit ∧
      (r.use now use).store.expiry = r.store.expiry := by
  cases use with
  | put key value =>
    dsimp only [Recorded.use, ValueStore.put]
    split_ifs <;> exact ⟨rfl, rfl⟩
  | get key =>
    dsimp only [Recorded.use]
    unfold ValueStore.get
    split
    · split <;> exact ⟨rfl, rfl⟩
    · exact ⟨rfl, rfl⟩

theorem limits_after (limit : Nat) (expiry : Span) (uses : List (Moment × Use)) :
    (after limit expiry uses).store.limit = limit ∧
      (after limit expiry uses).store.expiry = expiry := by
  induction uses using List.reverseRecOn with
  | nil => exact ⟨rfl, rfl⟩
  | append_singleton uses last ih =>
    obtain ⟨sameLimit, sameExpiry⟩ := limits_use (after limit expiry uses) last.1 last.2
    rw [after_concat]
    exact ⟨sameLimit.trans ih.1, sameExpiry.trans ih.2⟩

theorem agrees_use {r : Recorded} {now : Moment} (a : r.store.Agrees r.accepted now) (use : Use) :
    (r.use now use).store.Agrees (r.use now use).accepted now := by
  cases use with
  | put key value => exact (a.put key value).2
  | get key => exact a.get key

/-- As time does not go back, a store that was used agrees with its history. -/
theorem agrees_after {limit : Nat} {expiry : Span} {uses : List (Moment × Use)} {now : Moment}
    (ordered : (uses.map Prod.fst ++ [now]).Pairwise (· ≤ ·)) :
    (after limit expiry uses).store.Agrees (after limit expiry uses).accepted now := by
  induction uses using List.reverseRecOn generalizing now with
  | nil => exact .create limit expiry now
  | append_singleton uses last ih =>
    rw [List.map_append] at ordered
    obtain ⟨earlier, -, before⟩ := List.pairwise_append.1 ordered
    have le : last.1 ≤ now := before last.1 (by simp) now (List.mem_singleton_self now)
    rw [after_concat]
    exact (agrees_use (ih earlier) last.2).mono le

end Recorded

/-- However a store was used at moments in order, it returns a value just if that was stored by the
latest accepted put of its key and is younger than the expiry; it accepts a put just if there are
fewer other live keys than it may hold or the key is live itself; and it holds no more than it may. -/
theorem store_refines_history (limit : Nat) (expiry : Span) (uses : List (Moment × Use))
    (now : Moment) (ordered : (uses.map Prod.fst ++ [now]).Pairwise (· ≤ ·)) :
    let r := Recorded.after limit expiry uses
    (∀ key value, (r.store.get now key).2 = some value ↔
      ∃ storedAt, r.accepted.latest? key = some (value, storedAt) ∧ now - storedAt < expiry) ∧
    (∀ key value, (r.store.put now key value).2 = true ↔
      (r.accepted.others expiry now key).card < limit ∨
        r.accepted.isLive expiry now key = true) ∧
    r.store.size ≤ limit := by
  intro r
  have agrees : r.store.Agrees r.accepted now := Recorded.agrees_after ordered
  obtain ⟨sameLimit, sameExpiry⟩ := Recorded.limits_after limit expiry uses
  refine ⟨?returned, ?accepted, ?held⟩
  case returned =>
    intro key value
    rw [agrees.get_eq_some_iff, sameExpiry]
  case accepted =>
    intro key value
    rw [(agrees.put key value).1, sameExpiry, sameLimit]
  case held =>
    rw [← sameLimit]
    exact agrees.few

/-! Three keys that contend for two slots. One entry expires and gives way, another one expires and
is overwritten before anything drops it. -/

namespace Crowded

def a : Identifier := ⟨1⟩
def b : Identifier := ⟨2⟩
def c : Identifier := ⟨3⟩

def uses : List (Moment × Use) :=
  [(0, .put a [1]), (3, .put b [2]), (11, .put c [3]), (12, .put a [4]), (13, .put b [5])]

end Crowded

theorem crowded_store_refines_history :
    (Crowded.uses.map Prod.fst ++ [14]).Pairwise (· ≤ ·) ∧
      (Recorded.after 2 10 Crowded.uses).accepted =
        [(Crowded.b, [5], 13), (Crowded.c, [3], 11), (Crowded.b, [2], 3), (Crowded.a, [1], 0)] ∧
      ((Recorded.after 2 10 Crowded.uses).store.get 14 Crowded.b).2 = some [5] ∧
      ((Recorded.after 2 10 Crowded.uses).store.put 14 Crowded.a [6]).2 ≠ true ∧
      (Recorded.after 2 10 Crowded.uses).store.size ≤ 2 := by
  obtain ⟨returned, accepted, held⟩ := store_refines_history 2 10 Crowded.uses 14 (by decide)
  refine ⟨by decide, by decide, (returned _ _).2 ⟨13, by decide, by decide⟩, ?_, held⟩
  rw [ne_eq, accepted]
  decide

end LocalSwarm.ValueStore
