import Mathlib.Data.List.Induction
import Mathlib.Data.List.TakeWhile
import Std.Data.HashSet.Lemmas
import LocalSwarm.Discovery.DuplicateWindow

/-! Duplicate windows over time. The queue of a window holds every key once, in the order in which
they were let through, and the set holds the same keys. As time does not go back, a window answers as
the list of all keys ever let through would: it lets a key through unless it has let it through less
than its span ago. -/
namespace LocalSwarm.DuplicateWindow

variable {α : Type} [BEq α] [Hashable α] {w : DuplicateWindow α} {now later : Moment} {key : α}

/-- The keys in the queue, oldest first. -/
def queued (w : DuplicateWindow α) : List α := w.queue.map Prod.snd

/-- The entries that leave the queue. -/
def gone (w : DuplicateWindow α) (now : Moment) : List (Moment × α) :=
  w.queue.takeWhile (w.isOver now)

theorem isOver_iff {entry : Moment × α} : w.isOver now entry = true ↔ w.span ≤ now - entry.1 :=
  decide_eq_true_iff

theorem gone_append_queue_expire (w : DuplicateWindow α) (now : Moment) :
    w.gone now ++ (w.expire now).queue = w.queue := List.takeWhile_append_dropWhile

theorem queue_expire_sublist (w : DuplicateWindow α) (now : Moment) :
    (w.expire now).queue.Sublist w.queue := List.dropWhile_sublist _

/-- In a queue in the order of time, those that leave it are all those whose time is over. -/
theorem mem_queue_expire_iff (sorted : w.queue.Pairwise fun a b => a.1 ≤ b.1)
    {entry : Moment × α} :
    entry ∈ (w.expire now).queue ↔ entry ∈ w.queue ∧ now - entry.1 < w.span := by
  change entry ∈ w.queue.dropWhile (w.isOver now) ↔ _
  generalize w.queue = queue at sorted ⊢
  induction queue with
  | nil => simp
  | cons first rest ih =>
    obtain ⟨before, sorted⟩ := List.pairwise_cons.1 sorted
    by_cases past : w.span ≤ now - first.1
    · rw [List.dropWhile_cons_of_pos (isOver_iff.2 past), ih sorted, List.mem_cons]
      refine ⟨fun ⟨member, young⟩ => ⟨.inr member, young⟩, ?_⟩
      rintro ⟨rfl | member, young⟩
      · exact absurd past (Nat.not_le.2 young)
      · exact ⟨member, young⟩
    · rw [List.dropWhile_cons_of_neg (mt isOver_iff.1 past), iff_self_and]
      intro member
      have young := Nat.lt_of_not_le past
      rcases List.mem_cons.1 member with rfl | later
      · exact young
      · exact Nat.lt_of_le_of_lt (Nat.sub_le_sub_left (before entry later) now) young

theorem span_insert (w : DuplicateWindow α) (now : Moment) (key : α) :
    (w.insert now key).1.span = w.span := by
  dsimp only [insert]
  split <;> rfl

/-! ### Queue and set in step -/

structure InStep (w : DuplicateWindow α) (now : Moment) : Prop where
  sorted : w.queue.Pairwise fun a b => a.1 ≤ b.1
  past : ∀ entry ∈ w.queue, entry.1 ≤ now
  distinct : w.queued.Nodup
  keys : ∀ key, key ∈ w.keys ↔ key ∈ w.queued

theorem inStep_create (span : Span) (now : Moment) :
    (create span : DuplicateWindow α).InStep now where
  sorted := .nil
  past := nofun
  distinct := .nil
  keys := fun _ => iff_of_false Std.HashSet.not_mem_empty List.not_mem_nil

theorem InStep.mono (h : w.InStep now) (le : now ≤ later) : w.InStep later :=
  { h with past := fun entry member => (h.past entry member).trans le }

theorem insert_of_mem (h : (w.expire now).InStep now) (old : key ∈ (w.expire now).queued) :
    w.insert now key = (w.expire now, false) :=
  if_pos (Std.HashSet.contains_iff_mem.2 ((h.keys key).2 old))

theorem insert_of_not_mem (h : (w.expire now).InStep now) (new : key ∉ (w.expire now).queued) :
    w.insert now key = ({ w.expire now with
      queue := (w.expire now).queue ++ [(now, key)], keys := (w.expire now).keys.insert key }, true) :=
  if_neg fun old => new ((h.keys key).1 (Std.HashSet.contains_iff_mem.1 old))

/-! ### Windows and all that they have let through -/

variable {passed : List (Moment × α)}

/-- The keys in the queue were let through, and of those let through only expired ones are gone. -/
structure Agrees (w : DuplicateWindow α) (passed : List (Moment × α)) (now : Moment) : Prop
    extends InStep w now where
  held : ∀ entry ∈ w.queue, entry ∈ passed
  lost : ∀ entry ∈ passed, entry ∈ w.queue ∨ w.span ≤ now - entry.1

theorem agrees_create (span : Span) (now : Moment) :
    (create span : DuplicateWindow α).Agrees [] now where
  toInStep := inStep_create span now
  held := nofun
  lost := nofun

namespace Agrees

theorem mono (a : w.Agrees passed now) (le : now ≤ later) : w.Agrees passed later where
  toInStep := a.toInStep.mono le
  held := a.held
  lost := fun entry member =>
    (a.lost entry member).imp_right fun past => past.trans (Nat.sub_le_sub_right le entry.1)

/-- What is left of a window are the keys let through less than its span ago. -/
theorem mem_queue_iff (a : w.Agrees passed now) {entry : Moment × α} :
    entry ∈ (w.expire now).queue ↔ entry ∈ passed ∧ now - entry.1 < w.span := by
  rw [mem_queue_expire_iff a.sorted]
  refine and_congr_left fun young => ⟨a.held entry, fun member => ?_⟩
  exact (a.lost entry member).resolve_right (Nat.not_le.2 young)

theorem mem_queued_iff (a : w.Agrees passed now) : key ∈ (w.expire now).queued ↔
    ∃ moment, (moment, key) ∈ passed ∧ now - moment < w.span := by
  simp only [queued, List.mem_map, Prod.exists, a.mem_queue_iff]
  exact ⟨fun ⟨moment, _, entry, same⟩ => ⟨moment, same ▸ entry⟩,
    fun ⟨moment, entry⟩ => ⟨moment, key, entry, rfl⟩⟩

end Agrees

/-! ### Keys that come one after the other -/

/-- A window together with all that it has let through. -/
structure Recorded (α : Type) [BEq α] [Hashable α] where
  window : DuplicateWindow α
  passed : List (Moment × α)

namespace Recorded

def offer (r : Recorded α) (call : Moment × α) : Recorded α :=
  let result := r.window.insert call.1 call.2
  ⟨result.1, if result.2 then r.passed ++ [call] else r.passed⟩

/-- A window to which these keys came, each at its moment. -/
def after (span : Span) (calls : List (Moment × α)) : Recorded α :=
  calls.foldl offer ⟨create span, []⟩

theorem after_concat (span : Span) (calls : List (Moment × α)) (call : Moment × α) :
    after span (calls ++ [call]) = (after span calls).offer call := by
  rw [after, List.foldl_append]
  rfl

theorem passed_concat (span : Span) (calls : List (Moment × α)) (call : Moment × α) :
    (after span (calls ++ [call])).passed =
      if ((after span calls).window.insert call.1 call.2).2 then
        (after span calls).passed ++ [call] else (after span calls).passed := by
  rw [after_concat]
  rfl

theorem span_after (span : Span) (calls : List (Moment × α)) :
    (after span calls).window.span = span := by
  induction calls using List.reverseRecOn with
  | nil => rfl
  | append_singleton calls call ih =>
    rw [after_concat]
    exact (span_insert _ call.1 call.2).trans ih

end Recorded

/-! ### What inserting a key makes of a window -/

variable [LawfulBEq α] [LawfulHashable α]

theorem mem_foldl_erase {entries : List (Moment × α)} {keys : Std.HashSet α} :
    key ∈ entries.foldl (fun keys entry => keys.erase entry.2) keys ↔
      key ∈ keys ∧ key ∉ entries.map Prod.snd := by
  induction entries generalizing keys with
  | nil => simp
  | cons entry entries ih =>
    rw [List.foldl_cons, ih, Std.HashSet.mem_erase, List.map_cons, List.mem_cons, not_or,
      beq_eq_false_iff_ne, ne_comm, and_assoc, and_left_comm]

theorem InStep.expire (h : w.InStep now) (moment : Moment) : (w.expire moment).InStep now where
  sorted := h.sorted.sublist (queue_expire_sublist w moment)
  past := fun entry member => h.past entry ((queue_expire_sublist w moment).subset member)
  distinct := ((queue_expire_sublist w moment).map Prod.snd).nodup h.distinct
  keys := by
    intro key
    have all : w.queued = (w.gone moment).map Prod.snd ++ (w.expire moment).queued := by
      rw [queued, ← gone_append_queue_expire w moment, List.map_append]
      rfl
    -- A key that has left the queue does not stand in the rest of it.
    have apart : ∀ key ∈ (w.expire moment).queued, key ∉ (w.gone moment).map Prod.snd := by
      intro key kept left
      have distinct := h.distinct
      rw [all] at distinct
      exact (List.nodup_append.1 distinct).2.2 key left key kept rfl
    have erased : key ∈ (w.expire moment).keys ↔
        key ∈ w.keys ∧ key ∉ (w.gone moment).map Prod.snd := mem_foldl_erase
    rw [erased, h.keys, all, List.mem_append]
    constructor
    · rintro ⟨left | kept, stays⟩
      · exact absurd left stays
      · exact kept
    · exact fun kept => ⟨.inr kept, apart key kept⟩

/-- A key that is not in the queue comes to its end. -/
theorem InStep.push (h : w.InStep now) (new : key ∉ w.queued) :
    InStep { w with queue := w.queue ++ [(now, key)], keys := w.keys.insert key } now where
  sorted := by
    refine List.pairwise_append.2 ⟨h.sorted, List.pairwise_singleton _ _, ?_⟩
    intro entry old last inLast
    rw [List.mem_singleton.1 inLast]
    exact h.past entry old
  past := by
    intro entry member
    rcases List.mem_append.1 member with old | last
    · exact h.past entry old
    · rw [List.mem_singleton.1 last]
  distinct := by
    rw [queued, List.map_append]
    refine List.nodup_append.2 ⟨h.distinct, List.pairwise_singleton _ _, ?_⟩
    intro old inQueue last inLast same
    rw [List.map_singleton, List.mem_singleton] at inLast
    rw [same, inLast] at inQueue
    exact new inQueue
  keys := by
    intro other
    rw [Std.HashSet.mem_insert, h.keys, queued, queued, List.map_append, List.mem_append,
      List.map_singleton, List.mem_singleton, beq_iff_eq, or_comm, eq_comm]

/-- The set has as many keys as the queue. -/
theorem InStep.size_keys (h : w.InStep now) : w.keys.size = w.queue.length := by
  have distinct : w.keys.toList.Nodup :=
    Std.HashSet.distinct_toList.imp fun differ same => by simp [same] at differ
  have same : w.keys.toList.Perm w.queued := by
    refine (List.perm_ext_iff_of_nodup distinct h.distinct).2 fun key => ?_
    rw [Std.HashSet.mem_toList, h.keys]
  rw [← Std.HashSet.length_toList, same.length_eq, queued, List.length_map]

namespace Agrees

theorem expire (a : w.Agrees passed now) : (w.expire now).Agrees passed now where
  toInStep := a.toInStep.expire now
  held := fun entry member => (a.mem_queue_iff.1 member).1
  lost := by
    intro entry member
    rcases Nat.lt_or_ge (now - entry.1) w.span with young | old
    · exact .inl (a.mem_queue_iff.2 ⟨member, young⟩)
    · exact .inr old

theorem insert_iff (a : w.Agrees passed now) (key : α) : (w.insert now key).2 = true ↔
    ¬ ∃ moment, (moment, key) ∈ passed ∧ now - moment < w.span := by
  have kept := a.toInStep.expire now
  rw [← a.mem_queued_iff]
  by_cases old : key ∈ (w.expire now).queued
  · rw [insert_of_mem kept old]
    exact iff_of_false Bool.false_ne_true (not_not.2 old)
  · rw [insert_of_not_mem kept old]
    exact iff_of_true rfl old

/-- A key that is held back leaves no trace, so it is not held back for longer. -/
theorem insert (a : w.Agrees passed now) (key : α) : (w.insert now key).1.Agrees
    (if (w.insert now key).2 then passed ++ [(now, key)] else passed) now := by
  have kept := a.expire
  by_cases old : key ∈ (w.expire now).queued
  · rw [insert_of_mem kept.toInStep old]
    exact kept
  · rw [insert_of_not_mem kept.toInStep old]
    refine { kept.toInStep.push old with held := ?_, lost := ?_ }
    · intro entry member
      rcases List.mem_append.1 member with old | last
      · exact List.mem_append_left _ (kept.held entry old)
      · exact List.mem_append_right _ last
    · intro entry member
      rcases List.mem_append.1 member with old | last
      · exact (kept.lost entry old).imp_left (List.mem_append_left _)
      · exact .inl (List.mem_append_right _ last)

/-- In the window are those let through less than its span ago, and who comes just now. -/
theorem mem_queue_insert_iff (a : w.Agrees passed now) {entry : Moment × α} :
    entry ∈ (w.insert now key).1.queue ↔
      (entry ∈ passed ∧ now - entry.1 < w.span) ∨
        (entry = (now, key) ∧ (w.insert now key).2 = true) := by
  have kept := a.toInStep.expire now
  rw [← a.mem_queue_iff]
  by_cases old : key ∈ (w.expire now).queued
  · rw [insert_of_mem kept old, or_iff_left]
    rintro ⟨-, ⟨⟩⟩
  · rw [insert_of_not_mem kept old, and_iff_left rfl, List.mem_append, List.mem_singleton]

end Agrees

theorem Recorded.agrees_after {span : Span} {calls : List (Moment × α)}
    (ordered : calls.Pairwise fun a b => a.1 ≤ b.1) (past : ∀ call ∈ calls, call.1 ≤ now) :
    (after span calls).window.Agrees (after span calls).passed now := by
  induction calls using List.reverseRecOn generalizing now with
  | nil => exact agrees_create span now
  | append_singleton calls call ih =>
    obtain ⟨ordered, -, last⟩ := List.pairwise_append.1 ordered
    have before := ih ordered fun earlier member => last earlier member call List.mem_cons_self
    rw [after_concat]
    exact (before.insert call.2).mono (past call (List.mem_append_right _ List.mem_cons_self))

/-- What a window is like that a key has come to, and whether that key was let through. -/
structure Orderly (span : Span) (passed : List (Moment × α)) (call : Moment × α)
    (result : DuplicateWindow α × Bool) : Prop where
  sorted : result.1.queue.Pairwise fun a b => a.1 ≤ b.1
  distinct : result.1.queued.Nodup
  keys : ∀ key, key ∈ result.1.keys ↔ key ∈ result.1.queued
  size : result.1.keys.size = result.1.queue.length
  fresh : result.2 = true ↔ ¬ ∃ moment, (moment, call.2) ∈ passed ∧ call.1 - moment < span
  held : ∀ entry, entry ∈ result.1.queue ↔
    (entry ∈ passed ∧ call.1 - entry.1 < span) ∨ (entry = call ∧ result.2 = true)

/-- As long as time does not go back, a window is in order after each key that has come: its queue is
sorted by time and holds no key twice, its set holds just the keys of its queue, and these are the
keys that were let through less than its span ago and the one that is let through just now. -/
theorem windows_do_not_leak (span : Span) (calls : List (Moment × α))
    (ordered : calls.Pairwise fun a b => a.1 ≤ b.1) :
    ∀ before call later, calls = before ++ call :: later →
      Orderly span (Recorded.after span before).passed call
        ((Recorded.after span before).window.insert call.1 call.2) := by
  rintro before call later rfl
  obtain ⟨ordered, -, last⟩ := List.pairwise_append.1 ordered
  have agrees : (Recorded.after span before).window.Agrees
      (Recorded.after span before).passed call.1 :=
    Recorded.agrees_after ordered fun earlier member => last earlier member call List.mem_cons_self
  have inStep := (agrees.insert call.2).toInStep
  refine ⟨inStep.sorted, inStep.distinct, inStep.keys, inStep.size_keys, ?fresh, fun entry => ?held⟩
  case fresh => rw [agrees.insert_iff, Recorded.span_after]
  case held => rw [agrees.mem_queue_insert_iff, Recorded.span_after]

/-! A key comes three times. The second time it is held back, and the third time the first one has
just left the window. -/

theorem third_key_replaces_first :
    [(0, 7), (29, 7), (30, 7)].Pairwise (fun a b : Moment × Nat => a.1 ≤ b.1) ∧
      (Recorded.after 30 [(0, 7), (29, 7), (30, 7)]).passed = [(0, 7), (30, 7)] ∧
      ∀ key, key ∈ (Recorded.after 30 [(0, 7), (29, 7), (30, 7)]).window.keys ↔ key = 7 := by
  have ordered : [(0, 7), (29, 7), (30, 7)].Pairwise (fun a b : Moment × Nat => a.1 ≤ b.1) := by
    decide
  have orderly := windows_do_not_leak 30 _ ordered
  have first : (Recorded.after 30 [((0 : Moment), 7)]).passed = [(0, 7)] := by
    refine (Recorded.passed_concat 30 [] (0, 7)).trans (if_pos ?_)
    rw [(orderly [] (0, 7) _ rfl).fresh]
    rintro ⟨_, ⟨⟩, -⟩
  have second : (Recorded.after 30 [((0 : Moment), 7), (29, 7)]).passed = [(0, 7)] := by
    refine ((Recorded.passed_concat 30 [(0, 7)] (29, 7)).trans (if_neg ?_)).trans first
    rw [(orderly [(0, 7)] (29, 7) _ rfl).fresh, first, not_not]
    exact ⟨0, List.mem_singleton_self _, by decide⟩
  obtain ⟨-, -, keys, -, fresh, held⟩ := orderly [(0, 7), (29, 7)] (30, 7) [] rfl
  rw [second] at fresh held
  have past (moment : Moment) (key : Nat) (old : (moment, key) ∈ [((0 : Moment), 7)]) :
      ¬ 30 - moment < 30 := by
    cases List.mem_singleton.1 old
    decide
  have through := fresh.2 fun ⟨moment, old, young⟩ => past moment 7 old young
  refine ⟨ordered, ?_, fun key => (keys key).trans ?_⟩
  · refine (Recorded.passed_concat 30 [(0, 7), (29, 7)] (30, 7)).trans ?_
    rw [if_pos through, second]
    rfl
  · rw [queued, List.mem_map]
    constructor
    · rintro ⟨⟨moment, _⟩, member, rfl⟩
      rcases (held _).1 member with ⟨old, young⟩ | ⟨now, -⟩
      · exact absurd young (past moment _ old)
      · exact congrArg Prod.snd now
    · rintro rfl
      exact ⟨(30, 7), (held _).2 (.inr ⟨rfl, through⟩), rfl⟩

end LocalSwarm.DuplicateWindow
