import LocalSwarm.Proofs.Chunks
import LocalSwarm.Proofs.Downloads.Tree

/-! Transfers by themselves. What a transfer asks for, writes and leaves undelivered depends on the
answers of its own contact only, whatever other transfers do at the same time: `Exchanging.kept`
compares every transfer of a round to a session of its own. Main statement:
`every_byte_is_accounted_for`. -/
namespace LocalSwarm
open ByteRange (InOrder Successive cover cover_append cover_cons)

namespace Transfer

/-- A transfer asks for its first chunk, and goes on with the others once that was delivered. -/
theorem chunks_remaining (x : Transfer) (limit : Nat) :
    x.remaining.flatMap (·.chunks limit) =
      x.chunk limit ::
        ((x.delivered? limit).toList.flatMap remaining).flatMap (·.chunks limit) := by
  rw [delivered?, remaining_start, remaining, List.flatMap_cons, ByteRange.chunks_eq,
    List.flatMap_append]
  rfl

end Transfer

namespace Download

/-! ### A session -/

/-- The chunk that an answer brings, if it is accepted. -/
def brought (d : Download) (range : ByteRange) (answer : Option (FileStatus × Bytes)) :
    Option (ByteRange × Bytes) :=
  (d.accepted range answer).map fun data => (range, data)

/-- What becomes of a transfer when its request is answered: it goes on, or it returns what it has
not delivered. -/
def became (d : Download) (x : Transfer) (answer : Option (FileStatus × Bytes)) :
    Transfer ⊕ List ByteRange :=
  match d.accepted (x.chunk d.chunkSize) answer with
  | some _ =>
    match x.delivered? d.chunkSize with
    | some y => .inl y
    | none => .inr []
  | none => .inr x.remaining

/-- A transfer by itself: the ranges it has been answered for, the chunks it has written, and what
it is at or has returned. -/
structure Session where
  asked : List ByteRange
  stored : List (ByteRange × Bytes)
  state : Transfer ⊕ List ByteRange

namespace Session

/-- A transfer that has returned makes no more requests. -/
def take (d : Download) (s : Session) (answer : Option (FileStatus × Bytes)) : Session :=
  match s.state with
  | .inl x =>
    let range := x.chunk d.chunkSize
    ⟨s.asked ++ [range], s.stored ++ (d.brought range answer).toList, d.became x answer⟩
  | .inr _ => s

/-- The session of a transfer whose requests get these answers. -/
def after (d : Download) (x : Transfer) (answers : List (Option (FileStatus × Bytes))) : Session :=
  answers.foldl (take d) ⟨[], [], .inl x⟩

theorem after_concat (d : Download) (x : Transfer) (answers : List (Option (FileStatus × Bytes)))
    (answer : Option (FileStatus × Bytes)) :
    after d x (answers ++ [answer]) = (after d x answers).take d answer := by
  rw [after, List.foldl_append]
  rfl

theorem take_of_inl {d : Download} {s : Session} {x : Transfer} (working : s.state = .inl x)
    (answer : Option (FileStatus × Bytes)) :
    s.take d answer = ⟨s.asked ++ [x.chunk d.chunkSize],
      s.stored ++ (d.brought (x.chunk d.chunkSize) answer).toList, d.became x answer⟩ := by
  simp only [take, working]

theorem take_of_inr {d : Download} {s : Session} {returned : List ByteRange}
    (ended : s.state = .inr returned) (answer : Option (FileStatus × Bytes)) :
    s.take d answer = s := by
  simp only [take, ended]

/-- The chunks that are not written yet. -/
def rest (d : Download) (state : Transfer ⊕ List ByteRange) : List ByteRange :=
  (state.elim Transfer.remaining id).flatMap (·.chunks d.chunkSize)

/-- What holds of a session that began with these chunks to ask for. As long as it goes on, all
ranges that were asked for are written. -/
structure Kept (d : Download) (chunks : List ByteRange) (s : Session) : Prop where
  balance : s.stored.map (·.1) ++ rest d s.state = chunks
  working : s.state.isLeft = true → s.asked = s.stored.map (·.1)
  ended : s.state.isRight = true → s.asked = chunks.take (s.stored.length + 1)

theorem kept_take {d : Download} {chunks : List ByteRange} {s : Session} (kept : s.Kept d chunks)
    (answer : Option (FileStatus × Bytes)) : (s.take d answer).Kept d chunks := by
  cases state : s.state with
  | inr returned => rwa [take_of_inr state]
  | inl x =>
    have asked := kept.working (by rw [state]; rfl)
    have whole := kept.balance
    rw [state] at whole
    have parted := whole
    rw [rest, Sum.elim_inl, x.chunks_remaining] at parted
    rw [take_of_inl state]
    cases taken : d.accepted (x.chunk d.chunkSize) answer with
    | none =>
      have returned : d.became x answer = .inr x.remaining := by simp only [became, taken]
      have nothing : d.brought (x.chunk d.chunkSize) answer = none := by
        rw [brought, taken, Option.map_none]
      rw [returned, nothing, Option.toList_none, List.append_nil]
      refine ⟨whole, nofun, fun _ => ?_⟩
      have written : (s.stored.map (·.1)).length = s.stored.length := List.length_map _
      change s.asked ++ [x.chunk d.chunkSize] = chunks.take (s.stored.length + 1)
      rw [← parted, asked, ← written, List.take_length_add_append]
      rfl
    | some data =>
      have chunk : d.brought (x.chunk d.chunkSize) answer = some (x.chunk d.chunkSize, data) := by
        rw [brought, taken, Option.map_some]
      rw [chunk, Option.toList_some]
      have stored : (s.stored ++ [(x.chunk d.chunkSize, data)]).map (·.1) =
          s.stored.map (·.1) ++ [x.chunk d.chunkSize] := List.map_append
      cases next : x.delivered? d.chunkSize with
      | none =>
        have returned : d.became x answer = .inr [] := by simp only [became, taken, next]
        have all : (s.stored ++ [(x.chunk d.chunkSize, data)]).map (·.1) = chunks := by
          rw [stored, ← parted, next]
          rfl
        rw [returned]
        refine ⟨(List.append_nil _).trans all, nofun, fun _ => ?_⟩
        change s.asked ++ [x.chunk d.chunkSize] = chunks.take
          ((s.stored ++ [(x.chunk d.chunkSize, data)]).length + 1)
        rw [asked, ← stored, all, List.take_of_length_le]
        rw [← all, List.length_map]
        exact Nat.le_succ _
      | some y =>
        have goes : d.became x answer = .inl y := by simp only [became, taken, next]
        rw [goes]
        refine ⟨?_, fun _ => ?_, nofun⟩
        · change (s.stored ++ [(x.chunk d.chunkSize, data)]).map (·.1) ++ y.remaining.flatMap _ = chunks
          rw [stored, ← parted, next, List.append_assoc, Option.toList_some, List.flatMap_singleton]
          rfl
        · change s.asked ++ [x.chunk d.chunkSize] =
            (s.stored ++ [(x.chunk d.chunkSize, data)]).map (·.1)
          rw [stored, asked]

theorem kept_after (d : Download) (x : Transfer)
    (answers : List (Option (FileStatus × Bytes))) :
    (after d x answers).Kept d (x.remaining.flatMap (·.chunks d.chunkSize)) := by
  induction answers using List.reverseRecOn with
  | nil => exact ⟨rfl, fun _ => rfl, nofun⟩
  | append_singleton answers answer ih =>
    rw [after_concat]
    exact kept_take ih answer

end Session

/-! ### Sessions within a round -/

/-- A request that was answered in a round of transfers. -/
@[ext] structure Exchange where
  slot : Nat
  range : ByteRange
  answer : Option (FileStatus × Bytes)

/-- The chunks that were delivered in answer to these requests. -/
def fetched (d : Download) (es : List Exchange) : List (ByteRange × Bytes) :=
  es.filterMap fun e => d.brought e.range e.answer

theorem fetched_concat (d : Download) (es : List Exchange) (e : Exchange) :
    fetched d (es ++ [e]) = fetched d es ++ (d.brought e.range e.answer).toList := by
  rw [fetched, List.filterMap_append, List.filterMap_eq_flatMap_toList _ [_],
    List.flatMap_singleton]
  rfl

/-- What an answer makes of the part file. -/
def store (d : Download) (p : Files.Part) (range : ByteRange)
    (answer : Option (FileStatus × Bytes)) : Files.Part :=
  match d.accepted range answer with
  | some data => p.write range.start data
  | none => p

theorem store_accepted {d : Download} {range : ByteRange} {answer : Option (FileStatus × Bytes)}
    {data : Bytes} (taken : d.accepted range answer = some data) (p : Files.Part) :
    d.store p range answer = p.write range.start data := by
  simp only [store, taken]

theorem store_refused {d : Download} {range : ByteRange} {answer : Option (FileStatus × Bytes)}
    (refused : d.accepted range answer = none) (p : Files.Part) : d.store p range answer = p := by
  simp only [store, refused]

/-- A round of transfers is under way. Its requests are answered as the contacts like and in any
order. What transfers return is collected as they end. -/
inductive Exchanging (d : Download) (p₀ : Files.Part) (f₀ : Fill) :
    List Exchange → List (Nat × List ByteRange) → Files.Part → Fill → Prop where
  | begins : Exchanging d p₀ f₀ [] [] p₀ f₀
  | answered {es : List Exchange} {results : List (Nat × List ByteRange)} {p : Files.Part}
      {f : Fill} {slot : Nat} {x : Transfer} (answer : Option (FileStatus × Bytes)) :
      Exchanging d p₀ f₀ es results p f → f.at? slot = some x →
      Exchanging d p₀ f₀ (es ++ [⟨slot, x.chunk d.chunkSize, answer⟩])
        (results ++ (d.became x answer).getRight?.toList.map (slot, ·))
        (d.store p (x.chunk d.chunkSize) answer) (d.afterAnswer f slot answer)

/-- This is the step of a download that can write, before it is settled whether the round is over. -/
theorem step_filling {d : Download} {t others : Files.Tree} {part : Files.Location}
    {p : Files.Part} {round : Nat} {f : Fill} {slot : Nat} {x : Transfer}
    (found : f.at? slot = some x) (writes : t.disk.write = none) (hosts : t.Hosts others part p)
    (answer : Option (FileStatus × Bytes)) :
    ∃ t', t'.Hosts others part (d.store p (x.chunk d.chunkSize) answer) ∧
      d.step t (.filling part round f) (.chunk slot answer) =
        d.settle t' part round (d.afterAnswer f slot answer) := by
  simp only [step, takeChunk, found, afterAnswer, store, Files.Tree.write, writes]
  cases d.accepted (x.chunk d.chunkSize) answer with
  | none => exact ⟨t, hosts, rfl⟩
  | some data => exact ⟨_, hosts.writePart _ data, rfl⟩

theorem transfers_afterAnswer {d : Download} {f : Fill} {slot : Nat} {x : Transfer}
    (found : f.at? slot = some x) (answer : Option (FileStatus × Bytes)) :
    (d.afterAnswer f slot answer).transfers =
      (d.became x answer).getLeft?.toList.map (slot, ·) ++ (f.others slot ++ f.waiting) := by
  unfold afterAnswer became
  simp only [found]
  cases d.accepted (x.chunk d.chunkSize) answer with
  | none => exact Fill.transfers_refuse found
  | some data =>
    refine (Fill.transfers_deliver found d.chunkSize).trans ?_
    cases x.delivered? d.chunkSize <;> rfl

theorem undelivered_afterAnswer {d : Download} {f : Fill} {slot : Nat} {x : Transfer}
    (found : f.at? slot = some x) (answer : Option (FileStatus × Bytes)) :
    (d.afterAnswer f slot answer).undelivered =
      f.undelivered ++ (d.became x answer).getRight?.toList.flatten := by
  unfold afterAnswer became
  simp only [found]
  cases d.accepted (x.chunk d.chunkSize) answer with
  | none =>
    refine (Fill.undelivered_refuse found).trans ?_
    simp
  | some data =>
    refine (Fill.undelivered_deliver f slot d.chunkSize).trans ?_
    cases x.delivered? d.chunkSize <;> simp

/-- What the transfers of a round are at or have returned. -/
def states (f : Fill) (results : List (Nat × List ByteRange)) :
    List (Nat × (Transfer ⊕ List ByteRange)) :=
  f.transfers.map (fun x => (x.1, .inl x.2)) ++ results.map fun r => (r.1, .inr r.2)

/-- An answer changes what one transfer is at. -/
theorem states_answered {d : Download} {f : Fill} {slot : Nat} {x : Transfer}
    (found : f.at? slot = some x) (results : List (Nat × List ByteRange))
    (answer : Option (FileStatus × Bytes)) :
    ∃ rest, (states f results).Perm ((slot, .inl x) :: rest) ∧
      (states (d.afterAnswer f slot answer)
        (results ++ (d.became x answer).getRight?.toList.map (slot, ·))).Perm
          ((slot, d.became x answer) :: rest) := by
  refine ⟨states ⟨f.waiting, f.others slot, [], none⟩ results, ?_, ?_⟩
  · exact ((Fill.transfers_perm found).map _).append_right _
  · rw [states, transfers_afterAnswer found]
    cases d.became x answer with
    | inl y =>
      rw [Sum.getRight?_inl, Option.toList_none, List.map_nil, List.append_nil]
      exact .refl _
    | inr returned =>
      have last : (results ++ [(slot, returned)]).Perm ((slot, returned) :: results) :=
        List.perm_append_singleton ..
      exact ((last.map _).append_left _).trans List.perm_middle

/-- What holds of a round while requests are answered. Every transfer is at work or has returned. -/
structure Underway (f₀ f : Fill) (es : List Exchange) (results : List (Nat × List ByteRange)) :
    Prop where
  orderly : f.Orderly
  once : ((states f results).map (·.1)).Perm (f₀.transfers.map (·.1))
  ours : ∀ e ∈ es, e.slot ∈ f₀.transfers.map (·.1)
  undelivered : f.undelivered = f₀.undelivered ++ results.flatMap (·.2)
  bounded : es.length + f.work ≤ f₀.work

theorem work_afterAnswer {d : Download} {f : Fill} {slot : Nat} {x : Transfer}
    (found : f.at? slot = some x) (answer : Option (FileStatus × Bytes)) :
    (d.afterAnswer f slot answer).work < f.work := by
  cases taken : d.accepted (x.chunk d.chunkSize) answer with
  | none => exact (afterAnswer_refused found taken).symm ▸ Fill.work_refuse found
  | some data => exact (afterAnswer_accepted found taken).symm ▸ Fill.work_deliver found

theorem orderly_afterAnswer {d : Download} {f : Fill} {slot : Nat} {x : Transfer}
    (orderly : f.Orderly) (found : f.at? slot = some x) (answer : Option (FileStatus × Bytes)) :
    (d.afterAnswer f slot answer).Orderly := by
  cases taken : d.accepted (x.chunk d.chunkSize) answer with
  | none => exact (afterAnswer_refused found taken).symm ▸ orderly.refuse found
  | some data => exact (afterAnswer_accepted found taken).symm ▸ orderly.deliver found d.chunkSize

namespace Exchanging

variable {d : Download} {p₀ p : Files.Part} {f₀ f : Fill} {es : List Exchange}
  {results : List (Nat × List ByteRange)}

theorem underway (run : d.Exchanging p₀ f₀ es results p f) (orderly : f₀.Orderly) :
    Underway f₀ f es results := by
  induction run with
  | begins =>
    refine ⟨orderly, ?_, nofun, (List.append_nil _).symm, Nat.le_of_eq (Nat.zero_add _)⟩
    simp [states, Function.comp_def]
  | @answered es results p f slot x answer _ found ih =>
    obtain ⟨rest, before, behind⟩ := states_answered (d := d) found results answer
    have once := ((behind.map (·.1)).trans (before.map (·.1)).symm).trans ih.once
    have work := work_afterAnswer (d := d) found answer
    refine ⟨orderly_afterAnswer ih.orderly found answer, once, ?_, ?_, ?_⟩
    · refine List.forall_mem_append.2 ⟨ih.ours, List.forall_mem_singleton.2 ?_⟩
      exact ih.once.mem_iff.1 ((before.map (·.1)).mem_iff.2 List.mem_cons_self)
    · rw [undelivered_afterAnswer found, ih.undelivered, List.flatMap_append, List.append_assoc,
        List.flatMap_map, List.flatten_eq_flatMap]
      rfl
    · have := ih.bounded
      rw [List.length_append, List.length_singleton]
      omega

theorem writes (run : d.Exchanging p₀ f₀ es results p f) :
    p = ⟨p₀.length, ((fetched d es).map fun c => (c.1.start, c.2)).reverse ++ p₀.writes⟩ := by
  induction run with
  | begins => rfl
  | @answered es results p f slot x answer _ _ ih =>
    subst ih
    rw [fetched_concat, List.map_append, List.reverse_append, brought]
    cases taken : d.accepted (x.chunk d.chunkSize) answer with
    | none =>
      rw [store_refused taken]
      rfl
    | some data =>
      rw [store_accepted taken]
      rfl

end Exchanging

/-- The requests of one transfer. -/
def requests (es : List Exchange) (slot : Nat) : List Exchange := es.filter (·.slot == slot)

/-- The session that a transfer has had by itself. -/
def sessionOf (d : Download) (x : Transfer) (es : List Exchange) (slot : Nat) : Session :=
  Session.after d x ((requests es slot).map (·.answer))

theorem requests_append (es fs : List Exchange) (slot : Nat) :
    requests (es ++ fs) slot = requests es slot ++ requests fs slot := List.filter_append ..

theorem requests_self (e : Exchange) : requests [e] e.slot = [e] := by
  rw [requests, List.filter_singleton, beq_self_eq_true]
  rfl

theorem requests_eq_nil {es : List Exchange} {slot : Nat} (none : slot ∉ es.map (·.slot)) :
    requests es slot = [] :=
  List.filter_eq_nil_iff.2 fun _ member here =>
    none (beq_iff_eq.1 here ▸ List.mem_map_of_mem member)

theorem requests_other {e : Exchange} {slot : Nat} (other : e.slot ≠ slot) :
    requests [e] slot = [] :=
  requests_eq_nil fun member => other (List.mem_singleton.1 member).symm

theorem sessionOf_own (d : Download) (x : Transfer) (es : List Exchange) (e : Exchange) :
    sessionOf d x (es ++ [e]) e.slot = (sessionOf d x es e.slot).take d e.answer := by
  rw [sessionOf, requests_append, requests_self, List.map_append]
  exact Session.after_concat ..

/-- Whether a transfer has asked for and written what it would have by itself. -/
structure Follows (d : Download) (mine : List Exchange) (s : Session) : Prop where
  asked : mine.map (·.range) = s.asked
  stored : fetched d mine = s.stored
  stops : ∀ e ∈ mine.dropLast, (d.accepted e.range e.answer).isSome = true
  goesOn : s.state.isLeft = true → ∀ e ∈ mine, (d.accepted e.range e.answer).isSome = true

theorem accepted_of_became {d : Download} {x : Transfer} {answer : Option (FileStatus × Bytes)}
    (working : (d.became x answer).isLeft = true) :
    (d.accepted (x.chunk d.chunkSize) answer).isSome = true := by
  unfold became at working
  split at working
  · next taken => exact Option.isSome_of_eq_some taken
  · cases working

theorem Follows.take {d : Download} {mine : List Exchange} {s : Session} {x : Transfer}
    (follows : Follows d mine s) (working : s.state = .inl x) (slot : Nat)
    (answer : Option (FileStatus × Bytes)) :
    Follows d (mine ++ [⟨slot, x.chunk d.chunkSize, answer⟩]) (s.take d answer) := by
  have before := follows.goesOn (by rw [working]; rfl)
  rw [Session.take_of_inl working]
  refine ⟨?_, ?_, ?_, fun goes => List.forall_mem_append.2 ⟨before, ?_⟩⟩
  · rw [List.map_append, follows.asked]
    rfl
  · rw [fetched_concat, follows.stored]
  · rwa [List.dropLast_concat]
  · exact List.forall_mem_singleton.2 (accepted_of_became goes)

namespace Exchanging

variable {d : Download} {p₀ p : Files.Part} {f₀ f : Fill} {es : List Exchange}
  {results : List (Nat × List ByteRange)}

/-- A transfer is in one state. -/
theorem state_unique (run : d.Exchanging p₀ f₀ es results p f) (orderly : f₀.Orderly) {slot : Nat}
    {a b : Transfer ⊕ List ByteRange} (first : (slot, a) ∈ states f results)
    (second : (slot, b) ∈ states f results) : a = b := by
  have distinct := (run.underway orderly).once.nodup_iff.2 orderly.distinct
  exact congrArg Prod.snd (List.inj_on_of_nodup_map distinct first second rfl)

theorem follows (run : d.Exchanging p₀ f₀ es results p f) (orderly : f₀.Orderly) {slot : Nat}
    {x : Transfer} (begun : (slot, x) ∈ f₀.transfers) :
    Follows d (requests es slot) (sessionOf d x es slot) ∧
      (slot, (sessionOf d x es slot).state) ∈ states f results := by
  induction run with
  | begins => exact ⟨⟨rfl, rfl, nofun, fun _ => nofun⟩, List.mem_append_left _ (List.mem_map_of_mem begun)⟩
  | @answered es results p f number y answer run found ih =>
    obtain ⟨follows, state⟩ := ih
    obtain ⟨rest, before, behind⟩ := states_answered (d := d) found results answer
    by_cases same : number = slot
    · subst same
      have working : (sessionOf d x es number).state = .inl y :=
        run.state_unique orderly state (before.mem_iff.2 List.mem_cons_self)
      have own := sessionOf_own d x es ⟨number, y.chunk d.chunkSize, answer⟩
      have becomes := congrArg Session.state (Session.take_of_inl (d := d) working answer)
      rw [requests_append, requests_self ⟨number, y.chunk d.chunkSize, answer⟩, own, becomes]
      exact ⟨follows.take working number answer, behind.mem_iff.2 List.mem_cons_self⟩
    · have other : Exchange.slot ⟨number, y.chunk d.chunkSize, answer⟩ ≠ slot := same
      rw [sessionOf, requests_append, requests_other other, List.append_nil]
      refine ⟨follows, behind.mem_iff.2 (List.mem_cons_of_mem _ ?_)⟩
      refine (List.mem_cons.1 (before.mem_iff.1 state)).resolve_left fun here => ?_
      exact same (congrArg Prod.fst here).symm

end Exchanging

/-- Where a download that can write is amid a round, the tree holds the part file, and this and the
transfers are what the answers since the round began have made of them. -/
theorem Course.exchanging {d : Download} {online : List Peer → Prop} {t₀ t : Files.Tree}
    {h : List Happening} {rounds : List Round} {stage : Stage} (rooted : t₀.Rooted)
    (writes : Happening.Always (·.write = none) t₀.disk h)
    (course : Course d online t₀ h rounds t stage) {part : Files.Location} {round : Nat} {f : Fill}
    (amid : stage = .filling part round f) :
    t.Hosts (withoutUs t₀ h) part (d.assembled h) ∧
    ∃ r ∈ rounds, ∃ contacts pieces es results,
      Partition.partition r.pending contacts.length d.chunkSize = .ok pieces ∧
      d.Exchanging (d.assembled r.past) (Fill.start contacts pieces d.width) es results
        (d.assembled h) f := by
  refine ⟨course.hosts rooted writes amid, ?_⟩
  induction course generalizing part round f with
  | start => cases amid
  | created entry _ _ _ _ ih =>
    rw [assembled, deliveries_created]
    exact ih writes.of_append amid
  | elapsed node now _ _ ih =>
    rw [assembled, deliveries_elapsed]
    exact ih writes.of_append amid
  | disrupted disk _ _ ih =>
    rw [assembled, deliveries_disrupted]
    exact ih writes.of_append amid
  | checked slot p outcome _ probing =>
    rw [amid] at probing
    cases probing
  | @probed older checks rounds t t' stage next candidates contacts course probing _ _ _ step =>
    subst amid
    have account := course.accounted.account
    refine ⟨⟨older ++ checks, d.toPart stage⟩, List.mem_append_right _ List.mem_cons_self,
      contacts, ?_⟩
    cases turn_of_step (awaits_probed probing contacts) step with
    | begins present _ _ _ parted settled =>
      obtain ⟨-, same, -⟩ := settled_start (List.cons_ne_nil _ _) present parted settled
      cases same
      exact ⟨_, [], [], parted, .begins⟩
    | resumes present parted settled =>
      obtain ⟨-, some, -⟩ := account
      obtain ⟨-, same, -⟩ := settled_start some present parted settled
      cases same
      exact ⟨_, [], [], parted, .begins⟩
  | @chunk h rounds t t' stage next slot p range outcome course asked step ih =>
    subst amid
    have account := course.accounted.account
    cases turn_of_step (awaits_chunk asked _) step with
    | delivered found taken _ settled =>
      obtain ⟨rfl, rfl⟩ := at?_of_asked account.orderly asked found
      cases settled
      obtain ⟨r, begun, contacts, pieces, es, results, parted, run⟩ := ih writes.of_append rfl
      have next := run.answered outcome.chunk? found
      rw [store_accepted taken, afterAnswer_accepted found taken] at next
      rw [assembled_accepted taken]
      exact ⟨r, begun, contacts, pieces, _, _, parted, next⟩
    | abandoned _ _ refused =>
      rw [course.disk_eq, writes.of_append.disk] at refused
      cases refused
    | refused found refused settled =>
      obtain ⟨rfl, rfl⟩ := at?_of_asked account.orderly asked found
      cases settled
      obtain ⟨r, begun, contacts, pieces, es, results, parted, run⟩ := ih writes.of_append rfl
      have next := run.answered outcome.chunk? found
      rw [store_refused refused, afterAnswer_refused found refused] at next
      rw [assembled_of_deliveries (deliveries_refused refused h slot _)]
      exact ⟨r, begun, contacts, pieces, _, _, parted, next⟩

/-! ### The account -/

/-- What the contact of a transfer with these pieces is asked for: their chunks in order, and none
after one that it did not deliver. -/
structure Requested (d : Download) (pieces : List ByteRange) (mine : List Exchange) : Prop where
  asked : mine.map (·.range) <+: pieces.flatMap (·.chunks d.chunkSize)
  increasing : InOrder pieces → InOrder (mine.map (·.range))
  stops : ∀ e ∈ mine.dropLast, (d.accepted e.range e.answer).isSome = true

/-- What a transfer with these pieces returns: they are what it was to fetch, less what was written.
The last chunk it asked for is the first one that was not delivered, if there is one. -/
structure Returned (d : Download) (pieces : List ByteRange) (mine : List Exchange)
    (returned : List ByteRange) : Prop where
  asked : mine.map (·.range) =
    (pieces.flatMap (·.chunks d.chunkSize)).take ((fetched d mine).length + 1)
  balance : (fetched d mine).map (·.1) ++ returned.flatMap (·.chunks d.chunkSize) =
    pieces.flatMap (·.chunks d.chunkSize)
  tiles : ∀ o, cover ((fetched d mine).map (·.1) ++ returned) o = cover pieces o
  nothing : returned = [] ↔
    (fetched d mine).map (·.1) = pieces.flatMap (·.chunks d.chunkSize)

theorem requested_of_asked {d : Download} {pieces : List ByteRange} {mine : List Exchange}
    (asked : mine.map (·.range) <+: pieces.flatMap (·.chunks d.chunkSize))
    (stops : ∀ e ∈ mine.dropLast, (d.accepted e.range e.answer).isSome = true) :
    Requested d pieces mine := by
  refine ⟨asked, fun ordered => ?_, stops⟩
  have all : InOrder (pieces.flatMap (·.chunks d.chunkSize)) :=
    ordered.cut fun r _ => r.successive_chunks d.chunkSize
  exact all.sublist asked.sublist

theorem Session.Kept.asked_begins {d : Download} {chunks : List ByteRange} {s : Session}
    (kept : s.Kept d chunks) : s.asked <+: chunks := by
  cases state : s.state with
  | inl y =>
    rw [kept.working (by rw [state]; rfl), ← kept.balance]
    exact List.prefix_append ..
  | inr returned =>
    rw [kept.ended (by rw [state]; rfl)]
    exact List.take_prefix ..

theorem returned_of_balance {d : Download} {pieces returned : List ByteRange}
    {mine : List Exchange}
    (asked : mine.map (·.range) =
      (pieces.flatMap (·.chunks d.chunkSize)).take ((fetched d mine).length + 1))
    (balance : (fetched d mine).map (·.1) ++ returned.flatMap (·.chunks d.chunkSize) =
      pieces.flatMap (·.chunks d.chunkSize)) : Returned d pieces mine returned := by
  refine ⟨asked, balance, fun o => ?_, ?_, fun all => ?_⟩
  · rw [cover_append, ← ByteRange.cover_flatMap_chunks returned d.chunkSize, ← cover_append,
      balance, ByteRange.cover_flatMap_chunks]
  · rintro rfl
    exact (List.append_nil _).symm.trans balance
  · rw [← all, List.append_right_eq_self, List.flatMap_eq_nil_iff] at balance
    exact List.eq_nil_iff_forall_not_mem.2 fun r member =>
      r.chunks_ne_nil d.chunkSize (balance r member)

/-- Whoever has pieces to deliver has a transfer of just these. -/
theorem transfers_of_pieces (contacts : List Peer) (pieces : List (List ByteRange))
    (width : Nat) :
    ((Fill.start contacts pieces width).transfers.map fun x => (x.2.contact, x.2.remaining)) =
      (contacts.zip pieces).filter fun x => !x.2.isEmpty := by
  rw [Fill.transfers_start, List.map_map]
  have listed (xs : List Transfer) :
      xs.zipIdx.map (fun x => (x.1.contact, x.1.remaining)) =
        xs.map fun x => (x.contact, x.remaining) := by
    conv_rhs => rw [← List.zipIdx_map_fst 0 xs, List.map_map]
    rfl
  refine (listed _).trans ?_
  induction contacts.zip pieces with
  | nil => rfl
  | cons x xs ih =>
    obtain ⟨contact, pieces⟩ := x
    cases pieces with
    | nil => simpa [Transfer.start?] using ih
    | cons piece later => simpa [Transfer.start?, Transfer.remaining] using ih

/-- As long as a round is not over, some contact is asked for a chunk. -/
theorem exists_at? {f : Fill} (orderly : f.Orderly) (more : f.isOver = false) :
    ∃ slot x, f.at? slot = some x := by
  cases under : f.active with
  | nil =>
    rw [Fill.isOver, under, orderly.busy under] at more
    cases more
  | cons y ys => exact ⟨y.1, y.2, by rw [Fill.at?, under, List.lookup_cons_self]⟩

/-- Whatever the contacts answer, and in whatever order, the account of every transfer of a round is
right: what it asks for, what it writes and what it returns. A round in which a transfer has not
returned goes on, and not for ever. Each further answer is a step of the download, by which the tree
that holds the part file comes to hold what `Exchanging` says. -/
theorem every_byte_is_accounted_for {d : Download} {contacts : List Peer}
    {pieces : List (List ByteRange)} {width : Nat} {p₀ p : Files.Part} {f : Fill}
    {es : List Exchange} {results : List (Nat × List ByteRange)}
    (run : d.Exchanging p₀ (Fill.start contacts pieces width) es results p f) :
    let start := Fill.start contacts pieces width
    (start.transfers.map fun x => (x.2.contact, x.2.remaining)) =
        ((contacts.zip pieces).filter fun x => !x.2.isEmpty) ∧
      (f.transfers.map (·.1) ++ results.map (·.1)).Perm (start.transfers.map (·.1)) ∧
      (f.isOver = false → ∃ slot x, f.at? slot = some x) ∧ es.length + f.work ≤ start.work ∧
      p = ⟨p₀.length, ((fetched d es).map fun c => (c.1.start, c.2)).reverse ++ p₀.writes⟩ ∧
      f.undelivered = results.flatMap (·.2) ∧
      (∀ (t others : Files.Tree) part round slot x answer, f.at? slot = some x →
        t.disk.write = none → t.Hosts others part p →
        ∃ t', t'.Hosts others part (d.store p (x.chunk d.chunkSize) answer) ∧
          d.step t (.filling part round f) (.chunk slot answer) =
            d.settle t' part round (d.afterAnswer f slot answer)) ∧
      ∀ slot x, (slot, x) ∈ start.transfers → Requested d x.remaining (requests es slot) ∧
        (∀ y, (slot, y) ∈ f.transfers →
          (fetched d (requests es slot)).map (·.1) = (requests es slot).map (·.range) ∧
          (fetched d (requests es slot)).map (·.1) ++ y.remaining.flatMap (·.chunks d.chunkSize) =
            x.remaining.flatMap (·.chunks d.chunkSize)) ∧
        ∀ returned, (slot, returned) ∈ results →
          Returned d x.remaining (requests es slot) returned := by
  intro start
  have orderly : start.Orderly := Fill.orderly_start contacts pieces width
  have underway := run.underway orderly
  refine ⟨transfers_of_pieces contacts pieces width, ?_, exists_at? underway.orderly,
    underway.bounded, run.writes, underway.undelivered, ?_, ?_⟩
  · have once := underway.once
    rwa [states, List.map_append, List.map_map, List.map_map] at once
  · intro t others part round slot x answer found writes hosts
    exact step_filling found writes hosts answer
  · intro slot x begun
    obtain ⟨follows, state⟩ := run.follows orderly begun
    have kept : (sessionOf d x es slot).Kept d (x.remaining.flatMap (·.chunks d.chunkSize)) :=
      Session.kept_after ..
    have balance := kept.balance
    have fetch : fetched d (requests es slot) = (sessionOf d x es slot).stored := follows.stored
    refine ⟨requested_of_asked (follows.asked ▸ kept.asked_begins) follows.stops, ?_, ?_⟩
    · intro y working
      have at_ : (slot, .inl y) ∈ states f results :=
        List.mem_append_left _ (List.mem_map_of_mem working)
      have same := run.state_unique orderly state at_
      rw [same] at balance
      rw [fetch, follows.asked]
      exact ⟨(kept.working (by rw [same]; rfl)).symm, balance⟩
    · intro returned ended
      have at_ : (slot, .inr returned) ∈ states f results :=
        List.mem_append_right _ (List.mem_map_of_mem ended)
      have same := run.state_unique orderly state at_
      rw [same] at balance
      refine returned_of_balance ?_ (fetch ▸ balance)
      rw [follows.asked, fetch]
      exact kept.ended (by rw [same]; rfl)

namespace Sample

/-- A file of six bytes, two at a time. -/
def pairs : Download := ⟨⟨"out", "b", "", "f", 6, "v"⟩, 2, 1, 0, 0⟩

def scattered : List ByteRange := [⟨0, 2, by decide, by decide⟩, ⟨4, 4, by decide, by decide⟩]

def behindPair : List ByteRange := [⟨2, 2, by decide, by decide⟩, ⟨4, 4, by decide, by decide⟩]

def pair : Option (FileStatus × Bytes) := some (⟨true, true, 6, "v"⟩, [7, 9])

end Sample

/-- Two bytes are delivered and then none, so that the third one and the second piece are left. -/
theorem a_pair_is_accounted_for :
    ∃ es p f, Sample.pairs.Exchanging (.blank 6) (Fill.start [Sample.honest] [Sample.scattered] 1) es
        [(0, Sample.behindPair)] p f ∧
      Returned Sample.pairs Sample.scattered (requests es 0) Sample.behindPair := by
  have began : Sample.pairs.Exchanging (.blank 6) (Fill.start [Sample.honest] [Sample.scattered] 1)
    [] [] _ _ := .begins
  have pair := began.answered Sample.pair (show Fill.at? _ 0 = some ⟨Sample.honest,
    ⟨0, 2, by decide, by decide⟩, [⟨4, 4, by decide, by decide⟩]⟩ from rfl)
  have none := pair.answered none (show Fill.at? _ 0 = some ⟨Sample.honest,
    ⟨2, 2, by decide, by decide⟩, [⟨4, 4, by decide, by decide⟩]⟩ from rfl)
  obtain ⟨-, -, -, -, -, -, -, account⟩ := every_byte_is_accounted_for none
  exact ⟨_, _, _, none, (account 0 _ List.mem_cons_self).2.2 _ List.mem_cons_self⟩

end Download
end LocalSwarm
