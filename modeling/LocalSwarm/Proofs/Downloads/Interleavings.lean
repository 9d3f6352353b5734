import LocalSwarm.Proofs.Downloads.Sessions
import LocalSwarm.Proofs.Records

/-! Rounds of transfers in which chunks come in and are written in any order. Chunks are written
through one file, so that whoever writes has it for itself, goes to the offset and writes there. Every
such round is one in which answers and writes go together (`Interleaving.exchanging`), and of these it
does not matter in what order they come. Main statement: `order_of_completion_is_irrelevant`. -/
namespace LocalSwarm
open ByteRange (cover cover_append cover_perm)

namespace Files.Part

/-- The first byte that writes bring to an offset is the only one, if only one of them reaches it. -/
theorem findSome?_perm {ws vs : List (Nat × Bytes)} {o : Nat} (same : ws.Perm vs)
    (once : ws.countP (fun w => (byteAt w o).isSome) ≤ 1) :
    ws.findSome? (byteAt · o) = vs.findSome? (byteAt · o) := by
  have reached := same.filterMap (byteAt · o)
  rw [← List.length_filterMap_eq_countP] at once
  rw [← List.head?_filterMap, ← List.head?_filterMap]
  generalize ws.filterMap (byteAt · o) = bytes at once reached ⊢
  match bytes with
  | [] => rw [reached.nil_eq]
  | [b] => rw [List.perm_singleton.1 reached.symm]
  | _ :: _ :: _ => simp at once

/-- As long as no two of them reach the same offset, the order of writes does not matter. -/
theorem content_perm {length : Nat} {ws vs : List (Nat × Bytes)} (same : ws.Perm vs)
    (once : ∀ o, ws.countP (fun w => (byteAt w o).isSome) ≤ 1) (before : List (Nat × Bytes)) :
    content ⟨length, ws ++ before⟩ = content ⟨length, vs ++ before⟩ := by
  refine List.ext_getElem? fun o => ?_
  by_cases inside : o < length
  · rw [getElem?_content _ inside, getElem?_content _ inside, List.findSome?_append,
      List.findSome?_append, findSome?_perm same (once o)]
  · rw [List.getElem?_eq_none, List.getElem?_eq_none] <;>
      exact (length_content _).trans_le (Nat.not_lt.1 inside)

end Files.Part

namespace Download

/-! ### Answers and writes together -/

/-- Whether every contact gives the same answers to its requests, the first one, the second one and so
on, as far as they are made. -/
def Alike (es es' : List Exchange) : Prop :=
  ∀ (slot turn : Nat) (e e' : Exchange), (requests es slot)[turn]? = some e →
    (requests es' slot)[turn]? = some e' → e.answer = e'.answer

theorem Alike.symm {es es' : List Exchange} (alike : Alike es es') : Alike es' es :=
  fun slot turn e e' first second => (alike slot turn e' e second first).symm

/-- A transfer that has returned is not affected by more answers. -/
theorem Session.after_append {d : Download} {x : Transfer}
    {answers : List (Option (FileStatus × Bytes))} {returned : List ByteRange}
    (ended : (Session.after d x answers).state = .inr returned)
    (more : List (Option (FileStatus × Bytes))) :
    Session.after d x (answers ++ more) = Session.after d x answers := by
  induction more using List.reverseRecOn with
  | nil => rw [List.append_nil]
  | append_singleton more answer ih =>
    rw [← List.append_assoc, Session.after_concat, ih, Session.take_of_inr ended]

theorem exchanges_ext {mine mine' : List Exchange} {slot : Nat} (own : ∀ e ∈ mine, e.slot = slot)
    (own' : ∀ e ∈ mine', e.slot = slot) (ranges : mine.map (·.range) = mine'.map (·.range))
    (answers : mine.map (·.answer) = mine'.map (·.answer)) : mine = mine' := by
  induction mine generalizing mine' with
  | nil => exact (List.map_eq_nil_iff.1 ranges.symm).symm
  | cons e es ih =>
    obtain ⟨e', es', rfl, range, ranges⟩ := List.map_eq_cons_iff.1 ranges.symm
    obtain ⟨answer, answers⟩ := List.cons.inj answers
    obtain ⟨here, own⟩ := List.forall_mem_cons.1 own
    obtain ⟨here', own'⟩ := List.forall_mem_cons.1 own'
    rw [ih own own' ranges.symm answers,
      Exchange.ext (here.trans here'.symm) range.symm answer]

namespace Exchanging

variable {d : Download} {p₀ p p' : Files.Part} {f₀ f₀' f f' : Fill} {es es' : List Exchange}
  {results results' : List (Nat × List ByteRange)}

/-- What a round has to do is written or still to be done. -/
theorem covered (run : d.Exchanging p₀ f₀ es results p f) (o : Nat) :
    cover f₀.left o = cover ((fetched d es).map (·.1)) o + cover f.left o := by
  induction run with
  | begins => exact (Nat.zero_add _).symm
  | @answered es results p f slot x answer _ found ih =>
    rw [ih, fetched_concat, List.map_append, cover_append, brought, Nat.add_assoc]
    cases taken : d.accepted (x.chunk d.chunkSize) answer with
    | none =>
      rw [afterAnswer_refused found taken, Fill.cover_left_refuse found]
      exact congrArg _ (Nat.zero_add _).symm
    | some data =>
      rw [afterAnswer_accepted found taken, Fill.cover_left_deliver found d.chunkSize]
      rfl

/-- When a round is over, all transfers have returned. -/
theorem states_of_isOver (ends : f.isOver = true) :
    states f results = results.map fun r => (r.1, .inr r.2) := by
  rw [states, Fill.isOver_iff.1 ends]
  rfl

theorem returned (run : d.Exchanging p₀ f₀ es results p f) (orderly : f₀.Orderly)
    (ends : f.isOver = true) {slot : Nat} {x : Transfer} (begun : (slot, x) ∈ f₀.transfers) :
    ∃ r, (sessionOf d x es slot).state = .inr r ∧ (slot, r) ∈ results := by
  have state := (run.follows orderly begun).2
  rw [states_of_isOver ends] at state
  obtain ⟨⟨number, r⟩, member, same⟩ := List.mem_map.1 state
  obtain ⟨rfl, ended⟩ := Prod.mk.inj same
  exact ⟨r, ended.symm, member⟩

/-- Once a transfer has returned, it has made no fewer requests than in another round. -/
theorem requests_eq_of_le (run : d.Exchanging p₀ f₀ es results p f)
    (run' : d.Exchanging p₀ f₀' es' results' p' f') (orderly : f₀.Orderly) (orderly' : f₀'.Orderly)
    (alike : Alike es es') (ends : f.isOver = true) {slot : Nat} {x : Transfer}
    (begun : (slot, x) ∈ f₀.transfers) (begun' : (slot, x) ∈ f₀'.transfers)
    (fewer : (requests es slot).length ≤ (requests es' slot).length) :
    requests es slot = requests es' slot := by
  obtain ⟨r, ended, -⟩ := run.returned orderly ends begun
  have follows := (run.follows orderly begun).1
  have follows' := (run'.follows orderly' begun').1
  obtain ⟨more, longer⟩ : (requests es slot).map (·.answer) <+: (requests es' slot).map (·.answer) := by
    rw [List.prefix_iff_getElem?]
    intro turn inside
    rw [List.length_map] at inside
    have second := List.getElem?_eq_getElem (inside.trans_le fewer)
    rw [List.getElem?_map, second, List.getElem_map,
      alike slot turn _ _ (List.getElem?_eq_getElem inside) second]
    rfl
  have same : sessionOf d x es' slot = sessionOf d x es slot := by
    rw [sessionOf, ← longer]
    exact Session.after_append ended more
  have ranges : (requests es slot).map (·.range) = (requests es' slot).map (·.range) := by
    rw [follows.asked, follows'.asked, same]
  have lengths : (requests es slot).length = (requests es' slot).length := by
    simpa using congrArg List.length ranges
  have answers : (requests es slot).map (·.answer) = (requests es' slot).map (·.answer) :=
    List.IsPrefix.eq_of_length ⟨more, longer⟩ (by simpa using lengths)
  have own {es : List Exchange} : ∀ e ∈ requests es slot, e.slot = slot := fun e member =>
    beq_iff_eq.1 (List.mem_filter.1 member).2
  exact exchanges_ext own own ranges answers

/-- Two rounds that are over have made the same requests, and have got the same answers to them. -/
theorem requests_eq (run : d.Exchanging p₀ f₀ es results p f)
    (run' : d.Exchanging p₀ f₀' es' results' p' f') (orderly : f₀.Orderly) (orderly' : f₀'.Orderly)
    (same : f₀'.transfers = f₀.transfers) (alike : Alike es es') (ends : f.isOver = true)
    (ends' : f'.isOver = true) (slot : Nat) : requests es slot = requests es' slot := by
  by_cases begun : slot ∈ f₀.transfers.map (·.1)
  · obtain ⟨⟨number, x⟩, here, rfl⟩ := List.mem_map.1 begun
    have here' : (number, x) ∈ f₀'.transfers := same ▸ here
    rcases Nat.le_total (requests es number).length (requests es' number).length with le | le
    · exact run.requests_eq_of_le run' orderly orderly' alike ends here here' le
    · exact (run'.requests_eq_of_le run orderly' orderly alike.symm ends' here' here le).symm
  · have none {fs : List Exchange} (ours : ∀ e ∈ fs, e.slot ∈ f₀.transfers.map (·.1)) :
        requests fs slot = [] := by
      refine requests_eq_nil fun member => begun ?_
      obtain ⟨e, listed, rfl⟩ := List.mem_map.1 member
      exact ours e listed
    rw [none (run.underway orderly).ours, none (same ▸ (run'.underway orderly').ours)]

theorem mem_results (run : d.Exchanging p₀ f₀ es results p f)
    (run' : d.Exchanging p₀ f₀' es' results' p' f') (orderly : f₀.Orderly) (orderly' : f₀'.Orderly)
    (same : f₀'.transfers = f₀.transfers) (mine : ∀ slot, requests es slot = requests es' slot)
    (ends' : f'.isOver = true) {slot : Nat} {returned : List ByteRange}
    (member : (slot, returned) ∈ results) : (slot, returned) ∈ results' := by
  have ended : (slot, .inr returned) ∈ states f results :=
    List.mem_append_right _ (List.mem_map_of_mem member)
  have listed : slot ∈ f₀.transfers.map (·.1) :=
    (run.underway orderly).once.mem_iff.1 (List.mem_map_of_mem (f := Prod.fst) ended)
  obtain ⟨⟨number, x⟩, begun, rfl⟩ := List.mem_map.1 listed
  have state := run.state_unique orderly (run.follows orderly begun).2 ended
  obtain ⟨r, state', member'⟩ := run'.returned orderly' ends' (same ▸ begun)
  rw [sessionOf, mine] at state
  cases state.symm.trans state'
  exact member'

theorem results_nodup (run : d.Exchanging p₀ f₀ es results p f) (orderly : f₀.Orderly) :
    results.Nodup := by
  have once := (run.underway orderly).once.nodup_iff.2 orderly.distinct
  rw [states, List.map_append, List.map_map, List.map_map] at once
  exact List.Nodup.of_map _ once.of_append_right

theorem undelivered_perm (run : d.Exchanging p₀ f₀ es results p f)
    (run' : d.Exchanging p₀ f₀' es' results' p' f') (orderly : f₀.Orderly) (orderly' : f₀'.Orderly)
    (same : f₀'.transfers = f₀.transfers) (mine : ∀ slot, requests es slot = requests es' slot)
    (ends : f.isOver = true) (ends' : f'.isOver = true) (none : f₀'.undelivered = f₀.undelivered) :
    f.undelivered.Perm f'.undelivered := by
  have results : results.Perm results' := by
    refine (List.perm_ext_iff_of_nodup (run.results_nodup orderly)
      (run'.results_nodup orderly')).2 fun r => ⟨fun member => ?_, fun member => ?_⟩
    · exact run.mem_results run' orderly orderly' same mine ends' member
    · exact run'.mem_results run orderly' orderly same.symm (fun slot => (mine slot).symm) ends member
  rw [(run.underway orderly).undelivered, (run'.underway orderly').undelivered, none]
  exact (results.flatMap_right _).append_left _

/-- No two chunks that a round writes reach the same offset. -/
theorem countP_writes_le (run : d.Exchanging p₀ f₀ es results p f)
    (once : ∀ o, cover f₀.left o ≤ 1) (o : Nat) :
    ((fetched d es).map fun c => (c.1.start, c.2)).countP
      (fun w => (Files.Part.byteAt w o).isSome) ≤ 1 := by
  refine le_trans ?_ ((Nat.le_add_right _ _).trans (run.covered o ▸ once o))
  rw [cover, List.countP_map, List.countP_map]
  refine List.countP_mono_left fun c member reached => ?_
  obtain ⟨e, -, chunk⟩ := List.mem_filterMap.1 member
  obtain ⟨data, taken, rfl⟩ := Option.map_eq_some_iff.1 chunk
  obtain ⟨-, -, -, length⟩ := length_of_accepted taken
  have within := Files.Part.byteAt_isSome_iff.1 reached
  have short : e.range.length ≤ e.range.size := Nat.min_le_left ..
  have := e.range.start_le_stop
  dsimp only [ByteRange.size, Function.comp_apply] at *
  rw [ByteRange.holds_iff]
  omega

end Exchanging

/-- Exchanges are the same, in whatever order, if those of every transfer are the same. -/
theorem perm_of_requests {es es' : List Exchange}
    (mine : ∀ slot, requests es slot = requests es' slot) : es.Perm es' := by
  classical
  refine List.perm_iff_count.2 fun e => ?_
  have own (fs : List Exchange) : (requests fs e.slot).count e = fs.count e :=
    List.count_filter (beq_self_eq_true e.slot)
  rw [← own es, ← own es', mine]

/-- What a round writes and what it leaves missing depends on what every single contact answers, and
neither on the order of the answers nor on how many are asked at once. -/
theorem Exchanging.same_end {d : Download} {contacts : List Peer} {pieces : List (List ByteRange)}
    {width width' : Nat} {p₀ p p' : Files.Part} {f f' : Fill} {es es' : List Exchange}
    {results results' : List (Nat × List ByteRange)}
    (run : d.Exchanging p₀ (Fill.start contacts pieces width) es results p f)
    (run' : d.Exchanging p₀ (Fill.start contacts pieces width') es' results' p' f')
    (alike : Alike es es') (ends : f.isOver = true) (ends' : f'.isOver = true)
    (once : ∀ o, cover (Fill.start contacts pieces width).left o ≤ 1) :
    p.content = p'.content ∧ f.pending = f'.pending := by
  have orderly := Fill.orderly_start contacts pieces width
  have orderly' := Fill.orderly_start contacts pieces width'
  have same : (Fill.start contacts pieces width').transfers =
      (Fill.start contacts pieces width).transfers := by
    rw [Fill.transfers_start, Fill.transfers_start]
  have mine := run.requests_eq run' orderly orderly' same alike ends ends'
  constructor
  · have chunks : (fetched d es).Perm (fetched d es') := (perm_of_requests mine).filterMap _
    have writes := (List.reverse_perm _).trans
      ((chunks.map fun c => (c.1.start, c.2)).trans (List.reverse_perm _).symm)
    rw [run.writes, run'.writes]
    refine Files.Part.content_perm writes (fun o => ?_) p₀.writes
    rw [List.countP_reverse]
    exact run.countP_writes_le once o
  · have left := run.undelivered_perm run' orderly orderly' same mine ends ends' rfl
    have few (o : Nat) : cover f.undelivered o ≤ 1 := by
      rw [← Fill.left_of_isOver ends]
      exact (Nat.le_add_left _ _).trans (run.covered o ▸ once o)
    have few' (o : Nat) : cover f'.undelivered o ≤ 1 := cover_perm left o ▸ few o
    refine List.Perm.eq_of_pairwise ?_ (ordered_pending f few) (ordered_pending f' few')
      (f.pending_perm.trans (left.trans f'.pending_perm.symm))
    intro a b _ _ before after
    have := a.start_le_stop
    have := b.start_le_stop
    omega

/-! ### Answers and writes apart -/

/-- A chunk that has come in, with its data. -/
structure Arrival extends Exchange where
  data : Bytes

/-- Who may write: nobody, someone who has yet to go to the offset, or someone who has gone there. -/
inductive Access where
  | free
  | taken (c : Arrival)
  | sought (c : Arrival)

def Access.holder? : Access → Option Arrival
  | free => none
  | taken c => some c
  | sought c => some c

/-- A round of transfers that write through one file: the chunks that have come in but are not
written yet, who may write, and the offset that the next write goes to. -/
structure Bench where
  fill : Fill
  part : Files.Part
  cursor : Nat
  held : List Arrival
  access : Access

namespace Bench

/-- The chunk a transfer is asked for, unless it has come in already. -/
def awaited? (b : Bench) (slot : Nat) : Option Transfer :=
  if slot ∈ b.held.map (·.slot) then none else b.fill.at? slot

def receive (b : Bench) (c : Arrival) : Bench := { b with held := b.held ++ [c] }

def refuse (b : Bench) (slot : Nat) : Bench := { b with fill := b.fill.refuse slot }

def take (b : Bench) (c : Arrival) : Bench := { b with access := .taken c }

def seek (b : Bench) (c : Arrival) : Bench :=
  { b with cursor := c.range.start, access := .sought c }

/-- Write where the file stands. The transfer goes on after that. -/
def write (b : Bench) (c : Arrival) (limit : Nat) : Bench where
  fill := b.fill.deliver c.slot limit
  part := b.part.write b.cursor c.data
  cursor := b.cursor + c.data.length
  held := b.held.filter (·.slot != c.slot)
  access := .free

end Bench

/-- A round of transfers whose answers come in and whose chunks are written in any order. The
exchanges are listed as the answers come in. -/
inductive Interleaving (d : Download) (p₀ : Files.Part) (f₀ : Fill) :
    List Exchange → Bench → Prop where
  | begins (cursor : Nat) : Interleaving d p₀ f₀ [] ⟨f₀, p₀, cursor, [], .free⟩
  | refused {es : List Exchange} {b : Bench} {slot : Nat} {x : Transfer}
      {answer : Option (FileStatus × Bytes)} : Interleaving d p₀ f₀ es b →
      b.awaited? slot = some x → d.accepted (x.chunk d.chunkSize) answer = none →
      Interleaving d p₀ f₀ (es ++ [⟨slot, x.chunk d.chunkSize, answer⟩]) (b.refuse slot)
  | arrived {es : List Exchange} {b : Bench} {slot : Nat} {x : Transfer}
      {answer : Option (FileStatus × Bytes)} {data : Bytes} : Interleaving d p₀ f₀ es b →
      b.awaited? slot = some x → d.accepted (x.chunk d.chunkSize) answer = some data →
      Interleaving d p₀ f₀ (es ++ [⟨slot, x.chunk d.chunkSize, answer⟩])
        (b.receive ⟨⟨slot, x.chunk d.chunkSize, answer⟩, data⟩)
  | taken {es : List Exchange} {b : Bench} {c : Arrival} : Interleaving d p₀ f₀ es b →
      b.access = .free → c ∈ b.held → Interleaving d p₀ f₀ es (b.take c)
  | sought {es : List Exchange} {b : Bench} {c : Arrival} : Interleaving d p₀ f₀ es b →
      b.access = .taken c → Interleaving d p₀ f₀ es (b.seek c)
  | written {es : List Exchange} {b : Bench} {c : Arrival} : Interleaving d p₀ f₀ es b →
      b.access = .sought c → Interleaving d p₀ f₀ es (b.write c d.chunkSize)

/-- A transfer goes on as it is while another one's request is answered. -/
theorem at?_afterAnswer {d : Download} {f : Fill} {slot number : Nat} {x y : Transfer}
    (orderly : f.Orderly) (found : f.at? slot = some x) (other : f.at? number = some y)
    (differ : number ≠ slot) (answer : Option (FileStatus × Bytes)) :
    (d.afterAnswer f slot answer).at? number = some y := by
  have keeps : f.Keeps (d.afterAnswer f slot answer) slot := by
    cases taken : d.accepted (x.chunk d.chunkSize) answer with
    | none => exact (afterAnswer_refused found taken).symm ▸ Fill.keeps_refuse orderly found
    | some data =>
      exact (afterAnswer_accepted found taken).symm ▸ Fill.keeps_deliver orderly found d.chunkSize
  have active : (number, y) ∈ f.active := mem_of_lookup_eq_some other
  have kept : (number, y) ∈ f.others slot :=
    (List.mem_cons.1 ((perm_of_lookup found).mem_iff.1 active)).resolve_left fun same =>
      differ (congrArg Prod.fst same)
  exact (lookup_eq_some_iff_mem keeps.distinct).2 (keeps.others _ kept)

/-- A chunk that has come in is the one that its transfer waits for. -/
def Fits (d : Download) (f : Fill) (c : Arrival) : Prop :=
  ∃ x, f.at? c.slot = some x ∧ c.range = x.chunk d.chunkSize ∧
    d.accepted (x.chunk d.chunkSize) c.answer = some c.data

/-- What a round of transfers that write through one file keeps to. It is a round in which the
answers whose chunks are not written yet have not come in. -/
structure Coherent (d : Download) (p₀ : Files.Part) (f₀ : Fill) (es : List Exchange) (b : Bench) :
    Prop where
  exchanging : ∃ done results, d.Exchanging p₀ f₀ done results b.part b.fill ∧
    ∀ slot, requests es slot = requests done slot ++ requests (b.held.map (·.toExchange)) slot
  distinct : (b.held.map (·.slot)).Nodup
  fits : ∀ c ∈ b.held, Fits d b.fill c
  holder : ∀ c ∈ b.access.holder?, c ∈ b.held
  cursor : ∀ c, b.access = .sought c → b.cursor = c.range.start

theorem Bench.awaited?_eq_some_iff {b : Bench} {slot : Nat} {x : Transfer} :
    b.awaited? slot = some x ↔ slot ∉ b.held.map (·.slot) ∧ b.fill.at? slot = some x := by
  unfold awaited?
  split
  · next held => exact ⟨nofun, fun both => absurd held both.1⟩
  · next free => exact ⟨fun found => ⟨free, found⟩, And.right⟩

namespace Coherent

variable {d : Download} {p₀ : Files.Part} {f₀ : Fill} {es : List Exchange} {b : Bench}

theorem orderly (k : Coherent d p₀ f₀ es b) (orderly : f₀.Orderly) : b.fill.Orderly := by
  obtain ⟨done, results, run, -⟩ := k.exchanging
  exact (run.underway orderly).orderly

/-- A transfer waits for one chunk to be written. -/
theorem requests_held {held : List Arrival} (distinct : (held.map (·.slot)).Nodup) {c : Arrival}
    (member : c ∈ held) : requests (held.map (·.toExchange)) c.slot = [c.toExchange] := by
  obtain ⟨before, behind, rfl⟩ := List.append_of_mem member
  rw [List.map_append, List.map_cons] at distinct
  obtain ⟨-, later, apart⟩ := List.nodup_append.1 distinct
  have none : c.slot ∉ (before.map (·.toExchange)).map (·.slot) := by
    rw [List.map_map]
    exact fun inside => apart _ inside _ List.mem_cons_self rfl
  have none' : c.slot ∉ (behind.map (·.toExchange)).map (·.slot) := by
    rw [List.map_map]
    exact (List.nodup_cons.1 later).1
  rw [List.map_append, List.map_cons, requests_append, requests_eq_nil none,
    ← List.singleton_append, requests_append, requests_self, requests_eq_nil none']
  rfl

theorem requests_written {held : List Arrival} (distinct : (held.map (·.slot)).Nodup) {c : Arrival}
    (member : c ∈ held) (slot : Nat) :
    requests (held.map (·.toExchange)) slot = requests [c.toExchange] slot ++
      requests ((held.filter (·.slot != c.slot)).map (·.toExchange)) slot := by
  by_cases same : c.slot = slot
  · subst same
    rw [requests_held distinct member, requests_self]
    refine (List.append_right_eq_self.2 (requests_eq_nil fun inside => ?_)).symm
    rw [List.map_map] at inside
    obtain ⟨e, left, here⟩ := List.mem_map.1 inside
    exact bne_iff_ne.1 (List.mem_filter.1 left).2 here
  · rw [requests_other same, List.nil_append, requests, requests, List.filter_map, List.filter_map,
      List.filter_filter]
    congr 1
    refine List.filter_congr fun e _ => ?_
    by_cases here : e.slot = slot
    · simp [here, Ne.symm same]
    · simp [here]

theorem refuse (k : Coherent d p₀ f₀ es b) (orderly : f₀.Orderly) {slot : Nat} {x : Transfer}
    {answer : Option (FileStatus × Bytes)} (awaited : b.awaited? slot = some x)
    (refused : d.accepted (x.chunk d.chunkSize) answer = none) :
    Coherent d p₀ f₀ (es ++ [⟨slot, x.chunk d.chunkSize, answer⟩]) (b.refuse slot) := by
  obtain ⟨free, found⟩ := Bench.awaited?_eq_some_iff.1 awaited
  obtain ⟨done, results, run, mine⟩ := k.exchanging
  have next := run.answered answer found
  rw [afterAnswer_refused found refused, store_refused refused] at next
  refine ⟨⟨_, _, next, fun number => ?_⟩, k.distinct, fun c member => ?_, k.holder, k.cursor⟩
  · have held : (b.refuse slot).held = b.held := rfl
    rw [requests_append, requests_append, mine, List.append_assoc, List.append_assoc, held]
    congr 1
    by_cases same : slot = number
    · subst same
      have none : slot ∉ (b.held.map (·.toExchange)).map (·.slot) := by rwa [List.map_map]
      rw [requests_eq_nil none]
      exact (List.append_nil _).symm
    · rw [requests_other same]
      exact List.append_nil _
  · obtain ⟨y, at_, range, taken⟩ := k.fits c member
    refine ⟨y, ?_, range, taken⟩
    have kept := at?_afterAnswer (d := d) (k.orderly orderly) found at_
      (fun same => free (same ▸ List.mem_map_of_mem member)) answer
    rwa [afterAnswer_refused found refused] at kept

theorem receive (k : Coherent d p₀ f₀ es b) {slot : Nat} {x : Transfer}
    {answer : Option (FileStatus × Bytes)} {data : Bytes} (awaited : b.awaited? slot = some x)
    (taken : d.accepted (x.chunk d.chunkSize) answer = some data) :
    Coherent d p₀ f₀ (es ++ [⟨slot, x.chunk d.chunkSize, answer⟩])
      (b.receive ⟨⟨slot, x.chunk d.chunkSize, answer⟩, data⟩) := by
  obtain ⟨free, found⟩ := Bench.awaited?_eq_some_iff.1 awaited
  obtain ⟨done, results, run, mine⟩ := k.exchanging
  refine ⟨⟨done, results, run, fun number => ?_⟩, ?_, ?_, ?_, k.cursor⟩
  · rw [requests_append, mine, List.append_assoc, Bench.receive, List.map_append, requests_append]
    rfl
  · rw [Bench.receive, List.map_append]
    exact List.Nodup.append k.distinct (List.nodup_singleton slot)
      (List.disjoint_singleton.2 free)
  · exact List.forall_mem_append.2 ⟨k.fits, List.forall_mem_singleton.2 ⟨x, found, rfl, taken⟩⟩
  · exact fun c holds => List.mem_append_left _ (k.holder c holds)

theorem write (k : Coherent d p₀ f₀ es b) (orderly : f₀.Orderly) {c : Arrival}
    (sought : b.access = .sought c) : Coherent d p₀ f₀ es (b.write c d.chunkSize) := by
  obtain ⟨done, results, run, mine⟩ := k.exchanging
  have member : c ∈ b.held := k.holder c (by rw [sought]; rfl)
  obtain ⟨x, found, range, taken⟩ := k.fits c member
  have next := run.answered c.answer found
  rw [afterAnswer_accepted found taken, store_accepted taken, ← range, ← k.cursor c sought] at next
  refine ⟨⟨_, _, next, fun number => ?_⟩, ?_, fun a left => ?_, nofun, nofun⟩
  · rw [requests_append, mine, requests_written k.distinct member, List.append_assoc]
    rfl
  · exact (List.filter_sublist.map _).nodup k.distinct
  · obtain ⟨held, other⟩ := List.mem_filter.1 left
    obtain ⟨y, at_, fit⟩ := k.fits a held
    have kept := at?_afterAnswer (d := d) (k.orderly orderly) found at_ (bne_iff_ne.1 other) c.answer
    rw [afterAnswer_accepted found taken] at kept
    exact ⟨y, kept, fit⟩

end Coherent

namespace Interleaving

variable {d : Download} {p₀ : Files.Part} {f₀ : Fill} {es : List Exchange} {b : Bench}

theorem coherent (run : d.Interleaving p₀ f₀ es b) (orderly : f₀.Orderly) :
    Coherent d p₀ f₀ es b := by
  induction run with
  | begins cursor =>
    exact ⟨⟨[], [], .begins, fun _ => rfl⟩, List.nodup_nil, nofun, nofun, nofun⟩
  | refused _ awaited refused ih => exact ih.refuse orderly awaited refused
  | arrived _ awaited taken ih => exact ih.receive awaited taken
  | taken _ free member ih =>
    refine ⟨ih.exchanging, ih.distinct, ih.fits, fun c holds => ?_, nofun⟩
    cases holds
    exact member
  | sought _ taken ih =>
    refine ⟨ih.exchanging, ih.distinct, ih.fits, fun c holds => ?_, fun c same => ?_⟩
    · cases holds
      exact ih.holder _ (by rw [taken]; rfl)
    · cases same
      rfl
  | written _ sought ih => exact ih.write orderly sought

/-- When a round is over, all chunks that came in are written: it is a round in which answers and
writes go together. -/
theorem exchanging (run : d.Interleaving p₀ f₀ es b) (orderly : f₀.Orderly)
    (ends : b.fill.isOver = true) :
    ∃ done results, d.Exchanging p₀ f₀ done results b.part b.fill ∧
      ∀ slot, requests done slot = requests es slot := by
  obtain ⟨⟨done, results, exchanging, mine⟩, -, fits, -, -⟩ := run.coherent orderly
  have none : b.held = [] := by
    refine List.eq_nil_iff_forall_not_mem.2 fun c member => ?_
    obtain ⟨x, found, -⟩ := fits c member
    have under := Fill.mem_transfers found
    rw [Fill.isOver_iff.1 ends] at under
    cases under
  refine ⟨done, results, exchanging, fun slot => ?_⟩
  rw [mine, none]
  exact (List.append_nil _).symm

end Interleaving

/-- Chunks may be written as they come in. -/
theorem Exchanging.interleaving {d : Download} {p₀ p : Files.Part} {f₀ f : Fill}
    {es : List Exchange} {results : List (Nat × List ByteRange)}
    (run : d.Exchanging p₀ f₀ es results p f) :
    ∃ cursor, d.Interleaving p₀ f₀ es ⟨f, p, cursor, [], .free⟩ := by
  induction run with
  | begins => exact ⟨0, .begins 0⟩
  | @answered es results p f slot x answer _ found ih =>
    obtain ⟨cursor, run⟩ := ih
    have awaited : Bench.awaited? ⟨f, p, cursor, [], .free⟩ slot = some x :=
      Bench.awaited?_eq_some_iff.2 ⟨List.not_mem_nil, found⟩
    cases taken : d.accepted (x.chunk d.chunkSize) answer with
    | none =>
      rw [afterAnswer_refused found taken, store_refused taken]
      exact ⟨cursor, run.refused awaited taken⟩
    | some data =>
      rw [afterAnswer_accepted found taken, store_accepted taken]
      have written := (((run.arrived awaited taken).taken rfl List.mem_cons_self).sought rfl).written rfl
      simp only [Bench.write, Bench.seek, Bench.take, Bench.receive, List.nil_append,
        List.filter_singleton, bne_self_eq_false] at written
      exact ⟨_, written⟩

theorem Alike.congr {es es' fs fs' : List Exchange} (alike : Alike es es')
    (same : ∀ slot, requests fs slot = requests es slot)
    (same' : ∀ slot, requests fs' slot = requests es' slot) : Alike fs fs' := by
  intro slot turn e e' first second
  rw [same] at first
  rw [same'] at second
  exact alike slot turn e e' first second

/-- What is missing when a round begins is shared out without overlaps. -/
theorem Missing.cover_start_le {size : Nat} {written pending : List ByteRange}
    (missing : Missing size written pending) {contacts : List Peer} {chunk : Nat}
    {pieces : List (List ByteRange)}
    (parted : Partition.partition pending contacts.length chunk = .ok pieces) (width o : Nat) :
    cover (Fill.start contacts pieces width).left o ≤ 1 := by
  cases contacts with
  | nil =>
    rw [Fill.left, Fill.transfers_start]
    exact Nat.zero_le 1
  | cons contact contacts =>
    obtain ⟨length, same⟩ := Partition.cover_partition (Nat.succ_pos _) parted
    rw [Fill.cover_left_start (Nat.le_of_eq length), same]
    exact missing.exact.le_one o

/-- In a round of transfers it does not matter in what order chunks come in and are written, nor how
many contacts are asked at once, as long as every contact gives the same answers to its own requests:
the part file ends up with the same bytes, and the same ranges are missing. -/
theorem order_of_completion_is_irrelevant {d : Download} {online : List Peer → Prop}
    {t₀ t : Files.Tree} {h : List Happening} {rounds : List Round} {stage : Stage} {r : Round}
    {contacts : List Peer} {pieces : List (List ByteRange)} {width width' : Nat} {p₀ : Files.Part}
    {es es' : List Exchange} {b b' : Bench} (course : Course d online t₀ h rounds t stage)
    (begun : r ∈ rounds)
    (parted : Partition.partition r.pending contacts.length d.chunkSize = .ok pieces)
    (run : d.Interleaving p₀ (Fill.start contacts pieces width) es b)
    (run' : d.Interleaving p₀ (Fill.start contacts pieces width') es' b') (alike : Alike es es')
    (ends : b.fill.isOver = true) (ends' : b'.fill.isOver = true) :
    b.part.content = b'.part.content ∧ b.fill.pending = b'.fill.pending := by
  obtain ⟨done, _, exchanging, same⟩ := run.exchanging (Fill.orderly_start ..) ends
  obtain ⟨done', _, exchanging', same'⟩ := run'.exchanging (Fill.orderly_start ..) ends'
  have once := (course.accounted.logged r begun).cover_start_le parted width
  exact exchanging.same_end exchanging' (alike.congr same same') ends ends' once

namespace Sample

def asked : List Happening := [answers 0 idle true, answers 1 honest true]

def begins : Except Fault (Files.Tree × Stage) → Bool
  | .ok (_, .filling ..) => true
  | _ => false

theorem round : ∃ t stage, Course download (fun _ => True) site.files asked
    [⟨asked, [download.all]⟩] t stage := by
  have begun : Course download (fun _ => True) site.files ([] ++ asked) [] site.files .probing :=
    ((Course.start (by decide +kernel)).checked 0 idle _ rfl).checked 1 honest _ rfl
  have filling : begins (download.step site.files .probing (.probed [idle, honest])) = true := by
    decide +kernel
  have probed : Probed download.request.query download.request.size download.request.version
      [idle, honest] asked [idle, honest] := by
    refine ⟨.refl _, fun p member => ?_, fun p member => .inl member⟩
    rcases List.mem_pair.1 member with rfl | rfl
    · exact ⟨0, _, List.mem_cons_self, by decide +kernel⟩
    · exact ⟨1, _, List.mem_cons_of_mem _ List.mem_cons_self, by decide +kernel⟩
  cases step : download.step site.files .probing (.probed [idle, honest]) with
  | error =>
    rw [step] at filling
    cases filling
  | ok next =>
    obtain ⟨t, stage⟩ := next
    rw [step] at filling
    have course := begun.probed rfl (by decide) trivial probed step
    cases stage with
    | filling => exact ⟨_, _, course⟩
    | _ => cases filling

/-- What the contacts are to be asked for in a round, with so many at once. -/
def dealt (width : Nat) : Fill := Fill.start [idle, honest] [[first], [second]] width

/-- A byte from either contact. -/
def fromIdle : Exchange := ⟨0, first, some (status, [7])⟩

def fromHonest : Exchange := ⟨1, second, some (status, [9])⟩

theorem byteOfIdle : download.accepted first (some (status, [7])) = some [7] := by
  decide +kernel

theorem byteOfHonest : download.accepted second (some (status, [9])) = some [9] := by
  decide +kernel

/-- One contact after the other. -/
theorem inTurn : ∃ b, download.Interleaving (.blank 2) (dealt 1) [fromIdle, fromHonest] b ∧
    b.fill.isOver = true := by
  have began : download.Interleaving (.blank 2) (dealt 1) [] _ := .begins 0
  have one := began.arrived (show Bench.awaited? _ 0 = some ⟨idle, first, []⟩ from rfl) byteOfIdle
  have written := ((one.taken rfl List.mem_cons_self).sought rfl).written rfl
  have both := written.arrived (show Bench.awaited? _ 1 = some ⟨honest, second, []⟩ from rfl)
    byteOfHonest
  exact ⟨_, ((both.taken rfl List.mem_cons_self).sought rfl).written rfl, rfl⟩

/-- Both at once, and the byte that came last is written first. -/
theorem outOfTurn : ∃ b, download.Interleaving (.blank 2) (dealt 2) [fromHonest, fromIdle] b ∧
    b.fill.isOver = true := by
  have began : download.Interleaving (.blank 2) (dealt 2) [] _ := .begins 0
  have one := began.arrived (show Bench.awaited? _ 1 = some ⟨honest, second, []⟩ from rfl)
    byteOfHonest
  have both := one.arrived (show Bench.awaited? _ 0 = some ⟨idle, first, []⟩ from rfl) byteOfIdle
  have written := ((both.taken rfl (List.mem_cons_of_mem _ List.mem_cons_self)).sought rfl).written rfl
  exact ⟨_, ((written.taken rfl List.mem_cons_self).sought rfl).written rfl, rfl⟩

theorem alike : Alike [fromIdle, fromHonest] [fromHonest, fromIdle] := by
  have same (slot : Nat) :
      requests [fromIdle, fromHonest] slot = requests [fromHonest, fromIdle] slot := by
    by_cases zero : 0 = slot
    · subst zero
      rfl
    · have other : fromIdle.slot ≠ slot := zero
      change requests ([fromIdle] ++ [fromHonest]) slot = requests ([fromHonest] ++ [fromIdle]) slot
      rw [requests_append, requests_append, requests_other other, List.append_nil, List.nil_append]
  intro slot turn e e' here there
  rw [same] at here
  cases here.symm.trans there
  rfl

end Sample

/-- Two contacts deliver a byte each. In one round they are asked one after the other, in the other
round at once, and the first byte is written last. -/
theorem two_orders_of_completion :
    ∃ b b', Sample.download.Interleaving (.blank 2) (Sample.dealt 1)
        [Sample.fromIdle, Sample.fromHonest] b ∧
      Sample.download.Interleaving (.blank 2) (Sample.dealt 2)
        [Sample.fromHonest, Sample.fromIdle] b' ∧
      b.part.content = b'.part.content ∧ b.fill.pending = b'.fill.pending := by
  obtain ⟨t, stage, course⟩ := Sample.round
  obtain ⟨b, run, ends⟩ := Sample.inTurn
  obtain ⟨b', run', ends'⟩ := Sample.outOfTurn
  have parted : Partition.partition [Sample.download.all] [Sample.idle, Sample.honest].length
      Sample.download.chunkSize = .ok [[Sample.first], [Sample.second]] := by
    decide +kernel
  exact ⟨b, b', run, run', order_of_completion_is_irrelevant course List.mem_cons_self parted run run'
    Sample.alike ends ends'⟩

end Download
end LocalSwarm
