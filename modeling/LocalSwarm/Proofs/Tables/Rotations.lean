import LocalSwarm.Proofs.Tables.Closest
import LocalSwarm.Proofs.Tables.Stories

/-! What becomes of a table when all of its online contacts are asked something, one after the
other. Whoever answers comes to the end of its bucket, so that when all were asked those who have
answered stand in the order in which they stood, and they alone are sure to be online still. Main
statements: `Polling.silent` and `Polling.answered` for one contact, and `Polling.ids_online`. -/
namespace LocalSwarm

theorem Contact.isOnline_iff_failures {c : Contact} {now : Moment} :
    c.isOnline now = true ↔ c.failures < failureLimit := by
  rw [isOnline_iff, ne_eq, status_eq_bad_iff, Nat.not_le]

/-- What comes to the end of a list also comes to the end of what is kept of it. -/
theorem filter_erase_concat {α : Type} [DecidableEq α] {xs front : List α} {keep : α → Bool} {x : α}
    (first : xs.filter keep = x :: front) : (xs.erase x ++ [x]).filter keep = front ++ [x] := by
  have kept : keep x = true := (List.mem_filter.1 (first ▸ List.mem_cons_self)).2
  rw [List.filter_append, ← List.erase_filter, first, List.erase_cons_head,
    List.filter_singleton, kept, cond_true]

theorem flatMap_eq_of_others {α β : Type} {xs : List α} (distinct : xs.Nodup) {x : α}
    (member : x ∈ xs) {f : α → List β} (others : ∀ y ∈ xs, y ≠ x → f y = []) :
    xs.flatMap f = f x := by
  obtain ⟨front, back, rfl⟩ := List.append_of_mem member
  have apart := List.nodup_middle.1 distinct
  have before : front.flatMap f = [] := by
    refine List.flatMap_eq_nil_iff.2 fun y inside => others y (by simp [inside]) ?_
    rintro rfl
    exact (List.nodup_cons.1 apart).1 (List.mem_append_left _ inside)
  have behind : back.flatMap f = [] := by
    refine List.flatMap_eq_nil_iff.2 fun y inside => others y (by simp [inside]) ?_
    rintro rfl
    exact (List.nodup_cons.1 apart).1 (List.mem_append_right _ inside)
  rw [List.flatMap_append, List.flatMap_cons, before, behind, List.nil_append, List.append_nil]

/-- Who is online among some contacts, where that can be told from their identifiers. -/
theorem Bucket.filter_ids_online {b : Bucket} {now : Moment} {keep only : Identifier → Bool}
    (same : ∀ c ∈ b.contacts, only c.id = true → (c.isOnline now = true ↔ keep c.id = true)) :
    ((b.online now).map Contact.id).filter only = (b.ids.filter keep).filter only := by
  rw [Bucket.online, Bucket.ids, List.filter_map, List.filter_map, List.filter_map,
    List.filter_filter, List.filter_filter]
  refine congrArg (List.map Contact.id) (List.filter_congr fun c member => ?_)
  rw [Bool.eq_iff_iff, Bool.and_eq_true, Bool.and_eq_true]
  exact and_congr_right fun counts => same c member counts

/-- Peers that are listed by identifier, and of which `replies` tells what else there is to them. -/
theorem map_eq_of_replies {replies : Identifier → Option Peer} {α : Type} {f : Peer → α}
    {ps qs : List Peer} (ids : ps.map Peer.id = qs.map Peer.id)
    (known : ∀ p ∈ ps, replies p.id = some p)
    (same : ∀ q ∈ qs, ∀ p, replies q.id = some p → f p = f q) : ps.map f = qs.map f := by
  induction ps generalizing qs with
  | nil =>
    cases qs with
    | nil => rfl
    | cons => cases ids
  | cons p ps ih =>
    cases qs with
    | nil => cases ids
    | cons q qs =>
      obtain ⟨here, behind⟩ := List.cons_eq_cons.1 ids
      obtain ⟨known, later⟩ := List.forall_mem_cons.1 known
      obtain ⟨first, others⟩ := List.forall_mem_cons.1 same
      rw [List.map_cons, List.map_cons, first p (here ▸ known), ih behind later others]

namespace RoutingTable

variable {t t₀ t' : RoutingTable} {localId : Identifier} {slots : Nat} {now : Moment}

/-! ### The online contacts, bucket after bucket -/

theorem ids_online (t : RoutingTable) (now : Moment) :
    (t.online now).map Peer.id =
      (List.finRange 160).flatMap fun i => ((t.bucket i).online now).map Contact.id := by
  have buckets : t.buckets.toList = (List.finRange 160).map t.bucket := by
    refine List.ext_getElem (by simp) fun i inside inside' => ?_
    simp [bucket]
  rw [online, buckets, List.flatMap_map, List.map_flatMap]
  refine congrArg (List.flatMap · _) (funext fun i => ?_)
  rw [List.map_map]
  rfl

theorem Sound.isOnline_iff_mem (h : t.Sound localId slots) {i : Fin 160} {c : Contact}
    (member : c ∈ (t.bucket i).contacts) :
    c.isOnline now = true ↔ c.id ∈ (t.online now).map Peer.id := by
  refine ⟨fun online => List.mem_map_of_mem (mem_online member online), fun listed => ?_⟩
  rw [online_eq, List.map_map] at listed
  obtain ⟨other, online, same⟩ := List.mem_map.1 listed
  have here : other = c :=
    List.inj_on_of_nodup_map h.distinct (List.mem_filter.1 online).1
      (mem_contacts_iff.2 ⟨i, member⟩) same
  exact here ▸ (List.mem_filter.1 online).2

/-- The online contacts of one bucket. -/
theorem Sound.filter_index_online (h : t.Sound localId slots) (now : Moment) (i : Fin 160) :
    ((t.online now).map Peer.id).filter (t.index? · = some i) =
      ((t.bucket i).online now).map Contact.id := by
  have index (j : Fin 160) : ∀ id ∈ ((t.bucket j).online now).map Contact.id, t.index? id = some j := by
    intro id member
    obtain ⟨c, online, rfl⟩ := List.mem_map.1 member
    exact h.index_of_mem (List.mem_filter.1 online).1
  rw [ids_online, List.filter_flatMap,
    flatMap_eq_of_others (List.nodup_finRange 160) (List.mem_finRange i)]
  · exact List.filter_eq_self.2 fun id member => decide_eq_true (index i id member)
  · intro j _ other
    refine List.filter_eq_nil_iff.2 fun id member => ?_
    rw [index j id member, decide_eq_true_eq]
    exact fun same => other (Option.some.inj same)

/-! ### What asking one contact does -/

/-- A known peer was heard from: it comes to the end of its bucket, with a clean record. -/
structure Heard (t : RoutingTable) (now : Moment) (q : Peer) (t' : RoutingTable) : Prop where
  localId : t'.localId = t.localId
  find? : t'.find? = Function.update t.find? q.id (some (.heard now q))
  ids : ∀ i, (t'.bucket i).ids =
    if t.index? q.id = some i then (t.bucket i).ids.erase q.id ++ [q.id] else (t.bucket i).ids

theorem Sound.exists_heard (h : t.Sound localId slots) {q : Peer} (known : (t.find? q.id).isSome)
    (now : Moment) :
    ∃ t', t.offer now (.heard now q) = .ok (t', .updated) ∧ t'.Sound localId slots ∧
      t.Heard now q t' := by
  obtain ⟨c, found⟩ := Option.isSome_iff_exists.1 known
  cases index : t.index? q.id with
  | none => cases (find?_ourselves index).symm.trans found
  | some i =>
    rw [find?_of_index index] at found
    have same : c.id = q.id := Bucket.id_of_find? found
    let b : Bucket := { t.bucket i with contacts := (t.bucket i).others q.id ++ [.heard now q] }
    have moved : (t.bucket i).offer now (.heard now q) = .ok (b, .updated) := by
      rw [Bucket.offer, Contact.id, Contact.heard, found]
      dsimp only
      rw [same]
      rfl
    have offered : t.offer now (.heard now q) = .ok (t.setBucket i b, .updated) := by
      rw [RoutingTable.offer, Contact.id, Contact.heard, index]
      dsimp only
      rw [← Contact.heard, moved]
      rfl
    refine ⟨t.setBucket i b, offered, h.of_offer offered, rfl, ?find?, fun j => ?ids⟩
    case find? =>
      exact find?_setBucket_update index ((h.bucket i).find?_moved rfl)
    case ids =>
      rw [bucket_setBucket, index]
      by_cases here : i = j
      · rw [if_pos here, if_pos (congrArg some here), ← here, Bucket.ids, List.map_append,
          Bucket.map_id_others]
        rfl
      · rw [if_neg here, if_neg fun other => here (Option.some.inj other)]

theorem ids_requestFailed (id : Identifier) (i : Fin 160) :
    ((t.requestFailed id).bucket i).ids = (t.bucket i).ids := by
  rw [requestFailed, modify]
  split
  · rw [bucket_setBucket]
    split
    · rename_i here
      rw [Bucket.ids_modify fun c same => (Contact.id_fail c).trans same, here]
    · rfl
  · rfl

/-! ### What asking all of them does -/

/-- Those of some peers that answer and belong into one bucket, in their order. -/
def answering (t : RoutingTable) (replies : Identifier → Option Peer) (i : Fin 160) (ps : List Peer) :
    List Identifier :=
  (ps.map Peer.id).filter fun id => (replies id).isSome && t.index? id = some i

/-- Whether some peers are to answer under an identifier. -/
def expects (replies : Identifier → Option Peer) (ps : List Peer) (id : Identifier) : Bool :=
  (ps.map Peer.id).contains id && (replies id).isSome

/-- How far the contacts `all` of a table have been asked: those in `done`, and not yet those in
`todo`. Of whoever answers, `replies` tells as which peer. -/
structure Polling (t₀ : RoutingTable) (replies : Identifier → Option Peer) (all done todo : List Peer)
    (t : RoutingTable) : Prop where
  localId : t.localId = t₀.localId
  parts : done ++ todo = all
  order : ∀ i, (t.bucket i).ids.filter (expects replies all) =
    t₀.answering replies i todo ++ t₀.answering replies i done
  peers : ∀ p ∈ all, ∃ c, t.find? p.id = some c ∧ (c.peer = p ∨ replies p.id = some c.peer)
  heard : ∀ p ∈ done, ∀ q, replies p.id = some q →
    ∃ c, t.find? p.id = some c ∧ c.peer = q ∧ c.failures = 0
  others : ∀ id, id ∉ all.map Peer.id → t.find? id = t₀.find? id

namespace Polling

variable {replies : Identifier → Option Peer} {all done todo : List Peer} {p q : Peer}

theorem begin (h : t.Sound localId slots) (replies : Identifier → Option Peer) (now : Moment) :
    t.Polling replies (t.online now) [] (t.online now) t := by
  refine ⟨rfl, List.nil_append _, fun i => ?order, ?peers, nofun, fun _ _ => rfl⟩
  case order =>
    have listed : ∀ c ∈ (t.bucket i).contacts, (replies c.id).isSome = true →
        (c.isOnline now = true ↔ ((t.online now).map Peer.id).contains c.id = true) := by
      intro c member _
      rw [h.isOnline_iff_mem member, List.contains_iff_mem]
    rw [answering, answering, List.map_nil, List.filter_nil, List.append_nil, ← List.filter_filter,
      h.filter_index_online, Bucket.filter_ids_online listed, List.filter_filter]
    refine List.filter_congr fun id _ => ?_
    rw [expects, Bool.and_comm]
  case peers =>
    intro p member
    obtain ⟨c, inside, rfl⟩ := mem_contacts_of_online member
    exact ⟨c, h.find?_eq_some_iff.2 ⟨inside, rfl⟩, .inl rfl⟩

theorem answering_cons_silent (t : RoutingTable) (i : Fin 160) (silent : replies p.id = none) :
    t.answering replies i (p :: todo) = t.answering replies i todo := by
  rw [answering, List.map_cons, List.filter_cons, silent]
  rfl

theorem answering_cons (t : RoutingTable) (i : Fin 160) (answers : replies p.id = some q) :
    t.answering replies i (p :: todo) =
      if t.index? p.id = some i then p.id :: t.answering replies i todo
      else t.answering replies i todo := by
  rw [answering, List.map_cons, List.filter_cons, answers]
  by_cases here : t.index? p.id = some i <;> simp [here, answering]

theorem answering_append (t : RoutingTable) (i : Fin 160) (ps qs : List Peer) :
    t.answering replies i (ps ++ qs) = t.answering replies i ps ++ t.answering replies i qs := by
  rw [answering, List.map_append, List.filter_append]
  rfl

theorem member (polling : t₀.Polling replies all done (p :: todo) t) : p ∈ all := by
  rw [← polling.parts]
  exact List.mem_append_right _ List.mem_cons_self

/-- One contact was asked, and nothing is known of another one that was not known before. -/
theorem next (polling : t₀.Polling replies all done (p :: todo) t)
    (distinct : (all.map Peer.id).Nodup) {c : Contact} (localId : t'.localId = t.localId)
    (changed : t'.find? = Function.update t.find? p.id (some c))
    (peer : c.peer = p ∨ replies p.id = some c.peer)
    (heard : ∀ q, replies p.id = some q → c.peer = q ∧ c.failures = 0)
    (order : ∀ i, (t'.bucket i).ids.filter (expects replies all) =
      t₀.answering replies i todo ++ t₀.answering replies i (done ++ [p])) :
    t₀.Polling replies all (done ++ [p]) todo t' := by
  have parts := polling.parts
  refine ⟨localId.trans polling.localId, ?parts, order, ?peers, ?heard, ?others⟩
  case parts => rw [← parts, List.append_assoc, List.singleton_append]
  case peers =>
    intro other inside
    rw [changed, Function.update_apply]
    split
    · rename_i same
      obtain rfl := List.inj_on_of_nodup_map distinct inside polling.member same
      exact ⟨c, rfl, peer⟩
    · exact polling.peers other inside
  case heard =>
    intro other inside q answers
    rw [changed]
    rcases List.mem_append.1 inside with early | now
    · have apart : other.id ≠ p.id := by
        rw [← parts, List.map_append, List.map_cons] at distinct
        exact (List.nodup_append.1 distinct).2.2 _ (List.mem_map_of_mem early) _ List.mem_cons_self
      rw [Function.update_of_ne apart]
      exact polling.heard other early q answers
    · rw [List.mem_singleton.1 now] at answers ⊢
      exact ⟨c, Function.update_self .., heard q answers⟩
  case others =>
    intro id outside
    rw [changed, Function.update_of_ne, polling.others id outside]
    rintro rfl
    refine outside (List.mem_map_of_mem ?_)
    rw [← parts]
    exact List.mem_append_right _ List.mem_cons_self

/-- A contact does not answer, and keeps its place. -/
theorem silent (polling : t₀.Polling replies all done (p :: todo) t)
    (distinct : (all.map Peer.id).Nodup) (silent : replies p.id = none) :
    t₀.Polling replies all (done ++ [p]) todo (t.requestFailed p.id) := by
  obtain ⟨c, found, peer⟩ := polling.peers p polling.member
  refine polling.next distinct (c := c.fail) ?localId ?changed peer ?heard fun i => ?order
  case localId =>
    rw [requestFailed, modify]
    split <;> rfl
  case changed => rw [find?_requestFailed, found, Option.map_some]
  case heard =>
    intro q answers
    cases silent.symm.trans answers
  case order =>
    have order := polling.order i
    rw [answering_cons_silent _ _ silent] at order
    rw [ids_requestFailed, order, answering_append, answering_cons_silent _ _ silent]
    exact congrArg _ (List.append_nil _).symm

/-- A contact answers, and comes to the end of its bucket. -/
theorem answered (polling : t₀.Polling replies all done (p :: todo) t)
    (distinct : (all.map Peer.id).Nodup) (answers : replies p.id = some q) (same : q.id = p.id)
    (heard : t.Heard now q t') : t₀.Polling replies all (done ++ [p]) todo t' := by
  refine polling.next distinct heard.localId (same ▸ heard.find?) (.inr answers) ?heard
    fun i => ?order
  case heard =>
    intro other named
    cases answers.symm.trans named
    exact ⟨rfl, rfl⟩
  case order =>
    have order := polling.order i
    have index : t.index? p.id = t₀.index? p.id := by
      rw [index?, polling.localId]
      rfl
    rw [answering_cons _ _ answers] at order
    rw [heard.ids, same, answering_append, answering_cons _ _ answers, index]
    by_cases here : t₀.index? p.id = some i
    · rw [if_pos here, List.cons_append] at order
      rw [if_pos here]
      rw [filter_erase_concat order, if_pos here, List.append_assoc]
      rfl
    · rw [if_neg here] at order ⊢
      rw [order, if_neg here]
      exact congrArg _ (List.append_nil _).symm

/-! Everybody was asked. -/

section Complete

variable {i : Fin 160} {c : Contact} {now' : Moment}

/-- Nobody who was not asked is online. -/
theorem mem_of_isOnline (polling : t₀.Polling replies (t₀.online now) (t₀.online now) [] t)
    (h₀ : t₀.Sound localId slots) (h : t.Sound localId slots) (member : c ∈ (t.bucket i).contacts)
    (online : c.isOnline now' = true) : c.id ∈ (t₀.online now).map Peer.id := by
  by_contra outside
  have found := h.find?_of_mem member
  rw [polling.others c.id outside] at found
  obtain ⟨j, before⟩ := mem_contacts_iff.1 (h₀.find?_eq_some_iff.1 found).1
  refine outside ((h₀.isOnline_iff_mem before).1 ?_)
  rwa [Contact.isOnline_iff_failures] at online ⊢

/-- Whoever has answered is as it said. -/
theorem eq_of_answered (polling : t₀.Polling replies (t₀.online now) (t₀.online now) [] t)
    (h : t.Sound localId slots) (member : c ∈ (t.bucket i).contacts)
    (asked : c.id ∈ (t₀.online now).map Peer.id) (answers : replies c.id = some q) :
    c.peer = q ∧ c.failures = 0 := by
  obtain ⟨p, listed, same⟩ := List.mem_map.1 asked
  obtain ⟨known, found, clean⟩ := polling.heard p listed q (same ▸ answers)
  rw [same, h.find?_of_mem member] at found
  cases found
  exact clean

/-- Those who have answered are online, in the order in which they were. -/
theorem ids_online (polling : t₀.Polling replies (t₀.online now) (t₀.online now) [] t)
    (h₀ : t₀.Sound localId slots) (h : t.Sound localId slots) (now' : Moment)
    {only : Identifier → Bool} (answer : ∀ id, only id = true → (replies id).isSome = true) :
    ((t.online now').map Peer.id).filter only = ((t₀.online now).map Peer.id).filter only := by
  rw [RoutingTable.ids_online, RoutingTable.ids_online t₀, List.filter_flatMap, List.filter_flatMap]
  refine congrArg (List.flatMap · _) (funext fun i => ?_)
  have stay : (t.bucket i).ids.filter (expects replies (t₀.online now)) =
      (t₀.bucket i).ids.filter (expects replies (t₀.online now)) := by
    rw [polling.order i, (begin h₀ replies now).order i, answering, List.map_nil, List.filter_nil,
      List.nil_append, List.append_nil]
  have last : ∀ c ∈ (t.bucket i).contacts, only c.id = true →
      (c.isOnline now' = true ↔ expects replies (t₀.online now) c.id = true) := by
    intro c member counts
    rw [expects, answer c.id counts, Bool.and_true, List.contains_iff_mem]
    refine ⟨polling.mem_of_isOnline h₀ h member, fun asked => ?_⟩
    obtain ⟨q, reply⟩ := Option.isSome_iff_exists.1 (answer c.id counts)
    rw [Contact.isOnline_iff_failures, (polling.eq_of_answered h member asked reply).2]
    exact Nat.two_pos
  have first : ∀ c ∈ (t₀.bucket i).contacts, only c.id = true →
      (c.isOnline now = true ↔ expects replies (t₀.online now) c.id = true) := by
    intro c member counts
    rw [expects, answer c.id counts, Bool.and_true, List.contains_iff_mem, h₀.isOnline_iff_mem member]
  rw [Bucket.filter_ids_online last, Bucket.filter_ids_online first, stay]

/-- Whoever is online was online, and is reached as before unless it has answered. -/
theorem exists_online (polling : t₀.Polling replies (t₀.online now) (t₀.online now) [] t)
    (h₀ : t₀.Sound localId slots) (h : t.Sound localId slots) (online : p ∈ t.online now') :
    ∃ p₀ ∈ t₀.online now, p₀.id = p.id ∧ (p = p₀ ∨ replies p.id = some p) ∧
      ∀ q, replies p.id = some q → p = q := by
  rw [online_eq] at online
  obtain ⟨c, listed, rfl⟩ := List.mem_map.1 online
  obtain ⟨inside, online⟩ := List.mem_filter.1 listed
  obtain ⟨i, member⟩ := mem_contacts_iff.1 inside
  have asked := polling.mem_of_isOnline h₀ h member online
  obtain ⟨p₀, before, same⟩ := List.mem_map.1 asked
  obtain ⟨known, found, peer⟩ := polling.peers p₀ before
  rw [same, h.find?_of_mem member] at found
  cases found
  rw [same] at peer
  exact ⟨p₀, before, same, peer, fun q reply => (polling.eq_of_answered h member asked reply).1⟩

/-- What is told of certain peers that answer is told of the same ones afterwards, in the same
order, as far as their answers agree with it. -/
theorem map_online (polling : t₀.Polling replies (t₀.online now) (t₀.online now) [] t)
    (h₀ : t₀.Sound localId slots) (h : t.Sound localId slots) (now' : Moment)
    {only : Identifier → Bool} (answer : ∀ id, only id = true → (replies id).isSome = true)
    {α : Type} {f : Peer → α}
    (same : ∀ p ∈ (t₀.online now).filter (fun p => only p.id), ∀ q, replies p.id = some q → f q = f p) :
    ((t.online now').filter fun p => only p.id).map f =
      ((t₀.online now).filter fun p => only p.id).map f := by
  have ids := polling.ids_online h₀ h now' answer
  rw [List.filter_map, List.filter_map] at ids
  refine map_eq_of_replies ids (fun p member => ?_) same
  obtain ⟨listed, counts⟩ := List.mem_filter.1 member
  obtain ⟨q, reply⟩ := Option.isSome_iff_exists.1 (answer p.id counts)
  obtain ⟨-, -, -, -, named⟩ := polling.exists_online h₀ h listed
  rw [reply, named q reply]

end Complete
end Polling
end RoutingTable
end LocalSwarm
