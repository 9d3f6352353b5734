import Mathlib.Data.List.Nodup
import Mathlib.Data.List.Perm.Subperm
import LocalSwarm.Proofs.Connections.Traffic

/-! What the ledgers of all connections say, whatever is on its way on these. A request is begun on
two connections at most, and one that is kept between requests has completed every exchange. -/
namespace LocalSwarm

/-- The ledgers of the connections, by the numbers of these. -/
abbrev Ledgers := Nat → Option Ledger

abbrev Errands := UInt32 → Option Errand

variable {L : Ledgers} {E : Errands} {H : List Handling} {P : Pool Nat}
variable {a : SocketAddr} {b b' : Ledger} {c n : Nat} {e : Errand} {m : Message}

namespace Ledgers

/-- What was handled was asked on the connection that it came from. -/
def Traces (L : Ledgers) (h : Handling) : Prop :=
  ∃ b, L h.link = some b ∧ h.address = b.address ∧ ∃ m ∈ b.asked, m.Conveys h.message

theorem Traces.update {h : Handling} (traced : L.Traces h) (booked : L c = some b)
    (address : b'.address = b.address) (kept : b.asked ⊆ b'.asked) :
    Traces (Function.update L c (some b')) h := by
  obtain ⟨found, here, same, m, asked, conveyed⟩ := traced
  by_cases link : h.link = c
  · obtain rfl := Option.some.inj ((link ▸ here).symm.trans booked)
    exact ⟨b', by rw [link, Function.update_self], same.trans address.symm, m, kept asked, conveyed⟩
  · exact ⟨found, by rw [Function.update_of_ne link, here], same, m, asked, conveyed⟩

/-- The exchange of a message was begun on no more than so many connections. -/
def Tries (L : Ledgers) (m : Message) (n : Nat) : Prop :=
  ∃ tried : List Nat, tried.length ≤ n ∧ ∀ c b, L c = some b → m ∈ b.asked → c ∈ tried

theorem Tries.mono (h : L.Tries m n) {n' : Nat} (more : n ≤ n') : L.Tries m n' := by
  obtain ⟨tried, short, all⟩ := h
  exact ⟨tried, Nat.le_trans short more, all⟩

theorem Tries.succ (h : L.Tries m n) (c : Nat) (b : Ledger) :
    Tries (Function.update L c (some b)) m (n + 1) := by
  obtain ⟨tried, short, all⟩ := h
  refine ⟨c :: tried, Nat.succ_le_succ short, fun c' found here asked => ?_⟩
  by_cases same : c' = c
  · exact same ▸ List.mem_cons_self
  · rw [Function.update_of_ne same] at here
    exact List.mem_cons_of_mem _ (all c' found here asked)

/-- It is not begun once more where something else is asked, or an answer is read. -/
theorem Tries.update (h : L.Tries m n)
    (asked : m ∈ b'.asked → ∃ b, L c = some b ∧ m ∈ b.asked) :
    Tries (Function.update L c (some b')) m n := by
  obtain ⟨tried, short, all⟩ := h
  refine ⟨tried, short, fun c' found here asked' => ?_⟩
  by_cases same : c' = c
  · subst same
    rw [Function.update_self, Option.some.injEq] at here
    obtain ⟨b, booked, before⟩ := asked (here ▸ asked')
    exact all _ b booked before
  · rw [Function.update_of_ne same] at here
    exact all c' found here asked'

end Ledgers

namespace Errands

/-- A message is that of a request to an address. -/
def Requested (E : Errands) (a : SocketAddr) (m : Message) : Prop :=
  ∃ e, E m.correlation = some e ∧ e.message = m ∧ e.address = a

/-- A request is not there, or is for the same as another one. -/
def Agrees (E : Errands) (e : Errand) : Prop :=
  ∀ old ∈ E e.message.correlation, old.message = e.message ∧ old.address = e.address

theorem Requested.update (h : E.Requested a m) (agrees : E.Agrees e) :
    Requested (Function.update E e.message.correlation (some e)) a m := by
  obtain ⟨old, found, message, address⟩ := h
  by_cases here : m.correlation = e.message.correlation
  · obtain ⟨message', address'⟩ := agrees old (here ▸ found)
    exact ⟨e, by rw [here, Function.update_self], message'.symm.trans message,
      address'.symm.trans address⟩
  · exact ⟨old, by rw [Function.update_of_ne here, found], message, address⟩

theorem agrees_of_new (new : E m.correlation = none) (course : Option (Course Nat)) :
    E.Agrees ⟨a, m, course⟩ := by
  intro old found
  cases new.symm.trans found

theorem agrees_of_known (known : E e.message.correlation = some e) (course : Option (Course Nat)) :
    E.Agrees { e with course } := by
  intro old found
  cases Option.some.inj (known.symm.trans found)
  exact ⟨rfl, rfl⟩

end Errands

namespace Errand

/-- How many connections a request may have been begun on. -/
def attempts : Option (Course Nat) → Nat
  | some (.waits .dialing) => 1
  | some (.waits (.talking _ true)) => 1
  | _ => 2

theorem attempts_le (course : Option (Course Nat)) : attempts course ≤ 2 := by
  unfold attempts
  split <;> decide

/-- A message is what the node at the address of a request answered to this request. -/
def Answered (H : List Handling) (e : Errand) (m : Message) : Prop :=
  ∃ h ∈ H, h.address = e.address ∧ e.message.Conveys h.message ∧
    ∃ a, h.answer = some a ∧ a.Conveys m

structure Sound (L : Ledgers) (H : List Handling) (e : Errand) : Prop where
  tries : L.Tries e.message (attempts e.course)
  talks : ∀ {c pooled}, e.course = some (.waits (.talking c pooled)) →
    ∃ b, L c = some b ∧ b.address = e.address ∧ b.Opened e.message
  answered : ∀ {m}, e.course = some (.ended (.ok m)) → e.Answered H m

end Errand

/-- What holds of all connections and requests together. -/
structure Books (L : Ledgers) (E : Errands) (H : List Handling) (P : Pool Nat) : Prop where
  traced : ∀ h ∈ H, L.Traces h
  /-- No request was handled twice on one connection. -/
  once : (H.map fun h => (h.link, h.message.correlation)).Nodup
  requested : ∀ c b, L c = some b → ∀ m ∈ b.asked, E.Requested b.address m
  errands : ∀ k e, E k = some e → e.message.correlation = k ∧ e.Sound L H
  keys : (P.idle.map Prod.fst).Nodup
  idle : ∀ a c, (a, c) ∈ P.idle → ∃ b, L c = some b ∧ b.address = a ∧ b.Settled

namespace Books

theorem empty : Books (fun _ => none) (fun _ => none) [] .empty where
  traced _ member := absurd member List.not_mem_nil
  once := .nil
  requested := by
    intro c b found
    cases found
  errands := by
    intro k e found
    cases found
  keys := .nil
  idle _ _ member := absurd member List.not_mem_nil

/-- Of a request that was not made yet nothing was asked. -/
theorem unasked (h : Books L E H P) (new : E m.correlation = none) (booked : L c = some b) :
    ∀ m' ∈ b.asked, m'.correlation ≠ m.correlation := by
  intro m' member same
  obtain ⟨e, found, -⟩ := h.requested c b booked m' member
  rw [same, new] at found
  cases found

theorem unhandled (h : Books L E H P) (new : E m.correlation = none) :
    ∀ h ∈ H, h.message.correlation ≠ m.correlation := by
  intro handling member same
  obtain ⟨b, booked, -, m', asked, conveyed⟩ := h.traced handling member
  exact h.unasked new booked m' asked (conveyed.correlation.symm.trans same)

theorem untried (h : Books L E H P) (new : E m.correlation = none) : L.Tries m 0 :=
  ⟨[], Nat.le_refl 0, fun _ _ booked asked => absurd rfl (h.unasked new booked m asked)⟩

/-- Requests for one message are the same. -/
theorem number_unique (h : Books L E H P) {k : UInt32} {e' : Errand} (found : E k = some e')
    (same : e'.message = m) : k = m.correlation := by
  rw [← same]
  exact (h.errands k e' found).1.symm

/-! ### Requests -/

/-- A request is made, or goes on. -/
theorem setErrand (h : Books L E H P) (agrees : E.Agrees e) (sound : e.Sound L H) :
    Books L (Function.update E e.message.correlation (some e)) H P where
  traced := h.traced
  once := h.once
  requested c b booked m asked := (h.requested c b booked m asked).update agrees
  errands := by
    intro k e' found
    by_cases here : k = e.message.correlation
    · subst here
      rw [Function.update_self, Option.some.injEq] at found
      exact found ▸ ⟨rfl, sound⟩
    · rw [Function.update_of_ne here] at found
      exact h.errands k e' found
  keys := h.keys
  idle := h.idle

/-- Something is noted of a connection on which nobody but one request talks, if that one does. -/
theorem note (h : Books L E H P) (booked : L c = some b) (b' : Ledger)
    (address : b'.address = b.address) (kept : b.asked ⊆ b'.asked)
    (asked : ∀ m ∈ b'.asked, m ∈ b.asked ∨ m = e.message)
    (known : E e.message.correlation = some e) (served : e.address = b.address)
    (unpooled : ∀ a, (a, c) ∉ P.idle)
    (silent : ∀ m, b.Opened m → m = e.message) {course : Course Nat}
    (sound : (e.take course).Sound (Function.update L c (some b')) H) :
    Books (Function.update L c (some b'))
      (Function.update E e.message.correlation (some (e.take course))) H P where
  traced handling member := (h.traced handling member).update booked address kept
  once := h.once
  requested := by
    intro c' found here m asked'
    have agrees : E.Agrees (e.take course) := Errands.agrees_of_known known _
    have own : E.Requested b'.address e.message := ⟨e, known, rfl, served.trans address.symm⟩
    refine Errands.Requested.update ?_ agrees
    by_cases same : c' = c
    · subst same
      rw [Function.update_self, Option.some.injEq] at here
      subst here
      rcases asked m asked' with before | rfl
      · exact address ▸ h.requested _ b booked m before
      · exact own
    · rw [Function.update_of_ne same] at here
      exact h.requested c' found here m asked'
  errands := by
    intro k e' found
    by_cases here : k = e.message.correlation
    · subst here
      rw [Function.update_self, Option.some.injEq] at found
      exact found ▸ ⟨rfl, sound⟩
    · rw [Function.update_of_ne here] at found
      obtain ⟨number, sound'⟩ := h.errands k e' found
      refine ⟨number, sound'.tries.update fun asked' => ?_, fun talks => ?_, sound'.answered⟩
      · rcases asked _ asked' with before | same
        · exact ⟨b, booked, before⟩
        · exact absurd (h.number_unique found same) here
      · obtain ⟨found', booked', address', opened⟩ := sound'.talks talks
        refine ⟨found', ?_, address', opened⟩
        rw [Function.update_of_ne, booked']
        rintro rfl
        obtain rfl := Option.some.inj (booked'.symm.trans booked)
        exact here (h.number_unique found (silent _ opened))
  keys := h.keys
  idle := by
    intro a c' member
    have other : c' ≠ c := by
      rintro rfl
      exact unpooled a member
    rw [Function.update_of_ne other]
    exact h.idle a c' member

/-- The exchange of a request begins on a connection that nobody uses. -/
theorem talk (h : Books L E H P) (known : E e.message.correlation = some e) (booked : L c = some b)
    (address : b.address = e.address) (settled : b.Settled) (unpooled : ∀ a, (a, c) ∉ P.idle)
    (tries : L.Tries e.message n) {pooled : Bool}
    (enough : n + 1 ≤ Errand.attempts (some (.waits (.talking c pooled)))) :
    Books (Function.update L c (some (b.ask e.message)))
      (Function.update E e.message.correlation (some (e.take (.waits (.talking c pooled))))) H P := by
  refine h.note booked (b.ask e.message) rfl (List.subset_append_left _ _) (fun m => Ledger.mem_ask.1)
    known address.symm unpooled (fun m opened => absurd settled opened.not_settled) ?_
  refine ⟨(tries.succ c _).mono enough, ?_, nofun⟩
  rintro c' pooled' ⟨⟩
  exact ⟨_, Function.update_self .., address, settled.ask _⟩

/-! ### The pool -/

theorem drop (h : Books L E H P) (a : SocketAddr) : Books L E H (P.drop a) where
  traced := h.traced
  once := h.once
  requested := h.requested
  errands := h.errands
  keys := h.keys.sublist ((List.filter_sublist).map _)
  idle a c member := h.idle a c (List.mem_of_mem_filter member)

theorem not_mem_drop (h : Books L E H P) (booked : L c = some b) (a : SocketAddr) :
    (a, c) ∉ (P.drop b.address).idle := by
  intro member
  obtain ⟨found, booked', address, -⟩ := h.idle a c (List.mem_of_mem_filter member)
  obtain rfl := Option.some.inj (booked'.symm.trans booked)
  exact of_decide_eq_true (List.mem_filter.1 member).2 address.symm

/-- A connection with an open exchange is not in the pool. -/
theorem not_mem_of_opened (h : Books L E H P) (booked : L c = some b) (opened : b.Opened m)
    (a : SocketAddr) : (a, c) ∉ P.idle := by
  intro member
  obtain ⟨found, booked', -, settled⟩ := h.idle a c member
  obtain rfl := Option.some.inj (booked'.symm.trans booked)
  exact opened.not_settled settled

theorem keep (h : Books L E H P) (booked : L c = some b) (settled : b.Settled) :
    Books L E H (P.keep b.address c) where
  traced := h.traced
  once := h.once
  requested := h.requested
  errands := h.errands
  keys := by
    rw [Pool.keep, List.map_append, List.nodup_append]
    refine ⟨(h.drop b.address).keys, List.nodup_singleton _, ?_⟩
    rintro a kept _ new rfl
    obtain ⟨⟨a', c'⟩, member, rfl⟩ := List.mem_map.1 kept
    exact of_decide_eq_true (List.mem_filter.1 member).2 (List.mem_singleton.1 new)
  idle := by
    intro a c' member
    rcases List.mem_append.1 member with kept | new
    · exact (h.drop b.address).idle a c' kept
    · obtain ⟨rfl, rfl⟩ := Prod.mk.inj (List.mem_singleton.1 new)
      exact ⟨b, booked, rfl, settled⟩

/-- The answer to a request was read, and its connection is kept. -/
theorem answer (h : Books L E H P) (known : E e.message.correlation = some e) {pooled : Bool}
    (talks : e.course = some (.waits (.talking c pooled))) (booked : L c = some b)
    (answered : e.Answered H m) :
    Books (Function.update L c (some (b.conclude e.message)))
      (Function.update E e.message.correlation (some (e.take (.ended (.ok m))))) H
      (P.keep e.address c) := by
  obtain ⟨-, sound⟩ := h.errands _ e known
  obtain ⟨found, booked', address, opened⟩ := sound.talks talks
  obtain rfl := Option.some.inj (booked'.symm.trans booked)
  rw [← address]
  refine keep (b := found.conclude e.message) ?_ (Function.update_self ..) opened.conclude
  refine h.note booked (found.conclude e.message) rfl (fun _ => id) (fun m asked => .inl asked) known
    address.symm (h.not_mem_of_opened booked opened) (fun m opened' => opened'.unique opened) ?_
  refine ⟨?tries, nofun, ?answered⟩
  case tries =>
    have same : e.message ∈ (found.conclude e.message).asked → ∃ b, L c = some b ∧
        e.message ∈ b.asked := fun asked => ⟨_, booked, asked⟩
    exact (sound.tries.update same).mono (Errand.attempts_le _)
  case answered =>
    rintro m ⟨⟩
    exact answered

/-! ### Connections and nodes -/

/-- A new connection, on which nothing was asked yet. -/
theorem connect (h : Books L E H P) (free : L c = none) (a : SocketAddr) :
    Books (Function.update L c (some ⟨a, [], []⟩)) E H P := by
  have old {c' : Nat} {b : Ledger} (booked : L c' = some b) :
      Function.update L c (some ⟨a, [], []⟩) c' = some b := by
    rw [Function.update_of_ne, booked]
    rintro rfl
    cases free.symm.trans booked
  constructor
  case traced =>
    intro handling member
    obtain ⟨b, booked, traced⟩ := h.traced handling member
    exact ⟨b, old booked, traced⟩
  case once => exact h.once
  case requested =>
    intro c' b booked m asked
    by_cases same : c' = c
    · subst same
      rw [Function.update_self, Option.some.injEq] at booked
      subst booked
      cases asked
    · rw [Function.update_of_ne same] at booked
      exact h.requested c' b booked m asked
  case errands =>
    intro k e found
    obtain ⟨number, sound⟩ := h.errands k e found
    refine ⟨number, sound.tries.update nofun, fun talks => ?_, sound.answered⟩
    obtain ⟨b, booked, talk⟩ := sound.talks talks
    exact ⟨b, old booked, talk⟩
  case keys => exact h.keys
  case idle =>
    intro a c' member
    obtain ⟨b, booked, kept⟩ := h.idle a c' member
    exact ⟨b, old booked, kept⟩

/-- A message is handled that was not taken from its connection before. -/
theorem handle (h : Books L E H P) {handling : Handling} (traced : L.Traces handling)
    (first : ∀ h ∈ H, h.link = handling.link →
      h.message.correlation ≠ handling.message.correlation) :
    Books L E (H ++ [handling]) P where
  traced := by
    intro h' member
    rcases List.mem_append.1 member with old | new
    · exact h.traced h' old
    · exact List.mem_singleton.1 new ▸ traced
  once := by
    rw [List.map_append, List.nodup_append]
    refine ⟨h.once, List.nodup_singleton _, ?_⟩
    rintro pair old _ new rfl
    obtain ⟨h', member, same⟩ := List.mem_map.1 old
    obtain ⟨link, number⟩ := Prod.mk.inj (same.trans (List.mem_singleton.1 new))
    exact first h' member link number
  requested := h.requested
  errands := by
    intro k e found
    obtain ⟨number, sound⟩ := h.errands k e found
    refine ⟨number, sound.tries, sound.talks, fun ended => ?_⟩
    obtain ⟨h', member, answered⟩ := sound.answered ended
    exact ⟨h', List.mem_append_left _ member, answered⟩
  keys := h.keys
  idle := h.idle

/-- What was handled is a request to the address of its node. -/
theorem requested_of_mem (h : Books L E H P) {handling : Handling} (member : handling ∈ H) :
    ∃ e, E handling.message.correlation = some e ∧ e.address = handling.address ∧
      e.message.Conveys handling.message := by
  obtain ⟨b, booked, address, m, asked, conveyed⟩ := h.traced handling member
  obtain ⟨e, found, rfl, address'⟩ := h.requested _ b booked m asked
  rw [← conveyed.correlation] at found
  exact ⟨e, found, address'.trans address.symm, conveyed⟩

/-- No request is handled more than twice. -/
theorem handled_le (h : Books L E H P) (k : UInt32) :
    H.countP (·.message.correlation = k) ≤ 2 := by
  rw [List.countP_eq_length_filter]
  generalize same : H.filter (·.message.correlation = k) = taken
  have of_taken {handling : Handling} (member : handling ∈ taken) :
      handling ∈ H ∧ handling.message.correlation = k := by
    rw [← same, List.mem_filter] at member
    exact ⟨member.1, of_decide_eq_true member.2⟩
  -- The connections that it was taken from are all different, and it was begun on all of them.
  have different : (taken.map Handling.link).Nodup := by
    refine List.Nodup.of_map (fun c => (c, k)) ?_
    rw [List.map_map, List.map_congr_left (g := fun h => (h.link, h.message.correlation))]
    · exact h.once.sublist ((same ▸ List.filter_sublist).map _)
    · intro handling member
      exact congrArg (Prod.mk handling.link) (of_taken member).2.symm
  rw [← List.length_map Handling.link]
  cases taken with
  | nil => exact Nat.zero_le 2
  | cons first others =>
    obtain ⟨member, number⟩ := of_taken List.mem_cons_self
    obtain ⟨e, found, -⟩ := h.requested_of_mem member
    rw [number] at found
    obtain ⟨-, sound⟩ := h.errands k e found
    obtain ⟨tried, short, all⟩ := sound.tries.mono (Errand.attempts_le _)
    refine Nat.le_trans (List.Subperm.length_le (different.subperm fun c member => ?_)) short
    obtain ⟨handling, taken, rfl⟩ := List.mem_map.1 member
    obtain ⟨member, number⟩ := of_taken taken
    obtain ⟨b, booked, -, m, asked, conveyed⟩ := h.traced handling member
    obtain ⟨e', found', rfl, -⟩ := h.requested _ b booked m asked
    rw [← conveyed.correlation, number] at found'
    cases Option.some.inj (found'.symm.trans found)
    exact all _ b booked asked

end Books
end LocalSwarm
