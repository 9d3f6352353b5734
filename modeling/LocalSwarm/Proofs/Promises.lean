import LocalSwarm.Proofs.Probes
import LocalSwarm.Proofs.Records

/-! Plans whose calls are answered as promised. A promise says which calls may be made, what an
answer is like when it comes in, and how the site may have changed until then. What a plan achieves under a
promise it achieves whatever the order of the answers: it never waits in vain, and runs to its end.
Main statements: `Achieves.bind`, `achieves_together`, `Achieves.recorded`. -/
namespace LocalSwarm

structure Promise where
  asks : Call → Prop
  passes : Site → Site → Prop
  answers : Site → Call → Outcome → Prop
  files : ∀ {s s'}, passes s s' → s'.files = s.files
  trans : ∀ {s s' s''}, passes s s' → passes s' s'' → passes s s''
  /-- What an answer was like it is still like later on. -/
  lasts : ∀ {s s' call outcome}, answers s call outcome → passes s s' → answers s' call outcome

namespace Plan

variable {α β : Type} {promise : Promise} {goal : α → Site → Prop}

/-- Under a promise the plan runs to its end from a situation, with a result that is as wanted. -/
inductive Achieves (promise : Promise) (goal : α → Site → Prop) : Plan α → Situation → Prop
  | done {a : α} {s : Site} : goal a s → Achieves promise goal (.done a) ⟨[], s⟩
  | look {c : Situation} {next : Site → Plan α} : Achieves promise goal (next c.site) c →
      Achieves promise goal (.look next) c
  | await {c : Situation} {first : Precedence} {calls : List (Nat × Call)} {dropped : Site → Site}
      {next : Nat → Outcome → Plan α} :
      c.out ++ calls ≠ [] → ((c.out ++ calls).map Prod.fst).Nodup →
      (∀ x ∈ calls, promise.asks x.2) →
      (∀ slot call outcome s, (slot, call) ∈ c.out ++ calls → promise.passes c.site s →
        promise.answers s call outcome →
        Achieves promise goal (next slot outcome) ⟨(c.out ++ calls).eraseP (·.1 == slot), s⟩) →
      Achieves promise goal (.await first calls dropped next) c

namespace Achieves

variable {p : Plan α} {c : Situation}

theorem mono (achieves : p.Achieves promise goal c) {other : α → Site → Prop}
    (implies : ∀ a s, goal a s → other a s) : p.Achieves promise other c := by
  induction achieves with
  | done good => exact .done (implies _ _ good)
  | look _ ih => exact .look ih
  | await some distinct asks _ ih => exact .await some distinct asks ih

theorem bind (achieves : p.Achieves promise goal c) {f : α → Plan β} {other : β → Site → Prop}
    (rest : ∀ a s, goal a s → (f a).Achieves promise other ⟨[], s⟩) :
    (p.bind f).Achieves promise other c := by
  induction achieves with
  | done good => exact rest _ _ good
  | look _ ih => exact .look ih
  | await some distinct asks _ ih => exact .await some distinct asks ih

/-- A plan that waits may as well begin to wait later. -/
theorem later {first : Precedence} {calls : List (Nat × Call)} {dropped : Site → Site}
    {next : Nat → Outcome → Plan α} {out : List (Nat × Call)} {s s' : Site}
    (achieves : (Plan.await first calls dropped next).Achieves promise goal ⟨out, s⟩)
    (passes : promise.passes s s') :
    (Plan.await first calls dropped next).Achieves promise goal ⟨out, s'⟩ := by
  cases achieves with
  | await some distinct asks rest =>
    refine .await some distinct asks fun slot call outcome s'' member passes' answers => ?_
    exact rest slot call outcome s'' member (promise.trans passes passes') answers

/-- A plan whose calls are out waits for their answers, with whatever precedence. -/
theorem sent {first : Precedence} {calls : List (Nat × Call)} {dropped : Site → Site}
    {next : Nat → Outcome → Plan α}
    (achieves : (Plan.await first calls dropped next).Achieves promise goal c) :
    (Plan.await .slot [] dropped next).Achieves promise goal ⟨c.out ++ calls, c.site⟩ := by
  cases achieves with
  | await some distinct asks rest =>
    rw [← List.append_nil (c.out ++ calls)] at some distinct rest
    exact .await some distinct (List.forall_mem_nil _) rest

/-- What a plan achieves it achieves in a run. -/
theorem recorded (achieves : p.Achieves promise goal c) :
    p.Achieves promise (fun a s => goal a s ∧ ∃ h, Run p c h ⟨[], s⟩ (.ok a)) c := by
  induction achieves with
  | done good => exact .done ⟨good, [], .done _⟩
  | look _ ih =>
    refine .look (ih.mono fun a s => ?_)
    rintro ⟨good, h, run⟩
    exact ⟨good, h, .look run⟩
  | @await c first calls dropped next some distinct asks _ ih =>
    refine .await some distinct asks fun slot call outcome s member passes answers => ?_
    refine (ih slot call outcome s member passes answers).mono fun a s' => ?_
    rintro ⟨good, h, run⟩
    have same : { c.site with node := s.node, now := s.now } = s := by
      dsimp only
      rw [← promise.files passes]
    have meanwhile : Meanwhile c.site [.elapsed s.node s.now] s :=
      ⟨.elapsed s.node s.now (same ▸ .nothing s), List.forall_mem_singleton.2 rfl⟩
    exact ⟨good, _, .answered outcome meanwhile member run⟩

end Achieves

/-! ### Calls made all at once -/

/-- Every call has an outcome that is as promised. -/
def Answered (promise : Promise) (calls : List Call) (outcomes : List (Nat × Outcome)) (s : Site) :
    Prop :=
  ∀ slot call, calls[slot]? = some call → ∃ outcome, outcomes.lookup slot = some outcome ∧
    promise.answers s call outcome

theorem achieves_gather {calls : List Call} {first : Precedence} {width left : Nat}
    {waiting : List (Nat × Call)} {outcomes : List (Nat × Outcome)} {past : List Happening}
    {c : Situation} {start : Site} (wide : 0 < width)
    (g : Gathering calls c.out waiting outcomes past) (count : left = c.out.length + waiting.length)
    (asks : ∀ call ∈ calls, promise.asks call)
    (heard : ∀ slot call outcome, .answered slot call outcome ∈ past →
      promise.answers c.site call outcome) (since : promise.passes start c.site) :
    (gather first width left waiting outcomes).Achieves promise
      (fun all s => promise.passes start s ∧ Answered promise calls all s) c := by
  induction left generalizing waiting outcomes past c with
  | zero =>
    obtain ⟨out, s⟩ := c
    dsimp only at count
    obtain ⟨none, rfl⟩ : out = [] ∧ waiting = [] :=
      ⟨List.eq_nil_of_length_eq_zero (by omega), List.eq_nil_of_length_eq_zero (by omega)⟩
    subst none
    refine .done ⟨since, fun slot call here => ?_⟩
    obtain ⟨inside, -⟩ := List.getElem?_eq_some_iff.1 here
    obtain ⟨outcome, found⟩ := g.complete slot inside
    obtain ⟨call', here', answered⟩ := g.heard (slot, outcome) (mem_of_lookup_eq_some found)
    obtain rfl : call = call' := Option.some.inj (here.symm.trans here')
    exact ⟨outcome, found, heard slot call outcome answered⟩
  | succ left ih =>
    unfold gather
    refine .await (g.busy wide (by omega)) ?_ ?_ fun slot call outcome s member passes answers => ?_
    · have slots : (c.out.map Prod.fst ++ waiting.map Prod.fst).Nodup := by
        have all := g.slots.nodup_iff.2 List.nodup_range
        rw [← List.append_assoc] at all
        exact all.of_append_left
      rw [← List.map_append] at slots
      refine slots.sublist (List.Sublist.map _ ?_)
      exact (List.takeWhile_sublist _).append_left c.out
    · intro x member
      have waits : x ∈ c.out ++ waiting :=
        List.mem_append_right _ ((List.takeWhile_sublist _).subset member)
      exact asks x.2 (List.mem_of_getElem? (g.known x waits))
    · obtain ⟨-, lengths, next⟩ := g.answer _ outcome member []
      refine ih next (by dsimp only; omega) (fun slot' call' outcome' inside => ?_)
        (promise.trans since passes)
      rw [List.append_nil] at inside
      rcases List.mem_append.1 inside with old | new
      · exact promise.lasts (heard slot' call' outcome' old) passes
      · cases List.mem_singleton.1 new
        exact answers

theorem achieves_together {calls : List Call} {s : Site} (some : calls ≠ [])
    (asks : ∀ call ∈ calls, promise.asks call) (start : promise.passes s s) :
    (together calls).Achieves promise
      (fun all s' => promise.passes s s' ∧ Answered promise calls all s') ⟨[], s⟩ := by
  refine achieves_gather (List.length_pos_iff.2 some) (.begin calls) ?_ asks ?_ start
  · rw [length_inSlots, List.length_nil, Nat.zero_add]
  · intro slot call outcome member
    cases member

end Plan
end LocalSwarm
