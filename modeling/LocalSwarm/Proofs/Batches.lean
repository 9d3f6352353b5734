import LocalSwarm.Proofs.Probes
import LocalSwarm.Proofs.Ranges
import LocalSwarm.Proofs.Records

/-! Calls that are made all at once. Every one of them has one outcome, whatever the order in which
they end. Main statement: `run_together`. -/
namespace LocalSwarm

namespace Happening

/-- The slots that were answered, and the outcomes, in the order of the answers. -/
def outcomes (h : List Happening) : List (Nat × Outcome) :=
  h.filterMap fun
    | answered slot _ outcome => some (slot, outcome)
    | _ => none

theorem outcomes_append (h k : List Happening) : outcomes (h ++ k) = outcomes h ++ outcomes k :=
  List.filterMap_append

theorem outcomes_of_noAnswer {h : List Happening} (noAnswer : ∀ x ∈ h, x.isAnswer = false) :
    outcomes h = [] := by
  refine List.filterMap_eq_nil_iff.2 fun x member => ?_
  cases x with
  | answered => cases noAnswer _ member
  | created => rfl
  | elapsed => rfl
  | disrupted => rfl

end Happening

namespace Plan

/-- Calls that are gathered end in their own slots, and their outcomes are kept as they come. -/
theorem record_gather {calls : List Call} {first : Precedence} {width left : Nat}
    {waiting : List (Nat × Call)} {outcomes : List (Nat × Outcome)} {h : List Happening}
    {c c' : Situation} {e : Except Cut (List (Nat × Outcome))}
    (known : ∀ x ∈ c.out ++ waiting, calls[x.1]? = some x.2)
    (run : Run (gather first width left waiting outcomes) c h c' e) :
    (∀ slot call outcome, .answered slot call outcome ∈ h → calls[slot]? = some call) ∧
      ∀ all, e = .ok all → all = (Happening.outcomes h).reverse ++ outcomes := by
  induction left generalizing waiting outcomes c h with
  | zero =>
    cases run
    refine ⟨fun _ _ _ member => absurd member List.not_mem_nil, fun all same => ?_⟩
    cases same
    rfl
  | succ left ih =>
    unfold gather at run
    cases run with
    | @answered _ _ _ _ _ _ before later s slot call _ outcome meanwhile out run =>
      have mine (x : Nat × Call)
          (inside : x ∈ c.out ++ waiting.takeWhile fun y => decide (y.1 < firstOpen outcomes + width)) :
          calls[x.1]? = some x.2 := by
        refine known x ?_
        rcases List.mem_append.1 inside with left | right
        · exact List.mem_append_left _ left
        · exact List.mem_append_right _ ((List.takeWhile_sublist _).subset right)
      obtain ⟨called, kept⟩ := ih (c := ⟨_, s⟩) (by
        intro x inside
        rcases List.mem_append.1 inside with left | right
        · exact mine x (List.mem_of_mem_eraseP left)
        · exact known x (List.mem_append_right _ ((List.dropWhile_sublist _).subset right))) run
      constructor
      · intro slot' call' outcome' member
        rcases List.mem_append.1 member with early | late
        · cases meanwhile.noAnswer _ early
        · rcases List.mem_cons.1 late with now | later
          · cases now
            exact mine _ out
          · exact called slot' call' outcome' later
      · intro all same
        rw [kept all same, Happening.outcomes_append, Happening.outcomes_of_noAnswer meanwhile.noAnswer]
        change _ = ((slot, outcome) :: Happening.outcomes later).reverse ++ outcomes
        rw [List.reverse_cons, List.append_assoc]
        rfl
    | dropped meanwhile =>
      constructor
      · intro slot call outcome member
        cases meanwhile.noAnswer _ member
      · intro all same
        cases same
    | stuck =>
      constructor
      · exact fun _ _ _ member => absurd member List.not_mem_nil
      · intro all same
        cases same

/-- What a run of calls that are made all at once comes to. -/
theorem run_together {calls : List Call} {s : Site} {h : List Happening} {c' : Situation}
    {e : Except Cut (List (Nat × Outcome))} (run : Run (together calls) ⟨[], s⟩ h c' e) :
    c'.out = [] ∧
      (∀ slot call outcome, .answered slot call outcome ∈ h → calls[slot]? = some call) ∧
      (e = .error .dropped ∨ ∃ all, e = .ok all ∧ all = (Happening.outcomes h).reverse ∧
        (all.map Prod.fst).Perm (List.range calls.length)) := by
  have known (x : Nat × Call) (member : x ∈ [] ++ inSlots calls) : calls[x.1]? = some x.2 :=
    mem_inSlots member
  obtain ⟨called, kept⟩ := record_gather known run
  rcases calls.eq_nil_or_concat with rfl | some
  · cases run
    exact ⟨rfl, called, .inr ⟨[], rfl, rfl, .nil⟩⟩
  · have wide : 0 < calls.length := by
      obtain ⟨_, _, rfl⟩ := some
      simp
    obtain ⟨-, none, -, ended⟩ := run_gather (c := ⟨[], s⟩) wide (.begin calls)
      (by rw [length_inSlots, List.length_nil, Nat.zero_add]) run
    refine ⟨none, called, ended.imp_right ?_⟩
    rintro ⟨all, rfl, complete⟩
    exact ⟨all, rfl, (kept all rfl).trans (List.append_nil _), complete.slots⟩

end Plan
end LocalSwarm
