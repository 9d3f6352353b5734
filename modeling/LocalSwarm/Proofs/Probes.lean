import Mathlib.Data.List.Nodup
import Mathlib.Data.List.Perm.Subperm
import LocalSwarm.Download.Plan
import LocalSwarm.Proofs.Runs

/-! Calls that are made a few at a time, and probes. However the answers come in, every call is
answered once and none is waited for in vain; a probe finds just those candidates that have said to
hold the wanted copy. -/
namespace LocalSwarm

theorem perm_eraseP {α : Type} {xs : List (Nat × α)} {slot : Nat} (h : slot ∈ xs.map Prod.fst) :
    ∃ x, x.1 = slot ∧ xs.Perm (x :: xs.eraseP (·.1 == slot)) := by
  obtain ⟨y, member, rfl⟩ := List.mem_map.1 h
  obtain ⟨x, front, back, -, same, split, rest⟩ :=
    List.exists_of_eraseP (p := (·.1 == y.1)) member BEq.rfl
  refine ⟨x, by simpa using same, ?_⟩
  rw [rest, split]
  exact List.perm_middle

namespace Plan

theorem mem_inSlots {calls : List Call} {x : Nat × Call} (h : x ∈ inSlots calls) :
    calls[x.1]? = some x.2 := by
  obtain ⟨⟨call, slot⟩, member, rfl⟩ := List.mem_map.1 h
  exact List.mem_zipIdx_iff_getElem?.1 member

theorem slots_inSlots (calls : List Call) :
    (inSlots calls).map Prod.fst = List.range calls.length := by
  rw [inSlots, List.map_map, List.range_eq_range']
  exact List.zipIdx_map_snd 0 calls

theorem length_inSlots (calls : List Call) : (inSlots calls).length = calls.length := by
  rw [inSlots, List.length_map, List.length_zipIdx]

/-- There is a slot without an outcome, as outcomes are finitely many. -/
theorem firstOpen_not_mem (outcomes : List (Nat × Outcome)) :
    firstOpen outcomes ∉ outcomes.map Prod.fst := by
  unfold firstOpen
  cases found : (List.range (outcomes.length + 1)).find? fun slot => (outcomes.lookup slot).isNone with
  | some slot =>
    have open' := List.find?_some found
    rw [Option.isNone_iff_eq_none, List.lookup_eq_none_iff] at open'
    rw [Option.getD_some, List.mem_map]
    rintro ⟨x, member, same⟩
    simpa [same] using open' x member
  | none =>
    exfalso
    rw [List.find?_eq_none] at found
    have taken : List.range (outcomes.length + 1) ⊆ outcomes.map Prod.fst := by
      intro slot member
      have some := found slot member
      rw [Option.isNone_iff_eq_none, List.lookup_eq_none_iff] at some
      by_contra absent
      refine some fun x inside => ?_
      rw [bne_iff_ne]
      rintro rfl
      exact absent (List.mem_map_of_mem inside)
    have := (List.nodup_range.subperm taken).length_le
    rw [List.length_range, List.length_map] at this
    omega

/-- How far calls have come: which are out, which wait and which have ended. -/
structure Gathering (calls : List Call) (out waiting : List (Nat × Call))
    (outcomes : List (Nat × Outcome)) (past : List Happening) : Prop where
  slots : (out.map Prod.fst ++ (waiting.map Prod.fst ++ outcomes.map Prod.fst)).Perm
    (List.range calls.length)
  sorted : (waiting.map Prod.fst).Pairwise (· < ·)
  known : ∀ x ∈ out ++ waiting, calls[x.1]? = some x.2
  heard : ∀ x ∈ outcomes, ∃ call, calls[x.1]? = some call ∧ .answered x.1 call x.2 ∈ past

namespace Gathering

variable {calls : List Call} {out waiting : List (Nat × Call)} {outcomes : List (Nat × Outcome)}
  {past : List Happening}

theorem begin (calls : List Call) : Gathering calls [] (inSlots calls) [] [] where
  slots := by
    rw [slots_inSlots, List.map_nil, List.map_nil, List.nil_append, List.append_nil]
  sorted := by
    rw [slots_inSlots]
    exact List.pairwise_lt_range
  known := fun x member => mem_inSlots member
  heard := fun _ member => absurd member List.not_mem_nil

/-- As long as calls wait, one is out or may go out. -/
theorem busy (g : Gathering calls out waiting outcomes past) {width : Nat} (wide : 0 < width)
    (more : 0 < out.length + waiting.length) :
    out ++ waiting.takeWhile (fun c => decide (c.1 < firstOpen outcomes + width)) ≠ [] := by
  intro none
  obtain ⟨rfl, idle⟩ := List.append_eq_nil_iff.1 none
  cases waiting with
  | nil => cases more
  | cons first rest =>
    have late : ¬ first.1 < firstOpen outcomes + width := by
      intro soon
      rw [List.takeWhile_cons_of_pos (by simpa using soon)] at idle
      cases idle
    have below : firstOpen outcomes < calls.length := by
      have : first.1 ∈ List.range calls.length := g.slots.mem_iff.1 (by simp)
      have := List.mem_range.1 this
      omega
    have waits : firstOpen outcomes ∈ (first :: rest).map Prod.fst := by
      have slot := g.slots.mem_iff.2 (List.mem_range.2 below)
      rw [List.map_nil, List.nil_append, List.mem_append] at slot
      exact slot.resolve_right (firstOpen_not_mem outcomes)
    rcases List.mem_cons.1 waits with same | behind
    · omega
    · have := List.rel_of_pairwise_cons g.sorted behind
      omega

/-- Some calls go out, and one that is out ends. -/
theorem answer (g : Gathering calls out waiting outcomes past) (may : Nat × Call → Bool)
    {slot : Nat} {call : Call} (outcome : Outcome)
    (member : (slot, call) ∈ out ++ waiting.takeWhile may) (before : List Happening) :
    calls[slot]? = some call ∧
      ((out ++ waiting.takeWhile may).eraseP (·.1 == slot)).length + (waiting.dropWhile may).length +
        1 = out.length + waiting.length ∧
      Gathering calls ((out ++ waiting.takeWhile may).eraseP (·.1 == slot)) (waiting.dropWhile may)
        ((slot, outcome) :: outcomes) (past ++ before ++ [.answered slot call outcome]) := by
  have cut := List.takeWhile_append_dropWhile (p := may) (l := waiting)
  have known : ∀ x ∈ out ++ waiting.takeWhile may, calls[x.1]? = some x.2 := by
    intro x inside
    refine g.known x ?_
    rw [← cut, ← List.append_assoc]
    exact List.mem_append_left _ inside
  obtain ⟨x, same, ended⟩ := perm_eraseP (List.mem_map_of_mem (f := Prod.fst) member)
  have slots := ended.map Prod.fst
  rw [List.map_cons, same, List.map_append] at slots
  refine ⟨known _ member, ?_, ?_, ?_, ?_, ?_⟩
  · have gone := ended.length_eq
    have lengths := congrArg List.length cut
    simp only [List.length_append, List.length_cons] at gone lengths
    omega
  · have all := g.slots
    rw [← congrArg (List.map Prod.fst) cut, List.map_append, ← List.append_assoc,
      ← List.append_assoc] at all
    refine List.Perm.trans ?_ all
    rw [List.map_cons, ← List.append_assoc]
    refine List.perm_middle.trans ?_
    exact (slots.symm.append_right _).append_right _
  · refine g.sorted.sublist ?_
    exact (List.dropWhile_sublist may).map Prod.fst
  · intro y inside
    rcases List.mem_append.1 inside with left | right
    · exact known y (List.mem_of_mem_eraseP left)
    · refine g.known y (List.mem_append_right _ ?_)
      exact (List.dropWhile_sublist may).subset right
  · intro y inside
    rcases List.mem_cons.1 inside with rfl | old
    · exact ⟨call, known _ member, List.mem_append_right _ List.mem_cons_self⟩
    · obtain ⟨call', at', earlier⟩ := g.heard y old
      exact ⟨call', at', by rw [List.append_assoc]; exact List.mem_append_left _ earlier⟩

/-- Once nothing is out and nothing waits, every call has an outcome. -/
theorem complete (g : Gathering calls [] [] outcomes past) (slot : Nat) (h : slot < calls.length) :
    ∃ outcome, outcomes.lookup slot = some outcome := by
  have listed := g.slots.mem_iff.2 (List.mem_range.2 h)
  rw [← Option.isSome_iff_exists, Option.isSome_iff_ne_none, ne_eq, List.lookup_eq_none_iff]
  intro absent
  obtain ⟨x, inside, same⟩ := List.mem_map.1 listed
  have := absent x inside
  rw [bne_iff_ne] at this
  exact this same.symm

end Gathering

/-- What a run of gathered calls comes to. -/
theorem run_gather {calls : List Call} {first : Precedence} {width left : Nat}
    {waiting : List (Nat × Call)} {outcomes : List (Nat × Outcome)} {past h : List Happening}
    {c c' : Situation} {e : Except Cut (List (Nat × Outcome))} (wide : 0 < width)
    (g : Gathering calls c.out waiting outcomes past) (count : left = c.out.length + waiting.length)
    (run : Run (gather first width left waiting outcomes) c h c' e) :
    Passes c.site h c'.site ∧ c'.out = [] ∧
      (∀ slot call outcome, .answered slot call outcome ∈ h → call ∈ calls) ∧
      (e = .error .dropped ∨ ∃ all, e = .ok all ∧ Gathering calls [] [] all (past ++ h)) := by
  induction left generalizing waiting outcomes past c h with
  | zero =>
    obtain ⟨none, rfl⟩ : c.out = [] ∧ waiting = [] :=
      ⟨List.eq_nil_of_length_eq_zero (by omega), List.eq_nil_of_length_eq_zero (by omega)⟩
    rw [none] at g
    cases run
    refine ⟨.nothing _, none, ?_, .inr ⟨outcomes, rfl, by rwa [List.append_nil]⟩⟩
    intro slot call outcome member
    cases member
  | succ left ih =>
    unfold gather at run
    cases run with
    | answered outcome meanwhile out run =>
      obtain ⟨called, lengths, next⟩ := g.answer _ outcome out _
      obtain ⟨passes, none, made, ended⟩ := ih next (by dsimp only; omega) run
      refine ⟨meanwhile.passes.trans (.answered _ _ _ passes), none, ?_, ?_⟩
      · intro slot call outcome member
        rcases List.mem_append.1 member with early | late
        · cases meanwhile.noAnswer _ early
        · rcases List.mem_cons.1 late with now | later
          · cases now
            exact List.mem_of_getElem? called
          · exact made slot call outcome later
      · refine ended.imp_right ?_
        rintro ⟨all, rfl, done⟩
        refine ⟨all, rfl, ?_⟩
        simpa only [List.append_assoc, List.cons_append, List.nil_append] using done
    | dropped meanwhile =>
      refine ⟨meanwhile.passes, rfl, ?_, .inl rfl⟩
      intro slot call outcome member
      cases meanwhile.noAnswer _ member
    | stuck none => exact absurd none (g.busy wide (by omega))

theorem run_inOrder {calls : List Call} {width : Nat} {s : Site} {h : List Happening}
    {c' : Situation} {e : Except Cut (List (Nat × Outcome))}
    (run : Run (inOrder width calls) ⟨[], s⟩ h c' e) :
    Passes s h c'.site ∧ c'.out = [] ∧
      (∀ slot call outcome, .answered slot call outcome ∈ h → call ∈ calls) ∧
      (e = .error .dropped ∨ ∃ all, e = .ok all ∧ Gathering calls [] [] all h) := by
  refine run_gather (c := ⟨[], s⟩) (Nat.lt_of_lt_of_le Nat.one_pos (Nat.le_max_right width 1))
    (.begin calls) ?_ run
  rw [length_inSlots, List.length_nil, Nat.zero_add]

end Plan

/-- Whether an outcome says that the wanted copy is there. -/
def Outcome.qualifies (size : UInt64) (version : String) (outcome : Outcome) : Bool :=
  outcome.status?.any (DownloadRequest.qualifies size version)

/-- The contacts that a probe of candidates names when some things have happened. -/
structure Probed (file : FileQuery) (size : UInt64) (version : String) (candidates : List Peer)
    (h : List Happening) (contacts : List Peer) : Prop where
  sublist : contacts.Sublist candidates
  qualified : ∀ p ∈ contacts, ∃ slot outcome,
    .answered slot ⟨.contact p, .checkFile file⟩ outcome ∈ h ∧
      Outcome.qualifies size version outcome = true
  others : ∀ p ∈ candidates, p ∈ contacts ∨ ∃ slot outcome,
    .answered slot ⟨.contact p, .checkFile file⟩ outcome ∈ h ∧
      Outcome.qualifies size version outcome = false

/-- The candidates whose outcomes qualify, in order. -/
def holders (size : UInt64) (version : String) (candidates : List Peer)
    (outcomes : List (Nat × Outcome)) : List Peer :=
  (candidates.zipIdx.filter fun (_, slot) =>
    ((outcomes.lookup slot).bind Outcome.status?).any (DownloadRequest.qualifies size version)).map
      (·.1)

theorem probed_holders {file : FileQuery} {size : UInt64} {version : String}
    {candidates : List Peer} {outcomes : List (Nat × Outcome)} {h : List Happening}
    (g : Plan.Gathering (candidates.map fun p => ⟨.contact p, .checkFile file⟩) [] [] outcomes h) :
    Probed file size version candidates h (holders size version candidates outcomes) := by
  have heard : ∀ slot p outcome, candidates[slot]? = some p → outcomes.lookup slot = some outcome →
      .answered slot ⟨.contact p, .checkFile file⟩ outcome ∈ h := by
    intro slot p outcome at' found
    obtain ⟨before, behind, split, -⟩ := List.lookup_eq_some_iff.1 found
    obtain ⟨call, called, answered⟩ := g.heard (slot, outcome)
      (by rw [split]; exact List.mem_append_right _ List.mem_cons_self)
    rw [List.getElem?_map, at'] at called
    cases called
    exact answered
  refine ⟨?_, ?_, ?_⟩
  · have kept := (List.filter_sublist (l := candidates.zipIdx) (p := fun (_, slot) =>
      ((outcomes.lookup slot).bind Outcome.status?).any
        (DownloadRequest.qualifies size version))).map Prod.fst
    rwa [List.zipIdx_map_fst] at kept
  · intro p member
    obtain ⟨⟨q, slot⟩, kept, rfl⟩ := List.mem_map.1 member
    obtain ⟨listed, holds⟩ := List.mem_filter.1 kept
    have at' : candidates[slot]? = some q := List.mem_zipIdx_iff_getElem?.1 listed
    cases found : outcomes.lookup slot with
    | none => simp only [found, Option.bind_none, Option.any_none, Bool.false_eq_true] at holds
    | some outcome =>
      refine ⟨slot, outcome, heard slot q outcome at' found, ?_⟩
      simpa only [found, Option.bind_some, Outcome.qualifies] using holds
  · intro p member
    obtain ⟨slot, below, rfl⟩ := List.getElem_of_mem member
    have at' := List.getElem?_eq_getElem below
    obtain ⟨outcome, found⟩ := g.complete slot (by rwa [List.length_map])
    cases good : Outcome.qualifies size version outcome with
    | false => exact .inr ⟨slot, outcome, heard slot _ outcome at' found, good⟩
    | true =>
      left
      refine List.mem_map.2 ⟨(candidates[slot], slot), List.mem_filter.2 ⟨?_, ?_⟩, rfl⟩
      · exact List.mem_zipIdx_iff_getElem?.2 at'
      · simpa only [found, Option.bind_some, Outcome.qualifies] using good

/-- What a run of a probe comes to. -/
theorem run_probe {file : FileQuery} {size : UInt64} {version : String} {width : Nat} {s : Site}
    {h : List Happening} {c' : Situation} {e : Except Cut (List Peer)}
    (run : Run (probe file size version width) ⟨[], s⟩ h c' e) :
    Passes s h c'.site ∧ c'.out = [] ∧
      (∀ slot call outcome, .answered slot call outcome ∈ h →
        ∃ p ∈ s.node.table.online s.now, call = ⟨.contact p, .checkFile file⟩) ∧
      (e = .error .dropped ∨ ∃ contacts, e = .ok contacts ∧
        Probed file size version (s.node.table.online s.now) h contacts) := by
  change Run (.look fun site => Plan.bind (Plan.inOrder width ((site.node.table.online site.now).map
    fun p => ⟨.contact p, .checkFile file⟩)) fun outcomes =>
      .done (holders size version (site.node.table.online site.now) outcomes)) _ _ _ _ at run
  have asked : ∀ call ∈ (s.node.table.online s.now).map
      fun p => (⟨.contact p, .checkFile file⟩ : Call),
      ∃ p ∈ s.node.table.online s.now, call = ⟨.contact p, .checkFile file⟩ := by
    intro call member
    obtain ⟨p, online, rfl⟩ := List.mem_map.1 member
    exact ⟨p, online, rfl⟩
  cases run with
  | look run =>
    rcases run.of_bind with ⟨h₁, h₂, c₁, all, rfl, gathered, finish⟩ | ⟨cut, rfl, cutShort⟩
    · obtain ⟨passes, none, made, ended⟩ := Plan.run_inOrder gathered
      cases finish
      rw [List.append_nil]
      refine ⟨passes, none, fun slot call outcome member => asked _ (made slot call outcome member), ?_⟩
      rcases ended with ended | ⟨outcomes, ended, complete⟩
      · cases ended
      · cases ended
        exact .inr ⟨_, rfl, probed_holders complete⟩
    · obtain ⟨passes, none, made, ended⟩ := Plan.run_inOrder cutShort
      refine ⟨passes, none, fun slot call outcome member => asked _ (made slot call outcome member), ?_⟩
      rcases ended with ended | ⟨outcomes, ended, -⟩
      · cases ended
        exact .inl rfl
      · cases ended

end LocalSwarm
