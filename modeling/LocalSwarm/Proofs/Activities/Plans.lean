import LocalSwarm.Lookup.Plan
import LocalSwarm.Proofs.Runs

/-! Plans that keep to terms, whatever they find and whatever they are answered: which calls they
may make, and which faults they may run into. Plans change nothing of a node but its bootstrap. Main
statements are one for each operation of a node. -/
namespace LocalSwarm

/-- Nothing is different but the files and how far the bootstrap is. -/
structure Site.Alike (s s' : Site) : Prop where
  node : s'.node = { s.node with bootstrap := s'.node.bootstrap }
  now : s'.now = s.now

theorem Site.Alike.refl (s : Site) : s.Alike s := ⟨rfl, rfl⟩

theorem Site.Alike.trans {s s' s'' : Site} (first : s.Alike s') (second : s'.Alike s'') :
    s.Alike s'' := by
  refine ⟨?_, second.now.trans first.now⟩
  rw [second.node, first.node]

/-- What a plan relies on and may do. -/
structure Terms where
  sites : Site → Prop
  asks : Call → Prop
  breaks : Fault → Prop

namespace Plan

variable {α β : Type} {terms : Terms}

/-- The plan keeps to the terms on all sites that these are for. -/
inductive Conforms (terms : Terms) : Plan α → Prop where
  | done (result : α) : Conforms terms (.done result)
  | broken {fault : Fault} : terms.breaks fault → Conforms terms (.broken fault)
  | look {next : Site → Plan α} : (∀ s, terms.sites s → Conforms terms (next s)) →
      Conforms terms (.look next)
  | change {effect : Site → Site} {next : Plan α} : (∀ s : Site, s.Alike (effect s)) →
      Conforms terms next → Conforms terms (.change effect next)
  | await {first : Precedence} {calls : List (Nat × Call)} {dropped : Site → Site}
      {next : Nat → Outcome → Plan α} : (∀ c ∈ calls, terms.asks c.2) →
      (∀ s : Site, s.Alike (dropped s)) → (∀ slot outcome, Conforms terms (next slot outcome)) →
      Conforms terms (.await first calls dropped next)

/-! ### Combinators -/

theorem Conforms.bind {p : Plan α} {f : α → Plan β} (first : p.Conforms terms)
    (rest : ∀ a, (f a).Conforms terms) : (p.bind f).Conforms terms := by
  induction first with
  | done a => exact rest a
  | broken allowed => exact .broken allowed
  | look _ ih => exact .look ih
  | change alike _ ih => exact .change alike ih
  | await asks alike _ ih => exact .await asks alike ih

theorem Conforms.onDrop {p : Plan α} {after : Site → Site} (conforms : p.Conforms terms)
    (gentle : ∀ s : Site, s.Alike (after s)) : (p.onDrop after).Conforms terms := by
  induction conforms with
  | done a => exact .done a
  | broken allowed => exact .broken allowed
  | look _ ih => exact .look ih
  | change alike _ ih => exact .change alike ih
  | await asks alike _ ih => exact .await asks (fun s => (alike s).trans (gentle _)) ih

theorem conforms_call {c : Call} (asks : terms.asks c) : (call c).Conforms terms := by
  refine .await ?_ Site.Alike.refl fun _ outcome => .done outcome
  rintro _ member
  obtain rfl := List.mem_singleton.1 member
  exact asks

theorem conforms_gather {first : Precedence} {width left : Nat} {waiting : List (Nat × Call)}
    (outcomes : List (Nat × Outcome)) (asks : ∀ c ∈ waiting, terms.asks c.2) :
    (gather first width left waiting outcomes).Conforms terms := by
  induction left generalizing waiting outcomes with
  | zero => exact .done outcomes
  | succ left ih =>
    refine .await (fun c member => ?_) Site.Alike.refl fun slot outcome => ?_
    · exact asks c ((List.takeWhile_sublist _).subset member)
    · exact ih _ fun c member => asks c ((List.dropWhile_sublist _).subset member)

theorem asks_inSlots {calls : List Call} (asks : ∀ c ∈ calls, terms.asks c) :
    ∀ c ∈ inSlots calls, terms.asks c.2 := by
  intro c member
  obtain ⟨⟨call, slot⟩, numbered, rfl⟩ := List.mem_map.1 member
  exact asks call (List.fst_mem_of_mem_zipIdx numbered)

theorem conforms_together {calls : List Call} (asks : ∀ c ∈ calls, terms.asks c) :
    (together calls).Conforms terms := conforms_gather [] (asks_inSlots asks)

theorem conforms_inOrder {width : Nat} {calls : List Call} (asks : ∀ c ∈ calls, terms.asks c) :
    (inOrder width calls).Conforms terms := conforms_gather [] (asks_inSlots asks)

theorem conforms_setState (state : BootstrapState) : (setState state).Conforms terms :=
  .change (fun _ => ⟨rfl, rfl⟩) (.done ())

theorem conforms_giveUp : Bootstrap.giveUp.Conforms terms :=
  .look fun _ _ => .look fun _ _ => conforms_setState _

end Plan

open Plan

/-! ### Lookups -/

/-- Contacts may be asked for contacts and for values. -/
structure Terms.Searching (terms : Terms) : Prop where
  node : ∀ p target count, terms.asks ⟨.contact p, .findNode target count⟩
  value : ∀ p key count, terms.asks ⟨.contact p, .findValue key count⟩

namespace Terms.Searching

variable {terms : Terms} (searching : terms.Searching)
include searching

theorem asks_request (l : Lookup) (batch : List Peer) :
    ∀ c ∈ batch.map fun p => Call.mk (.contact p) l.request, terms.asks c := by
  intro c member
  obtain ⟨p, -, rfl⟩ := List.mem_map.1 member
  unfold Lookup.request
  dsimp only
  split
  · exact searching.node p _ _
  · exact searching.value p _ _

theorem follow (stage : LookupStage) : (Lookup.follow stage).Conforms terms := by
  fun_induction Lookup.follow stage with
  | case1 outcome => exact .done outcome
  | case2 l batch ih =>
    refine (conforms_together (searching.asks_request l batch)).bind fun outcomes => ?_
    split
    · exact .done _
    · rename_i ended
      exact ih outcomes _ _ ended

theorem search (kind : LookupKind) (pace : LookupPace) (target : Identifier) (seeds : List Peer) :
    (Lookup.search kind pace target seeds).Conforms terms :=
  .look fun _ _ => searching.follow _

theorem searchHere (kind : LookupKind) (pace : LookupPace) (target : Identifier) :
    (Lookup.searchHere kind pace target).Conforms terms :=
  .look fun _ _ => searching.search kind pace target _

theorem findNode (pace : LookupPace) (target : Identifier) :
    (Lookup.findNode pace target).Conforms terms :=
  (searching.searchHere .node pace target).bind fun _ => .done _

theorem findValue (pace : LookupPace) (key : Identifier) :
    (Lookup.findValue pace key).Conforms terms := searching.searchHere .value pace key

theorem storeValue (pace : LookupPace) {key : Identifier} {value : Bytes}
    (stores : ∀ p, terms.asks ⟨.contact p, .store key value⟩) :
    (Lookup.storeValue pace key value).Conforms terms := by
  refine (searching.findNode pace key).bind fun closest => ?_
  refine (conforms_together fun c member => ?_).bind fun _ => .done _
  obtain ⟨p, -, rfl⟩ := List.mem_map.1 member
  exact stores p

theorem refreshBucket (pace : LookupPace) (random : Identifier) (i : Fin 160) :
    (Lookup.refreshBucket pace random i).Conforms terms :=
  .look fun _ _ => (searching.findNode pace _).bind fun _ => .done ()

theorem refresh (pace : LookupPace) (random : Fin 160 → Identifier) :
    (Lookup.refresh pace random).Conforms terms := by
  refine Conforms.bind (.look fun site _ => .done site) fun site => ?_
  have each (stale : List (Fin 160)) :
      (stale.forM fun i => Lookup.refreshBucket pace (random i) i).Conforms terms := by
    induction stale with
    | nil => exact .done ()
    | cons i rest ih => exact (searching.refreshBucket pace (random i) i).bind fun _ => ih
  exact (each _).bind fun _ => .done _

theorem attempt (pace : LookupPace) (contact : Peer) :
    (Bootstrap.attempt pace contact).Conforms terms := by
  refine Conforms.bind (.look fun site _ => .done site) fun site => ?_
  refine (conforms_setState .underway).bind fun _ => ?_
  refine (conforms_call (searching.node contact _ _)).bind fun outcome => ?_
  cases outcome with
  | error e => exact Conforms.bind conforms_giveUp fun _ => .done _
  | ok reply =>
    refine Conforms.bind ((searching.search .node pace _ _).bind fun _ => .done _) fun _ => ?_
    refine Conforms.bind (.look fun site _ => .done site) fun site => ?_
    exact (conforms_setState .complete).bind fun _ => .done _

end Terms.Searching

/-- Others are greeted with our version. -/
theorem conforms_handshake {terms : Terms} {address : SocketAddr} {buckets : List String}
    (greets : ∀ s, terms.sites s →
      terms.asks ⟨.endpoint address, .acknowledge ⟨s.node.version, buckets⟩⟩) :
    (handshake address buckets).Conforms terms := by
  refine .look fun site here => ?_
  refine (conforms_call (greets site here)).bind fun outcome => ?_
  cases outcome with
  | error e => exact .done _
  | ok reply =>
    dsimp only
    split <;> exact .done _

theorem conforms_join {terms : Terms} (searching : terms.Searching) {address : SocketAddr}
    (greets : ∀ s s', terms.sites s → terms.sites s' → terms.asks
      ⟨.endpoint address, .acknowledge ⟨s'.node.version, s.node.provider.buckets⟩⟩)
    (pace : LookupPace) : (join pace address).Conforms terms := by
  refine .look fun site here => ?_
  refine (conforms_handshake fun s there => greets site s here there).bind fun outcome => ?_
  cases outcome with
  | error e => exact .done _
  | ok h => exact (searching.attempt pace h.contact).bind fun _ => .done _

end LocalSwarm
