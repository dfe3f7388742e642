import Mathlib.Data.List.Nodup
import Umundo.Discovery.Avahi

namespace Umundo
namespace Discovery

open Foundation
open Std

/-!
# The registry of clients

The table of clients is shared by nodes and queries, and groups are made by callbacks.
All tables agree in every state that can be reached.  The assertions that check this
never fail, except for one: `remove` asserts that the node has an entry group, although
a client that was never seen running has none.
-/

/-- The group of a node after a callback. -/
def NodeCallback.group (current : Option Nat) : NodeCallback -> Option Nat
  | .client .running made => current.or made
  | .client _ _ => current
  | .entryGroup group _ => some group

/-- The group that is made for a node while it is registered. -/
def Registration.group (registration : Registration) : Option Nat :=
  registration.during.foldl NodeCallback.group none

/-- A node has one group at most, and callbacks about a group are about that one. -/
def Genuine : Option Nat -> List NodeCallback -> Prop
  | _, [] => True
  | current, .client state made :: rest => Genuine ((NodeCallback.client state made).group current) rest
  | current, .entryGroup group _ :: rest =>
      (current = some group ∨ current = none) ∧ Genuine (some group) rest

instance Genuine.decidable : (current : Option Nat) -> (callbacks : List NodeCallback) ->
    Decidable (Genuine current callbacks)
  | _, [] => .isTrue trivial
  | current, .client state made :: rest => decidable ((NodeCallback.client state made).group current) rest
  | current, .entryGroup group _ :: rest =>
      have := decidable (some group) rest
      inferInstanceAs (Decidable ((current = some group ∨ current = none) ∧ _))

namespace Avahi

/-- Live nodes and queries have different addresses, and callbacks are about nodes and
queries that are there. -/
def Allowed (avahi : Avahi) : AvahiEvent -> Prop
  | .add node registration => node ∉ avahi.browsers ∧ Genuine none registration.during
  | .remove node => node ∉ avahi.browsers
  | .suspend => True
  | .resume registrations => forall node, node ∈ avahi.suspendedNodes.toList ->
      Genuine none (registrations node).during
  | .browse query _ _ => query ∉ avahi.nodes ∧ query ∉ avahi.suspendedNodes
  | .unbrowse query => query ∉ avahi.nodes ∧ query ∉ avahi.suspendedNodes
  | .callback node callback => node ∈ avahi.nodes ∧ Genuine avahi.avahiGroups[node]? [callback]
  | .browseCallback query _ _ _ _ => query ∈ avahi.browsers
  | .resolveCallback query _ _ _ _ => query ∈ avahi.browsers

instance (avahi : Avahi) (event : AvahiEvent) : Decidable (avahi.Allowed event) := by
  unfold Allowed
  split <;> infer_instance

/-- A node that is removed, on its own or by a suspension, has an entry group. -/
def HasGroups (avahi : Avahi) : AvahiEvent -> Prop
  | .remove node => node ∈ avahi.nodes -> node ∈ avahi.avahiGroups
  | .suspend => avahi.isSuspended = false ->
      forall node, node ∈ avahi.nodes -> node ∈ avahi.avahiGroups
  | _ => True

instance (avahi : Avahi) (event : AvahiEvent) : Decidable (avahi.HasGroups event) :=
  match event with
  | .remove node => inferInstanceAs (Decidable (node ∈ avahi.nodes -> node ∈ avahi.avahiGroups))
  | .suspend =>
      decidable_of_iff (avahi.isSuspended = false ->
          forall node, node ∈ avahi.nodes.toList -> node ∈ avahi.avahiGroups) <| by
        simp only [ExtTreeSet.mem_toList]
        rfl
  | .add _ _ | .resume _ | .browse _ _ _ | .unbrowse _ | .callback _ _ | .browseCallback _ _ _ _ _
  | .resolveCallback _ _ _ _ _ => .isTrue trivial

structure Registry (avahi : Avahi) : Prop where
  clients : forall address, address ∈ avahi.avahiClients <->
    address ∈ avahi.browsers ∨ address ∈ avahi.nodes
  disjoint : forall address, address ∈ avahi.browsers -> address ∉ avahi.nodes
  browsers : forall address, address ∈ avahi.avahiBrowsers <-> address ∈ avahi.browsers
  groups : forall address, address ∈ avahi.avahiGroups -> address ∈ avahi.nodes

namespace Registry

variable {avahi : Avahi}

theorem start : Registry Avahi.start where
  clients address := by simp [Avahi.start]
  disjoint address member := absurd member ExtTreeSet.not_mem_empty
  browsers address := by simp [Avahi.start]
  groups address member := absurd member ExtTreeMap.not_mem_empty

theorem size_browsers (registry : avahi.Registry) : avahi.avahiBrowsers.size = avahi.browsers.size := by
  rw [← ExtTreeMap.length_keys, ← ExtTreeSet.length_toList]
  apply List.Perm.length_eq
  rw [List.perm_ext_iff_of_nodup (Table.nodup_keys _) (Table.nodup_toList _)]
  intro address
  rw [ExtTreeMap.mem_keys, ExtTreeSet.mem_toList, registry.browsers]

/-- The clients are those of queries and those of nodes, and none is counted twice. -/
theorem size_clients (registry : avahi.Registry) :
    avahi.avahiClients.size = avahi.browsers.size + avahi.nodes.size := by
  rw [← ExtTreeMap.length_keys, ← ExtTreeSet.length_toList, ← ExtTreeSet.length_toList,
    ← List.length_append]
  apply List.Perm.length_eq
  have apart : (avahi.browsers.toList ++ avahi.nodes.toList).Nodup := by
    refine List.Nodup.append (Table.nodup_toList _) (Table.nodup_toList _) fun address query node => ?_
    exact registry.disjoint address (ExtTreeSet.mem_toList.mp query) (ExtTreeSet.mem_toList.mp node)
  rw [List.perm_ext_iff_of_nodup (Table.nodup_keys _) apart]
  intro address
  rw [ExtTreeMap.mem_keys, List.mem_append, ExtTreeSet.mem_toList, ExtTreeSet.mem_toList,
    registry.clients]

theorem validateState (registry : avahi.Registry) : avahi.validateState = true := by
  simp only [Avahi.validateState, Bool.and_eq_true, List.all_eq_true, decide_eq_true_eq, beq_iff_eq,
    ExtTreeMap.mem_keys, ExtTreeSet.mem_toList]
  refine ⟨⟨⟨⟨?_, registry.size_browsers⟩, ?_⟩, registry.size_clients⟩, registry.groups⟩
  · exact fun query member =>
      ⟨(registry.clients query).mpr (.inl member), (registry.browsers query).mpr member⟩
  · exact fun node member => (registry.clients node).mpr (.inr member)

theorem validated_eq (registry : avahi.Registry) : avahi.validated = some avahi :=
  if_pos registry.validateState

end Registry

/-- The invariant of the registry.  Suspended nodes are live as well. -/
structure Good (avahi : Avahi) : Prop extends Registry avahi where
  suspended : forall address, address ∈ avahi.suspendedNodes -> address ∉ avahi.browsers

/-! ## Callbacks about nodes -/

/-- Only the group of one node is different. -/
structure Regrouped (avahi : Avahi) (node : Nat) (group : Option Nat) (next : Avahi) : Prop where
  same : Exists fun groups => next = { avahi with avahiGroups := groups }
  own : next.avahiGroups[node]? = group
  others : forall other : Nat, other ≠ node -> next.avahiGroups[other]? = avahi.avahiGroups[other]?

section

variable {avahi : Avahi} {node : Nat}

theorem regrouped_insert (avahi : Avahi) (node group : Nat) :
    avahi.Regrouped node (some group)
      { avahi with avahiGroups := avahi.avahiGroups.insert node group } where
  same := ⟨_, rfl⟩
  own := ExtTreeMap.getElem?_insert_self
  others other different := by
    change (avahi.avahiGroups.insert node group)[other]? = _
    rw [Table.getElem?_insert_eq, if_neg different]

theorem ensures_callback (known : node ∈ avahi.nodes) {callback : NodeCallback}
    {rest : List NodeCallback} (genuine : Genuine avahi.avahiGroups[node]? (callback :: rest)) :
    Ensures (avahi.callback node callback)
      (avahi.Regrouped node (callback.group avahi.avahiGroups[node]?)) := by
  have unchanged : avahi.Regrouped node avahi.avahiGroups[node]? avahi :=
    ⟨⟨_, rfl⟩, rfl, fun _ _ => rfl⟩
  cases callback with
  | client state made =>
      refine .check known ?_
      cases state with
      | running =>
          cases current : avahi.avahiGroups[node]? with
          | some group =>
              rw [current] at unchanged
              exact .done unchanged
          | none =>
              rw [current] at unchanged
              cases made with
              | none => exact .done unchanged
              | some group => exact .done (avahi.regrouped_insert node group)
      | registering => exact .done unchanged
      | collision => exact .done unchanged
      | failure => exact .done unchanged
      | connecting => exact .done unchanged
  | entryGroup group state =>
      exact .check known (.check genuine.1 (.done (avahi.regrouped_insert node group)))

theorem Regrouped.trans {middle last : Avahi} {group later : Option Nat}
    (first : avahi.Regrouped node group middle) (second : middle.Regrouped node later last) :
    avahi.Regrouped node later last where
  same := by
    obtain ⟨_, rfl⟩ := first.same
    obtain ⟨groups, rfl⟩ := second.same
    exact ⟨groups, rfl⟩
  own := second.own
  others other different := (second.others other different).trans (first.others other different)

/-- All callbacks that are made on behalf of a node. -/
theorem ensures_callbacks (known : node ∈ avahi.nodes) {callbacks : List NodeCallback}
    (genuine : Genuine avahi.avahiGroups[node]? callbacks) :
    Ensures (callbacks.foldlM (callback node) avahi)
      (avahi.Regrouped node (callbacks.foldl NodeCallback.group avahi.avahiGroups[node]?)) := by
  induction callbacks generalizing avahi with
  | nil => exact .done ⟨⟨_, rfl⟩, rfl, fun _ _ => rfl⟩
  | cons callback rest ih =>
      rw [List.foldlM_cons, List.foldl_cons]
      refine .bind (ensures_callback known genuine) fun next regrouped => ?_
      have still : node ∈ next.nodes := by
        obtain ⟨_, rfl⟩ := regrouped.same
        exact known
      have later : Genuine next.avahiGroups[node]? rest := by
        rw [regrouped.own]
        cases callback with
        | client state made => exact genuine
        | entryGroup group state => exact genuine.2
      have after := ih still later
      rw [regrouped.own] at after
      exact after.mono fun last => regrouped.trans

end

/-! ## Local nodes -/

/-- Some nodes are known now, and have groups if some were made for them. -/
structure Grown (avahi : Avahi) (registrations : Nat -> Registration) (items : List Nat)
    (next : Avahi) : Prop where
  isSuspended : next.isSuspended = avahi.isSuspended
  suspendedNodes : next.suspendedNodes = avahi.suspendedNodes
  browsers : next.browsers = avahi.browsers
  queryNodes : next.queryNodes = avahi.queryNodes
  nodes : forall other, other ∈ next.nodes <-> other ∈ items ∨ other ∈ avahi.nodes
  groups : forall other, other ∈ next.avahiGroups <->
    (other ∈ items ∧ other ∉ avahi.nodes ∧ (registrations other).group.isSome) ∨
      other ∈ avahi.avahiGroups

theorem Grown.refl (avahi : Avahi) (registrations : Nat -> Registration) :
    avahi.Grown registrations [] avahi where
  isSuspended := rfl
  suspendedNodes := rfl
  browsers := rfl
  queryNodes := rfl
  nodes _ := (or_iff_right List.not_mem_nil).symm
  groups _ := (or_iff_right fun new => List.not_mem_nil new.1).symm

theorem Grown.cons {avahi middle next : Avahi} {registrations : Nat -> Registration} {node : Nat}
    {items : List Nat} (first : avahi.Grown registrations [node] middle)
    (second : middle.Grown registrations items next) :
    avahi.Grown registrations (node :: items) next where
  isSuspended := second.isSuspended.trans first.isSuspended
  suspendedNodes := second.suspendedNodes.trans first.suspendedNodes
  browsers := second.browsers.trans first.browsers
  queryNodes := second.queryNodes.trans first.queryNodes
  nodes other := by
    rw [second.nodes, first.nodes, List.mem_singleton, List.mem_cons, or_left_comm, or_assoc]
  groups other := by
    rw [second.groups, first.groups, first.nodes, List.mem_singleton, List.mem_cons]
    tauto

namespace Good

variable {avahi : Avahi}

theorem start : Good Avahi.start where
  toRegistry := .start
  suspended _ member := absurd member ExtTreeSet.not_mem_empty

theorem add (good : avahi.Good) {node : Nat} (apart : node ∉ avahi.browsers)
    {registration : Registration} (genuine : Genuine none registration.during) :
    Ensures (avahi.add registration node) fun next =>
      next.Good ∧ avahi.Grown (fun _ => registration) [node] next := by
  rw [Avahi.add]
  split
  next known =>
    refine .check ((good.clients node).mpr (.inr known)) ⟨avahi, good.validated_eq, good, ?_⟩
    refine ⟨rfl, rfl, rfl, rfl, fun other => ?_, fun other => ?_⟩
    · rw [List.mem_singleton]
      exact (or_iff_right_of_imp fun same => same ▸ known).symm
    · rw [List.mem_singleton]
      exact (or_iff_right fun new => new.2.1 (new.1 ▸ known)).symm
  next unknown =>
    have ungrouped : avahi.avahiGroups[node]? = none :=
      getElem?_neg avahi.avahiGroups node fun member => unknown (good.groups node member)
    have member {other : Nat} : other ∈ avahi.nodes.insert node <-> node = other ∨ other ∈ avahi.nodes := by
      rw [ExtTreeSet.mem_insert, LawfulEqCmp.compare_eq_iff_eq]
    have called : Ensures (registration.during.foldlM (callback node)
        { avahi with nodes := avahi.nodes.insert node }) (Regrouped { avahi with
          nodes := avahi.nodes.insert node } node registration.group) := by
      unfold Registration.group
      rw [← ungrouped] at genuine ⊢
      exact ensures_callbacks (member.mpr (.inl rfl)) genuine
    refine called.bind fun next regrouped => ?_
    obtain ⟨⟨groups, rfl⟩, own, others⟩ := regrouped
    have grouped (other : Nat) : other ∈ groups <->
        (other ∈ [node] ∧ other ∉ avahi.nodes ∧ registration.group.isSome) ∨
          other ∈ avahi.avahiGroups := by
      rw [ExtTreeMap.mem_iff_isSome_getElem?, ExtTreeMap.mem_iff_isSome_getElem?]
      by_cases same : node = other
      · subst same
        rw [ungrouped, ← own]
        simp [unknown]
      · rw [others other (Ne.symm same)]
        exact (or_iff_right fun new => same (List.mem_singleton.mp new.1).symm).symm
    have free : node ∉ avahi.avahiClients := by
      rw [good.clients]
      exact not_or.mpr ⟨apart, unknown⟩
    have after : Registry { avahi with
        nodes := avahi.nodes.insert node
        avahiGroups := groups
        avahiClients := avahi.avahiClients.insert node registration.client } := by
      refine ⟨fun other => ?_, fun other query => ?_, good.browsers, fun other held => ?_⟩
      · change other ∈ avahi.avahiClients.insert node _ <-> _ ∨ other ∈ avahi.nodes.insert node
        rw [ExtTreeMap.mem_insert, LawfulEqCmp.compare_eq_iff_eq, member, good.clients]
        exact or_left_comm
      · rw [member]
        rintro (rfl | known)
        · exact apart query
        · exact good.disjoint other query known
      · rw [member]
        exact ((grouped other).mp held).imp (fun new => (List.mem_singleton.mp new.1).symm)
          (good.groups other)
    refine .check free ⟨_, after.validated_eq, ⟨after, good.suspended⟩, ?_⟩
    refine ⟨rfl, rfl, rfl, rfl, fun other => ?_, grouped⟩
    rw [List.mem_singleton, eq_comm]
    exact member

end Good

/-- A node is gone from all tables. -/
def without (avahi : Avahi) (node : Nat) : Avahi :=
  { avahi with
    avahiClients := avahi.avahiClients.erase node
    avahiGroups := avahi.avahiGroups.erase node
    nodes := avahi.nodes.erase node }

theorem mem_without (avahi : Avahi) (node other : Nat) :
    (other ∈ (avahi.without node).nodes <-> node ≠ other ∧ other ∈ avahi.nodes) ∧
      (other ∈ (avahi.without node).avahiGroups <-> node ≠ other ∧ other ∈ avahi.avahiGroups) := by
  simp only [without, ExtTreeSet.mem_erase, ExtTreeMap.mem_erase, ne_eq,
    LawfulEqCmp.compare_eq_iff_eq, and_self]

namespace Good

variable {avahi : Avahi}

theorem without (good : avahi.Good) {node : Nat} (known : node ∈ avahi.nodes) :
    Good (avahi.without node) where
  clients other := by
    rw [(avahi.mem_without node other).1]
    change other ∈ avahi.avahiClients.erase node <-> other ∈ avahi.browsers ∨ _
    rw [ExtTreeMap.mem_erase, ne_eq, LawfulEqCmp.compare_eq_iff_eq, good.clients]
    have apart : other ∈ avahi.browsers -> node ≠ other := by
      rintro query rfl
      exact good.disjoint node query known
    tauto
  disjoint other query member :=
    good.disjoint other query ((avahi.mem_without node other).1.mp member).2
  browsers := good.browsers
  groups other member := by
    obtain ⟨different, held⟩ := (avahi.mem_without node other).2.mp member
    exact (avahi.mem_without node other).1.mpr ⟨different, good.groups other held⟩
  suspended := good.suspended

theorem remove_of_known (good : avahi.Good) {node : Nat} (known : node ∈ avahi.nodes) :
    avahi.remove node = if node ∈ avahi.avahiGroups then some (avahi.without node) else none := by
  rw [Avahi.remove, if_neg (not_not.mpr ((good.clients node).mpr (.inr known))), check]
  refine if_congr Iff.rfl ?_ rfl
  rw [check, if_pos known]
  exact (good.without known).validated_eq

theorem remove_of_unknown (good : avahi.Good) {node : Nat} (apart : node ∉ avahi.browsers)
    (unknown : node ∉ avahi.nodes) : avahi.remove node = some avahi := by
  rw [Avahi.remove, if_pos]
  rw [good.clients]
  exact not_or.mpr ⟨apart, unknown⟩

end Good

/-- Some nodes are gone. -/
structure Shrunk (avahi : Avahi) (gone : List Nat) (next : Avahi) : Prop where
  isSuspended : next.isSuspended = avahi.isSuspended
  suspendedNodes : next.suspendedNodes = avahi.suspendedNodes
  browsers : next.browsers = avahi.browsers
  queryNodes : next.queryNodes = avahi.queryNodes
  nodes : forall other, other ∈ next.nodes <-> other ∉ gone ∧ other ∈ avahi.nodes
  groups : forall other, other ∈ next.avahiGroups <-> other ∉ gone ∧ other ∈ avahi.avahiGroups

theorem Shrunk.cons {avahi next : Avahi} {node : Nat} {gone : List Nat}
    (shrunk : (avahi.without node).Shrunk gone next) : avahi.Shrunk (node :: gone) next where
  isSuspended := shrunk.isSuspended
  suspendedNodes := shrunk.suspendedNodes
  browsers := shrunk.browsers
  queryNodes := shrunk.queryNodes
  nodes other := by
    rw [shrunk.nodes, (avahi.mem_without node other).1, List.mem_cons, not_or, eq_comm]
    tauto
  groups other := by
    rw [shrunk.groups, (avahi.mem_without node other).2, List.mem_cons, not_or, eq_comm]
    tauto

namespace Good

variable {avahi : Avahi}

private theorem known_without {node : Nat} {rest : List Nat} (once : (node :: rest).Nodup)
    (known : forall other, other ∈ node :: rest -> other ∈ avahi.nodes) :
    forall other, other ∈ rest -> other ∈ (avahi.without node).nodes := by
  intro other member
  refine (avahi.mem_without node other).1.mpr ⟨?_, known other (List.mem_cons_of_mem node member)⟩
  rintro rfl
  exact (List.nodup_cons.mp once).1 member

/-- The loop of `suspend`, if all nodes have groups. -/
theorem removeAll (good : avahi.Good) {items : List Nat} (once : items.Nodup)
    (known : forall node, node ∈ items -> node ∈ avahi.nodes)
    (grouped : forall node, node ∈ items -> node ∈ avahi.avahiGroups) :
    Ensures (items.foldlM Avahi.remove avahi) fun next => next.Good ∧ avahi.Shrunk items next := by
  induction items generalizing avahi with
  | nil =>
      refine .done ⟨good, rfl, rfl, rfl, rfl, fun other => ?_, fun other => ?_⟩
      · exact (and_iff_right List.not_mem_nil).symm
      · exact (and_iff_right List.not_mem_nil).symm
  | cons node rest ih =>
      have here := known node List.mem_cons_self
      have remaining (other : Nat) (member : other ∈ rest) :
          other ∈ (avahi.without node).avahiGroups := by
        refine (avahi.mem_without node other).2.mpr
          ⟨?_, grouped other (List.mem_cons_of_mem node member)⟩
        rintro rfl
        exact (List.nodup_cons.mp once).1 member
      rw [List.foldlM_cons, good.remove_of_known here, if_pos (grouped node List.mem_cons_self)]
      have after := ih (good.without here) (List.nodup_cons.mp once).2 (known_without once known)
        remaining
      exact after.mono fun next kept => ⟨kept.1, kept.2.cons⟩

/-- The loop is aborted at the first node without a group. -/
theorem removeAll_eq_none (good : avahi.Good) {items : List Nat} (once : items.Nodup)
    (known : forall node, node ∈ items -> node ∈ avahi.nodes) {culprit : Nat}
    (member : culprit ∈ items) (ungrouped : culprit ∉ avahi.avahiGroups) :
    items.foldlM Avahi.remove avahi = none := by
  induction items generalizing avahi with
  | nil => cases member
  | cons node rest ih =>
      have here := known node List.mem_cons_self
      rw [List.foldlM_cons, good.remove_of_known here]
      by_cases grouped : node ∈ avahi.avahiGroups
      · rw [if_pos grouped]
        refine ih (good.without here) (List.nodup_cons.mp once).2 (known_without once known) ?_ ?_
        · refine (List.mem_cons.mp member).resolve_left ?_
          rintro rfl
          exact ungrouped grouped
        · exact fun held => ungrouped ((avahi.mem_without node culprit).2.mp held).2
      · rw [if_neg grouped]
        rfl

theorem suspending (good : avahi.Good) :
    Good { avahi with isSuspended := true, suspendedNodes := avahi.nodes } :=
  ⟨⟨good.clients, good.disjoint, good.browsers, good.groups⟩,
    fun node known query => good.disjoint node query known⟩

theorem suspend (good : avahi.Good) (awake : avahi.isSuspended = false)
    (grouped : forall node, node ∈ avahi.nodes -> node ∈ avahi.avahiGroups) :
    Ensures avahi.suspend fun next => next.Good ∧
      Shrunk { avahi with isSuspended := true, suspendedNodes := avahi.nodes } avahi.nodes.toList next := by
  rw [Avahi.suspend, if_neg (Bool.eq_false_iff.mp awake)]
  exact good.suspending.removeAll (Table.nodup_toList _) (fun _ => ExtTreeSet.mem_toList.mp)
    fun node listed => grouped node (ExtTreeSet.mem_toList.mp listed)

/-- The loop of `resume`. -/
theorem addAll (good : avahi.Good) {registrations : Nat -> Registration} {items : List Nat}
    (apart : forall node, node ∈ items -> node ∉ avahi.browsers)
    (genuine : forall node, node ∈ items -> Genuine none (registrations node).during) :
    Ensures (items.foldlM (fun avahi node => Avahi.add (registrations node) node avahi) avahi)
      fun next => next.Good ∧ avahi.Grown registrations items next := by
  induction items generalizing avahi with
  | nil => exact .done ⟨good, .refl avahi registrations⟩
  | cons node rest ih =>
      rw [List.foldlM_cons]
      refine .bind (good.add (apart node List.mem_cons_self) (genuine node List.mem_cons_self)) ?_
      rintro middle ⟨kept, grown⟩
      have still (other : Nat) (member : other ∈ rest) : other ∉ middle.browsers := by
        rw [grown.browsers]
        exact apart other (List.mem_cons_of_mem node member)
      have first : avahi.Grown registrations [node] middle := by
        refine { grown with groups := fun other => (grown.groups other).trans ?_ }
        refine or_congr_left (and_congr_right fun same => ?_)
        rw [List.mem_singleton.mp same]
      exact (ih kept still fun other member => genuine other (List.mem_cons_of_mem node member)).mono
        fun next after => ⟨after.1, first.cons after.2⟩

theorem resume (good : avahi.Good) {registrations : Nat -> Registration}
    (allowed : avahi.Allowed (.resume registrations)) (asleep : avahi.isSuspended = true) :
    Ensures (avahi.resume registrations) fun next => next.Good ∧ Exists fun middle =>
      Grown { avahi with isSuspended := false } registrations avahi.suspendedNodes.toList middle ∧
        next = { middle with suspendedNodes := ∅ } := by
  have woken : Good { avahi with isSuspended := false } :=
    ⟨⟨good.clients, good.disjoint, good.browsers, good.groups⟩, good.suspended⟩
  rw [Avahi.resume, if_pos asleep]
  refine (woken.addAll (fun node listed => good.suspended node (ExtTreeSet.mem_toList.mp listed))
    allowed).map fun middle grown => ⟨⟨?_, ?_⟩, middle, grown.2, rfl⟩
  · exact ⟨grown.1.clients, grown.1.disjoint, grown.1.browsers, grown.1.groups⟩
  · exact fun _ member => absurd member ExtTreeSet.not_mem_empty

/-! ## Queries -/

theorem browse (good : avahi.Good) {query : Nat} {client browser : Option Nat}
    (allowed : avahi.Allowed (.browse query client browser)) :
    Ensures (avahi.browse client browser query) Good := by
  unfold Avahi.browse
  split
  next => exact ⟨avahi, good.validated_eq, good⟩
  next unknown =>
    split
    next client browser =>
      have free : query ∉ avahi.avahiClients := by
        rw [good.clients]
        exact not_or.mpr ⟨unknown, allowed.1⟩
      have unused : query ∉ avahi.avahiBrowsers := fun held => unknown ((good.browsers query).mp held)
      have after : Good { avahi with
          avahiClients := avahi.avahiClients.insert query (some client)
          browsers := avahi.browsers.insert query
          avahiBrowsers := avahi.avahiBrowsers.insert query browser } := by
        have member (other : Nat) : other ∈ avahi.browsers.insert query <->
            query = other ∨ other ∈ avahi.browsers := by
          rw [ExtTreeSet.mem_insert, LawfulEqCmp.compare_eq_iff_eq]
        refine ⟨⟨fun other => ?_, fun other => ?_, fun other => ?_, good.groups⟩, fun other held => ?_⟩
        · change other ∈ avahi.avahiClients.insert query _ <->
            other ∈ avahi.browsers.insert query ∨ other ∈ avahi.nodes
          rw [ExtTreeMap.mem_insert, LawfulEqCmp.compare_eq_iff_eq, member, good.clients, or_assoc]
        · change other ∈ avahi.browsers.insert query -> _
          rw [member]
          rintro (rfl | before)
          · exact allowed.1
          · exact good.disjoint other before
        · change other ∈ avahi.avahiBrowsers.insert query browser <-> other ∈ avahi.browsers.insert query
          rw [ExtTreeMap.mem_insert, LawfulEqCmp.compare_eq_iff_eq, member, good.browsers]
        · change other ∉ avahi.browsers.insert query
          rw [member]
          rintro (rfl | before)
          · exact allowed.2 held
          · exact good.suspended other held before
      exact .check free (.check unknown (.check unused ⟨_, after.validated_eq, after⟩))
    next => exact ⟨avahi, good.validated_eq, good⟩

theorem unbrowse (good : avahi.Good) {query : Nat} (allowed : avahi.Allowed (.unbrowse query)) :
    Ensures (avahi.unbrowse query) Good := by
  rw [Avahi.unbrowse]
  split
  next => exact .done good
  next known =>
    have browsed : query ∈ avahi.browsers :=
      ((good.clients query).mp (not_not.mp known)).resolve_right allowed.1
    have after : Good { avahi with
        avahiBrowsers := avahi.avahiBrowsers.erase query
        avahiClients := avahi.avahiClients.erase query
        queryNodes := avahi.queryNodes.erase query
        browsers := avahi.browsers.erase query } := by
      have member (other : Nat) : other ∈ avahi.browsers.erase query <->
          query ≠ other ∧ other ∈ avahi.browsers := by
        rw [ExtTreeSet.mem_erase, ne_eq, LawfulEqCmp.compare_eq_iff_eq]
      refine ⟨⟨fun other => ?_, fun other held => ?_, fun other => ?_, good.groups⟩,
        fun other held => ?_⟩
      · change other ∈ avahi.avahiClients.erase query <->
          other ∈ avahi.browsers.erase query ∨ other ∈ avahi.nodes
        rw [ExtTreeMap.mem_erase, ne_eq, LawfulEqCmp.compare_eq_iff_eq, member, good.clients]
        have apart : other ∈ avahi.nodes -> query ≠ other := by
          rintro node rfl
          exact allowed.1 node
        tauto
      · exact good.disjoint other ((member other).mp held).2
      · change other ∈ avahi.avahiBrowsers.erase query <-> other ∈ avahi.browsers.erase query
        rw [ExtTreeMap.mem_erase, ne_eq, LawfulEqCmp.compare_eq_iff_eq, member, good.browsers]
      · exact fun query => good.suspended other held ((member other).mp query).2
    exact .check ((good.browsers query).mpr browsed) ⟨_, after.validated_eq, after⟩

/-! ## Callbacks about queries -/

/-- The nodes that were found do not matter to the registry. -/
theorem withNodes (good : avahi.Good) (queryNodes : Table Nat (Table CString AvahiNodeStub)) :
    Good { avahi with queryNodes := queryNodes } :=
  ⟨⟨good.clients, good.disjoint, good.browsers, good.groups⟩, good.suspended⟩

theorem entered (good : avahi.Good) (query : Nat) : Good (avahi.entered query) :=
  good.withNodes _

theorem announce (good : avahi.Good) (query interfaceIndex : Nat) (name : CString) :
    Good (avahi.announce query interfaceIndex name) := by
  rw [Avahi.announce]
  split
  · exact good
  · exact good.withNodes _

theorem withdraw (good : avahi.Good) (query interfaceIndex : Nat) (protocol : AvahiProtocol)
    (name : CString) :
    Good (avahi.withdraw query interfaceIndex protocol name).1 ∧
      AvahiEffect.aborted ∉ (avahi.withdraw query interfaceIndex protocol name).2 := by
  rw [Avahi.withdraw]
  split
  next => exact ⟨good, List.not_mem_nil⟩
  next =>
    dsimp only
    split
    · exact ⟨good.withNodes _, by simp⟩
    · exact ⟨good.withNodes _, List.not_mem_nil⟩

theorem browseCallback (good : avahi.Good) {query : Nat} (known : query ∈ avahi.browsers)
    (interfaceIndex : Nat) (protocol : AvahiProtocol) (event : AvahiBrowserEvent) (name : CString) :
    avahi.browseCallback query interfaceIndex protocol event name =
        some (avahi.browsed query interfaceIndex protocol event name) ∧
      Good (avahi.browsed query interfaceIndex protocol event name).1 ∧
      AvahiEffect.aborted ∉ (avahi.browsed query interfaceIndex protocol event name).2 := by
  have kept : Good (avahi.browsed query interfaceIndex protocol event name).1 ∧
      AvahiEffect.aborted ∉ (avahi.browsed query interfaceIndex protocol event name).2 := by
    unfold browsed
    split
    next => exact ⟨(good.entered query).announce query interfaceIndex name, List.not_mem_nil⟩
    next => exact (good.entered query).withdraw query interfaceIndex protocol name
    next => exact ⟨good, List.not_mem_nil⟩
  refine ⟨?_, kept⟩
  rw [Avahi.browseCallback, check, if_pos known, check, if_pos ((good.clients query).mpr (.inl known))]
  dsimp only
  rw [kept.1.validated_eq, Option.map_some]

theorem resolved (good : avahi.Good) (query interfaceIndex : Nat) (protocol : AvahiProtocol)
    (event : AvahiResolverEvent) (name : CString) :
    Good (avahi.resolved query interfaceIndex protocol event name).1 ∧
      AvahiEffect.aborted ∉ (avahi.resolved query interfaceIndex protocol event name).2 := by
  unfold Avahi.resolved
  split
  next =>
    refine ⟨good.withNodes _, ?_⟩
    dsimp only
    split <;> simp
  next => exact ⟨good, List.not_mem_nil⟩

theorem resolveCallback (good : avahi.Good) {query : Nat} (known : query ∈ avahi.browsers)
    (interfaceIndex : Nat) (protocol : AvahiProtocol) (event : AvahiResolverEvent) (name : CString) :
    avahi.resolveCallback query interfaceIndex protocol event name =
      some ((avahi.entered query).resolved query interfaceIndex protocol event name) := by
  have kept := (good.entered query).resolved query interfaceIndex protocol event name
  rw [Avahi.resolveCallback, check, if_pos known, check, if_pos ((good.clients query).mpr (.inl known))]
  dsimp only
  split
  next unknown =>
    have absent : ((avahi.entered query).queryNodes.row query)[name]? = none :=
      getElem?_neg ((avahi.entered query).queryNodes.row query) name unknown
    simp only [Avahi.resolved, absent]
  next => rw [kept.1.validated_eq, Option.map_some]

theorem callback (good : avahi.Good) {node : Nat} {callback : NodeCallback}
    (allowed : avahi.Allowed (.callback node callback)) : Ensures (avahi.callback node callback) Good := by
  refine (ensures_callback allowed.1 allowed.2).mono fun next regrouped => ?_
  obtain ⟨⟨groups, rfl⟩, _, others⟩ := regrouped
  refine ⟨⟨good.clients, good.disjoint, good.browsers, fun other held => ?_⟩, good.suspended⟩
  by_cases same : other = node
  · exact same ▸ allowed.1
  · rw [ExtTreeMap.mem_iff_isSome_getElem?] at held
    change groups[other]?.isSome = true at held
    apply good.groups
    rw [ExtTreeMap.mem_iff_isSome_getElem?, ← others other same]
    exact held

/-! ## Every step -/

private theorem quietly {program : Option Avahi} (ensured : Ensures program Good) :
    Ensures (program.map fun next => (next, ([] : List AvahiEffect))) fun next =>
      Good next.1 ∧ AvahiEffect.aborted ∉ next.2 :=
  ensured.map fun _ kept => ⟨kept, List.not_mem_nil⟩

theorem react (good : avahi.Good) {event : AvahiEvent} (allowed : avahi.Allowed event)
    (grouped : avahi.HasGroups event) :
    Ensures (avahi.react event) fun next => Good next.1 ∧ AvahiEffect.aborted ∉ next.2 := by
  cases event with
  | add node registration => exact quietly ((good.add allowed.1 allowed.2).mono fun _ => And.left)
  | remove node =>
      by_cases known : node ∈ avahi.nodes
      · refine quietly ⟨avahi.without node, ?_, good.without known⟩
        rw [good.remove_of_known known, if_pos (grouped known)]
      · exact quietly ⟨avahi, good.remove_of_unknown allowed known, good⟩
  | suspend =>
      cases suspended : avahi.isSuspended with
      | true => exact quietly ⟨avahi, if_pos suspended, good⟩
      | false => exact quietly ((good.suspend suspended (grouped suspended)).mono fun _ => And.left)
  | resume registrations =>
      cases suspended : avahi.isSuspended with
      | true => exact quietly ((good.resume allowed suspended).mono fun _ => And.left)
      | false => exact quietly ⟨avahi, if_neg (Bool.eq_false_iff.mp suspended), good⟩
  | browse query client browser => exact quietly (good.browse allowed)
  | unbrowse query => exact quietly (good.unbrowse allowed)
  | callback node callback => exact quietly (good.callback allowed)
  | browseCallback query interfaceIndex protocol event name =>
      obtain ⟨ends, kept⟩ := good.browseCallback allowed interfaceIndex protocol event name
      exact ⟨_, ends, kept⟩
  | resolveCallback query interfaceIndex protocol event name =>
      exact ⟨_, good.resolveCallback allowed interfaceIndex protocol event name,
        (good.entered query).resolved query interfaceIndex protocol event name⟩

/-- A node without a group cannot be removed. -/
theorem react_eq_none (good : avahi.Good) {event : AvahiEvent} (ungrouped : ¬ avahi.HasGroups event) :
    avahi.react event = none := by
  cases event with
  | remove node =>
      obtain ⟨known, missing⟩ := Classical.not_imp.mp ungrouped
      rw [Avahi.react, good.remove_of_known known, if_neg missing]
      rfl
  | suspend =>
      obtain ⟨awake, some_missing⟩ := Classical.not_imp.mp ungrouped
      obtain ⟨node, node_missing⟩ := not_forall.mp some_missing
      obtain ⟨known, missing⟩ := Classical.not_imp.mp node_missing
      have aborted := good.suspending.removeAll_eq_none (Table.nodup_toList avahi.nodes)
        (fun _ => ExtTreeSet.mem_toList.mp) (ExtTreeSet.mem_toList.mpr known) missing
      rw [Avahi.react, Avahi.suspend, if_neg (Bool.eq_false_iff.mp awake), aborted]
      rfl
  | _ => exact absurd trivial ungrouped

theorem step (good : avahi.Good) {event : AvahiEvent} (allowed : avahi.Allowed event) :
    Good (avahi.step event).1 ∧
      (AvahiEffect.aborted ∉ (avahi.step event).2 <-> avahi.HasGroups event) := by
  by_cases grouped : avahi.HasGroups event
  · obtain ⟨next, ends, kept⟩ := good.react allowed grouped
    rw [Avahi.step, ends]
    exact ⟨kept.1, iff_of_true kept.2 grouped⟩
  · rw [Avahi.step, good.react_eq_none grouped]
    exact ⟨good, iff_of_false (fun quiet => quiet List.mem_cons_self) grouped⟩

end Good

/-- In every run of the discovery the tables of the registry agree in every state.  No
assertion fails exactly if every node that is removed has an entry group. -/
theorem registry_iff_of_run (events : List AvahiEvent) (admitted : Admits step Allowed start events) :
    (Always step Registry start events ∧ AvahiEffect.aborted ∉ (run step start events).2) <->
      Admits step HasGroups start events := by
  have preserved (avahi : Avahi) (event : AvahiEvent) (good : avahi.Good)
      (allowed : avahi.Allowed event) : Good (avahi.step event).1 := (good.step allowed).1
  have always : Always step Registry start events :=
    always_of_invariant Good Registry preserved (fun _ good => good.toRegistry) .start admitted
  have quiet := outputs_iff_admits Good (fun effect => effect ≠ AvahiEffect.aborted) HasGroups preserved
    (fun avahi event good allowed => by
      rw [← (good.step allowed).2]
      exact ⟨fun every member => every _ member rfl, fun absent _ member same => absent (same ▸ member)⟩)
    .start admitted
  rw [and_iff_right always, ← quiet]
  exact ⟨fun absent _ member same => absent (same ▸ member), fun every member => every _ member rfl⟩

/-! A node gets its group while it is added, another one later. -/

private def ready (group : Nat) : Registration where
  during := [.client .connecting none, .client .running (some group), .entryGroup group .established]
  client := some group

private def session : List AvahiEvent :=
  [.add 1 (ready 11), .browse 2 (some 12) (some 12), .add 3 ⟨[], some 13⟩,
    .callback 3 (.client .running (some 13)), .remove 1, .suspend, .resume fun _ => ready 14,
    .unbrowse 2, .remove 3]

theorem registry_iff_of_run_session :
    Always step Registry start session ∧ AvahiEffect.aborted ∉ (run step start session).2 := by
  have told : Admits step Allowed start session ∧ Admits step HasGroups start session := by
    decide +kernel
  exact (registry_iff_of_run session told.1).mpr told.2

/-- A client that was never seen running has no group. -/
theorem remove_without_group :
    Admits step Allowed start [.add 1 ⟨[], some 11⟩, .remove 1] ∧
      AvahiEffect.aborted ∈ (run step start [.add 1 ⟨[], some 11⟩, .remove 1]).2 := by
  decide +kernel

end Avahi

end Discovery
end Umundo
