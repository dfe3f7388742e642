import Umundo.Discovery.AvahiRegistry
import Umundo.Discovery.BonjourBookkeeping
import Umundo.Foundation.Suspension

namespace Umundo
namespace Discovery

open Foundation
open Foundation.Registrar (wanting Maintains TimelyCall)
open Std

/-!
# Local nodes over suspensions

Both implementations of the discovery are registrars of local nodes: suspending takes a
snapshot of the registered nodes and removes them, and resuming adds the snapshot.  Here
this is shown for runs in which the daemon accepts every registration.  So both keep
exactly the wanted nodes registered in the same runs, namely those in which no node is
added during a suspension, and none of the snapshot is removed before the resumption.
-/

/-! ## Bonjour -/

/-- What a call means to the local nodes. -/
def BonjourEvent.call : BonjourEvent -> Registrar.Call Nat
  | .add node _ _ => .add node
  | .remove node => .remove node
  | .suspend => .suspend
  | .resume _ => .resume
  | _ => .elsewhere

/-- The daemon accepts a registration of each of the nodes that is not registered yet. -/
structure Grants (offers : Offers) (bonjour : Bonjour) (nodes : List Nat) : Prop where
  accepted : forall node, node ∈ nodes -> node ∉ bonjour.localNodes -> Exists fun client =>
    offers (.register node) = some client ∧ client.socket ∉ bonjour.daemon.live
  distinct : forall node other, node ∈ nodes -> other ∈ nodes -> node ≠ other ->
    forall client client', offers (.register node) = some client ->
      offers (.register other) = some client' -> client.socket ≠ client'.socket

theorem Grants.subset {offers : Offers} {bonjour : Bonjour} {nodes fewer : List Nat}
    (granted : Grants offers bonjour nodes) (subset : forall node, node ∈ fewer -> node ∈ nodes) :
    Grants offers bonjour fewer where
  accepted node member := granted.accepted node (subset node member)
  distinct node other member member' := granted.distinct node other (subset node member)
    (subset other member')

namespace Bonjour

/-- Only local nodes are added and removed, and every registration succeeds. -/
def Registers (bonjour : Bonjour) : BonjourEvent -> Prop
  | .add node _ offers => Grants offers bonjour [node]
  | .remove _ => True
  | .suspend => True
  | .resume offers => Grants offers bonjour bonjour.suspendedNodes.keys
  | _ => False

def registrar (bonjour : Bonjour) : Registrar Nat where
  registered node := node ∈ bonjour.localNodes
  snapshot node := node ∈ bonjour.suspendedNodes
  suspended := bonjour.isSuspended

/-- Some nodes were registered. -/
structure Joined (bonjour : Bonjour) (offers : Offers) (nodes : List Nat) (next : Bonjour) : Prop where
  isSuspended : next.isSuspended = bonjour.isSuspended
  suspendedNodes : next.suspendedNodes = bonjour.suspendedNodes
  localNodes : forall other, other ∈ next.localNodes <-> other ∈ nodes ∨ other ∈ bonjour.localNodes
  live : forall socket, socket ∈ next.daemon.live -> socket ∈ bonjour.daemon.live ∨
    Exists fun node => node ∈ nodes ∧ Exists fun client =>
      offers (.register node) = some client ∧ client.socket = socket

theorem yields_joined {offers : Offers} {node : Nat} {bonjour : Bonjour}
    (granted : Grants offers bonjour [node]) (uuid : CString) :
    Yields (bonjour.add offers node uuid) (bonjour.Joined offers [node]) := by
  rw [add]
  split
  next known =>
    refine .check fun _ => .check fun _ => .done ⟨rfl, rfl, fun other => ?_, fun _ => .inl⟩
    rw [List.mem_singleton]
    exact (or_iff_right_of_imp fun same => same ▸ known).symm
  next unknown =>
    obtain ⟨client, offered, unused⟩ := granted.accepted node List.mem_cons_self unknown
    have accepted : bonjour.daemon.accept (offers (.register node)) = some client := by
      rw [Daemon.accept, offered, Option.filter_some, if_pos (decide_eq_true unused)]
    rw [accepted]
    refine .check fun _ => .check fun _ => .check fun _ => .check fun _ => .check fun _ => .done ?_
    refine ⟨rfl, rfl, fun other => ?_, fun socket member => ?_⟩
    · change other ∈ bonjour.localNodes.insert node uuid <-> _
      rw [ExtTreeMap.mem_insert, LawfulEqCmp.compare_eq_iff_eq, List.mem_singleton, eq_comm]
    · rcases ExtTreeMap.mem_insert.mp member with same | before
      · exact .inr ⟨node, List.mem_cons_self, client, offered, LawfulEqCmp.compare_eq_iff_eq.mp same⟩
      · exact .inl before

theorem Joined.cons {bonjour middle next : Bonjour} {offers : Offers} {node : Nat} {nodes : List Nat}
    (first : bonjour.Joined offers [node] middle) (second : middle.Joined offers nodes next) :
    bonjour.Joined offers (node :: nodes) next where
  isSuspended := second.isSuspended.trans first.isSuspended
  suspendedNodes := second.suspendedNodes.trans first.suspendedNodes
  localNodes other := by
    rw [second.localNodes, first.localNodes, List.mem_singleton, List.mem_cons, or_left_comm, or_assoc]
  live socket member := by
    rcases second.live socket member with before | ⟨other, listed, taken⟩
    · rcases first.live socket before with before | ⟨other, listed, taken⟩
      · exact .inl before
      · exact .inr ⟨other, List.mem_singleton.mp listed ▸ List.mem_cons_self, taken⟩
    · exact .inr ⟨other, List.mem_cons_of_mem node listed, taken⟩

/-- The registration of one node leaves the others possible. -/
theorem Joined.grants {bonjour middle : Bonjour} {offers : Offers} {node : Nat} {nodes : List Nat}
    (joined : bonjour.Joined offers [node] middle) (fresh : node ∉ nodes)
    (granted : Grants offers bonjour (node :: nodes)) : Grants offers middle nodes where
  accepted other member unregistered := by
    have before : other ∉ bonjour.localNodes := fun held =>
      unregistered ((joined.localNodes other).mpr (.inr held))
    obtain ⟨client, offered, unused⟩ :=
      granted.accepted other (List.mem_cons_of_mem node member) before
    refine ⟨client, offered, fun taken => ?_⟩
    rcases joined.live client.socket taken with live | ⟨_, listed, client', offered', same⟩
    · exact unused live
    · rw [List.mem_singleton.mp listed] at offered'
      refine granted.distinct node other List.mem_cons_self (List.mem_cons_of_mem node member) ?_
        client' client offered' offered same
      rintro rfl
      exact fresh member
  distinct one two member member' := granted.distinct one two (List.mem_cons_of_mem node member)
    (List.mem_cons_of_mem node member')

/-- The loop of `resume`. -/
theorem yields_joinedAll {offers : Offers} {entries : List (Nat × CString)} {bonjour : Bonjour}
    (once : (entries.map Prod.fst).Nodup) (granted : Grants offers bonjour (entries.map Prod.fst)) :
    Yields (entries.foldlM (fun bonjour entry => add offers entry.1 entry.2 bonjour) bonjour)
      (bonjour.Joined offers (entries.map Prod.fst)) := by
  induction entries generalizing bonjour with
  | nil =>
      refine .done ⟨rfl, rfl, fun other => ?_, fun _ => .inl⟩
      exact (or_iff_right List.not_mem_nil).symm
  | cons entry rest ih =>
      rw [List.foldlM_cons]
      have parts := List.nodup_cons.mp once
      have first : Grants offers bonjour [entry.1] := granted.subset fun node member =>
        List.mem_singleton.mp member ▸ List.mem_cons_self
      refine .bind (yields_joined first entry.2) fun middle joined => ?_
      exact (ih parts.2 (joined.grants parts.1 granted)).mono fun next later => joined.cons later

/-- Some nodes are no longer registered. -/
structure Parted (bonjour : Bonjour) (nodes : List Nat) (next : Bonjour) : Prop where
  isSuspended : next.isSuspended = bonjour.isSuspended
  suspendedNodes : next.suspendedNodes = bonjour.suspendedNodes
  localNodes : forall other, other ∈ next.localNodes <-> other ∉ nodes ∧ other ∈ bonjour.localNodes

theorem yields_parted (node : Nat) (bonjour : Bonjour) :
    Yields (bonjour.remove node) (bonjour.Parted [node]) := by
  rw [remove]
  split
  next unknown =>
    refine .check fun _ => .done ⟨rfl, rfl, fun other => ?_⟩
    rw [List.mem_singleton]
    refine (and_iff_right_of_imp fun known => ?_).symm
    rintro rfl
    exact unknown known
  next =>
    refine .found fun client _ => .check fun _ => .check fun _ => .done ⟨rfl, rfl, fun other => ?_⟩
    change other ∈ bonjour.localNodes.erase node <-> _
    rw [ExtTreeMap.mem_erase, ne_eq, LawfulEqCmp.compare_eq_iff_eq, List.mem_singleton, eq_comm]

/-- The loop of `suspend`. -/
theorem yields_partedAll (nodes : List Nat) (bonjour : Bonjour) :
    Yields (nodes.foldlM (fun bonjour node => remove node bonjour) bonjour) (bonjour.Parted nodes) := by
  induction nodes generalizing bonjour with
  | nil =>
      refine .done ⟨rfl, rfl, fun other => ?_⟩
      exact (and_iff_right List.not_mem_nil).symm
  | cons node rest ih =>
      rw [List.foldlM_cons]
      refine .bind (yields_parted node bonjour) fun middle first => (ih middle).mono fun next second => ?_
      refine ⟨second.isSuspended.trans first.isSuspended,
        second.suspendedNodes.trans first.suspendedNodes, fun other => ?_⟩
      rw [second.localNodes, first.localNodes, List.mem_singleton, List.mem_cons, not_or, ← and_assoc,
        and_comm (a := other ∉ rest)]

private theorem yields_suspend_want (bonjour : Bonjour) :
    Yields bonjour.suspend fun next => next.registrar = bonjour.registrar.call .suspend := by
  unfold suspend Registrar.call
  by_cases asleep : bonjour.isSuspended = true
  · rw [if_pos asleep]
    exact .done (if_pos asleep).symm
  · rw [if_neg asleep]
    refine (yields_partedAll _ _).mono fun next parted => .trans ?_ (if_neg asleep).symm
    refine Registrar.eq_of_iff parted.isSuspended (fun other => ?_) fun other => ?_
    · refine (parted.localNodes other).trans (iff_false_intro ?_)
      rw [ExtTreeMap.mem_keys]
      exact fun held => held.1 held.2
    · exact iff_of_eq (congrArg (other ∈ ·) parted.suspendedNodes)

private theorem yields_resume_want {bonjour : Bonjour} {offers : Offers}
    (granted : Grants offers bonjour bonjour.suspendedNodes.keys) :
    Yields (bonjour.resume offers) fun next => next.registrar = bonjour.registrar.call .resume := by
  unfold resume Registrar.call
  by_cases asleep : bonjour.isSuspended = true
  · rw [if_pos asleep]
    rw [← ExtTreeMap.map_fst_toList_eq_keys] at granted
    have once : (bonjour.suspendedNodes.toList.map Prod.fst).Nodup := by
      rw [ExtTreeMap.map_fst_toList_eq_keys]
      exact Table.nodup_keys _
    have awake : Grants offers { bonjour with isSuspended := false }
        (bonjour.suspendedNodes.toList.map Prod.fst) := ⟨granted.accepted, granted.distinct⟩
    refine (yields_joinedAll once awake).map fun next joined => .trans ?_ (if_pos asleep).symm
    refine Registrar.eq_of_iff joined.isSuspended (fun other => ?_) fun other => ?_
    · refine (joined.localNodes other).trans (or_congr_left ?_)
      rw [ExtTreeMap.map_fst_toList_eq_keys, ExtTreeMap.mem_keys]
      rfl
    · exact iff_false_intro ExtTreeMap.not_mem_empty
  · rw [if_neg asleep]
    exact .done (if_neg asleep).symm

private theorem yields_call {bonjour : Bonjour} {event : BonjourEvent}
    (registers : bonjour.Registers event) :
    Yields (bonjour.react event) fun next =>
      next.1.registrar = bonjour.registrar.call event.call := by
  cases event with
  | add node uuid offers =>
      refine .map (yields_joined registers uuid) fun next joined => ?_
      refine Registrar.eq_of_iff joined.isSuspended (fun other => ?_) fun other => ?_
      · exact (joined.localNodes other).trans (or_congr_left (List.mem_singleton.trans eq_comm))
      · exact iff_of_eq (congrArg (other ∈ ·) joined.suspendedNodes)
  | remove node =>
      refine .map (yields_parted node bonjour) fun next parted => ?_
      refine Registrar.eq_of_iff parted.isSuspended (fun other => ?_) fun other => ?_
      · refine (parted.localNodes other).trans (and_congr_left fun _ => not_congr ?_)
        exact List.mem_singleton.trans eq_comm
      · exact iff_of_eq (congrArg (other ∈ ·) parted.suspendedNodes)
  | suspend => exact (yields_suspend_want bonjour).map fun _ same => same
  | resume offers => exact (yields_resume_want registers).map fun _ same => same
  | _ => exact registers.elim

/-- Bonjour is a registrar of local nodes. -/
theorem Good.registrar_step {bonjour : Bonjour} (good : bonjour.Good) {event : BonjourEvent}
    (registers : bonjour.Registers event) :
    Good (bonjour.step event).1 ∧
      (bonjour.step event).1.registrar = bonjour.registrar.call event.call := by
  have allowed : bonjour.Allowed event := by
    cases event <;> first | exact trivial | exact registers.elim
  refine ⟨(good.step allowed).1, ?_⟩
  obtain ⟨next, ends, _⟩ := good.react allowed
  rw [Bonjour.step, ends]
  exact yields_call registers next ends

end Bonjour

/-! ## Avahi -/

/-- What a call means to the local nodes. -/
def AvahiEvent.call : AvahiEvent -> Registrar.Call Nat
  | .add node _ => .add node
  | .remove node => .remove node
  | .suspend => .suspend
  | .resume _ => .resume
  | _ => .elsewhere

/-- The daemon runs, so that a client and an entry group are made. -/
def Registration.Succeeds (registration : Registration) : Prop :=
  Genuine none registration.during ∧ registration.group.isSome ∧ registration.client.isSome

instance (registration : Registration) : Decidable registration.Succeeds :=
  inferInstanceAs (Decidable (_ ∧ _ ∧ _))

namespace Avahi

/-- Only local nodes are added and removed, and every registration succeeds. -/
def Registers (avahi : Avahi) : AvahiEvent -> Prop
  | .add _ registration => registration.Succeeds
  | .remove _ => True
  | .suspend => True
  | .resume registrations =>
      forall node, node ∈ avahi.suspendedNodes.toList -> (registrations node).Succeeds
  | _ => False

def registrar (avahi : Avahi) : Registrar Nat where
  registered node := node ∈ avahi.nodes
  snapshot node := node ∈ avahi.suspendedNodes
  suspended := avahi.isSuspended

/-- There are no queries, and every node has its group. -/
structure Grouped (avahi : Avahi) : Prop extends Good avahi where
  unqueried : forall address, address ∉ avahi.browsers
  grouped : forall node, node ∈ avahi.nodes -> node ∈ avahi.avahiGroups

namespace Grouped

variable {avahi : Avahi}

theorem start : Grouped Avahi.start where
  toGood := .start
  unqueried _ := ExtTreeSet.not_mem_empty
  grouped _ member := absurd member ExtTreeSet.not_mem_empty

theorem grown (grouped : avahi.Grouped) {registrations : Nat -> Registration} {items : List Nat}
    {next : Avahi} (made : forall node, node ∈ items -> (registrations node).Succeeds)
    (grown : avahi.Grown registrations items next) :
    (forall address, address ∉ next.browsers) ∧
      forall node, node ∈ next.nodes -> node ∈ next.avahiGroups := by
  constructor
  · rw [grown.browsers]
    exact grouped.unqueried
  · intro node member
    rw [grown.groups]
    by_cases known : node ∈ avahi.nodes
    · exact .inr (grouped.grouped node known)
    · have new := ((grown.nodes node).mp member).resolve_right known
      exact .inl ⟨new, known, (made node new).2.1⟩

theorem add (grouped : avahi.Grouped) {node : Nat} {registration : Registration}
    (succeeds : registration.Succeeds) :
    Ensures (avahi.add registration node) fun next =>
      next.Grouped ∧ next.registrar = avahi.registrar.call (.add node) := by
  refine (grouped.toGood.add (grouped.unqueried node) succeeds.1).mono fun next after => ?_
  obtain ⟨unqueried, held⟩ := grouped.grown (fun _ _ => succeeds) after.2
  refine ⟨⟨after.1, unqueried, held⟩, ?_⟩
  refine Registrar.eq_of_iff after.2.isSuspended (fun other => ?_) fun other => ?_
  · exact (after.2.nodes other).trans (or_congr_left (List.mem_singleton.trans eq_comm))
  · exact iff_of_eq (congrArg (other ∈ ·) after.2.suspendedNodes)

theorem shrunk (grouped : avahi.Grouped) {gone : List Nat} {next : Avahi} (good : next.Good)
    (shrunk : avahi.Shrunk gone next) : next.Grouped where
  toGood := good
  unqueried := by
    rw [shrunk.browsers]
    exact grouped.unqueried
  grouped node member := by
    obtain ⟨left, known⟩ := (shrunk.nodes node).mp member
    exact (shrunk.groups node).mpr ⟨left, grouped.grouped node known⟩

theorem remove (grouped : avahi.Grouped) (node : Nat) :
    Ensures (avahi.remove node) fun next =>
      next.Grouped ∧ next.registrar = avahi.registrar.call (.remove node) := by
  by_cases known : node ∈ avahi.nodes
  · refine ⟨avahi.without node, ?_, ⟨grouped.without known, grouped.unqueried, fun other member => ?_⟩, ?_⟩
    · rw [grouped.remove_of_known known, if_pos (grouped.grouped node known)]
    · obtain ⟨different, held⟩ := (avahi.mem_without node other).1.mp member
      exact (avahi.mem_without node other).2.mpr ⟨different, grouped.grouped other held⟩
    · exact Registrar.eq_of_iff rfl (fun other => (avahi.mem_without node other).1) fun _ => Iff.rfl
  · refine ⟨avahi, grouped.remove_of_unknown (grouped.unqueried node) known, grouped, ?_⟩
    refine Registrar.eq_of_iff rfl (fun other => ?_) fun _ => Iff.rfl
    refine (and_iff_right_of_imp fun held => ?_).symm
    rintro rfl
    exact known held

theorem suspend (grouped : avahi.Grouped) :
    Ensures avahi.suspend fun next =>
      next.Grouped ∧ next.registrar = avahi.registrar.call .suspend := by
  unfold Registrar.call
  cases suspended : avahi.isSuspended with
  | true => exact ⟨avahi, if_pos suspended, grouped, (if_pos suspended).symm⟩
  | false =>
      have asleep : Grouped { avahi with isSuspended := true, suspendedNodes := avahi.nodes } :=
        ⟨grouped.suspending, grouped.unqueried, grouped.grouped⟩
      refine (grouped.toGood.suspend suspended grouped.grouped).mono fun next after =>
        ⟨asleep.shrunk after.1 after.2, .trans ?_ (if_neg (Bool.eq_false_iff.mp suspended)).symm⟩
      refine Registrar.eq_of_iff after.2.isSuspended (fun other => ?_) fun other => ?_
      · refine (after.2.nodes other).trans (iff_false_intro ?_)
        rw [ExtTreeSet.mem_toList]
        exact fun held => held.1 held.2
      · exact iff_of_eq (congrArg (other ∈ ·) after.2.suspendedNodes)

theorem resume (grouped : avahi.Grouped) {registrations : Nat -> Registration}
    (succeed : avahi.Registers (.resume registrations)) :
    Ensures (avahi.resume registrations) fun next =>
      next.Grouped ∧ next.registrar = avahi.registrar.call .resume := by
  unfold Registrar.call
  cases suspended : avahi.isSuspended with
  | true =>
      have genuine : avahi.Allowed (.resume registrations) := fun node listed => (succeed node listed).1
      have awake : Grouped { avahi with isSuspended := false } :=
        ⟨⟨⟨grouped.clients, grouped.disjoint, grouped.browsers, grouped.groups⟩, grouped.suspended⟩,
          grouped.unqueried, grouped.grouped⟩
      refine (grouped.toGood.resume genuine suspended).mono ?_
      rintro _ ⟨good, middle, grown, rfl⟩
      obtain ⟨unqueried, held⟩ := awake.grown succeed grown
      refine ⟨⟨good, unqueried, held⟩, .trans ?_ (if_pos suspended).symm⟩
      refine Registrar.eq_of_iff grown.isSuspended (fun other => ?_) fun other => ?_
      · exact (grown.nodes other).trans (or_congr_left ExtTreeSet.mem_toList)
      · exact iff_false_intro ExtTreeSet.not_mem_empty
  | false =>
      have awake := Bool.eq_false_iff.mp suspended
      exact ⟨avahi, if_neg awake, grouped, (if_neg awake).symm⟩

/-- Avahi is a registrar of local nodes. -/
theorem registrar_step (grouped : avahi.Grouped) {event : AvahiEvent}
    (registers : avahi.Registers event) :
    Grouped (avahi.step event).1 ∧
      (avahi.step event).1.registrar = avahi.registrar.call event.call := by
  have reacts : Ensures (avahi.react event) fun next =>
      next.1.Grouped ∧ next.1.registrar = avahi.registrar.call event.call := by
    cases event with
    | add node registration => exact (grouped.add registers).map fun _ kept => kept
    | remove node => exact (grouped.remove node).map fun _ kept => kept
    | suspend => exact grouped.suspend.map fun _ kept => kept
    | resume registrations => exact (grouped.resume registers).map fun _ kept => kept
    | _ => exact registers.elim
  obtain ⟨next, ends, kept⟩ := reacts
  rw [Avahi.step, ends]
  exact kept

end Grouped

end Avahi

/-! ## Runs -/

/-- In runs in which all registrations succeed, both implementations keep exactly the
nodes registered that were added and not removed since, and none during a suspension, if
and only if no node is added during a suspension and every node of a snapshot is still
wanted when it is registered again. -/
theorem advertised_iff_of_run (events : List BonjourEvent) (requests : List AvahiEvent) :
    (Admits (wanting Bonjour.step BonjourEvent.call) (fun watched => watched.1.Registers)
        (Bonjour.start, fun _ => False) events ->
      (Always (wanting Bonjour.step BonjourEvent.call) (Maintains Bonjour.registrar)
          (Bonjour.start, fun _ => False) events <->
        Admits (wanting Bonjour.step BonjourEvent.call) (TimelyCall Bonjour.registrar BonjourEvent.call)
          (Bonjour.start, fun _ => False) events)) ∧
    (Admits (wanting Avahi.step AvahiEvent.call) (fun watched => watched.1.Registers)
        (Avahi.start, fun _ => False) requests ->
      (Always (wanting Avahi.step AvahiEvent.call) (Maintains Avahi.registrar)
          (Avahi.start, fun _ => False) requests <->
        Admits (wanting Avahi.step AvahiEvent.call) (TimelyCall Avahi.registrar AvahiEvent.call)
          (Avahi.start, fun _ => False) requests)) := by
  have bonjour_refines (bonjour : Bonjour) (event : BonjourEvent) (good : bonjour.Good)
      (registers : bonjour.Registers event) := good.registrar_step registers
  have avahi_refines (avahi : Avahi) (event : AvahiEvent) (grouped : avahi.Grouped)
      (registers : avahi.Registers event) := grouped.registrar_step registers
  constructor
  · intro admitted
    exact Registrar.maintains_iff Bonjour.Good bonjour_refines .start rfl
      (fun _ => ExtTreeMap.not_mem_empty) admitted
  · intro admitted
    exact Registrar.maintains_iff Avahi.Grouped avahi_refines .start rfl
      (fun _ => ExtTreeSet.not_mem_empty) admitted

/-! A node is kept over a suspension, and removed during another one. -/

private def running : Registration := ⟨[.client .running (some 11)], some 11⟩

private def kept : List BonjourEvent :=
  [.add 1 (.ofBytes [110]) Bonjour.offered, .suspend, .resume Bonjour.offered, .remove 1]

private def keptByAvahi : List AvahiEvent := [.add 1 running, .suspend, .resume fun _ => running, .remove 1]

private theorem grants_of_vacant {bonjour : Bonjour} (vacant : bonjour.daemon.live.isEmpty = true)
    (nodes : List Nat) : Grants Bonjour.offered bonjour nodes where
  accepted node _ _ := by
    refine ⟨_, rfl, ?_⟩
    rw [ExtTreeMap.isEmpty_iff.mp vacant]
    exact ExtTreeMap.not_mem_empty
  distinct node other _ _ different client client' offered offered' same := by
    cases offered
    cases offered'
    exact different (Int.ofNat.inj (Int.add_left_cancel same))

private theorem kept_admitted :
    Admits (wanting Bonjour.step BonjourEvent.call) (fun watched => watched.1.Registers)
      (Bonjour.start, fun _ => False) kept ∧
    Admits (wanting Avahi.step AvahiEvent.call) (fun watched => watched.1.Registers)
      (Avahi.start, fun _ => False) keptByAvahi := by
  have vacant : (run Bonjour.step Bonjour.start (kept.take 2)).1.daemon.live.isEmpty = true := by
    decide +kernel
  have succeeds : running.Succeeds := by decide +kernel
  exact ⟨⟨grants_of_vacant rfl _, trivial, grants_of_vacant vacant _, trivial, trivial⟩,
    succeeds, trivial, fun _ _ => succeeds, trivial, trivial⟩

theorem advertised_iff_of_run_kept :
    Always (wanting Bonjour.step BonjourEvent.call) (Maintains Bonjour.registrar)
      (Bonjour.start, fun _ => False) kept ∧
    Always (wanting Avahi.step AvahiEvent.call) (Maintains Avahi.registrar)
      (Avahi.start, fun _ => False) keptByAvahi := by
  have saved : (run Bonjour.step Bonjour.start (kept.take 2)).1.suspendedNodes.keys = [1] ∧
      (run Avahi.step Avahi.start (keptByAvahi.take 2)).1.suspendedNodes.toList = [1] := by
    decide +kernel
  obtain ⟨bonjour, avahi⟩ := advertised_iff_of_run kept keptByAvahi
  constructor
  · refine (bonjour kept_admitted.1).mpr
      ⟨rfl, trivial, fun _ node member => ?_, trivial, trivial⟩
    have listed : node ∈ [1] := saved.1 ▸ ExtTreeMap.mem_keys.mpr member
    exact .inl (List.mem_singleton.mp listed).symm
  · refine (avahi kept_admitted.2).mpr
      ⟨rfl, trivial, fun _ node member => ?_, trivial, trivial⟩
    have listed : node ∈ [1] := saved.2 ▸ ExtTreeSet.mem_toList.mpr member
    exact .inl (List.mem_singleton.mp listed).symm

private def revived : List BonjourEvent :=
  [.add 1 (.ofBytes [110]) Bonjour.offered, .suspend, .remove 1, .resume Bonjour.offered]

private def revivedByAvahi : List AvahiEvent :=
  [.add 1 running, .suspend, .remove 1, .resume fun _ => running]

/-- A node that is removed during a suspension is registered again. -/
theorem removed_node_revived :
    (Admits (wanting Bonjour.step BonjourEvent.call) (fun watched => watched.1.Registers)
        (Bonjour.start, fun _ => False) revived ∧
      ¬ Always (wanting Bonjour.step BonjourEvent.call) (Maintains Bonjour.registrar)
        (Bonjour.start, fun _ => False) revived) ∧
    Admits (wanting Avahi.step AvahiEvent.call) (fun watched => watched.1.Registers)
        (Avahi.start, fun _ => False) revivedByAvahi ∧
      ¬ Always (wanting Avahi.step AvahiEvent.call) (Maintains Avahi.registrar)
        (Avahi.start, fun _ => False) revivedByAvahi := by
  have vacant : (run Bonjour.step Bonjour.start (revived.take 3)).1.daemon.live.isEmpty = true := by
    decide +kernel
  have succeeds : running.Succeeds := by decide +kernel
  have back : ((run Bonjour.step Bonjour.start revived).1.isSuspended = false ∧
        1 ∈ (run Bonjour.step Bonjour.start revived).1.localNodes) ∧
      (run Avahi.step Avahi.start revivedByAvahi).1.isSuspended = false ∧
        1 ∈ (run Avahi.step Avahi.start revivedByAvahi).1.nodes := by
    decide +kernel
  refine ⟨⟨?_, fun always => ?_⟩, ?_, fun always => ?_⟩
  · exact ⟨grants_of_vacant rfl _, trivial, trivial, grants_of_vacant vacant _, trivial⟩
  · exact ((always.last.1 back.1.1 1).mp back.1.2).1 rfl
  · exact ⟨succeeds, trivial, trivial, fun _ _ => succeeds, trivial⟩
  · exact ((always.last.1 back.2.1 1).mp back.2.2).1 rfl

end Discovery
end Umundo
