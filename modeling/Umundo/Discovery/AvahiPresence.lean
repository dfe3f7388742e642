import Umundo.Discovery.AvahiRegistry

namespace Umundo
namespace Discovery

open Foundation
open Std

/-!
# When a node has vanished

A node is announced once for every interface and protocol, and each announcement is
withdrawn separately.  The stub of the node does not keep the announcements.  It has the
interface of the first one, and the addresses that were resolved.  The node is taken for
vanished when that interface is withdrawn and has no address of the other protocol.

What the daemon has announced, withdrawn and resolved is kept track of apart from the
program, and the stub is shown to agree with it.  The histories in which a node vanishes
with its last announcement are described by what the daemon has said alone.
-/

/-- An interface and a protocol at which a node is announced. -/
structure Announcement where
  interfaceIndex : Nat
  protocol : AvahiProtocol
deriving DecidableEq

/-- What the daemon has said about one node. -/
structure Presence where
  /-- announced, and not withdrawn since -/
  announced : List Announcement
  /-- the interface of the announcement with which the node appeared -/
  first : Nat
  /-- resolved to an address since then, and not withdrawn -/
  resolved : List Announcement

/-- An address of the protocol is kept. -/
def AvahiProtocol.keeps (address : CString) : AvahiProtocol -> Bool
  | .inet => AvahiNodeStub.isDotted address
  | .inet6 => true
  | .unspec => false

namespace Presence

def none : Presence := ⟨[], 0, []⟩

/-- A node that is not announced appears. -/
def announce (presence : Presence) (announcement : Announcement) : Presence :=
  if presence.announced = [] then ⟨[announcement], announcement.interfaceIndex, []⟩
  else { presence with announced := announcement :: presence.announced }

def withdraw (presence : Presence) (announcement : Announcement) : Presence :=
  { presence with
    announced := presence.announced.filter (· ≠ announcement)
    resolved := presence.resolved.filter (· ≠ announcement) }

def resolve (presence : Presence) (announcement : Announcement) (address : CString) : Presence :=
  if announcement.protocol.keeps address then
    { presence with resolved := announcement :: presence.resolved }
  else presence

/-- Nothing else is announced. -/
def IsLast (presence : Presence) (announcement : Announcement) : Prop :=
  forall other, other ∈ presence.announced -> other = announcement

/-- No address of another protocol was resolved at the interface. -/
def Unresolved (presence : Presence) (announcement : Announcement) : Prop :=
  forall other, other ∈ presence.resolved ->
    other.interfaceIndex = announcement.interfaceIndex -> other = announcement

instance (presence : Presence) (announcement : Announcement) : Decidable (presence.IsLast announcement) :=
  inferInstanceAs (Decidable (forall other, other ∈ presence.announced -> _))

instance (presence : Presence) (announcement : Announcement) : Decidable (presence.Unresolved announcement) :=
  inferInstanceAs (Decidable (forall other, other ∈ presence.resolved -> _))

/-- At the interface where the node appeared, the last announcement is withdrawn exactly when no
address of the other protocol was resolved there.  At other interfaces it is never withdrawn. -/
def Orderly (presence : Presence) (announcement : Announcement) : Prop :=
  if announcement.interfaceIndex = presence.first then
    (presence.IsLast announcement <-> presence.Unresolved announcement)
  else ¬ presence.IsLast announcement

instance (presence : Presence) (announcement : Announcement) : Decidable (presence.Orderly announcement) := by
  unfold Orderly
  infer_instance

theorem orderly_iff (presence : Presence) (announcement : Announcement) :
    presence.Orderly announcement <->
      (announcement.interfaceIndex = presence.first ∧ presence.Unresolved announcement <->
        presence.IsLast announcement) := by
  rw [Orderly]
  split
  next first =>
    rw [and_iff_right first]
    exact iff_comm
  next elsewhere => exact (iff_false_left fun both => elsewhere both.1).symm

theorem announced_withdraw_iff (presence : Presence) (announcement : Announcement) :
    (presence.withdraw announcement).announced = [] <-> presence.IsLast announcement := by
  simp only [withdraw, List.filter_eq_nil_iff, decide_eq_true_eq, not_not, IsLast]

end Presence

/-- What the daemon has said to every query about every name. -/
abbrev Presences := Nat -> CString -> Presence

namespace Presences

def init : Presences := fun _ _ => .none

/-- Something is said about one node. -/
def revise (presences : Presences) (query : Nat) (name : CString) (change : Presence -> Presence) :
    Presences :=
  fun other wanted => if query = other ∧ name = wanted then change (presences other wanted)
    else presences other wanted

theorem revise_apply (presences : Presences) (query other : Nat) (name wanted : CString)
    (change : Presence -> Presence) :
    presences.revise query name change other wanted =
      if query = other ∧ name = wanted then change (presences other wanted) else presences other wanted :=
  rfl

def note (presences : Presences) : AvahiEvent -> Presences
  | .browseCallback query interfaceIndex protocol .new name =>
      presences.revise query name (·.announce ⟨interfaceIndex, protocol⟩)
  | .browseCallback query interfaceIndex protocol .remove name =>
      presences.revise query name (·.withdraw ⟨interfaceIndex, protocol⟩)
  | .resolveCallback query interfaceIndex protocol (.found address) name =>
      presences.revise query name (·.resolve ⟨interfaceIndex, protocol⟩ address)
  | .unbrowse query => fun other wanted => if query = other then .none else presences other wanted
  | _ => presences

theorem note_unbrowse (presences : Presences) (query other : Nat) (wanted : CString) :
    presences.note (.unbrowse query) other wanted = if query = other then .none else presences other wanted :=
  rfl

/-- The daemon on its own. -/
def step (presences : Presences) (event : AvahiEvent) : Presences × List AvahiEffect :=
  (presences.note event, [])

/-- Announcements are withdrawn in an order that a stub can follow. -/
def Orderly (presences : Presences) : AvahiEvent -> Prop
  | .browseCallback query interfaceIndex protocol .remove name =>
      (presences query name).Orderly ⟨interfaceIndex, protocol⟩
  | _ => True

instance (presences : Presences) (event : AvahiEvent) : Decidable (presences.Orderly event) := by
  unfold Orderly
  split <;> infer_instance

end Presences

namespace Avahi

def note (_ : Avahi) (presences : Presences) (event : AvahiEvent) : Presences := presences.note event

/-- Only what was announced is withdrawn. -/
def Announces (watched : Avahi × Presences) (event : AvahiEvent) : Prop :=
  watched.1.Allowed event ∧
    match event with
    | .browseCallback query interfaceIndex protocol .remove name =>
        ⟨interfaceIndex, protocol⟩ ∈ (watched.2 query name).announced
    | _ => True

instance (watched : Avahi × Presences) (event : AvahiEvent) : Decidable (Announces watched event) := by
  unfold Announces
  split <;> infer_instance

/-- The query is told that the node has vanished, and the node is dropped, exactly if its
last announcement is withdrawn. -/
def VanishesWithLast (watched : Avahi × Presences) (event : AvahiEvent) : Prop :=
  match event with
  | .browseCallback query interfaceIndex protocol .remove name =>
      (.removed query name ∈ (watched.1.step event).2 <->
        (watched.2 query name).IsLast ⟨interfaceIndex, protocol⟩) ∧
      ((name ∈ watched.1.queryNodes.row query ∧
          name ∉ (watched.1.step event).1.queryNodes.row query) <->
        (watched.2 query name).IsLast ⟨interfaceIndex, protocol⟩)
  | _ => True

end Avahi

/-! ## What a stub has kept -/

namespace AvahiNodeStub

/-- The addresses of one protocol. -/
def addresses (stub : AvahiNodeStub) : AvahiProtocol -> Table Nat CString
  | .inet => stub.interfacesIPv4
  | .inet6 => stub.interfacesIPv6
  | .unspec => ∅

/-- The only interface is the one where the node appeared, and there are addresses where some were
resolved. -/
structure Agrees (stub : AvahiNodeStub) (presence : Presence) : Prop where
  first : forall interfaceIndex, interfaceIndex ∈ stub.interfaceIndices <-> interfaceIndex = presence.first
  resolved : forall announcement : Announcement,
    announcement.interfaceIndex ∈ stub.addresses announcement.protocol <-> announcement ∈ presence.resolved

theorem mem_addresses_storeAddress (stub : AvahiNodeStub) (announcement other : Announcement)
    (address : CString) :
    other.interfaceIndex ∈ (stub.storeAddress announcement.interfaceIndex address
        announcement.protocol).addresses other.protocol <->
      (announcement.protocol.keeps address = true ∧ other = announcement) ∨
        other.interfaceIndex ∈ stub.addresses other.protocol := by
  rcases announcement with ⟨interfaceIndex, protocol⟩
  rcases other with ⟨otherIndex, otherProtocol⟩
  have stored (table : Table Nat CString) : otherIndex ∈ table.insert interfaceIndex address <->
      otherIndex = interfaceIndex ∨ otherIndex ∈ table := by
    rw [ExtTreeMap.mem_insert, LawfulEqCmp.compare_eq_iff_eq, eq_comm]
  cases protocol with
  | inet =>
      cases dotted : isDotted address <;> cases otherProtocol <;>
        simp [storeAddress, addresses, AvahiProtocol.keeps, dotted, stored]
  | inet6 => cases otherProtocol <;> simp [storeAddress, addresses, AvahiProtocol.keeps, stored]
  | unspec => cases otherProtocol <;> simp [storeAddress, addresses, AvahiProtocol.keeps]

theorem mem_addresses_forgetAddress (stub : AvahiNodeStub) (announcement other : Announcement) :
    other.interfaceIndex ∈ (stub.forgetAddress announcement.interfaceIndex
        announcement.protocol).addresses other.protocol <->
      other ≠ announcement ∧ other.interfaceIndex ∈ stub.addresses other.protocol := by
  rcases announcement with ⟨interfaceIndex, protocol⟩
  rcases other with ⟨otherIndex, otherProtocol⟩
  have erased (table : Table Nat CString) : otherIndex ∈ table.erase interfaceIndex <->
      otherIndex ≠ interfaceIndex ∧ otherIndex ∈ table := by
    rw [ExtTreeMap.mem_erase, ne_eq, LawfulEqCmp.compare_eq_iff_eq, eq_comm]
  cases protocol <;> cases otherProtocol <;> simp [forgetAddress, addresses, erased]

theorem interfaceIndices_storeAddress (stub : AvahiNodeStub) (interfaceIndex : Nat) (address : CString)
    (protocol : AvahiProtocol) :
    (stub.storeAddress interfaceIndex address protocol).interfaceIndices = stub.interfaceIndices := by
  cases protocol with
  | inet =>
      rw [storeAddress]
      split <;> rfl
  | inet6 => rfl
  | unspec => rfl

theorem interfaceIndices_forgetAddress (stub : AvahiNodeStub) (interfaceIndex : Nat)
    (protocol : AvahiProtocol) :
    (stub.forgetAddress interfaceIndex protocol).interfaceIndices = stub.interfaceIndices := by
  cases protocol <;> rfl

/-- The addresses after a withdrawal, whether or not the interface goes with them. -/
theorem addresses_withdraw (stub : AvahiNodeStub) (interfaceIndex : Nat) (protocol : AvahiProtocol) :
    (stub.withdraw interfaceIndex protocol).addresses =
      (stub.forgetAddress interfaceIndex protocol).addresses := by
  rw [withdraw]
  split
  · funext other
    cases other <;> rfl
  · rfl

namespace Agrees

variable {stub : AvahiNodeStub} {presence : Presence}

theorem appear (announcement : Announcement) (announced : List Announcement) :
    Agrees (.announced announcement.interfaceIndex) ⟨announced, announcement.interfaceIndex, []⟩ where
  first other := by
    rw [AvahiNodeStub.announced, ExtTreeSet.mem_insert, LawfulEqCmp.compare_eq_iff_eq, eq_comm,
      or_iff_left ExtTreeSet.not_mem_empty]
  resolved other := by
    refine iff_of_false ?_ List.not_mem_nil
    cases other.protocol <;> exact ExtTreeMap.not_mem_empty

theorem announce (agrees : stub.Agrees presence) (announced : List Announcement) :
    stub.Agrees { presence with announced := announced } :=
  ⟨agrees.first, agrees.resolved⟩

theorem resolve (agrees : stub.Agrees presence) (announcement : Announcement) (address : CString) :
    (stub.storeAddress announcement.interfaceIndex address announcement.protocol).Agrees
      (presence.resolve announcement address) where
  first other := by
    rw [interfaceIndices_storeAddress, agrees.first, Presence.resolve]
    split <;> rfl
  resolved other := by
    rw [mem_addresses_storeAddress, agrees.resolved, Presence.resolve]
    split
    next kept => rw [and_iff_right kept, List.mem_cons]
    next dropped => exact or_iff_right fun both => dropped both.1

theorem mem_forgetAddress (agrees : stub.Agrees presence) (announcement other : Announcement) :
    other.interfaceIndex ∈ (stub.forgetAddress announcement.interfaceIndex
        announcement.protocol).addresses other.protocol <->
      other ∈ (presence.withdraw announcement).resolved := by
  rw [mem_addresses_forgetAddress, agrees.resolved, Presence.withdraw, List.mem_filter, and_comm,
    decide_eq_true_eq]

/-- The interface has no address any more exactly if none was resolved for another protocol. -/
theorem unresolved_iff (agrees : stub.Agrees presence) (announcement : Announcement) :
    (announcement.interfaceIndex ∉ (stub.forgetAddress announcement.interfaceIndex
          announcement.protocol).interfacesIPv4 ∧
        announcement.interfaceIndex ∉ (stub.forgetAddress announcement.interfaceIndex
          announcement.protocol).interfacesIPv6) <->
      presence.Unresolved announcement := by
  have left (protocol : AvahiProtocol) := agrees.mem_forgetAddress announcement
    ⟨announcement.interfaceIndex, protocol⟩
  have remains (other : Announcement) : other ∈ (presence.withdraw announcement).resolved <->
      other ∈ presence.resolved ∧ other ≠ announcement := by
    rw [Presence.withdraw, List.mem_filter, decide_eq_true_eq]
  constructor
  · rintro ⟨ipv4, ipv6⟩ ⟨interfaceIndex, protocol⟩ member rfl
    by_contra different
    have there := (left protocol).mpr ((remains _).mpr ⟨member, different⟩)
    cases protocol with
    | inet => exact ipv4 there
    | inet6 => exact ipv6 there
    | unspec => exact ExtTreeMap.not_mem_empty there
  · intro unresolved
    have gone (protocol : AvahiProtocol) : announcement.interfaceIndex ∉
        (stub.forgetAddress announcement.interfaceIndex announcement.protocol).addresses protocol := by
      intro there
      obtain ⟨member, different⟩ := (remains _).mp ((left protocol).mp there)
      exact different (unresolved _ member rfl)
    exact ⟨gone .inet, gone .inet6⟩

/-- Where the node appeared, its interface goes with the last address. -/
theorem isEmpty_withdraw_iff (agrees : stub.Agrees presence) (announcement : Announcement) :
    (stub.withdraw announcement.interfaceIndex announcement.protocol).interfaceIndices.isEmpty = true <->
      announcement.interfaceIndex = presence.first ∧ presence.Unresolved announcement := by
  rw [AvahiNodeStub.withdraw, ← agrees.unresolved_iff]
  split
  next gone =>
    rw [and_iff_left gone, interfaceIndices_forgetAddress, Table.isEmpty_erase_iff]
    simp only [agrees.first]
    constructor
    · intro none
      by_contra different
      exact none ⟨_, Ne.symm different, rfl⟩
    · rintro same ⟨other, different, rfl⟩
      exact different same.symm
  next left =>
    refine iff_of_false ?_ fun both => left both.2
    rw [interfaceIndices_forgetAddress, ExtTreeSet.isEmpty_iff]
    intro empty
    exact ExtTreeSet.not_mem_empty (empty ▸ (agrees.first presence.first).mpr rfl)

/-- A stub that is not empty after a withdrawal still has the interface where the node appeared. -/
theorem withdraw (agrees : stub.Agrees presence) (announcement : Announcement)
    (left : ¬ (stub.withdraw announcement.interfaceIndex announcement.protocol).interfaceIndices.isEmpty = true) :
    (stub.withdraw announcement.interfaceIndex announcement.protocol).Agrees
      (presence.withdraw announcement) where
  first other := by
    rw [agrees.isEmpty_withdraw_iff, ← agrees.unresolved_iff] at left
    change _ <-> other = presence.first
    rw [← agrees.first, ← stub.interfaceIndices_forgetAddress announcement.interfaceIndex
      announcement.protocol, AvahiNodeStub.withdraw]
    split
    next gone =>
      rw [ExtTreeSet.mem_erase, ne_eq, LawfulEqCmp.compare_eq_iff_eq]
      refine and_iff_right_of_imp fun there same => ?_
      rw [interfaceIndices_forgetAddress, agrees.first] at there
      exact left ⟨same.trans there, gone⟩
    next => rfl
  resolved other := by
    rw [addresses_withdraw]
    exact agrees.mem_forgetAddress announcement other

end Agrees

end AvahiNodeStub

namespace Avahi

/-! ## Calls that do not concern remote nodes -/

/-- Remote nodes and queries stay. -/
structure Spares (avahi next : Avahi) : Prop where
  queryNodes : next.queryNodes = avahi.queryNodes
  browsers : forall query, query ∈ avahi.browsers -> query ∈ next.browsers

section

variable {avahi middle next : Avahi}

theorem Spares.refl (avahi : Avahi) : avahi.Spares avahi := ⟨rfl, fun _ => id⟩

theorem Spares.trans (first : avahi.Spares middle) (second : middle.Spares next) : avahi.Spares next :=
  ⟨second.queryNodes.trans first.queryNodes, fun query => second.browsers query ∘ first.browsers query⟩

theorem yields_validated (avahi : Avahi) : Yields avahi.validated avahi.Spares :=
  .check fun _ => .done (.refl avahi)

theorem yields_callback (node : Nat) (callback : NodeCallback) (avahi : Avahi) :
    Yields (avahi.callback node callback) avahi.Spares := by
  cases callback with
  | client state made =>
      refine .check fun _ => ?_
      split
      · exact .done ⟨rfl, fun _ => id⟩
      · exact .done (.refl avahi)
  | entryGroup group state => exact .check fun _ => .check fun _ => .done ⟨rfl, fun _ => id⟩

theorem yields_add (registration : Registration) (node : Nat) (avahi : Avahi) :
    Yields (avahi.add registration node) avahi.Spares := by
  rw [add]
  split
  next => exact .check fun _ => avahi.yields_validated
  next =>
    refine .bind (.loop ?_ (show avahi.Spares _ from ⟨rfl, fun _ => id⟩)) fun state spared => ?_
    · exact fun state callback _ spared => (yields_callback node callback state).mono fun _ => spared.trans
    · refine .check fun _ => (yields_validated _).mono fun _ after => spared.trans ?_
      exact ⟨after.queryNodes, after.browsers⟩

theorem yields_remove (node : Nat) (avahi : Avahi) : Yields (avahi.remove node) avahi.Spares := by
  rw [remove]
  split
  next => exact .done (.refl avahi)
  next =>
    refine .check fun _ => .check fun _ => (yields_validated _).mono fun _ after => ?_
    exact ⟨after.queryNodes, after.browsers⟩

theorem yields_suspend (avahi : Avahi) : Yields avahi.suspend avahi.Spares := by
  rw [suspend]
  split
  next => exact .done (.refl avahi)
  next =>
    refine .loop ?_ ⟨rfl, fun _ => id⟩
    exact fun state node _ spared => (yields_remove node state).mono fun _ => spared.trans

theorem yields_resume (registrations : Nat -> Registration) (avahi : Avahi) :
    Yields (avahi.resume registrations) avahi.Spares := by
  rw [resume]
  split
  next =>
    refine .map (.loop ?_ (show avahi.Spares _ from ⟨rfl, fun _ => id⟩)) fun state spared =>
      ⟨spared.queryNodes, spared.browsers⟩
    exact fun state node _ spared =>
      (yields_add (registrations node) node state).mono fun _ => spared.trans
  next => exact .done (.refl avahi)

theorem yields_browse (client browser : Option Nat) (query : Nat) (avahi : Avahi) :
    Yields (avahi.browse client browser query) avahi.Spares := by
  unfold browse
  split
  next => exact avahi.yields_validated
  next =>
    split
    next =>
      refine .check fun _ => .check fun _ => .check fun _ => (yields_validated _).mono fun _ after => ?_
      exact ⟨after.queryNodes, fun other held =>
        after.browsers other (ExtTreeSet.mem_insert.mpr (.inr held))⟩
    next => exact avahi.yields_validated

theorem yields_unbrowse (query : Nat) (avahi : Avahi) :
    Yields (avahi.unbrowse query) fun next =>
      (query ∉ avahi.avahiClients ∧ next = avahi) ∨
      (next.queryNodes = avahi.queryNodes.erase query ∧ next.browsers = avahi.browsers.erase query) := by
  rw [unbrowse]
  split
  next absent => exact .done (.inl ⟨absent, rfl⟩)
  next => exact .check fun _ => .check fun _ => .done (.inr ⟨rfl, rfl⟩)

end

/-! ## What happens to remote nodes -/

/-- A node is known exactly if it is announced, and then its stub agrees. -/
inductive Shows : Option AvahiNodeStub -> Presence -> Prop
  | unknown {presence : Presence} (silent : presence.announced = []) : Shows none presence
  | known {stub : AvahiNodeStub} {presence : Presence} (announced : presence.announced ≠ [])
      (agrees : stub.Agrees presence) : Shows (some stub) presence

theorem Shows.silent {presence : Presence} (shows : Shows none presence) : presence.announced = [] := by
  cases shows with
  | unknown silent => exact silent

theorem Shows.agrees {stub : AvahiNodeStub} {presence : Presence} (shows : Shows (some stub) presence) :
    presence.announced ≠ [] ∧ stub.Agrees presence := by
  cases shows with
  | known announced agrees => exact ⟨announced, agrees⟩

/-- As long as nodes vanish as they should, the nodes that are known are those that are announced. -/
structure Present (avahi : Avahi) (presences : Presences) : Prop where
  good : avahi.Good
  browsed : forall query name, (presences query name).announced ≠ [] -> query ∈ avahi.browsers
  shows : forall (query : Nat) (name : CString),
    Shows (avahi.queryNodes.row query)[name]? (presences query name)

theorem row_entered (avahi : Avahi) (query other : Nat) :
    (avahi.entered query).queryNodes.row other = avahi.queryNodes.row other :=
  Table.row_touch avahi.queryNodes query other

theorem getElem?_row_announce (avahi : Avahi) (query interfaceIndex : Nat) (name : CString)
    (other : Nat) (wanted : CString) :
    ((avahi.announce query interfaceIndex name).queryNodes.row other)[wanted]? =
      if query = other ∧ name = wanted then
        some ((avahi.queryNodes.row query)[name]?.getD (.announced interfaceIndex))
      else (avahi.queryNodes.row other)[wanted]? := by
  unfold announce
  split
  next known =>
    obtain ⟨stub, held⟩ := Table.getElem?_of_mem known
    split
    next here =>
      obtain ⟨rfl, rfl⟩ := here
      rw [held, Option.getD_some]
    next => rfl
  next unknown =>
    rw [Table.getElem?_row_store, ExtTreeMap.getElem?_eq_none unknown, Option.getD_none]

theorem announce_browsers (avahi : Avahi) (query interfaceIndex : Nat) (name : CString) :
    (avahi.announce query interfaceIndex name).browsers = avahi.browsers := by
  unfold announce
  split <;> rfl

section

variable {avahi : Avahi} {query : Nat} {name : CString} {stub : AvahiNodeStub}
  (held : (avahi.queryNodes.row query)[name]? = some stub) (interfaceIndex : Nat) (protocol : AvahiProtocol)

include held

theorem withdraw_eq :
    avahi.withdraw query interfaceIndex protocol name =
      if (stub.withdraw interfaceIndex protocol).interfaceIndices.isEmpty then
        ({ avahi with
            queryNodes := avahi.queryNodes.insert query ((avahi.queryNodes.row query).erase name) },
          [.removed query name])
      else
        ({ avahi with
            queryNodes := avahi.queryNodes.store query name
              (stub.withdraw interfaceIndex protocol) }, []) := by
  simp only [withdraw, held]

/-- The query is told that the node has vanished exactly if the stub has no interface left. -/
theorem removed_mem_withdraw_iff :
    .removed query name ∈ (avahi.withdraw query interfaceIndex protocol name).2 <->
      (stub.withdraw interfaceIndex protocol).interfaceIndices.isEmpty = true := by
  rw [withdraw_eq held]
  split
  next empty => exact iff_of_true List.mem_cons_self empty
  next left => exact iff_of_false List.not_mem_nil left

/-- And then the node is dropped. -/
theorem not_mem_row_withdraw_iff :
    name ∉ (avahi.withdraw query interfaceIndex protocol name).1.queryNodes.row query <->
      (stub.withdraw interfaceIndex protocol).interfaceIndices.isEmpty = true := by
  rw [withdraw_eq held]
  split
  next empty =>
    refine iff_of_true ?_ empty
    rw [Table.mem_row_eraseColumn]
    exact fun both => both.1 ⟨rfl, rfl⟩
  next left =>
    refine iff_of_false (not_not.mpr ?_) left
    rw [ExtTreeMap.mem_iff_isSome_getElem?, Table.getElem?_row_store, if_pos ⟨rfl, rfl⟩]
    rfl

end

namespace Present

variable {avahi next : Avahi} {presences : Presences} {query : Nat} {name : CString}

theorem unconcerned (present : Present avahi presences) (spared : avahi.Spares next)
    (good : next.Good) : Present next presences where
  good := good
  browsed query name announced := spared.browsers query (present.browsed query name announced)
  shows := by
    rw [spared.queryNodes]
    exact present.shows

/-- One node changes, and so does what is said about it. -/
theorem revise (present : Present avahi presences) (good : next.Good)
    (browsers : next.browsers = avahi.browsers) (browsed : query ∈ avahi.browsers)
    (entry : Option AvahiNodeStub) (change : Presence -> Presence)
    (rows : forall (other : Nat) (wanted : CString), (next.queryNodes.row other)[wanted]? =
      if query = other ∧ name = wanted then entry else (avahi.queryNodes.row other)[wanted]?)
    (shows : Shows entry (change (presences query name))) :
    Present next (presences.revise query name change) where
  good := good
  browsed other wanted announced := by
    rw [browsers]
    rw [Presences.revise_apply] at announced
    split at announced
    next here => exact here.1 ▸ browsed
    next => exact present.browsed other wanted announced
  shows other wanted := by
    rw [rows, Presences.revise_apply]
    split
    next here =>
      obtain ⟨rfl, rfl⟩ := here
      exact shows
    next => exact present.shows other wanted

/-- A new announcement makes its name known. -/
theorem announce (present : Present avahi presences) (browsed : query ∈ avahi.browsers)
    (announcement : Announcement) :
    Present ((avahi.entered query).announce query announcement.interfaceIndex name)
      (presences.revise query name (·.announce announcement)) := by
  refine present.revise ((present.good.entered query).announce query _ name) (announce_browsers _ _ _ _) browsed
    (some ((avahi.queryNodes.row query)[name]?.getD (.announced announcement.interfaceIndex)))
    (·.announce announcement) (fun other wanted => ?_) ?_
  · rw [getElem?_row_announce, row_entered, row_entered]
  · have shows := present.shows query name
    rw [Presence.announce]
    generalize (avahi.queryNodes.row query)[name]? = entry at shows ⊢
    cases shows with
    | unknown silent =>
        rw [if_pos silent]
        exact .known (List.cons_ne_nil _ _) (.appear announcement _)
    | known announced agrees =>
        rw [if_neg announced]
        exact .known (List.cons_ne_nil _ _) (agrees.announce _)

/-- What becomes of a node when it loses one of its announcements. -/
theorem withdraw (present : Present avahi presences) (browsed : query ∈ avahi.browsers)
    (announcement : Announcement) {stub : AvahiNodeStub}
    (held : (avahi.queryNodes.row query)[name]? = some stub) (agrees : stub.Agrees (presences query name))
    (orderly : (presences query name).Orderly announcement) :
    Present ((avahi.entered query).withdraw query announcement.interfaceIndex announcement.protocol name).1
      (presences.revise query name (·.withdraw announcement)) := by
  have entered : ((avahi.entered query).queryNodes.row query)[name]? = some stub := by
    rw [row_entered, held]
  have good := ((present.good.entered query).withdraw query announcement.interfaceIndex
    announcement.protocol name).1
  have vanishes := (agrees.isEmpty_withdraw_iff announcement).trans ((Presence.orderly_iff _ _).mp orderly)
  rw [withdraw_eq entered] at good ⊢
  split
  next empty =>
    rw [if_pos empty] at good
    refine present.revise good rfl browsed none (·.withdraw announcement) (fun other wanted => ?_)
      (.unknown ((Presence.announced_withdraw_iff _ _).mpr (vanishes.mp empty)))
    rw [Table.getElem?_row_eraseColumn, row_entered]
  next left =>
    rw [if_neg left] at good
    refine present.revise good rfl browsed (some _) (·.withdraw announcement) (fun other wanted => ?_)
      (.known (fun none => left (vanishes.mpr ((Presence.announced_withdraw_iff _ _).mp none)))
        (agrees.withdraw _ left))
    rw [Table.getElem?_row_store, row_entered]

/-- An address is stored if the node is known. -/
theorem resolve (present : Present avahi presences) (browsed : query ∈ avahi.browsers)
    (announcement : Announcement) (address : CString) :
    Present ((avahi.entered query).resolved query announcement.interfaceIndex announcement.protocol
      (.found address) name).1 (presences.revise query name (·.resolve announcement address)) := by
  have good := present.good.entered query
  have shows := present.shows query name
  have same : ((presences query name).resolve announcement address).announced =
      (presences query name).announced := by
    rw [Presence.resolve]
    split <;> rfl
  unfold resolved
  rw [row_entered]
  cases held : (avahi.queryNodes.row query)[name]? with
  | none =>
      rw [held] at shows
      refine present.revise good rfl browsed none (·.resolve announcement address) (fun other wanted => ?_)
        (.unknown (same.trans shows.silent))
      rw [row_entered]
      split
      next here =>
        obtain ⟨rfl, rfl⟩ := here
        exact held
      next => rfl
  | some stub =>
      rw [held] at shows
      obtain ⟨announced, agrees⟩ := shows.agrees
      have stored := good.withNodes ((avahi.entered query).queryNodes.store query name
        (stub.storeAddress announcement.interfaceIndex address announcement.protocol))
      refine present.revise stored rfl browsed (some _) (·.resolve announcement address) (fun other wanted => ?_)
        (.known (fun none => announced (same.symm.trans none)) (agrees.resolve announcement address))
      rw [Table.getElem?_row_store, row_entered]

theorem entered (present : Present avahi presences) (query : Nat) :
    Present (avahi.entered query) presences where
  good := present.good.entered query
  browsed := present.browsed
  shows other wanted := by
    rw [row_entered]
    exact present.shows other wanted

/-- A query is forgotten, with all that it was told. -/
theorem forget (present : Present avahi presences) (good : next.Good)
    (browsers : forall other, query ≠ other -> other ∈ avahi.browsers -> other ∈ next.browsers)
    (rows : forall (other : Nat) (name : CString), (next.queryNodes.row other)[name]? =
      if query = other then none else (avahi.queryNodes.row other)[name]?) :
    Present next (presences.note (.unbrowse query)) where
  good := good
  browsed other name announced := by
    rw [Presences.note_unbrowse] at announced
    split at announced
    · exact absurd rfl announced
    next different => exact browsers other different (present.browsed other name announced)
  shows other name := by
    rw [rows, Presences.note_unbrowse]
    split
    · exact .unknown rfl
    · exact present.shows other name

/-- The announcements to a query end with it. -/
theorem unbrowse (present : Present avahi presences) (allowed : avahi.Allowed (.unbrowse query)) :
    Present (avahi.step (.unbrowse query)).1 (presences.note (.unbrowse query)) := by
  obtain ⟨next, ends, good⟩ := present.good.unbrowse allowed
  have stepped : (avahi.step (.unbrowse query)).1 = next := by
    rw [step, react, ends]
    rfl
  rw [stepped]
  rcases avahi.yields_unbrowse query next ends with ⟨absent, rfl⟩ | ⟨queryNodes, browsers⟩
  · refine present.forget good (fun _ _ => id) fun other name => ?_
    split
    next same =>
      subst same
      -- A query without a client was never told anything.
      have unknown : query ∉ next.browsers := fun held => absent ((good.clients query).mpr (.inl held))
      have shows := present.shows query name
      cases held : (next.queryNodes.row query)[name]? with
      | none => rfl
      | some stub =>
          rw [held] at shows
          exact absurd (present.browsed query name shows.agrees.1) unknown
    next => rfl
  · refine present.forget good (fun other different held => ?_) fun other name => ?_
    · rw [browsers, ExtTreeSet.mem_erase, ne_eq, LawfulEqCmp.compare_eq_iff_eq]
      exact ⟨different, held⟩
    · rw [queryNodes, Table.row_erase]
      split
      · exact ExtTreeMap.getElem?_empty
      · rfl

theorem step_browseCallback (good : avahi.Good) (known : query ∈ avahi.browsers)
    (interfaceIndex : Nat) (protocol : AvahiProtocol) (event : AvahiBrowserEvent) (name : CString) :
    avahi.step (.browseCallback query interfaceIndex protocol event name) =
      avahi.browsed query interfaceIndex protocol event name := by
  rw [Avahi.step, react, (good.browseCallback known interfaceIndex protocol event name).1]
  rfl

/-- A node that is announced has a stub, which agrees with what was said. -/
theorem exists_stub (present : Present avahi presences) {announcement : Announcement}
    (member : announcement ∈ (presences query name).announced) :
    Exists fun stub => (avahi.queryNodes.row query)[name]? = some stub ∧ stub.Agrees (presences query name) := by
  have shows := present.shows query name
  cases held : (avahi.queryNodes.row query)[name]? with
  | none =>
      rw [held] at shows
      exact absurd member (shows.silent ▸ List.not_mem_nil)
  | some stub =>
      rw [held] at shows
      exact ⟨stub, rfl, shows.agrees.2⟩

theorem vanishes_iff (present : Present avahi presences) {event : AvahiEvent}
    (allowed : Announces (avahi, presences) event) :
    VanishesWithLast (avahi, presences) event <-> presences.Orderly event := by
  unfold VanishesWithLast Presences.Orderly
  split
  next query interfaceIndex protocol name =>
    obtain ⟨stub, held, agrees⟩ := present.exists_stub allowed.2
    have entered : ((avahi.entered query).queryNodes.row query)[name]? = some stub := by
      rw [row_entered]
      exact held
    have vacated : (stub.withdraw interfaceIndex protocol).interfaceIndices.isEmpty = true <-> _ :=
      agrees.isEmpty_withdraw_iff ⟨interfaceIndex, protocol⟩
    rw [step_browseCallback present.good allowed.1, Presence.orderly_iff]
    change ((.removed query name ∈
        ((avahi.entered query).withdraw query interfaceIndex protocol name).2 <-> _) ∧
      ((_ ∧ name ∉
        ((avahi.entered query).withdraw query interfaceIndex protocol name).1.queryNodes.row query) <-> _)) <-> _
    rw [removed_mem_withdraw_iff entered, not_mem_row_withdraw_iff entered, vacated,
      and_iff_right (Table.mem_of_getElem? held), and_self]
  next => exact Iff.rfl

/-- As long as announcements are withdrawn in order, the stubs agree with them. -/
theorem step (present : Present avahi presences) {event : AvahiEvent}
    (allowed : Announces (avahi, presences) event) (orderly : presences.Orderly event) :
    Present (avahi.step event).1 (presences.note event) := by
  have good := (present.good.step allowed.1).1
  have spared (yielded : Yields (avahi.react event) fun next => avahi.Spares next.1) :
      Present (avahi.step event).1 presences := by
    refine present.unconcerned ?_ good
    rw [Avahi.step]
    cases ends : avahi.react event with
    | none => exact .refl avahi
    | some next => exact yielded next ends
  cases event with
  | add node registration => exact spared ((avahi.yields_add registration node).map fun _ => id)
  | remove node => exact spared ((avahi.yields_remove node).map fun _ => id)
  | suspend => exact spared (avahi.yields_suspend.map fun _ => id)
  | resume registrations => exact spared ((avahi.yields_resume registrations).map fun _ => id)
  | browse query client browser =>
      exact spared ((avahi.yields_browse client browser query).map fun _ => id)
  | unbrowse query => exact present.unbrowse allowed.1
  | callback node callback => exact spared ((avahi.yields_callback node callback).map fun _ => id)
  | browseCallback query interfaceIndex protocol event name =>
      rw [step_browseCallback present.good allowed.1]
      cases event with
      | new => exact present.announce allowed.1 ⟨interfaceIndex, protocol⟩
      | remove =>
          obtain ⟨stub, held, agrees⟩ := present.exists_stub allowed.2
          exact present.withdraw allowed.1 ⟨interfaceIndex, protocol⟩ held agrees orderly
      | cacheExhausted => exact present
      | allForNow => exact present
      | failure => exact present
  | resolveCallback query interfaceIndex protocol event name =>
      have stepped : avahi.step (.resolveCallback query interfaceIndex protocol event name) =
          (avahi.entered query).resolved query interfaceIndex protocol event name := by
        rw [Avahi.step, react, present.good.resolveCallback allowed.1 interfaceIndex protocol event name]
        rfl
      rw [stepped]
      cases event with
      | found address => exact present.resolve allowed.1 ⟨interfaceIndex, protocol⟩ address
      | failure =>
          have unchanged : (avahi.entered query).resolved query interfaceIndex protocol .failure name =
              (avahi.entered query, []) := by
            unfold resolved
            split
            next impossible => cases impossible
            next => rfl
          rw [unchanged]
          exact present.entered query

end Present

/-- In every run in which only announced pairs are withdrawn, nodes vanish exactly with
their last announcement if and only if the announcements are withdrawn in order.  Whether they
are depends on what the daemon has said alone. -/
theorem vanishes_iff_of_run (events : List AvahiEvent)
    (admitted : Admits (observe step note) Announces (start, Presences.init) events) :
    Admits (observe step note) VanishesWithLast (start, Presences.init) events <->
      Admits Presences.step Presences.Orderly Presences.init events := by
  have alone : Admits (observe step note) (fun watched => watched.2.Orderly) (start, Presences.init) events <->
      Admits Presences.step Presences.Orderly Presences.init events :=
    admits_project Prod.snd (fun _ _ => rfl) (fun _ _ => Iff.rfl) (start, Presences.init) events
  rw [← alone]
  refine admits_iff_admits (fun watched => Present watched.1 watched.2) VanishesWithLast _ ?_ ?_ ?_ admitted
  · exact fun watched event present allowed vanishes =>
      present.step allowed ((present.vanishes_iff allowed).mp vanishes)
  · exact fun watched event present allowed => present.vanishes_iff allowed
  · refine ⟨.start, fun _ _ announced => absurd rfl announced, fun query name => ?_⟩
    have empty : Avahi.start.queryNodes.row query = ∅ := Table.row_of_not_mem ExtTreeMap.not_mem_empty
    rw [empty, ExtTreeMap.getElem?_empty]
    exact .unknown rfl

private def remote : CString := .ofBytes [110]

/-- A node with two interfaces is seen, resolved at the first one, and lost there. -/
private def encounter : List AvahiEvent :=
  [.browse 1 (some 11) (some 11), .browseCallback 1 1 .inet .new remote,
    .browseCallback 1 2 .inet .new remote, .browseCallback 1 1 .inet6 .new remote,
    .resolveCallback 1 1 .inet (.found (.ofBytes [49, 46, 49, 46, 49, 46, 49])) remote,
    .browseCallback 1 1 .inet6 .remove remote, .browseCallback 1 2 .inet .remove remote,
    .browseCallback 1 1 .inet .remove remote]

theorem vanishes_iff_of_run_encounter :
    Admits (observe step note) VanishesWithLast (start, Presences.init) encounter ∧
      (run step start encounter).2 = [.found 1 remote, .removed 1 remote] := by
  have told : Admits (observe step note) Announces (start, Presences.init) encounter ∧
      Admits Presences.step Presences.Orderly Presences.init encounter ∧
      (run step start encounter).2 = [.found 1 remote, .removed 1 remote] := by
    decide +kernel
  exact ⟨(vanishes_iff_of_run encounter told.1).mpr told.2.1, told.2.2⟩

/-- A node with two interfaces is lost with the first one, although it is still announced. -/
theorem vanishes_early :
    let events : List AvahiEvent := [.browse 1 (some 11) (some 11),
      .browseCallback 1 1 .inet .new remote, .browseCallback 1 2 .inet .new remote,
      .browseCallback 1 1 .inet .remove remote]
    let final := run (observe step note) (start, Presences.init) events
    Admits (observe step note) Announces (start, Presences.init) events ∧
      final.2 = [.removed 1 remote] ∧ (final.1.2 1 remote).announced = [⟨2, .inet⟩] := by
  decide +kernel

end Avahi

end Discovery
end Umundo
