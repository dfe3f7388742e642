import Umundo.Discovery.Bonjour

namespace Umundo
namespace Discovery

open Foundation
open Std

/-!
# The directory of remote nodes

A remote node is found in two ways: from its query by name through `_queryToNodes`,
and from its address through `_nodeToQuery`, which leads to the query, and the uuid
inside the stub, which is the name.  `Directory` says that the two ways are inverse
to each other, and that a stub knows exactly the interfaces which the daemon has
announced.  Every table is given by its lookups, so that it does not matter how an
operation has changed a table, only what is found in it afterwards.
-/

/-- What the directory has to know about a stub. -/
structure Profile where
  uuid : CString
  domain : CString
  interfaceIndices : Keys Nat

def BonjourNodeStub.profile (stub : BonjourNodeStub) : Profile :=
  ⟨stub.uuid, stub.domain, stub.interfaceIndices⟩

/-- The pairs that the daemon has announced. -/
def presentIn (given : Option Answers) : List (CString × Nat) := (given.map Answers.present).getD []

structure Directory (home : Nat -> Option Nat) (cell : Nat -> CString -> Option Nat)
    (profile : Nat -> Option Profile) (answers : Nat -> Option Answers) : Prop where
  cell_iff : forall query name node, cell query name = some node <->
    home node = some query ∧ (profile node).map Profile.uuid = some name
  owned : forall node, (profile node).isSome = (home node).isSome
  domain_eq : forall node query known, home node = some query -> profile node = some known ->
    (answers query).map Answers.domain = some known.domain
  present_iff : forall query name interfaceIndex,
    (name, interfaceIndex) ∈ presentIn (answers query) <->
      Exists fun node => Exists fun known : Profile =>
        cell query name = some node ∧ profile node = some known ∧
          interfaceIndex ∈ known.interfaceIndices

namespace Directory

variable {home home' : Nat -> Option Nat} {cell cell' : Nat -> CString -> Option Nat}
variable {profile profile' : Nat -> Option Profile} {answers answers' : Nat -> Option Answers}
variable {query node : Nat} {name : CString} {known : Profile}

theorem empty : Directory (fun _ => none) (fun _ _ => none) (fun _ => none) (fun _ => none) where
  cell_iff _ _ _ := by
    constructor
    · intro found
      cases found
    · rintro ⟨found, _⟩
      cases found
  owned _ := rfl
  domain_eq _ _ _ found := by cases found
  present_iff _ _ _ := by
    constructor
    · intro member
      cases member
    · rintro ⟨_, _, found, _⟩
      cases found

/-- A node in the table has a stub of that name, which leads back to the query. -/
theorem profile_of_cell (directory : Directory home cell profile answers)
    (found : cell query name = some node) :
    home node = some query ∧ Exists fun known => profile node = some known ∧ known.uuid = name := by
  obtain ⟨back, named⟩ := (directory.cell_iff query name node).mp found
  obtain ⟨known, held, uuid⟩ := Option.map_eq_some_iff.mp named
  exact ⟨back, known, held, uuid⟩

/-- A node with a query has a stub and is in the table under its name. -/
theorem cell_of_home (directory : Directory home cell profile answers)
    (back : home node = some query) :
    Exists fun known => profile node = some known ∧ cell query known.uuid = some node := by
  have held : (profile node).isSome = true := by
    rw [directory.owned, back]
    rfl
  obtain ⟨known, held⟩ := Option.isSome_iff_exists.mp held
  refine ⟨known, held, (directory.cell_iff _ _ _).mpr ⟨back, ?_⟩⟩
  rw [held]
  rfl

theorem cell_injective (directory : Directory home cell profile answers) {query' : Nat}
    {name' : CString} (one : cell query name = some node) (two : cell query' name' = some node) :
    query = query' ∧ name = name' := by
  obtain ⟨back, named⟩ := (directory.cell_iff _ _ _).mp one
  obtain ⟨back', named'⟩ := (directory.cell_iff _ _ _).mp two
  exact ⟨Option.some.inj (back.symm.trans back'), Option.some.inj (named.symm.trans named')⟩

/-- A name that was announced has a node. -/
theorem cell_of_present (directory : Directory home cell profile answers) {interfaceIndex : Nat}
    (announced : (name, interfaceIndex) ∈ presentIn (answers query)) :
    Exists fun node => cell query name = some node := by
  obtain ⟨node, _, found, _⟩ := (directory.present_iff _ _ _).mp announced
  exact ⟨node, found⟩

/-- What is announced about a name is what its stub knows. -/
theorem mem_present_iff (directory : Directory home cell profile answers)
    (found : cell query name = some node) (held : profile node = some known) (interfaceIndex : Nat) :
    (name, interfaceIndex) ∈ presentIn (answers query) <->
      interfaceIndex ∈ known.interfaceIndices := by
  rw [directory.present_iff]
  constructor
  · rintro ⟨other, seen, found', held', member⟩
    cases Option.some.inj (found.symm.trans found')
    cases Option.some.inj (held.symm.trans held')
    exact member
  · exact fun member => ⟨node, known, found, held, member⟩

/-- What is stored under a name is altered: there is a node with a stub, or none, and the
daemon has announced just the interfaces that the stub has then. -/
theorem alter (directory : Directory home cell profile answers) {given : Answers} {held : Option Profile}
    (named : forall known, held = some known -> known.uuid = name ∧ given.domain = known.domain)
    (alone : forall query' name', cell query' name' = some node -> query' = query ∧ name' = name)
    (vacant : forall other, cell query name = some other -> other = node)
    (oneDomain : forall before, answers query = some before -> before.domain = given.domain)
    (others : forall other interfaceIndex, other ≠ name ->
      ((other, interfaceIndex) ∈ given.present <-> (other, interfaceIndex) ∈ presentIn (answers query)))
    (itself : forall interfaceIndex, (name, interfaceIndex) ∈ given.present <->
      Exists fun known => held = some known ∧ interfaceIndex ∈ known.interfaceIndices)
    (profile_eq : forall other, profile' other = if other = node then held else profile other)
    (home_eq : forall other, home' other = if other = node then held.map fun _ => query else home other)
    (cell_eq : forall query' name', cell' query' name' =
      if query' = query ∧ name' = name then held.map fun _ => node else cell query' name')
    (answers_eq : forall query', answers' query' = if query' = query then some given
      else answers query') : Directory home' cell' profile' answers' where
  cell_iff query' name' other := by
    rw [cell_eq, home_eq, profile_eq]
    by_cases same : other = node
    · subst same
      rw [if_pos rfl, if_pos rfl]
      cases held with
      | none =>
          refine iff_of_false (fun found => ?_) fun back => by cases back.1
          split at found
          next => cases found
          next elsewhere => exact elsewhere (alone _ _ found)
      | some known =>
          obtain ⟨rfl, _⟩ := named known rfl
          rw [Option.map_some, Option.map_some, Option.map_some, Option.some.injEq, Option.some.injEq]
          constructor
          · intro found
            split at found
            next here => exact ⟨here.1.symm, here.2.symm⟩
            next elsewhere => exact absurd (alone _ _ found) elsewhere
          · rintro ⟨rfl, rfl⟩
            rw [if_pos ⟨rfl, rfl⟩]
    · rw [if_neg same, if_neg same, ← directory.cell_iff]
      by_cases here : query' = query ∧ name' = name
      · obtain ⟨rfl, rfl⟩ := here
        rw [if_pos ⟨rfl, rfl⟩]
        refine iff_of_false (fun found => ?_) fun found => same (vacant other found)
        obtain ⟨_, _, reached⟩ := Option.map_eq_some_iff.mp found
        exact same reached.symm
      · rw [if_neg here]
  owned other := by
    rw [home_eq, profile_eq]
    split
    · exact (Option.isSome_map).symm
    · exact directory.owned other
  domain_eq other query' seen back stub := by
    rw [home_eq] at back
    rw [profile_eq] at stub
    rw [answers_eq]
    by_cases same : other = node
    · rw [if_pos same] at back stub
      rw [stub] at back
      cases back
      rw [if_pos rfl, Option.map_some, (named seen stub).2]
    · rw [if_neg same] at back stub
      have before := directory.domain_eq other query' seen back stub
      by_cases here : query' = query
      · subst here
        obtain ⟨answered, found, domain⟩ := Option.map_eq_some_iff.mp before
        rw [if_pos rfl, Option.map_some, ← domain, oneDomain answered found]
      · rw [if_neg here]
        exact before
  present_iff query' name' interfaceIndex := by
    rw [answers_eq, cell_eq]
    by_cases here : query' = query ∧ name' = name
    · obtain ⟨rfl, rfl⟩ := here
      rw [if_pos rfl, if_pos ⟨rfl, rfl⟩]
      refine (itself interfaceIndex).trans ⟨?_, ?_⟩
      · rintro ⟨known, rfl, member⟩
        refine ⟨node, known, rfl, ?_, member⟩
        rw [profile_eq, if_pos rfl]
      · rintro ⟨other, seen, found, stub, member⟩
        obtain ⟨known, rfl, rfl⟩ := Option.map_eq_some_iff.mp found
        rw [profile_eq, if_pos rfl] at stub
        cases stub
        exact ⟨_, rfl, member⟩
    · -- No other entry leads to the node, so nothing has changed for this one.
      have kept : (Exists fun other => Exists fun seen : Profile => cell query' name' = some other ∧
          profile' other = some seen ∧ interfaceIndex ∈ seen.interfaceIndices) <->
          (name', interfaceIndex) ∈ presentIn (answers query') := by
        rw [directory.present_iff]
        refine exists_congr fun other => exists_congr fun seen => and_congr_right fun found => ?_
        rw [profile_eq, if_neg]
        rintro rfl
        exact here (alone _ _ found)
      rw [if_neg here, kept]
      by_cases sameQuery : query' = query
      · subst sameQuery
        rw [if_pos rfl]
        exact others name' interfaceIndex (fun sameName => here ⟨rfl, sameName⟩)
      · rw [if_neg sameQuery]

/-- A node is put under a name, or the stub of the node that is there is changed. -/
theorem put (directory : Directory home cell profile answers) {given : Answers}
    (alone : forall query' name', cell query' name' = some node -> query' = query ∧ name' = known.uuid)
    (vacant : forall other, cell query known.uuid = some other -> other = node)
    (oneDomain : forall before, answers query = some before -> before.domain = known.domain)
    (sameDomain : given.domain = known.domain)
    (others : forall name interfaceIndex, name ≠ known.uuid ->
      ((name, interfaceIndex) ∈ given.present <-> (name, interfaceIndex) ∈ presentIn (answers query)))
    (itself : forall interfaceIndex,
      (known.uuid, interfaceIndex) ∈ given.present <-> interfaceIndex ∈ known.interfaceIndices)
    (home_eq : forall other, home' other = if other = node then some query else home other)
    (cell_eq : forall query' name', cell' query' name' =
      if query' = query ∧ name' = known.uuid then some node else cell query' name')
    (profile_eq : forall other, profile' other = if other = node then some known else profile other)
    (answers_eq : forall query', answers' query' = if query' = query then some given
      else answers query') : Directory home' cell' profile' answers' := by
  refine directory.alter ?_ alone vacant ?_ others ?_ profile_eq home_eq cell_eq answers_eq
  · rintro _ ⟨⟩
    exact ⟨rfl, sameDomain⟩
  · exact fun before asked => (oneDomain before asked).trans sameDomain.symm
  · intro interfaceIndex
    simp only [itself, Option.some.injEq, exists_eq_left']

/-- A node is taken out, and none of its interfaces is announced any more. -/
theorem take (directory : Directory home cell profile answers) {given : Answers}
    (found : cell query name = some node)
    (sameDomain : forall before, answers query = some before -> before.domain = given.domain)
    (others : forall other interfaceIndex, other ≠ name ->
      ((other, interfaceIndex) ∈ given.present <-> (other, interfaceIndex) ∈ presentIn (answers query)))
    (silent : forall interfaceIndex, (name, interfaceIndex) ∉ given.present)
    (home_eq : forall other, home' other = if other = node then none else home other)
    (cell_eq : forall query' name', cell' query' name' =
      if query' = query ∧ name' = name then none else cell query' name')
    (profile_eq : forall other, profile' other = if other = node then none else profile other)
    (answers_eq : forall query', answers' query' = if query' = query then some given
      else answers query') : Directory home' cell' profile' answers' := by
  refine directory.alter ?_ ?_ ?_ sameDomain others ?_ profile_eq home_eq cell_eq answers_eq
  · intro known absent
    cases absent
  · exact fun _ _ again => directory.cell_injective again found
  · exact fun _ again => Option.some.inj (again.symm.trans found)
  · intro interfaceIndex
    simp only [silent, reduceCtorEq, false_and, exists_false]

/-- All nodes of a query are taken out, and its answers are forgotten. -/
theorem clear (directory : Directory home cell profile answers)
    (home_eq : forall other, home' other = if home other = some query then none else home other)
    (cell_eq : forall query' name', cell' query' name' =
      if query' = query then none else cell query' name')
    (profile_eq : forall other, profile' other =
      if home other = some query then none else profile other)
    (answers_eq : forall query', answers' query' = if query' = query then none
      else answers query') : Directory home' cell' profile' answers' where
  cell_iff query' name' other := by
    rw [cell_eq, home_eq, profile_eq]
    by_cases mine : home other = some query
    · rw [if_pos mine]
      constructor
      · intro found
        split at found
        next => cases found
        next elsewhere =>
          have back := ((directory.cell_iff _ _ _).mp found).1
          exact absurd (Option.some.inj (back.symm.trans mine)) elsewhere
      · rintro ⟨back, _⟩
        cases back
    · rw [if_neg mine, if_neg mine, ← directory.cell_iff]
      by_cases here : query' = query
      · subst here
        rw [if_pos rfl]
        exact ⟨fun absent => (by cases absent),
          fun found => absurd ((directory.cell_iff _ _ _).mp found).1 mine⟩
      · rw [if_neg here]
  owned other := by
    rw [home_eq, profile_eq]
    by_cases mine : home other = some query
    · rw [if_pos mine, if_pos mine]
      rfl
    · rw [if_neg mine, if_neg mine]
      exact directory.owned other
  domain_eq other query' seen back held := by
    rw [home_eq] at back
    rw [profile_eq] at held
    split at back
    next => cases back
    next other' =>
      rw [if_neg other'] at held
      rw [answers_eq, if_neg]
      · exact directory.domain_eq other query' seen back held
      · rintro rfl
        exact other' back
  present_iff query' name' interfaceIndex := by
    rw [answers_eq, cell_eq]
    by_cases here : query' = query
    · rw [if_pos here, if_pos here]
      constructor
      · intro member
        cases member
      · rintro ⟨_, _, absent, _⟩
        cases absent
    · rw [if_neg here, if_neg here, directory.present_iff]
      refine exists_congr fun other => exists_congr fun seen => and_congr_right fun found => ?_
      rw [profile_eq, if_neg]
      intro mine
      have back := ((directory.cell_iff _ _ _).mp found).1
      exact here (Option.some.inj (back.symm.trans mine))

end Directory

end Discovery
end Umundo
