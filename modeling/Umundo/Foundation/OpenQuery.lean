import Umundo.Foundation.Replica

namespace Umundo
namespace Foundation

/-!
# A query kept open over first-in first-out channels

A host owns a changing set of items.  A client keeps a query open: it sends the
host a filter, and from then on it is told about every matching item that is
there, appears or disappears.  Requests travel one way and notices the other,
both in order, and nothing is sent before the two are connected.  When they are,
the client repeats its request.

`OpenQuery` is what concerns one query, and the functions below are the things
that can happen to it.  `Good` holds in every state: either the host serves the
query, and what the client will have been told once all notices have arrived is
what matches, or the request is the only thing under way.
-/

@[ext] structure OpenQuery (Filter Item : Type) where
  connected : Bool
  /-- the query at the client -/
  asked : Option Filter
  /-- the query at the host -/
  held : Option Filter
  /-- what is on its way to the host: a filter to start with, or the end -/
  requests : List (Option Filter)
  /-- what is on its way to the client -/
  notices : List (Update Item)
  /-- what the client has been told is there -/
  told : Item -> Prop
  /-- the items at the host that match a filter -/
  matching : Filter -> Item -> Prop

namespace OpenQuery

variable {Filter Item : Type}

/-! ## What can happen -/

/-- Requests sent before there is a connection are lost. -/
def request (query : OpenQuery Filter Item) (sent : Option Filter) : List (Option Filter) :=
  if query.connected then query.requests ++ [sent] else query.requests

def start (query : OpenQuery Filter Item) (filter : Filter) : OpenQuery Filter Item :=
  { query with asked := some filter, requests := query.request (some filter) }

def stop (query : OpenQuery Filter Item) : OpenQuery Filter Item :=
  match query.asked with
  | none => query
  | some _ => { query with asked := none, requests := query.request none }

def connect (query : OpenQuery Filter Item) : OpenQuery Filter Item :=
  { query with
    connected := true
    requests := query.requests ++ query.asked.toList.map some }

/-- A notice is sent if the query at the host accepts the item. -/
def notify (query : OpenQuery Filter Item) (accepts : Filter -> Bool) (update : Update Item) :
    List (Update Item) :=
  if query.connected && query.held.any accepts then query.notices ++ [update] else query.notices

def insert (query : OpenQuery Filter Item) (accepts : Filter -> Bool) (item : Item) :
    OpenQuery Filter Item :=
  { query with
    notices := query.notify accepts (.add item)
    matching := fun filter other =>
      (accepts filter = true ∧ item = other) ∨ query.matching filter other }

def remove (query : OpenQuery Filter Item) (accepts : Filter -> Bool) (item : Item) :
    OpenQuery Filter Item :=
  { query with
    notices := query.notify accepts (.remove item)
    matching := fun filter other => item ≠ other ∧ query.matching filter other }

/-- The host takes a request, and sends a notice for each of some items if it is
a filter. -/
def takeRequest (query : OpenQuery Filter Item) (items : Filter -> List Item) :
    OpenQuery Filter Item :=
  match query.requests with
  | [] => query
  | none :: rest => { query with requests := rest, held := none }
  | some filter :: rest =>
      { query with
        requests := rest
        held := some filter
        notices := query.notices ++ (items filter).map .add }

theorem takeRequest_none {query : OpenQuery Filter Item} {rest : List (Option Filter)}
    (requests : query.requests = none :: rest) (items : Filter -> List Item) :
    query.takeRequest items = { query with requests := rest, held := none } := by
  rw [takeRequest, requests]

theorem takeRequest_some {query : OpenQuery Filter Item} {filter : Filter}
    {rest : List (Option Filter)} (requests : query.requests = some filter :: rest)
    (items : Filter -> List Item) :
    query.takeRequest items =
      { query with
        requests := rest
        held := some filter
        notices := query.notices ++ (items filter).map .add } := by
  rw [takeRequest, requests]

/-- The client takes a notice, and ignores it if the query has ended. -/
def takeNotice (query : OpenQuery Filter Item) : OpenQuery Filter Item :=
  match query.notices with
  | [] => query
  | update :: rest =>
      { query with
        notices := rest
        told := if query.asked.isSome then update.apply query.told else query.told }

theorem takeNotice_of_none {query : OpenQuery Filter Item} {update : Update Item}
    {rest : List (Update Item)} (notices : query.notices = update :: rest)
    (unasked : query.asked = none) : query.takeNotice = { query with notices := rest } := by
  rw [takeNotice, notices]
  exact OpenQuery.ext rfl rfl rfl rfl rfl (if_neg (by rw [unasked]; exact Bool.false_ne_true)) rfl

theorem takeNotice_of_some {query : OpenQuery Filter Item} {update : Update Item}
    {rest : List (Update Item)} {filter : Filter} (notices : query.notices = update :: rest)
    (asked : query.asked = some filter) :
    query.takeNotice = { query with notices := rest, told := update.apply query.told } := by
  rw [takeNotice, notices]
  exact OpenQuery.ext rfl rfl rfl rfl rfl (if_pos (by rw [asked]; rfl)) rfl

/-! ## What holds in every state -/

/-- Nothing has happened at the host and nothing is under way. -/
structure Silent (query : OpenQuery Filter Item) : Prop where
  held : query.held = none
  requests : query.requests = []
  notices : query.notices = []
  told : forall item, ¬ query.told item

structure Served (query : OpenQuery Filter Item) (filter : Filter) : Prop where
  held : query.held = some filter
  requests : query.requests = []
  replayed : forall item, replay query.told query.notices item <-> query.matching filter item

structure Pending (query : OpenQuery Filter Item) (filter : Filter) : Prop where
  held : query.held = none
  requests : query.requests = [some filter]
  notices : query.notices = []
  told : forall item, ¬ query.told item

structure Good (query : OpenQuery Filter Item) : Prop where
  closed : query.connected = false -> query.Silent
  settled : query.connected = true -> forall filter, query.asked = some filter ->
    query.Served filter ∨ query.Pending filter

/-! ## Every event keeps it so -/

section

variable {query : OpenQuery Filter Item}

theorem request_of_closed (closed : query.connected = false) (sent : Option Filter) :
    query.request sent = query.requests :=
  if_neg (by rw [closed]; exact Bool.false_ne_true)

/-- Nothing is sent about items while the host does not hold the query. -/
theorem notify_of_none (unheld : query.held = none) (accepts : Filter -> Bool) (update : Update Item) :
    query.notify accepts update = query.notices := by
  rw [notify, unheld, Option.any_none, Bool.and_false, if_neg Bool.false_ne_true]

theorem notify_of_some {filter : Filter} (connected : query.connected = true)
    (held : query.held = some filter) (accepts : Filter -> Bool) (update : Update Item) :
    query.notify accepts update =
      if accepts filter then query.notices ++ [update] else query.notices := by
  rw [notify, connected, held, Option.any_some, Bool.true_and]

theorem Silent.insert (silent : query.Silent) (accepts : Filter -> Bool) (item : Item) :
    (query.insert accepts item).Silent :=
  ⟨silent.held, silent.requests, (notify_of_none silent.held _ _).trans silent.notices, silent.told⟩

theorem Silent.remove (silent : query.Silent) (accepts : Filter -> Bool) (item : Item) :
    (query.remove accepts item).Silent :=
  ⟨silent.held, silent.requests, (notify_of_none silent.held _ _).trans silent.notices, silent.told⟩

theorem Silent.connect (silent : query.Silent) (unasked : query.asked = none) :
    query.connect.Silent := by
  refine ⟨silent.held, ?_, silent.notices, silent.told⟩
  rw [OpenQuery.connect, unasked, silent.requests]
  rfl

/-- With nothing under way there is nothing to take. -/
theorem Silent.takeRequest (silent : query.Silent) (items : Filter -> List Item) :
    query.takeRequest items = query := by
  rw [OpenQuery.takeRequest, silent.requests]

theorem Silent.takeNotice (silent : query.Silent) : query.takeNotice = query := by
  rw [OpenQuery.takeNotice, silent.notices]

theorem stop_of_none (unasked : query.asked = none) : query.stop = query := by
  rw [stop, unasked]

/-- A request that was sent while nothing was under way is the only thing under way. -/
theorem Silent.pending (silent : query.Silent) {filter : Filter} {next : OpenQuery Filter Item}
    (held : next.held = query.held) (notices : next.notices = query.notices)
    (told : next.told = query.told) (requests : next.requests = query.requests ++ [some filter]) :
    next.Pending filter := by
  refine ⟨held.trans silent.held, ?_, notices.trans silent.notices, ?_⟩
  · rw [requests, silent.requests, List.nil_append]
  · rw [told]
    exact silent.told

theorem Silent.start (silent : query.Silent) (filter : Filter) : (query.start filter).Good := by
  constructor
  · intro (closed : query.connected = false)
    exact ⟨silent.held, (request_of_closed closed _).trans silent.requests, silent.notices, silent.told⟩
  · rintro connected _ ⟨⟩
    exact .inr (silent.pending rfl rfl rfl (if_pos connected))

theorem Good.stop (good : query.Good) : query.stop.Good := by
  rw [OpenQuery.stop]
  cases asked : query.asked with
  | none => exact good
  | some filter =>
      constructor
      · intro (closed : query.connected = false)
        have silent := good.closed closed
        exact ⟨silent.held, (request_of_closed closed _).trans silent.requests, silent.notices,
          silent.told⟩
      · rintro _ _ ⟨⟩

theorem Good.connect (good : query.Good) (closed : query.connected = false) : query.connect.Good := by
  constructor
  · intro still
    cases still
  · intro _ filter asked
    have requests : query.connect.requests = query.requests ++ [some filter] := by
      rw [OpenQuery.connect, show query.asked = some filter from asked]
      rfl
    exact .inr ((good.closed closed).pending rfl rfl rfl requests)

theorem Good.insert (good : query.Good) (accepts : Filter -> Bool) (item : Item) :
    (query.insert accepts item).Good := by
  refine ⟨fun closed => (good.closed closed).insert accepts item, ?_⟩
  intro (connected : query.connected = true) filter asked
  rcases good.settled connected filter asked with served | pending
  · refine .inl ⟨served.held, served.requests, ?_⟩
    intro other
    change replay query.told (query.notify accepts (.add item)) other <->
      (accepts filter = true ∧ item = other) ∨ query.matching filter other
    rw [notify_of_some connected served.held]
    split
    next accepted =>
      rw [replay_append, ← served.replayed other]
      simp only [accepted, true_and]
      exact Iff.rfl
    next rejected =>
      rw [served.replayed other]
      simp [rejected]
  · exact .inr ⟨pending.held, pending.requests,
      (notify_of_none pending.held _ _).trans pending.notices, pending.told⟩

theorem Good.remove (good : query.Good) {accepts : Filter -> Bool} {item : Item}
    (exact_accepts : forall filter, accepts filter = true <-> query.matching filter item) :
    (query.remove accepts item).Good := by
  refine ⟨fun closed => (good.closed closed).remove accepts item, ?_⟩
  intro (connected : query.connected = true) filter asked
  rcases good.settled connected filter asked with served | pending
  · refine .inl ⟨served.held, served.requests, ?_⟩
    intro other
    change replay query.told (query.notify accepts (.remove item)) other <->
      item ≠ other ∧ query.matching filter other
    rw [notify_of_some connected served.held]
    split
    next =>
      rw [replay_append, ← served.replayed other]
      exact Iff.rfl
    next rejected =>
      rw [served.replayed other]
      refine ⟨fun matched => ⟨?_, matched⟩, And.right⟩
      rintro rfl
      exact rejected ((exact_accepts filter).mpr matched)
  · exact .inr ⟨pending.held, pending.requests,
      (notify_of_none pending.held _ _).trans pending.notices, pending.told⟩

theorem Good.takeRequest (good : query.Good) {items : Filter -> List Item}
    (listed : forall filter item, item ∈ items filter <-> query.matching filter item) :
    (query.takeRequest items).Good := by
  rw [OpenQuery.takeRequest]
  split
  next => exact good
  next rest requests =>
    constructor
    · intro closed
      cases requests.symm.trans (good.closed closed).requests
    · intro connected filter asked
      rcases good.settled connected filter asked with served | pending
      · cases requests.symm.trans served.requests
      · cases requests.symm.trans pending.requests
  next sent rest requests =>
    constructor
    · intro closed
      cases requests.symm.trans (good.closed closed).requests
    · intro connected filter asked
      rcases good.settled connected filter asked with served | pending
      · cases requests.symm.trans served.requests
      · have only := requests.symm.trans pending.requests
        rw [List.cons.injEq, Option.some.injEq] at only
        refine .inl ⟨congrArg some only.1, only.2, ?_⟩
        intro item
        change replay query.told (query.notices ++ (items sent).map .add) item <-> _
        rw [pending.notices, List.nil_append, replay_of_remove_not_mem _ _ (by simp)]
        simp [listed, pending.told, only.1]

theorem Good.takeNotice (good : query.Good) : query.takeNotice.Good := by
  rw [OpenQuery.takeNotice]
  split
  next => exact good
  next update rest notices =>
    constructor
    · intro closed
      cases notices.symm.trans (good.closed closed).notices
    · intro connected filter (asked : query.asked = some filter)
      rcases good.settled connected filter asked with served | pending
      · refine .inl ⟨served.held, served.requests, ?_⟩
        intro item
        have replayed := served.replayed item
        rw [notices, replay_cons] at replayed
        simp only [asked, Option.isSome_some, if_true]
        exact replayed
      · cases notices.symm.trans pending.notices

end

/-- What is known about a query that is served and nothing is under way. -/
theorem Good.converged {query : OpenQuery Filter Item} (good : query.Good)
    (connected : query.connected = true) (requests : query.requests = [])
    (notices : query.notices = []) {filter : Filter} (asked : query.asked = some filter)
    (item : Item) : query.told item <-> query.matching filter item := by
  rcases good.settled connected filter asked with served | pending
  · have replayed := served.replayed item
    rw [notices] at replayed
    exact replayed
  · have sent := pending.requests
    rw [requests] at sent
    cases sent

end OpenQuery

end Foundation
end Umundo
