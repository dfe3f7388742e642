import Umundo.Rpc.ServiceManager

namespace Umundo
namespace Rpc

open Foundation Std Connection

/-!
# Which object a listener is told about

A manager makes one description object for a channel and hands it to the
listeners of all queries that the service on the channel matches.  It forgets the
object as soon as the first of these queries is told that the service is gone.
Whoever is told later is told about another object.

The calls of the listeners are recorded in an `Audience`.  Whether a listener
can be misled is decided by the notices alone: a `Standing` says what has become
of a channel since the listener was last told that it has appeared.
-/

/-! ## The calls -/

/-- What the listeners have been told. -/
structure Audience where
  /-- the object last passed to `added` of a listener for a channel -/
  last : Nat -> CString -> Option Nat
  /-- `added` was called for the channel, and not `removed` after it -/
  present : Nat -> CString -> Bool
  /-- the objects in the set that a listener keeps -/
  instances : Nat -> Nat -> Bool
  /-- every `removed` so far has named the object of the last `added` -/
  named : Bool

namespace Audience

def init : Audience := ⟨fun _ _ => none, fun _ _ => false, fun _ _ => false, true⟩

/-- Record a call. -/
def note (audience : Audience) : ManagerEffect -> Audience
  | .send _ => audience
  | .added _ listener description =>
      { last := fun other channel =>
          if other = listener ∧ channel = description.desc.channelName then some description.object
          else audience.last other channel
        present := fun other channel =>
          if other = listener ∧ channel = description.desc.channelName then true
          else audience.present other channel
        instances := fun other object =>
          if other = listener ∧ object = description.object then true
          else audience.instances other object
        named := audience.named }
  | .removed _ listener description =>
      { last := audience.last
        present := fun other channel =>
          if other = listener ∧ channel = description.desc.channelName then false
          else audience.present other channel
        instances := fun other object =>
          if other = listener ∧ object = description.object then false
          else audience.instances other object
        named := audience.named &&
          decide (audience.last listener description.desc.channelName = some description.object) }

/-- Removals name what was added, and the sets that listeners keep are the
descriptions still present. -/
def Faithful (audience : Audience) : Prop :=
  audience.named = true ∧
    forall listener object, audience.instances listener object = true <->
      Exists fun channel : CString => audience.present listener channel = true ∧
        audience.last listener channel = some object

section

variable {audience : Audience} {filterId : CString} {listener : Nat}
  {description : RemoteDescription}

/-- After `added` a set is right unless another object stays behind in it. -/
theorem faithful_added_iff (faithful : audience.Faithful)
    (distinct : forall channel other object, audience.last listener channel = some object ->
      audience.last listener other = some object -> channel = other)
    (recorded : audience.present listener description.desc.channelName = true ->
      (audience.last listener description.desc.channelName).isSome = true) :
    (audience.note (.added filterId listener description)).Faithful <->
      (audience.present listener description.desc.channelName = true ->
        audience.last listener description.desc.channelName = some description.object) := by
  constructor
  · intro after present
    obtain ⟨object, last⟩ := Option.isSome_iff_exists.mp (recorded present)
    by_cases same : object = description.object
    · rw [last, same]
    · have kept := (faithful.2 listener object).mpr ⟨_, present, last⟩
      obtain ⟨channel, _, named⟩ := (after.2 listener object).mp (by simp [note, same, kept])
      by_cases here : channel = description.desc.channelName
      · simp [note, here, Ne.symm same] at named
      · simp only [note, here, and_false, if_false] at named
        exact absurd (distinct channel _ object named last) here
  · intro kept
    refine ⟨faithful.1, ?_⟩
    intro other object
    have before := faithful.2 other object
    by_cases mine : other = listener
    · subst mine
      by_cases same : object = description.object
      · refine ⟨fun _ => ⟨description.desc.channelName, ?_, ?_⟩, fun _ => ?_⟩ <;> simp [note, same]
      · simp only [note, same, and_false, if_false, true_and, before]
        grind
    · simp [note, mine, before]

/-- After `removed` everything is right exactly if the object added last was named. -/
theorem faithful_removed_iff (faithful : audience.Faithful)
    (distinct : forall channel other object, audience.last listener channel = some object ->
      audience.last listener other = some object -> channel = other) :
    (audience.note (.removed filterId listener description)).Faithful <->
      audience.last listener description.desc.channelName = some description.object := by
  constructor
  · intro after
    have named := after.1
    simp only [note, Bool.and_eq_true, decide_eq_true_eq] at named
    exact named.2
  · intro last
    refine ⟨by simp [note, faithful.1, last], ?_⟩
    intro other object
    have before := faithful.2 other object
    by_cases mine : other = listener
    · subst mine
      have unique := fun channel found => distinct channel description.desc.channelName object found
      simp only [note, true_and, Bool.if_false_left, Bool.and_eq_true, Bool.not_eq_true', before]
      grind
    · simp [note, mine, before]

end

end Audience

/-! ## The notices -/

/-- A notice of another manager, before its type is set. -/
structure Notice where
  found : Bool
  message : Message

namespace Notice

/-- The message that arrives. -/
def arrived (notice : Notice) : Message :=
  notice.message.setMeta typeKey (if notice.found then serviceDiscFound else serviceDiscRemoved)

def filterId (notice : Notice) : CString := notice.arrived.metaMap.getD filterIdKey .empty

def channel (notice : Notice) : CString := notice.arrived.metaMap.getD descChannelKey .empty

end Notice

/-- What has become of a channel since a listener was told that it appeared. -/
inductive Standing where
  /-- the listener was never told, or it was told that the channel is gone -/
  | absent
  /-- nobody was told that the channel is gone -/
  | current
  /-- another listener was told that the channel is gone -/
  | disturbed
deriving DecidableEq

namespace Standing

/-- A notice for a query of the listener. -/
def note (standing : Nat -> CString -> Standing) (listener : Nat) (notice : Notice) :
    Nat -> CString -> Standing :=
  fun other channel =>
    if channel = notice.channel then
      if other = listener then (if notice.found then .current else .absent)
      else if notice.found = false ∧ standing other channel = .current then .disturbed
      else standing other channel
    else standing other channel

theorem note_self (standing : Nat -> CString -> Standing) (listener : Nat) (notice : Notice) :
    note standing listener notice listener notice.channel =
      if notice.found then .current else .absent := by
  rw [note, if_pos rfl, if_pos rfl]

theorem note_of_ne (standing : Nat -> CString -> Standing) {listener other : Nat} (notice : Notice)
    (different : other ≠ listener) :
    note standing listener notice other notice.channel =
      if notice.found = false ∧ standing other notice.channel = .current then .disturbed
      else standing other notice.channel := by
  rw [note, if_pos rfl, if_neg different]

theorem note_other (standing : Nat -> CString -> Standing) (listener other : Nat) (notice : Notice)
    {channel : CString} (elsewhere : channel ≠ notice.channel) :
    note standing listener notice other channel = standing other channel :=
  if_neg elsewhere

end Standing

/-- A manager with the history of its listeners. -/
structure WatchedManager where
  manager : ServiceManager
  audience : Audience
  standing : Nat -> CString -> Standing

namespace WatchedManager

/-- Some queries have been started and nothing has arrived yet. -/
def start (queries : Table CString (ServiceFilter × Nat)) : WatchedManager :=
  ⟨{ ServiceManager.init with localQueries := queries }, .init, fun _ _ => .absent⟩

/-- The listener of the query that a notice is for. -/
def listener (watched : WatchedManager) (notice : Notice) : Option Nat :=
  watched.manager.localQueries[notice.filterId]?.map Prod.snd

def step (holds : Rule -> CString -> Bool) (watched : WatchedManager) (notice : Notice) :
    WatchedManager × List ManagerEffect :=
  let received := watched.manager.receive holds notice.arrived
  ({ manager := received.1
     audience := received.2.foldl Audience.note watched.audience
     standing := match watched.listener notice with
       | none => watched.standing
       | some listener => Standing.note watched.standing listener notice }, received.2)

/-- No listener is told about a channel that was taken from it by another one,
and none is told that a channel is gone that it was not told about before. -/
def Undisturbed (watched : WatchedManager) (notice : Notice) : Prop :=
  forall listener, watched.listener notice = some listener ->
    if notice.found then watched.standing listener notice.channel ≠ .disturbed
    else watched.standing listener notice.channel = .current

/-! ## One notice -/

/-- What a listener is told when a notice for one of its queries arrives. -/
structure Tells (watched next : WatchedManager) (notice : Notice) (listener : Nat)
    (description : RemoteDescription) : Prop where
  remote : next.manager.remoteSvcDesc =
    if notice.found then watched.manager.remoteSvcDesc.insert notice.channel description
    else watched.manager.remoteSvcDesc.erase notice.channel
  audience : next.audience = watched.audience.note
    (if notice.found then .added notice.filterId listener description
      else .removed notice.filterId listener description)
  standing : next.standing = Standing.note watched.standing listener notice
  channelName : description.desc.channelName = notice.channel
  origin : watched.manager.remoteSvcDesc[notice.channel]? = some description ∧
      next.manager.objects = watched.manager.objects ∨
    watched.manager.remoteSvcDesc[notice.channel]? = none ∧
      description.object = watched.manager.objects ∧
      next.manager.objects = watched.manager.objects + 1

variable {watched : WatchedManager} {notice : Notice}

/-- A notice that happens to be a reply is recorded as one. -/
def replied (watched : WatchedManager) (notice : Notice) : ServiceManager :=
  { watched.manager with calls := watched.manager.calls.receive notice.arrived notice.arrived }

private theorem receive_arrived (holds : Rule -> CString -> Bool) :
    watched.manager.receive holds notice.arrived =
      (watched.replied notice).takeNotice notice.found notice.arrived :=
  ServiceManager.receive_notice ExtTreeMap.getElem?_insert_self

/-- A notice for a query that is not there is ignored. -/
theorem step_of_unasked (holds : Rule -> CString -> Bool) (unasked : watched.listener notice = none) :
    (step holds watched notice).1 = { watched with manager := watched.replied notice } := by
  have absent : (watched.replied notice).localQueries[notice.filterId]? = none :=
    Option.map_eq_none_iff.mp unasked
  simp only [step, unasked, receive_arrived, ServiceManager.takeNotice_of_none absent, List.foldl_nil]

theorem tells_of_step (holds : Rule -> CString -> Bool) {listener : Nat} (asked : watched.listener notice = some listener)
    (filed : forall (channel : CString) (description : RemoteDescription),
      watched.manager.remoteSvcDesc[channel]? = some description ->
        description.desc.channelName = channel) :
    Exists fun description => Tells watched (step holds watched notice).1 notice listener description := by
  obtain ⟨query, held, rfl⟩ := Option.map_eq_some_iff.mp asked
  have present : (watched.replied notice).localQueries[notice.filterId]? = some query := held
  simp only [step, asked, receive_arrived, ServiceManager.takeNotice_of_some present]
  refine ⟨_, rfl, rfl, rfl, ?_, ?_⟩
  · rcases (watched.replied notice).describe_cases notice.channel with ⟨known, _⟩ | ⟨_, new, _⟩
    · exact filed notice.channel _ known
    · have made := congrArg (fun description => description.desc.channelName) new
      exact made.trans (ServiceDescription.channelName_ofMessage notice.arrived)
  · rcases (watched.replied notice).describe_cases notice.channel with known | ⟨unknown, new, next⟩
    · exact .inl known
    · exact .inr ⟨unknown, congrArg RemoteDescription.object new, next⟩

/-! ## The objects of a manager -/

/-- How one channel looks to one listener: the object that the manager holds for
the channel, the one last added, and what has become of it. -/
structure Tracked (held last : Option Nat) (present : Bool) (standing : Standing) : Prop where
  current : standing = .current <-> held.isSome = true ∧ held = last
  present : present = true <-> standing ≠ .absent
  recorded : standing ≠ .absent -> last.isSome = true

namespace Tracked

variable {held last : Option Nat} {present : Bool} {standing : Standing}

theorem added (object : Nat) : Tracked (some object) (some object) true .current := by
  constructor <;> simp

theorem removed (last : Option Nat) : Tracked none last false .absent := by
  constructor <;> simp

/-- The object is added for another listener; if it is new, nobody has seen it. -/
theorem added_other (tracked : Tracked held last present standing) {object : Nat}
    (origin : held = some object ∨ held = none ∧ last ≠ some object) :
    Tracked (some object) last present standing := by
  refine ⟨?_, tracked.present, tracked.recorded⟩
  rw [tracked.current]
  rcases origin with rfl | ⟨rfl, fresh⟩
  · exact Iff.rfl
  · simp [Ne.symm fresh]

/-- The object is removed for another listener. -/
theorem removed_other (tracked : Tracked held last present standing) :
    Tracked none last present (if standing = .current then .disturbed else standing) := by
  obtain ⟨_, present, recorded⟩ := tracked
  cases standing with
  | absent => exact ⟨by simp, present, recorded⟩
  | current => exact ⟨by simp, by simpa using present, by simpa using recorded⟩
  | disturbed => exact ⟨by simp, present, recorded⟩

end Tracked

/-- How the history of the listeners is tied to the manager.  Every object has
been made for one channel, its owner. -/
structure Sound (watched : WatchedManager) (owner : Nat -> CString) : Prop where
  filed : forall (channel : CString) (description : RemoteDescription),
    watched.manager.remoteSvcDesc[channel]? = some description ->
      description.desc.channelName = channel
  stored : forall (channel : CString) (description : RemoteDescription),
    watched.manager.remoteSvcDesc[channel]? = some description ->
      description.object < watched.manager.objects ∧ owner description.object = channel
  told : forall listener channel object, watched.audience.last listener channel = some object ->
    object < watched.manager.objects ∧ owner object = channel
  tracked : forall (listener : Nat) (channel : CString),
    Tracked (watched.manager.remoteSvcDesc[channel]?.map RemoteDescription.object)
      (watched.audience.last listener channel) (watched.audience.present listener channel)
      (watched.standing listener channel)

theorem sound_start (queries : Table CString (ServiceFilter × Nat)) :
    (start queries).Sound fun _ => .empty where
  filed _ _ held := by cases held
  stored _ _ held := by cases held
  told _ _ _ held := by cases held
  tracked _ _ := .removed none

/-- The described object belongs to the channel of the notice. -/
def claim (owner : Nat -> CString) (notice : Notice) (description : RemoteDescription) :
    Nat -> CString :=
  fun object => if object = description.object then notice.channel else owner object

section

variable {owner : Nat -> CString} {next : WatchedManager} {listener : Nat}
  {description : RemoteDescription}

namespace Tells

/-- Objects that were there keep their owner. -/
theorem claim_of_lt (tells : Tells watched next notice listener description)
    (sound : watched.Sound owner) {object : Nat} (old : object < watched.manager.objects) :
    object < next.manager.objects ∧ claim owner notice description object = owner object := by
  rcases tells.origin with ⟨held, same⟩ | ⟨_, fresh, grown⟩
  · refine ⟨by omega, ?_⟩
    rw [claim]
    split
    next equal => rw [equal, (sound.stored _ _ held).2]
    next => rfl
  · exact ⟨by omega, if_neg (by omega)⟩

theorem claim_self (tells : Tells watched next notice listener description)
    (sound : watched.Sound owner) : description.object < next.manager.objects := by
  rcases tells.origin with ⟨held, same⟩ | ⟨_, fresh, grown⟩
  · have := (sound.stored _ _ held).1
    omega
  · omega

/-- The described object is the one that the manager holds, or nobody has seen it. -/
theorem seen (tells : Tells watched next notice listener description) (sound : watched.Sound owner)
    (other : Nat) :
    let held := watched.manager.remoteSvcDesc[notice.channel]?.map RemoteDescription.object
    held = some description.object ∨
      held = none ∧ watched.audience.last other notice.channel ≠ some description.object := by
  rcases tells.origin with ⟨held, _⟩ | ⟨absent, fresh, _⟩
  · exact .inl (by rw [held, Option.map_some])
  · refine .inr ⟨by rw [absent, Option.map_none], ?_⟩
    intro last
    have := (sound.told _ _ _ last).1
    omega

theorem sound_found (tells : Tells watched next notice listener description)
    (sound : watched.Sound owner) (found : notice.found = true) :
    next.Sound (claim owner notice description) := by
  have remote := tells.remote
  have audience := tells.audience
  rw [if_pos found] at remote audience
  simp only [Audience.note, tells.channelName] at audience
  refine ⟨?_, ?_, ?_, ?_⟩
  · intro channel other held
    rw [remote, Table.getElem?_insert_eq] at held
    split at held
    next same =>
      cases held
      rw [tells.channelName, same]
    next => exact sound.filed channel other held
  · intro channel other held
    rw [remote, Table.getElem?_insert_eq] at held
    split at held
    next same =>
      cases held
      exact ⟨tells.claim_self sound, (if_pos rfl).trans same.symm⟩
    next =>
      obtain ⟨old, own⟩ := sound.stored channel other held
      exact (tells.claim_of_lt sound old).imp_right (·.trans own)
  · intro other channel object last
    rw [audience] at last
    dsimp only at last
    split at last
    next same =>
      cases last
      exact ⟨tells.claim_self sound, (if_pos rfl).trans same.2.symm⟩
    next =>
      obtain ⟨old, own⟩ := sound.told other channel object last
      exact (tells.claim_of_lt sound old).imp_right (·.trans own)
  · intro other channel
    have before := sound.tracked other channel
    rw [tells.standing, remote, audience]
    by_cases same : channel = notice.channel
    · subst same
      by_cases mine : other = listener
      · subst mine
        simpa [Standing.note_self, found] using Tracked.added description.object
      · simpa [Standing.note_of_ne _ _ mine, mine, found] using before.added_other (tells.seen sound other)
    · simpa [Standing.note_other _ _ _ _ same, Table.getElem?_insert_eq, same] using before

theorem sound_removed (tells : Tells watched next notice listener description)
    (sound : watched.Sound owner) (removed : notice.found = false) :
    next.Sound (claim owner notice description) := by
  have remote := tells.remote
  have audience := tells.audience
  rw [removed, if_neg Bool.false_ne_true] at remote audience
  simp only [Audience.note, tells.channelName] at audience
  have held_before : forall (channel : CString) (other : RemoteDescription),
      next.manager.remoteSvcDesc[channel]? = some other ->
        watched.manager.remoteSvcDesc[channel]? = some other := by
    intro channel other held
    rw [remote, Table.getElem?_erase_eq] at held
    split at held
    next => cases held
    next => exact held
  refine ⟨?_, ?_, ?_, ?_⟩
  · intro channel other held
    exact sound.filed channel other (held_before channel other held)
  · intro channel other held
    obtain ⟨old, own⟩ := sound.stored channel other (held_before channel other held)
    exact (tells.claim_of_lt sound old).imp_right (·.trans own)
  · intro other channel object last
    rw [audience] at last
    obtain ⟨old, own⟩ := sound.told other channel object last
    exact (tells.claim_of_lt sound old).imp_right (·.trans own)
  · intro other channel
    have before := sound.tracked other channel
    rw [tells.standing, remote, audience]
    by_cases same : channel = notice.channel
    · subst same
      by_cases mine : other = listener
      · subst mine
        simpa [Standing.note_self, removed] using Tracked.removed _
      · simpa [Standing.note_of_ne _ _ mine, mine, removed] using before.removed_other
    · simpa [Standing.note_other _ _ _ _ same, Table.getElem?_erase_eq, same] using before

theorem current_iff (tells : Tells watched next notice listener description)
    (sound : watched.Sound owner) :
    watched.standing listener notice.channel = .current <->
      watched.audience.last listener notice.channel = some description.object := by
  rw [(sound.tracked listener notice.channel).current]
  rcases tells.seen sound listener with held | ⟨absent, unseen⟩
  · rw [held]
    simp [eq_comm]
  · rw [absent]
    simp [unseen]

/-- The listener is not misled exactly if the notice is in order. -/
theorem faithful_iff (tells : Tells watched next notice listener description)
    (sound : watched.Sound owner) (faithful : watched.audience.Faithful) :
    next.audience.Faithful <->
      if notice.found then watched.standing listener notice.channel ≠ .disturbed
      else watched.standing listener notice.channel = .current := by
  have distinct : forall channel other object,
      watched.audience.last listener channel = some object ->
        watched.audience.last listener other = some object -> channel = other :=
    fun _ _ _ first second => (sound.told _ _ _ first).2.symm.trans (sound.told _ _ _ second).2
  have tracked := sound.tracked listener notice.channel
  rw [tells.audience]
  cases notice.found with
  | true =>
      rw [if_pos rfl, if_pos rfl, Audience.faithful_added_iff faithful distinct, tells.channelName,
        tracked.present, ← tells.current_iff sound]
      · cases watched.standing listener notice.channel <;> simp
      · rw [tells.channelName, tracked.present]
        exact tracked.recorded
  | false =>
      rw [if_neg Bool.false_ne_true, if_neg Bool.false_ne_true,
        Audience.faithful_removed_iff faithful distinct, tells.channelName, tells.current_iff sound]

end Tells

end

/-! ## Whole runs -/

theorem sound_step (holds : Rule -> CString -> Bool) (sound : Exists watched.Sound) :
    Exists (step holds watched notice).1.Sound := by
  obtain ⟨owner, sound⟩ := sound
  cases asked : watched.listener notice with
  | none =>
      rw [step_of_unasked holds asked]
      exact ⟨owner, sound.filed, sound.stored, sound.told, sound.tracked⟩
  | some listener =>
      obtain ⟨description, tells⟩ := tells_of_step holds asked sound.filed
      refine ⟨claim owner notice description, ?_⟩
      cases found : notice.found with
      | true => exact tells.sound_found sound found
      | false => exact tells.sound_removed sound found

theorem faithful_step_iff (holds : Rule -> CString -> Bool) (sound : Exists watched.Sound)
    (faithful : watched.audience.Faithful) :
    (step holds watched notice).1.audience.Faithful <-> watched.Undisturbed notice := by
  obtain ⟨owner, sound⟩ := sound
  cases asked : watched.listener notice with
  | none =>
      rw [step_of_unasked holds asked]
      refine ⟨fun _ listener told => ?_, fun _ => faithful⟩
      rw [asked] at told
      cases told
  | some listener =>
      obtain ⟨description, tells⟩ := tells_of_step holds asked sound.filed
      rw [tells.faithful_iff sound faithful, Undisturbed, asked]
      simp

/-- In a run over any notices, every `removed` names the object that was last added
and the listeners keep the descriptions still present, exactly if all notices are
in order. -/
theorem always_faithful_iff (holds : Rule -> CString -> Bool)
    (queries : Table CString (ServiceFilter × Nat)) (notices : List Notice) :
    Always (step holds) (fun watched => watched.audience.Faithful) (start queries) notices <->
      Admits (step holds) Undisturbed (start queries) notices := by
  apply always_iff_admits (fun watched => Exists watched.Sound) _ Undisturbed
    (fun _ _ sound _ => sound_step holds sound)
    (fun _ _ sound _ faithful => faithful_step_iff holds sound faithful)
    ⟨_, sound_start queries⟩ _ (admits_true (step holds) (start queries) notices)
  refine ⟨rfl, ?_⟩
  intro listener object
  simp [start, Audience.init]

/-! Two queries match the same service, and it goes away. -/

def sharedQueries : Table CString (ServiceFilter × Nat) :=
  ((∅ : Table CString _).insert (.ofBytes [97]) (.new (.ofBytes [97]) (.ofBytes [115]), 1)).insert
    (.ofBytes [98]) (.new (.ofBytes [98]) (.ofBytes [115]), 2)

def sharedNotice (found : Bool) (filterId : CString) : Notice :=
  ⟨found, (Message.empty.setMeta filterIdKey filterId).setMeta descChannelKey (.ofBytes [99])⟩

/-- Whether an object is added or removed, the listener, and the object. -/
def calledWith : ManagerEffect -> Option (Bool × Nat × Nat)
  | .send _ => none
  | .added _ listener description => some (true, listener, description.object)
  | .removed _ listener description => some (false, listener, description.object)

/-- The second listener is told that another object was removed than was added,
and keeps the one that was added. -/
theorem removed_names_another :
    let notices := [sharedNotice true (.ofBytes [97]), sharedNotice true (.ofBytes [98]),
      sharedNotice false (.ofBytes [97]), sharedNotice false (.ofBytes [98])]
    let result := run (step fun _ _ => true) (start sharedQueries) notices
    result.2.filterMap calledWith = [(true, 1, 0), (true, 2, 0), (false, 1, 0), (false, 2, 1)] ∧
      result.1.audience.named = false ∧ result.1.audience.instances 2 0 = true ∧
      result.1.audience.present 2 (.ofBytes [99]) = false := by
  decide +kernel

end WatchedManager

end Rpc
end Umundo
