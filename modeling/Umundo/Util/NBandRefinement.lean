import Umundo.Util.NBandInsertion

namespace Umundo
namespace Util

open Foundation Std

/-!
# The linked cache is its model

Every call finds the links that it follows, and its result is that of the model.  Nothing
is asked of the order in which bands and items are inserted, or of the number of pointers
and where they have been moved.
-/

namespace Represents

variable {cache : NBandCache} {model : BandModel}

/-- A call through a pointer. -/
theorem through (represents : Represents cache model) {handle : Nat}
    {program : Option (NBandCache × Option Nat)} {result : BandModel × Option Nat}
    (called : handle ∈ model.pointers ->
      Ensures program fun next => Represents next.1 result.1 ∧ next.2 = result.2) :
    Ensures (NBandCache.react.through cache handle program) fun next =>
      Represents next.1 (BandModel.step.through model handle result).1 ∧
        next.2 = (BandModel.step.through model handle result).2 := by
  rw [NBandCache.react.through, BandModel.step.through]
  by_cases known : handle ∈ model.pointers
  · rw [if_pos known, if_pos ((represents.mem_pointers handle).mpr known)]
    refine (called known).map fun next same => ⟨same.1, ?_⟩
    rw [same.2]
  · rw [if_neg known, if_neg fun held => known ((represents.mem_pointers handle).mp held)]
    exact .done ⟨represents, rfl⟩

/-- Every call is answered as in the model. -/
theorem react (represents : Represents cache model) {event : CacheEvent} (fresh : cache.Fresh event) :
    Ensures (cache.react event) fun next =>
      Represents next.1 (model.step event).1 ∧ next.2 = (model.step event).2 := by
  cases event with
  | insert item name band newProxies =>
      obtain ⟨fresh_item, fresh_first, fresh_second, different⟩ := fresh
      refine (represents.insert fresh_item different fun direction => ?_).map fun next after => ⟨after, rfl⟩
      cases direction with
      | back => exact fresh_first
      | ahead => exact fresh_second
  | getPointer handle =>
      refine (represents.getPointer handle).map fun next after => ⟨after.1, ?_⟩
      rw [after.2]
      rfl
  | getPointerAt handle band =>
      refine (represents.getPointerAt handle band).map fun next after => ⟨after.1, ?_⟩
      rw [after.2]
      rfl
  | left handle moveBand => exact represents.through fun known => represents.move known .back moveBand
  | right handle moveBand => exact represents.through fun known => represents.move known .ahead moveBand
  | up handle => exact represents.through fun known => represents.cross known .back
  | down handle => exact represents.through fun known => represents.cross known .ahead
  | getElementId handle =>
      unfold NBandCache.react BandModel.step
      dsimp only
      by_cases known : handle ∈ model.pointers
      · rw [if_pos ((represents.mem_pointers handle).mpr known), if_pos known,
          represents.getElementId known]
        exact .done ⟨represents, rfl⟩
      · rw [if_neg fun held => known ((represents.mem_pointers handle).mp held), if_neg known]
        exact .done ⟨represents, rfl⟩

theorem step (represents : Represents cache model) {event : CacheEvent} (fresh : cache.Fresh event) :
    Represents (cache.step event).1 (model.step event).1 ∧
      (cache.step event).2 = (model.step event).2 := by
  obtain ⟨next, ends, after⟩ := represents.react fresh
  rw [NBandCache.step, ends]
  exact after

end Represents

/-- The model follows no link, and never ends the program. -/
theorem BandModel.crashed_not_mem_step (model : BandModel) (event : CacheEvent) :
    CacheResult.crashed ∉ (model.step event).2 := by
  have through (handle : Nat) (result : BandModel × Option Nat) :
      CacheResult.crashed ∉ (BandModel.step.through model handle result).2 := by
    rw [BandModel.step.through]
    split <;> simp
  cases event with
  | insert | getPointer | getPointerAt => simp [BandModel.step]
  | left | right | up | down => exact through _ _
  | getElementId =>
      unfold BandModel.step
      dsimp only
      split <;> simp

/-- Whatever is inserted and wherever the pointers are moved, the cache answers as its
model does, and no link that is followed is null. -/
theorem refines_of_run {events : List CacheEvent}
    (fresh : Admits NBandCache.step NBandCache.Fresh .init events) :
    (run NBandCache.step .init events).2 = (run BandModel.step .init events).2 ∧
      CacheResult.crashed ∉ (run NBandCache.step .init events).2 ∧
      Represents (run NBandCache.step .init events).1 (run BandModel.step .init events).1 := by
  have simulated (cache : NBandCache) (model : BandModel) (event : CacheEvent)
      (represents : Represents cache model) (fresh : cache.Fresh event) :
      Represents (cache.step event).1 (model.step event).1 ∧
        (cache.step event).2 = (model.step event).2 :=
    represents.step fresh
  obtain ⟨represents, same⟩ := simulation_of_run Represents simulated Represents.init fresh
  refine ⟨same, fun crashed => ?_, represents⟩
  rw [same] at crashed
  exact outputs_of_run (fun _ => True) (· ≠ CacheResult.crashed) (fun _ _ _ _ => trivial)
    (fun model event _ _ output emitted ended => model.crashed_not_mem_step event (ended ▸ emitted))
    trivial (admits_true BandModel.step .init events) .crashed crashed rfl

/-- The band `1` is inserted between `0` and `2`, and its item `00` before the current one.
A second item of that name changes nothing.  One pointer moves the band, and another one
enters it later. -/
def threeBands : List CacheEvent :=
  [.insert 1 [48, 49] [48] ⟨1, 2⟩, .insert 2 [48, 48] [50] ⟨3, 4⟩, .insert 3 [48, 49] [49] ⟨5, 6⟩,
    .insert 4 [48, 48] [49] ⟨7, 8⟩, .insert 5 [48, 48] [49] ⟨7, 8⟩, .getPointer 10,
    .getPointerAt 11 [50], .getPointerAt 12 [51], .down 10, .getElementId 10, .left 10 true,
    .left 10 true, .up 11, .getElementId 11, .right 11 false, .up 11, .up 11]

theorem refines_of_run_three_bands :
    Admits NBandCache.step NBandCache.Fresh .init threeBands ∧
      (run NBandCache.step .init threeBands).2 = (run BandModel.step .init threeBands).2 ∧
      (run NBandCache.step .init threeBands).2 = [.pointer (some 1), .pointer (some 2), .pointer none,
        .item (some 3), .elementId 1, .item (some 4), .item none, .item (some 4), .elementId 0,
        .item (some 3), .item (some 1), .item none] := by
  have fresh : Admits NBandCache.step NBandCache.Fresh .init threeBands := by decide +kernel
  exact ⟨fresh, (refines_of_run fresh).1, by decide +kernel⟩

end Util
end Umundo
