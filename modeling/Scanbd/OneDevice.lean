import Scanbd.Devices

/-!
# Scanbd — the one-device model is the daemon with one device

The results about the threads around a device are proved on the one-device model of
`Scanbd.Threads`. `Scanbd.Devices` shows that every device of the daemon runs that model
(`daemon_device_reachable`). This module shows the converse for a daemon with a single device,
as `get_sane_devices` finds it when one scanner is connected (`num_devices = 1`). The
one-device world `v` is device 0 of the daemon `v.toDaemon`, and every event of the one-device
model is the same event of that daemon on device 0 (`World.toDaemon_step`). So the one-device
model reaches exactly the worlds that the daemon with one device reaches.

* `World.toDaemon` — the daemon whose only device is `v`;
* `Event.toDaemon` — the one-device event as an event of the daemon on device 0.

## Results

* `World.toDaemon_step` — every event of the one-device model is the daemon's event, exactly;
* `reachable_iff_single_device` — the one-device model and the daemon with one device reach
  the same worlds.
-/

namespace Scanbd

/-- The daemon's main thread at device 0 where the one-device main thread is. -/
def StopPc.ofMain : MainPc → StopPc
  | .idle => .idle
  | .stopLock r => .lock r 0
  | .stopWait r => .wait r 0
  | .stopCancel r => .cancel r 0
  | .stopJoin r => .join r 0

/-- A call of the one-device model: `sane_trigger_action(0, action)`. -/
def Caller.toCall (c : Caller) : Call := ⟨0, c.action, c.pc⟩

/-- The one-device event as an event of the daemon on device 0. -/
def Event.toDaemon : Event → DaemonEvent
  | .poller st => .poller 0 st
  | .call a => .call 0 a
  | .caller i => .caller i
  | .start => .start
  | .stop => .stop
  | .main => .main
  | .childExit g => .childExit 0 g

/-- The daemon whose only device is `v`: its thread list holds `v`'s slot, its calls are `v`'s
calls for device 0, and its main thread is at device 0. -/
def World.toDaemon (v : World) : DaemonWorld where
  threads := v.slot.map ([·])
  nextGen := v.nextGen
  calls := v.callers.map Caller.toCall
  main := StopPc.ofMain v.main
  children := fun k => if k = 0 then v.children else []
  dispatches := fun k => if k = 0 then v.dispatches else []
  badUnlock := fun k => if k = 0 then v.badUnlock else false
  aborted := v.aborted

theorem update_ite_zero {α : Type} (a a' b : α) :
    Function.update (fun k : Nat => if k = 0 then a else b) 0 a' =
      fun k => if k = 0 then a' else b := by
  funext k
  by_cases hk : k = 0 <;> simp [Function.update_apply, hk]

@[simp] theorem Caller.toCall_dev (c : Caller) : c.toCall.dev = 0 := rfl
@[simp] theorem Caller.toCall_action (c : Caller) : c.toCall.action = c.action := rfl
@[simp] theorem Caller.toCall_pc (c : Caller) : c.toCall.pc = c.pc := rfl

@[simp] theorem Caller.toCall_setPc (c : Caller) (p : CallerPc) :
    ({ c with pc := p } : Caller).toCall = ⟨0, c.action, p⟩ := rfl

namespace World

variable {D : Daemon} {v v' : World} {s : Slot}

/-! ## The embedding and the daemon's operations -/

@[simp] theorem toDaemon_threads : v.toDaemon.threads = v.slot.map ([·]) := rfl
@[simp] theorem toDaemon_calls : v.toDaemon.calls = v.callers.map Caller.toCall := rfl
@[simp] theorem toDaemon_main : v.toDaemon.main = StopPc.ofMain v.main := rfl
@[simp] theorem toDaemon_aborted : v.toDaemon.aborted = v.aborted := rfl

@[simp] theorem toDaemon_slot : v.toDaemon.slot 0 = v.slot := by
  cases h : v.slot <;> simp [DaemonWorld.slot, h]

theorem toDaemon_device : v.toDaemon.device 0 = v := by
  refine World.ext toDaemon_slot rfl ?_ ?_ rfl rfl rfl rfl
  · have heta : ∀ c : Caller, (⟨c.action, c.pc⟩ : Caller) = c := fun _ => rfl
    simp [List.filterMap_map, Call.toDevice, Caller.toCall, Function.comp_def, heta]
  · cases hm : v.main <;> simp [hm, StopPc.ofMain, StopPc.device]

theorem toDaemon_init : World.init.toDaemon = DaemonWorld.init := by
  simp [toDaemon, World.init, DaemonWorld.init, StopPc.ofMain]

@[simp] theorem toDaemon_saneFree : v.toDaemon.saneFree = v.saneFree := by
  simp only [DaemonWorld.saneFree, World.saneFree, toDaemon_main, toDaemon_calls]
  congr 1
  · cases v.main <;> rfl
  · induction v.callers with
    | nil => rfl
    | cons c cs ih => simp only [List.map_cons, List.all_cons, ih]; rfl

@[simp] theorem toDaemon_setCaller {i : Nat} {c : Caller} :
    (v.setCaller i c).toDaemon = v.toDaemon.setCall i c.toCall := by
  simp [toDaemon, World.setCaller, DaemonWorld.setCall, List.map_set]

theorem toDaemon_setSlot (hs : v.slot = some s) (s' : Slot) :
    (v.setSlot s').toDaemon = v.toDaemon.setSlot 0 s' := by
  simp [toDaemon, World.setSlot, DaemonWorld.setSlot, hs]

@[simp] theorem toDaemon_setMain (m : MainPc) :
    ({ v with main := m } : World).toDaemon = { v.toDaemon with main := StopPc.ofMain m } := rfl

@[simp] theorem toDaemon_free :
    ({ v with slot := none, main := .idle } : World).toDaemon =
      { v.toDaemon with threads := none, main := .idle } := rfl

@[simp] theorem toDaemon_startSlot : v.startSlot.toDaemon = v.toDaemon.startThreads 1 := rfl

/-- The step of a poller, written back into the daemon, is the step of device 0's poller. -/
theorem toDaemon_absorb (hs : v.slot = some s) {st : SaneStatus}
    (h : v.pollerStep D st s = some v') : v.toDaemon.absorb 0 s v' = v'.toDaemon := by
  obtain ⟨hm, hc⟩ := World.pollerStep_frame h
  obtain ⟨hg, hsl⟩ := World.pollerStep_slot hs h
  obtain ⟨s', hs'⟩ := Option.isSome_iff_exists.mp hsl
  simp only [DaemonWorld.absorb, DaemonWorld.setSlot, toDaemon, hs, hs', hm, hc, hg,
    update_ite_zero, Option.map_some', Option.getD_some, List.set_cons_zero]

/-! ## Every event commutes with the embedding -/

theorem toDaemon_callerStep {i : Nat} {c : Caller} :
    v.toDaemon.callerStep 1 i c.toCall = (v.callerStep i c).map World.toDaemon := by
  unfold DaemonWorld.callerStep World.callerStep
  cases hs : v.slot with
  | none => cases hp : c.pc <;> simp [hs, hp]
  | some s =>
    cases hp : c.pc <;> simp [hs, hp, toDaemon_setSlot hs] <;> split_ifs <;>
      simp [toDaemon_setSlot hs, Caller.toCall]

theorem toDaemon_beginLifecycle {r : Bool} :
    v.toDaemon.beginLifecycle 1 r = (v.beginLifecycle r).map World.toDaemon := by
  unfold DaemonWorld.beginLifecycle World.beginLifecycle
  rw [toDaemon_saneFree]
  by_cases hf : v.saneFree = true
  · rw [if_pos hf, if_pos hf]
    obtain ⟨_ | s, _, _, _, _, _, _, _⟩ := v <;> cases r <;> rfl
  · rw [if_neg hf, if_neg hf]
    rfl

theorem toDaemon_mainStep : v.toDaemon.mainStep 1 = v.mainStep.map World.toDaemon := by
  obtain ⟨_ | s, _, _, m, _, _, _, _⟩ := v
  · cases m <;> rfl
  · cases m with
    | idle | stopCancel r => rfl
    | stopLock r | stopWait r | stopJoin r =>
      -- the main thread's tests on the slot
      unfold DaemonWorld.mainStep World.mainStep
      simp only [toDaemon_main, StopPc.ofMain, toDaemon_slot, Option.some_bind]
      split_ifs <;> first | omega | rfl

/-- **Every event of the one-device model is the daemon's event on device 0**, with the same
outcome: both cannot happen, or both lead to worlds that correspond. -/
theorem toDaemon_step (e : Event) :
    v.toDaemon.step [D] e.toDaemon = (World.step D v e).map World.toDaemon := by
  unfold DaemonWorld.step World.step
  by_cases hab : v.aborted = true
  · simp [toDaemon, hab]
  rw [if_neg (by simpa [toDaemon] using hab), if_neg hab]
  cases e with
  | poller st =>
    show v.toDaemon.pollerStep [D] 0 st = _
    unfold DaemonWorld.pollerStep
    rw [show ([D] : List Daemon)[0]? = some D from rfl, toDaemon_slot]
    cases hs : v.slot with
    | none => rfl
    | some s =>
      rw [toDaemon_device]
      cases h : v.pollerStep D st s with
      | none => simp [h]
      | some v' => simp [h, toDaemon_absorb hs h]
  | call a =>
    by_cases ha : a < 0 <;>
      simp [Event.toDaemon, ha, toDaemon, World.abort, DaemonWorld.abort, Caller.toCall]
  | caller i =>
    show (v.toDaemon.calls[i]?).bind _ = _
    simp only [toDaemon, List.getElem?_map]
    cases v.callers[i]? with
    | none => rfl
    | some c => exact toDaemon_callerStep
  | start => exact toDaemon_beginLifecycle
  | stop => exact toDaemon_beginLifecycle
  | main => exact toDaemon_mainStep
  | childExit g =>
    show (if g ∈ v.toDaemon.children 0 then _ else none) = _
    by_cases hg : g ∈ v.children <;> simp [hg, toDaemon, update_ite_zero]

theorem toDaemon_run :
    ∀ (es : List Event) (v : World),
      v.toDaemon.run [D] (es.map Event.toDaemon) = (World.run D v es).map World.toDaemon
  | [], _ => rfl
  | e :: es, v => by
    rw [List.map_cons, DaemonWorld.run_cons, toDaemon_step]
    simp only [World.run, List.foldlM_cons]
    cases World.step D v e with
    | none => rfl
    | some v₁ => exact toDaemon_run es v₁

end World

/-- **The one-device model is the daemon with one device.** A world is reached by the
one-device model of device `D` exactly when it is device 0 of a daemon that `D` alone reaches. -/
theorem reachable_iff_single_device (D : Daemon) (v : World) :
    Reachable D v ↔ ∃ w, DaemonReachable [D] w ∧ w.device 0 = v := by
  constructor
  · rintro ⟨es, h⟩
    refine ⟨v.toDaemon, ⟨es.map Event.toDaemon, ?_⟩, World.toDaemon_device⟩
    rw [← World.toDaemon_init, World.toDaemon_run, h]
    rfl
  · rintro ⟨w, ⟨es, h⟩, rfl⟩
    obtain ⟨es', -, -, h'⟩ :=
      DaemonWorld.run_devices (k := 0) rfl es DaemonWorld.Inv.init (fun _ _ _ => trivial) h
    exact ⟨es', h'⟩

end Scanbd
