import Scanbd.Progress

/-!
# Scanbd — the daemon over all its devices

`Scanbd.Threads` models the threads around one device. The daemon runs one poller per entry
of `sane_device_list`: `start_sane_threads` allocates `sane_poll_threads`, one slot per
device, and starts a poller on each (lines 1267-1330); `stop_sane_threads` first waits for
each slot's active action and requests its poller's cancellation, device after device, and
only then joins the pollers one by one and frees the list (lines 1332-1420);
`sane_trigger_action(number_of_dev, action)` checks the device number against `num_devices`
before it touches a slot (lines 1197-1265). This module models that daemon (`DaemonWorld`)
and connects it to the one-device model.

Each poller runs `sane_poll` on its own slot and touches no other, so the step of device `j`'s
poller is the step of `World.pollerStep` on the world as device `j` sees it
(`DaemonWorld.device`). The callers and the main thread are modelled from the code: the
global `sane_mutex` is free only when no caller of any device holds it and the main thread is
in no lifecycle operation.

## Results

* `DaemonWorld.device_step` — every event of the daemon is, for each device, at most one
  event of the one-device model, whose open returns the status the daemon's returns;
* `daemon_device_reachable` — every device of every reachable daemon is a reachable world of
  the one-device model, so every invariant of `Scanbd.Invariant` holds for every device;
* `DaemonWorld.reachable_saneExclusive` — `sane_mutex` is held by at most one call of any
  device, and by none during a lifecycle operation;
* `waiting_call_blocks_every_device` — a call waiting for one device's action keeps
  `sane_mutex`, so no call for any device and no start or stop can go on;
* `stop_joins_every_poller` — `stop_sane_threads` frees the thread list only after the poller
  of every device has terminated.
-/

namespace Scanbd

/-! ## The daemon's threads -/

/-- Where the main thread is in `stop_sane_threads`: at device `i` of the loop that waits for
each slot's action and cancels its poller (`lock`, `wait`, `cancel`, lines 1347-1373), or of
the loop that joins the pollers (`join`, lines 1375-1408). With `restart`,
`start_sane_threads` called it and starts the new pollers once it returns. -/
inductive StopPc where
  /-- in no lifecycle operation -/
  | idle
  /-- line 1348: holding `sane_mutex`, about to lock `sane_poll_threads[i].mutex` -/
  | lock (restart : Bool) (i : Nat)
  /-- line 1354: in `pthread_cond_wait` on device `i`'s `cv`, an action is active -/
  | wait (restart : Bool) (i : Nat)
  /-- line 1367: device `i`'s mutex released, about to call `pthread_cancel` -/
  | cancel (restart : Bool) (i : Nat)
  /-- line 1379: in `pthread_join` of device `i`'s poller -/
  | join (restart : Bool) (i : Nat)
  deriving DecidableEq, Repr

/-- Where the main thread is, as device `k` sees it: the devices before `i` have had their
cancellation requested, those after it not yet; in the join loop every poller has. -/
def StopPc.device (k : Nat) : StopPc → MainPc
  | idle => .idle
  | lock r i => if k < i then .stopJoin r else .stopLock r
  | wait r i => if k < i then .stopJoin r else if k = i then .stopWait r else .stopLock r
  | cancel r i => if k < i then .stopJoin r else if k = i then .stopCancel r else .stopLock r
  | join r _ => .stopJoin r

/-- A call `sane_trigger_action(dev, action)`. -/
structure Call where
  dev : Int
  action : Int
  pc : CallerPc
  deriving DecidableEq, Repr

/-- Call `c` as device `k` sees it: a call of `sane_trigger_action(0, action)` when it is for
`k`, and none otherwise. -/
def Call.toDevice (k : Nat) (c : Call) : Option Caller :=
  if c.dev = (k : Int) then some ⟨c.action, c.pc⟩ else none

/-- The daemon: `sane_poll_threads` (`NULL`, or one slot per device), the calls of
`sane_trigger_action`, where the main thread is, and the ghosts of `World` for each device. -/
structure DaemonWorld where
  threads : Option (List Slot)
  nextGen : Nat
  calls : List Call
  main : StopPc
  children : Nat → List Nat
  dispatches : Nat → List (Nat × Nat)
  badUnlock : Nat → Bool
  aborted : Bool

/-- The events: a step of device `dev`'s poller, a new call of `sane_trigger_action`, the next
step of a call, the main thread entering `start_sane_threads` or `stop_sane_threads`, its next
step, and the exit of a script child of device `dev`. -/
inductive DaemonEvent where
  | poller (dev : Nat) (status : SaneStatus)
  | call (dev action : Int)
  | caller (i : Nat)
  | start
  | stop
  | main
  | childExit (dev gen : Nat)
  deriving DecidableEq, Repr

namespace DaemonWorld

/-- The daemon before `main` starts the polling threads. -/
def init : DaemonWorld := ⟨none, 0, [], .idle, fun _ => [], fun _ => [], fun _ => false, false⟩

/-- `sane_poll_threads[k]`, when the list is allocated. -/
def slot (w : DaemonWorld) (k : Nat) : Option Slot := w.threads.bind (·[k]?)

/-- `sane_mutex` is free: the main thread is in no lifecycle operation and no call holds it. -/
def saneFree (w : DaemonWorld) : Bool :=
  w.main == .idle && w.calls.all fun c => !c.pc.holdsSane

def setSlot (w : DaemonWorld) (k : Nat) (s : Slot) : DaemonWorld :=
  { w with threads := w.threads.map (·.set k s) }

def setCall (w : DaemonWorld) (i : Nat) (c : Call) : DaemonWorld :=
  { w with calls := w.calls.set i c }

/-- A failed assertion aborts the process. -/
def abort (w : DaemonWorld) : DaemonWorld := { w with aborted := true }

/-- `start_sane_threads` once no thread list is left (lines 1283-1318): with no device it
starts nothing; otherwise it allocates one fresh slot per device. -/
def startThreads (w : DaemonWorld) (n : Nat) : DaemonWorld :=
  if n = 0 then w
  else { w with threads := some (List.replicate n (Slot.fresh w.nextGen)),
                nextGen := w.nextGen + 1 }

/-- Device `k` as the one-device model sees it: its slot, the calls for it, the main thread
at its place in the loops of `stop_sane_threads`, and its ghosts. -/
def device (w : DaemonWorld) (k : Nat) : World where
  slot := w.slot k
  nextGen := w.nextGen
  callers := w.calls.filterMap (Call.toDevice k)
  main := w.main.device k
  children := w.children k
  dispatches := w.dispatches k
  badUnlock := w.badUnlock k
  aborted := w.aborted

/-- Device `j`'s part of the one-device world `v`, written back into the daemon: its slot
(`s` if `v` had none), its ghosts, and whether the process aborted. -/
def absorb (w : DaemonWorld) (j : Nat) (s : Slot) (v : World) : DaemonWorld :=
  { w.setSlot j (v.slot.getD s) with
           children := Function.update w.children j v.children,
           dispatches := Function.update w.dispatches j v.dispatches,
           badUnlock := Function.update w.badUnlock j v.badUnlock,
           aborted := v.aborted }

/-- The next step of device `j`'s poller: `sane_poll` on `sane_poll_threads[j]`, which touches
no other slot. -/
def pollerStep (Ds : List Daemon) (w : DaemonWorld) (j : Nat) (status : SaneStatus) :
    Option DaemonWorld :=
  match Ds[j]?, w.slot j with
  | some D, some s => (World.pollerStep D status (w.device j) s).map (w.absorb j s)
  | _, _ => none

/-- The next step of call `i` of `sane_trigger_action` (lines 1197-1265), with `n` devices.
Once it holds `sane_mutex` the call returns when there is no device or no device of its
number; otherwise it waits for the thread list and works on its device's slot. -/
def callerStep (n : Nat) (w : DaemonWorld) (i : Nat) (c : Call) : Option DaemonWorld :=
  match c.pc with
  | .lockSane =>
    if w.saneFree then
      some (w.setCall i { c with pc :=
        if n = 0 ∨ (n : Int) ≤ c.dev then .done
        else if w.threads.isSome then .lockSlot else .waitThreads })
    else none
  | .waitThreads =>
    if w.saneFree && w.threads.isSome then some (w.setCall i { c with pc := .lockSlot })
    else none
  | .lockSlot =>
    match w.slot c.dev.toNat with
    | none => none
    | some s =>
      if s.pc.holdsMutex then none
      else if (s.poll.tables.numOfOptionsWithScripts : Int) ≤ c.action then
        some (w.setCall i { c with pc := .done })
      else if s.poll.triggered then some (w.setCall i { c with pc := .waitIdle })
      else some ((w.setSlot c.dev.toNat { s with poll := s.poll.setTrigger c.action }).setCall i
        { c with pc := .done })
  | .waitIdle =>
    match w.slot c.dev.toNat with
    | none => none
    | some s =>
      if s.pc.holdsMutex || s.poll.triggered then none
      else some ((w.setSlot c.dev.toNat { s with poll := s.poll.setTrigger c.action }).setCall i
        { c with pc := .done })
  | .done => none

/-- The main thread enters `start_sane_threads` (`restart`) or `stop_sane_threads` once
`sane_mutex` is free. With no thread list, stop has nothing to do and start allocates one. As
in `World.beginLifecycle`, the daemon's runs are those in which the two operations do not
nest. -/
def beginLifecycle (n : Nat) (w : DaemonWorld) (restart : Bool) : Option DaemonWorld :=
  if w.saneFree then
    match w.threads with
    | some _ => some { w with main := .lock restart 0 }
    | none => some (if restart then w.startThreads n else w)
  else none

/-- The next step of the main thread in `stop_sane_threads` with `n` devices. -/
def mainStep (n : Nat) (w : DaemonWorld) : Option DaemonWorld :=
  match w.main with
  | .idle => none
  | .lock r i =>
    (w.slot i).bind fun s =>
      if s.pc.holdsMutex then none
      else some { w with main := if s.poll.triggered then .wait r i else .cancel r i }
  | .wait r i =>
    (w.slot i).bind fun s =>
      if s.pc.holdsMutex || s.poll.triggered then none else some { w with main := .cancel r i }
  | .cancel r i =>
    (w.slot i).map fun s =>
      { w with main := if i + 1 < n then .lock r (i + 1) else .join r 0 }.setSlot i
        { s with cancelPending := true }
  | .join r i =>
    (w.slot i).bind fun s =>
      if s.pc = .exited then
        if i + 1 < n then some { w with main := .join r (i + 1) }
        else
          -- lines 1410-1412: the list is freed
          let w' := { w with threads := none, main := .idle }
          some (if r then w'.startThreads n else w')
      else none

/-- One event of the daemon with the devices `Ds`; `none` when it cannot happen now. -/
def step (Ds : List Daemon) (w : DaemonWorld) (e : DaemonEvent) : Option DaemonWorld :=
  if w.aborted then none
  else
    match e with
    | .poller j status => w.pollerStep Ds j status
    | .call d a =>
      -- `assert(number_of_dev >= 0)`, `assert(action >= 0)`
      some (if d < 0 ∨ a < 0 then w.abort
        else { w with calls := w.calls ++ [⟨d, a, .lockSane⟩] })
    | .caller i => w.calls[i]?.bind (w.callerStep Ds.length i)
    | .start => w.beginLifecycle Ds.length true
    | .stop => w.beginLifecycle Ds.length false
    | .main => w.mainStep Ds.length
    | .childExit j g =>
      if g ∈ w.children j then
        some { w with children := Function.update w.children j ((w.children j).erase g) }
      else none

/-- The daemon after a sequence of events, if each can happen in turn. -/
def run (Ds : List Daemon) (w : DaemonWorld) (es : List DaemonEvent) : Option DaemonWorld :=
  es.foldlM (step Ds) w

end DaemonWorld

/-- The daemons some sequence of events reaches from the start. -/
def DaemonReachable (Ds : List Daemon) (w : DaemonWorld) : Prop :=
  ∃ es, DaemonWorld.run Ds DaemonWorld.init es = some w

/-! ## The calls a device sees -/

section FilterMap

variable {α β : Type} {f : α → Option β}

/-- Replacing an element the map keeps by another it keeps replaces its image, at the index
of that image. -/
theorem filterMap_set_of_some : ∀ {l : List α} {i : Nat} {x a : α} {b : β},
    l[i]? = some x → (f x).isSome → f a = some b →
    (l.set i a).filterMap f = (l.filterMap f).set ((l.take i).filterMap f).length b
  | [], _, _, _, _, h, _, _ => nomatch h
  | y :: l, 0, x, a, b, h, hx, ha => by
    obtain rfl : y = x := Option.some.inj (List.getElem?_cons_zero ▸ h)
    obtain ⟨z, hz⟩ := Option.isSome_iff_exists.mp hx
    simp [List.filterMap_cons, hz, ha]
  | y :: l, i + 1, x, a, b, h, hx, ha => by
    have ih := filterMap_set_of_some (l := l) (i := i) (List.getElem?_cons_succ ▸ h) hx ha
    cases hy : f y <;> simp [List.filterMap_cons, hy, ih]

/-- Replacing an element the map drops by another it drops changes nothing. -/
theorem filterMap_set_of_none : ∀ {l : List α} {i : Nat} {x a : α},
    l[i]? = some x → f x = none → f a = none → (l.set i a).filterMap f = l.filterMap f
  | [], _, _, _, h, _, _ => nomatch h
  | y :: l, 0, x, a, h, hx, ha => by
    obtain rfl : y = x := Option.some.inj (List.getElem?_cons_zero ▸ h)
    simp [List.filterMap_cons, hx, ha]
  | y :: l, i + 1, x, a, h, hx, ha => by
    have ih := filterMap_set_of_none (l := l) (i := i) (List.getElem?_cons_succ ▸ h) hx ha
    cases hy : f y <;> simp [List.filterMap_cons, hy, ih]

/-- The image of an element the map keeps stands at the index of that image. -/
theorem getElem?_filterMap_take : ∀ {l : List α} {i : Nat} {x : α} {b : β},
    l[i]? = some x → f x = some b → (l.filterMap f)[((l.take i).filterMap f).length]? = some b
  | [], _, _, _, h, _ => nomatch h
  | y :: l, 0, x, b, h, hx => by
    obtain rfl : y = x := Option.some.inj (List.getElem?_cons_zero ▸ h)
    simp [List.filterMap_cons, hx]
  | y :: l, i + 1, x, b, h, hx => by
    have ih := getElem?_filterMap_take (l := l) (i := i) (List.getElem?_cons_succ ▸ h) hx
    cases hy : f y <;> simp [List.filterMap_cons, hy, ih]

end FilterMap

/-! ## Device `k` of the daemon -/

attribute [ext] World

namespace DaemonWorld

variable {w : DaemonWorld} {j k : Nat} {s : Slot}

@[simp] theorem device_slot : (w.device k).slot = w.slot k := rfl
@[simp] theorem device_nextGen : (w.device k).nextGen = w.nextGen := rfl
@[simp] theorem device_callers : (w.device k).callers = w.calls.filterMap (Call.toDevice k) := rfl
@[simp] theorem device_main : (w.device k).main = w.main.device k := rfl
@[simp] theorem device_children : (w.device k).children = w.children k := rfl
@[simp] theorem device_dispatches : (w.device k).dispatches = w.dispatches k := rfl
@[simp] theorem device_badUnlock : (w.device k).badUnlock = w.badUnlock k := rfl
@[simp] theorem device_aborted : (w.device k).aborted = w.aborted := rfl

theorem device_init : init.device k = World.init := rfl

theorem slot_setSlot_self (h : w.slot j = some s) (s' : Slot) :
    (w.setSlot j s').slot j = some s' := by
  unfold slot setSlot at *
  cases hl : w.threads with
  | none => simp [hl] at h
  | some l =>
    simp only [hl, Option.some_bind] at h
    simp [List.getElem?_set_self (List.getElem?_eq_some_iff.mp h).1]

theorem slot_setSlot_ne (h : j ≠ k) (s' : Slot) : (w.setSlot j s').slot k = w.slot k := by
  unfold slot setSlot
  cases w.threads <;> simp [List.getElem?_set_ne h]

end DaemonWorld

/-! ## Every event of the daemon is an event of each device -/

/-- A poller's step keeps the generation counter and leaves a slot. -/
theorem World.pollerStep_slot {D : Daemon} {w w' : World} {s : Slot} {st : SaneStatus}
    (hs : w.slot = some s) (h : w.pollerStep D st s = some w') :
    w'.nextGen = w.nextGen ∧ w'.slot.isSome := by
  unfold World.pollerStep at h
  repeat' split at h
  all_goals cases h
  all_goals try exact ⟨rfl, rfl⟩
  all_goals try exact ⟨rfl, by simp [World.abort, hs]⟩
  unfold World.ruleSegment
  repeat' split
  all_goals first | exact ⟨rfl, rfl⟩ | exact ⟨rfl, by simp [World.abort, hs]⟩

/-- A world that some run leaves running was running before it. -/
theorem World.aborted_of_run {D : Daemon} :
    ∀ {v v' : World} (es : List Event), World.run D v es = some v' → v'.aborted = false →
      v.aborted = false
  | _, _, [], h, hab => by cases h; exact hab
  | v, _, e :: _, h, _ => by
    cases hv : v.aborted
    · rfl
    · simp [World.run, World.step, hv] at h

/-- Device `k` of `w'` is reached from device `k` of `w` by events of the one-device model of
that device, `D`: while the process runs, their calls pass non-negative actions, and the
statuses their opens return satisfy `ok`. -/
def DeviceRuns (D : Daemon) (k : Nat) (ok : SaneStatus → Prop) (w w' : DaemonWorld) : Prop :=
  ∃ es, (w'.aborted = false → ∀ a, Event.call a ∈ es → 0 ≤ a) ∧
    (∀ st, Event.poller st ∈ es → ok st) ∧ World.run D (w.device k) es = some (w'.device k)

namespace DeviceRuns

variable {D : Daemon} {k : Nat} {ok : SaneStatus → Prop} {w w' : DaemonWorld}

theorem single {e : Event} (hok : ∀ st, e = .poller st → ok st)
    (h : World.step D (w.device k) e = some (w'.device k)) : DeviceRuns D k ok w w' := by
  refine ⟨[e], fun hab a ha => Int.not_lt.mp fun hneg => ?_,
    fun st hst => hok st (List.mem_singleton.mp hst).symm, by simp [World.run, h]⟩
  -- a call with a negative action aborts the process
  obtain rfl := List.mem_singleton.mp ha
  have h' := congrArg (Option.map World.aborted) h
  cases hw : w.aborted <;> simp [World.step, hw, hneg, World.abort, hab] at h'

/-- A step that leaves device `k` as it was, except that the process may have aborted: none
or `sane_trigger_action(0, -1)`. -/
theorem stutter (hab : w.aborted = false)
    (h : w'.device k = { w.device k with aborted := w'.aborted }) : DeviceRuns D k ok w w' := by
  cases hab' : w'.aborted
  · refine ⟨[], fun _ _ ha => absurd ha (List.not_mem_nil _),
      fun _ ha => absurd ha (List.not_mem_nil _), ?_⟩
    rw [h, hab']
    exact congrArg some (World.ext rfl rfl rfl rfl rfl rfl rfl hab)
  · refine .single (e := .call (-1)) nofun ?_
    rw [h, hab']
    simp [World.step, hab, World.abort]

end DeviceRuns

namespace DaemonWorld

variable {w : DaemonWorld} {j k : Nat} {s : Slot}

theorem device_setSlot_ne (h : j ≠ k) (s' : Slot) : (w.setSlot j s').device k = w.device k :=
  World.ext (slot_setSlot_ne h s') rfl rfl rfl rfl rfl rfl rfl

theorem device_absorb_self {v : World} (hs : w.slot j = some s) (hv : v.slot.isSome)
    (hg : v.nextGen = w.nextGen) (hc : v.callers = (w.device j).callers)
    (hm : v.main = (w.device j).main) : (w.absorb j s v).device j = v := by
  obtain ⟨s', hs'⟩ := Option.isSome_iff_exists.mp hv
  refine World.ext ?_ hg.symm hc.symm hm.symm ?_ ?_ ?_ rfl
  · show (w.setSlot j _).slot j = _
    rw [slot_setSlot_self hs, hs', Option.getD_some]
  all_goals exact Function.update_same _ _ _

theorem device_absorb_ne {v : World} (h : j ≠ k) :
    (w.absorb j s v).device k = { w.device k with aborted := v.aborted } :=
  World.ext (slot_setSlot_ne h _) rfl rfl rfl (Function.update_noteq (Ne.symm h) _ _)
    (Function.update_noteq (Ne.symm h) _ _) (Function.update_noteq (Ne.symm h) _ _) rfl

end DaemonWorld

namespace DeviceRuns

variable {Ds : List Daemon} {D : Daemon} {k : Nat} {ok : SaneStatus → Prop}
  {w w' : DaemonWorld}

/-- A step of device `j`'s poller is that step for device `j`, and nothing, or the abort, for
the others. -/
theorem pollerStep (hk : Ds[k]? = some D) (hab : w.aborted = false) {j : Nat} {st : SaneStatus}
    (hst : ok st) (h : w.pollerStep Ds j st = some w') : DeviceRuns D k ok w w' := by
  unfold DaemonWorld.pollerStep at h
  split at h
  · rename_i Dj s hDj hs
    obtain ⟨v, hv, rfl⟩ := Option.map_eq_some'.mp h
    by_cases hjk : j = k
    · subst hjk
      obtain rfl : Dj = D := Option.some.inj (hDj.symm.trans hk)
      obtain ⟨hm, hc⟩ := World.pollerStep_frame hv
      obtain ⟨hg, hsl⟩ := World.pollerStep_slot (w := w.device j) hs hv
      refine .single (e := .poller st) (fun _ h => Event.poller.inj h ▸ hst) ?_
      rw [DaemonWorld.device_absorb_self hs hsl hg hc hm]
      simp [World.step, hab, hs, hv]
    · exact .stutter hab (DaemonWorld.device_absorb_ne hjk)
  · cases h

/-- A new call for device `k` is that call for device `k`; a failed assertion is the abort for
every device. -/
theorem call (hab : w.aborted = false) {d a : Int}
    (h : w.step Ds (.call d a) = some w') : DeviceRuns D k ok w w' := by
  simp only [DaemonWorld.step, hab, Bool.false_eq_true, if_false, Option.some.injEq] at h
  subst h
  split_ifs with hneg
  · exact .stutter hab rfl
  · by_cases hd : d = (k : Int)
    · refine .single (e := .call a) nofun ?_
      have ha : ¬a < 0 := fun ha => hneg (.inr ha)
      simp [World.step, hab, ha, DaemonWorld.device, DaemonWorld.slot, List.filterMap_append,
        Call.toDevice, hd]
    · refine .stutter hab (World.ext rfl rfl ?_ rfl rfl rfl rfl rfl)
      simp [DaemonWorld.device, List.filterMap_append, Call.toDevice, hd]

end DeviceRuns

namespace DaemonWorld

variable {w w' : DaemonWorld} {i j k n : Nat} {c : Call} {s : Slot}

/-- What the simulation of the devices needs of a reachable daemon: one slot per device, the
pollers the join loop has passed have terminated, and a call past its first lock of
`sane_mutex` is for a device that exists. -/
structure Inv (n : Nat) (w : DaemonWorld) : Prop where
  length : ∀ l, w.threads = some l → l.length = n
  joined : ∀ r i, w.main = .join r i → ∀ k < i, ∃ s, w.slot k = some s ∧ s.pc = .exited
  calls : ∀ c ∈ w.calls, 0 ≤ c.dev ∧ (c.pc ≠ .lockSane → c.pc ≠ .done → c.dev < n)

theorem Inv.slot_isSome (hw : Inv n w) (hk : k < n) : (w.slot k).isSome = w.threads.isSome := by
  unfold slot
  cases hl : w.threads with
  | none => rfl
  | some l => simp [List.getElem?_eq_getElem (hw.length l hl ▸ hk)]

/-- A step of a call changes the call and, at most, the trigger in the slot of its device. -/
theorem callerStep_cases (h : w.callerStep n i c = some w') :
    ∃ p, w' = w.setCall i { c with pc := p } ∨
      ∃ s, w.slot c.dev.toNat = some s ∧
        w' = (w.setSlot c.dev.toNat { s with poll := s.poll.setTrigger c.action }).setCall i
          { c with pc := p } := by
  unfold callerStep at h
  repeat' split at h
  all_goals cases h
  all_goals first | exact ⟨_, .inl rfl⟩ | exact ⟨_, .inr ⟨_, ‹_›, rfl⟩⟩

/-- A call past its lock of `sane_mutex` is for one of the `n` devices. -/
theorem callerStep_lockSane (h : w.callerStep n i c = some w') (hpc : c.pc = .lockSane) :
    ∃ p, w' = w.setCall i { c with pc := p } ∧ (p ≠ .done → c.dev < n) := by
  unfold callerStep at h
  rw [hpc] at h
  simp only at h
  split_ifs at h with hfree hout
  · cases h; exact ⟨_, rfl, fun h => absurd rfl h⟩
  all_goals cases h; exact ⟨_, rfl, fun _ => by omega⟩

theorem callerStep_ne_done (h : w.callerStep n i c = some w') : c.pc ≠ .done := by
  intro hpc
  unfold callerStep at h
  rw [hpc] at h
  cases h

/-- A step of the main thread in `stop_sane_threads`, at device `i` whose slot is `s`. -/
theorem mainStep_cases (h : w.mainStep n = some w') :
    ∃ r i s, w.slot i = some s ∧
      ((w.main = .lock r i ∧ s.pc.holdsMutex = false ∧
          w' = { w with main := if s.poll.triggered then .wait r i else .cancel r i }) ∨
        (w.main = .wait r i ∧ s.pc.holdsMutex = false ∧ s.poll.triggered = false ∧
          w' = { w with main := .cancel r i }) ∨
        (w.main = .cancel r i ∧ w' = setSlot
          { w with main := if i + 1 < n then .lock r (i + 1) else .join r 0 } i
          { s with cancelPending := true }) ∨
        (w.main = .join r i ∧ s.pc = .exited ∧ i + 1 < n ∧
          w' = { w with main := .join r (i + 1) }) ∨
        (w.main = .join r i ∧ s.pc = .exited ∧ ¬i + 1 < n ∧
          w' = if r then startThreads { w with threads := none, main := .idle } n
            else { w with threads := none, main := .idle })) := by
  unfold mainStep at h
  cases hm : w.main with
  | idle => simp [hm] at h
  | lock r i =>
    simp only [hm] at h
    obtain ⟨s, hs, h⟩ := Option.bind_eq_some.mp h
    cases h1 : s.pc.holdsMutex
    · simp only [h1, Bool.false_eq_true, if_false, Option.some.injEq] at h
      exact ⟨r, i, s, hs, .inl ⟨rfl, h1, h.symm⟩⟩
    · simp [h1] at h
  | wait r i =>
    simp only [hm] at h
    obtain ⟨s, hs, h⟩ := Option.bind_eq_some.mp h
    cases h1 : s.pc.holdsMutex <;> cases h2 : s.poll.triggered <;> simp [h1, h2] at h
    exact ⟨r, i, s, hs, .inr (.inl ⟨rfl, h1, h2, h.symm⟩)⟩
  | cancel r i =>
    simp only [hm] at h
    obtain ⟨s, hs, rfl⟩ := Option.map_eq_some'.mp h
    exact ⟨r, i, s, hs, .inr (.inr (.inl ⟨rfl, rfl⟩))⟩
  | join r i =>
    simp only [hm] at h
    obtain ⟨s, hs, h⟩ := Option.bind_eq_some.mp h
    by_cases hx : s.pc = .exited
    · rw [if_pos hx] at h
      by_cases hn : i + 1 < n
      · rw [if_pos hn, Option.some.injEq] at h
        exact ⟨r, i, s, hs, .inr (.inr (.inr (.inl ⟨rfl, hx, hn, h.symm⟩)))⟩
      · rw [if_neg hn, Option.some.injEq] at h
        exact ⟨r, i, s, hs, .inr (.inr (.inr (.inr ⟨rfl, hx, hn, h.symm⟩)))⟩
    · rw [if_neg hx] at h
      cases h

theorem saneFree_device (h : w.saneFree = true) : (w.device k).saneFree = true := by
  simp only [saneFree, Bool.and_eq_true, beq_iff_eq, List.all_eq_true] at h
  simp only [World.saneFree, device_main, h.1, StopPc.device, beq_self_eq_true, Bool.true_and,
    device_callers, List.all_eq_true, List.mem_filterMap]
  rintro _ ⟨c, hc, hcd⟩
  unfold Call.toDevice at hcd
  split at hcd
  · cases hcd; exact h.2 c hc
  · cases hcd

theorem device_setCall_ne (hc : w.calls[i]? = some c) (hd : c.dev ≠ k) (p : CallerPc) :
    (w.setCall i { c with pc := p }).device k = w.device k :=
  World.ext rfl rfl (filterMap_set_of_none hc (by simp [Call.toDevice, hd])
    (by simp [Call.toDevice, hd])) rfl rfl rfl rfl rfl

/-- The index of call `i` among the calls device `k` sees. -/
def callIndex (w : DaemonWorld) (k i : Nat) : Nat :=
  ((w.calls.take i).filterMap (Call.toDevice k)).length

theorem device_callers_getElem (hc : w.calls[i]? = some c) (hd : c.dev = k) :
    (w.device k).callers[w.callIndex k i]? = some ⟨c.action, c.pc⟩ :=
  getElem?_filterMap_take hc (by simp [Call.toDevice, hd])

theorem device_setCall_self (hc : w.calls[i]? = some c) (hd : c.dev = k) (p : CallerPc) :
    (w.setCall i { c with pc := p }).device k =
      (w.device k).setCaller (w.callIndex k i) ⟨c.action, p⟩ :=
  World.ext rfl rfl (filterMap_set_of_some hc (by simp [Call.toDevice, hd])
    (by simp [Call.toDevice, hd])) rfl rfl rfl rfl rfl

theorem device_setSlot_self (h : w.slot k = some s) (s' : Slot) :
    (w.setSlot k s').device k = (w.device k).setSlot s' :=
  World.ext (slot_setSlot_self h s') rfl rfl rfl rfl rfl rfl rfl

end DaemonWorld

namespace DeviceRuns

variable {Ds : List Daemon} {D : Daemon} {k : Nat} {ok : SaneStatus → Prop}
  {w w' : DaemonWorld}

/-- A step of a call for device `k` is the step of that call for device `k`; a call for
another device leaves device `k` as it was. -/
theorem callerStep (hk : Ds[k]? = some D) (hw : w.Inv Ds.length) (hab : w.aborted = false)
    {i : Nat} {c : Call} (hc : w.calls[i]? = some c) (h : w.callerStep Ds.length i c = some w') :
    DeviceRuns D k ok w w' := by
  have hkn : k < Ds.length := (List.getElem?_eq_some_iff.mp hk).1
  have hdev := hw.calls c (List.getElem?_mem hc)
  by_cases hd : c.dev = (k : Int)
  · have hnk : c.dev.toNat = k := by omega
    have hout : ¬(Ds.length = 0 ∨ (Ds.length : Int) ≤ c.dev) := by omega
    have hfree : w.saneFree = true → (w.device k).saneFree = true := DaemonWorld.saneFree_device
    refine .single (e := .caller (w.callIndex k i)) nofun ?_
    simp only [World.step, DaemonWorld.device_aborted, hab, Bool.false_eq_true, if_false,
      DaemonWorld.device_callers_getElem hc hd, Option.some_bind]
    unfold DaemonWorld.callerStep at h
    unfold World.callerStep
    -- both sides take the same branch; the device's `sane_mutex` is free when the daemon's is
    cases hpc : c.pc with
    | lockSane | waitThreads =>
      simp only [hpc, hout, if_false, DaemonWorld.device_slot, hw.slot_isSome hkn] at h ⊢
      split_ifs at h ⊢ <;> first
        | (cases h; rw [DaemonWorld.device_setCall_self hc hd])
        | exact Option.noConfusion h
        | exact absurd (hfree ‹_›) ‹_›
        | simp_all
    | lockSlot | waitIdle =>
      simp only [hpc, hnk, DaemonWorld.device_slot] at h ⊢
      cases hs : w.slot k with
      | none => simp [hs] at h
      | some s =>
        simp only [hs] at h ⊢
        split_ifs at h ⊢ <;> cases h <;>
          first
          | rw [DaemonWorld.device_setCall_self hc hd]
          | (rw [DaemonWorld.device_setCall_self (w := w.setSlot k _) hc hd,
              DaemonWorld.device_setSlot_self hs]; rfl)
    | done => simp [hpc] at h
  · have hnk : c.dev.toNat ≠ k := by omega
    obtain ⟨p, rfl | ⟨s', -, rfl⟩⟩ := DaemonWorld.callerStep_cases h
    · exact .stutter hab (DaemonWorld.device_setCall_ne hc hd p)
    · exact .stutter hab ((DaemonWorld.device_setCall_ne (w := w.setSlot _ _) hc hd p).trans
        (DaemonWorld.device_setSlot_ne hnk _))

end DeviceRuns

namespace DaemonWorld

variable {w : DaemonWorld} {k n : Nat}

/-- Starting the threads is, for each device, starting its slot. -/
theorem device_startThreads (hk : k < n) :
    (w.startThreads n).device k = { w.device k with slot := none }.startSlot := by
  rw [startThreads, if_neg (Nat.ne_of_gt (Nat.zero_lt_of_lt hk))]
  exact World.ext (by simp [slot, List.getElem?_replicate, hk, World.startSlot]) rfl rfl rfl rfl rfl
    rfl rfl

end DaemonWorld

namespace DeviceRuns

variable {Ds : List Daemon} {D : Daemon} {k : Nat} {ok : SaneStatus → Prop}
  {w w' : DaemonWorld}

/-- Entering `start_sane_threads` or `stop_sane_threads` is entering it for every device. -/
theorem beginLifecycle (hk : Ds[k]? = some D) (hw : w.Inv Ds.length) (hab : w.aborted = false)
    {r : Bool} (h : w.beginLifecycle Ds.length r = some w') : DeviceRuns D k ok w w' := by
  have hkn : k < Ds.length := (List.getElem?_eq_some_iff.mp hk).1
  unfold DaemonWorld.beginLifecycle at h
  by_cases hfree : w.saneFree = true
  swap
  · rw [if_neg hfree] at h; cases h
  rw [if_pos hfree] at h
  have hev : ∀ v : World, World.step D v (if r then .start else .stop) =
      if v.aborted then none else v.beginLifecycle r := by
    cases r <;> intro v <;> rfl
  refine .single (e := if r then .start else .stop) (by cases r <;> nofun) ?_
  rw [hev, if_neg (by simp [hab]), World.beginLifecycle,
    if_pos (DaemonWorld.saneFree_device hfree)]
  rcases Option.eq_none_or_eq_some w.threads with hl | ⟨l, hl⟩
  · simp only [hl, Option.some.injEq] at h
    subst h
    have hnone : w.slot k = none := by simp [DaemonWorld.slot, hl]
    simp only [DaemonWorld.device_slot, hnone]
    cases r
    · rfl
    · rw [if_pos rfl, if_pos rfl, DaemonWorld.device_startThreads hkn]
      exact congrArg some (congrArg World.startSlot (World.ext hnone rfl rfl rfl rfl rfl rfl rfl))
  · simp only [hl, Option.some.injEq] at h
    subst h
    obtain ⟨s, hs⟩ := Option.isSome_iff_exists.mp ((hw.slot_isSome hkn).trans (by rw [hl]; rfl))
    simp only [DaemonWorld.device_slot, hs]
    exact congrArg some (World.ext (by rw [← hs]; simp [DaemonWorld.slot, hl]) rfl rfl
      (by simp [StopPc.device]) rfl rfl rfl rfl)

/-- A step of the main thread at device `i` is that step for device `i`; ending the join loop
frees and restarts every device at once. -/
theorem mainStep (hk : Ds[k]? = some D) (hw : w.Inv Ds.length) (hab : w.aborted = false)
    (h : w.mainStep Ds.length = some w') : DeviceRuns D k ok w w' := by
  have hkn : k < Ds.length := (List.getElem?_eq_some_iff.mp hk).1
  have hev : ∀ v : World, World.step D v .main = if v.aborted then none else v.mainStep :=
    fun _ => rfl
  obtain ⟨r, i, s, hs, ⟨hm, h1, rfl⟩ | ⟨hm, h1, h2, rfl⟩ | ⟨hm, rfl⟩ | ⟨hm, -, hn, rfl⟩ |
    ⟨hm, hx, hn, rfl⟩⟩ := DaemonWorld.mainStep_cases h
  · -- the wait for device `i`'s mutex
    by_cases hik : i = k
    · subst hik
      refine .single (e := .main) nofun ?_
      rw [hev, if_neg (by simp [hab]), World.mainStep]
      simp only [DaemonWorld.device_main, hm, DaemonWorld.device_slot, hs, StopPc.device,
        lt_irrefl, if_false, h1, Bool.false_eq_true]
      exact congrArg some (World.ext hs.symm rfl rfl
        (by cases s.poll.triggered <;> simp [StopPc.device]) rfl rfl rfl rfl)
    · exact .stutter hab (World.ext rfl rfl rfl
        (by cases s.poll.triggered <;> simp [StopPc.device, hm, hik, Ne.symm hik]) rfl rfl rfl rfl)
  · -- the wait for device `i`'s active action
    by_cases hik : i = k
    · subst hik
      refine .single (e := .main) nofun ?_
      rw [hev, if_neg (by simp [hab]), World.mainStep]
      simp only [DaemonWorld.device_main, hm, DaemonWorld.device_slot, hs, StopPc.device,
        lt_irrefl, if_false, if_true, h1, h2, Bool.or_false, Bool.false_eq_true]
      exact congrArg some (World.ext hs.symm rfl rfl (by simp [StopPc.device]) rfl rfl rfl rfl)
    · exact .stutter hab (World.ext rfl rfl rfl
        (by simp [StopPc.device, hm, hik, Ne.symm hik]) rfl rfl rfl rfl)
  · -- the cancellation request for device `i`
    by_cases hik : i = k
    · subst hik
      refine .single (e := .main) nofun ?_
      rw [hev, if_neg (by simp [hab]), World.mainStep]
      simp only [DaemonWorld.device_main, hm, DaemonWorld.device_slot, hs, StopPc.device,
        lt_irrefl, if_false, if_true]
      exact congrArg some (World.ext (DaemonWorld.slot_setSlot_self hs _).symm rfl rfl
        (by split <;> simp [StopPc.device, World.setSlot, DaemonWorld.setSlot]) rfl rfl rfl rfl)
    · refine .stutter hab ((DaemonWorld.device_setSlot_ne hik _).trans
        (World.ext rfl rfl rfl ?_ rfl rfl rfl rfl))
      simp only [DaemonWorld.device_main, hm]
      split
      · simp only [StopPc.device, Ne.symm hik, if_false]
        split_ifs <;> first | rfl | omega
      · simp only [StopPc.device, Ne.symm hik, if_false]
        rw [if_pos (by omega)]
  · -- the join of device `i`'s poller, with more to join
    exact .stutter hab (World.ext rfl rfl rfl (by simp [StopPc.device, hm]) rfl rfl rfl rfl)
  · -- the last join: every poller has terminated, those joined before and device `i`'s
    obtain ⟨sk, hsk, hxk⟩ : ∃ sk, w.slot k = some sk ∧ sk.pc = .exited := by
      rcases Nat.lt_or_ge k i with hki | hki
      · exact hw.joined r i hm k hki
      · obtain rfl : k = i := by omega
        exact ⟨s, hs, hx⟩
    refine .single (e := .main) nofun ?_
    rw [hev, if_neg (by simp [hab]), World.mainStep]
    simp only [DaemonWorld.device_main, hm, StopPc.device, DaemonWorld.device_slot, hsk, hxk,
      if_true]
    cases r
    · exact congrArg some (World.ext (by simp [DaemonWorld.slot]) rfl rfl rfl rfl rfl rfl rfl)
    · simp only [if_true]
      rw [DaemonWorld.device_startThreads hkn]
      exact congrArg some (congrArg World.startSlot
        (World.ext (by simp [DaemonWorld.slot]) rfl rfl rfl rfl rfl rfl rfl))

end DeviceRuns

namespace DeviceRuns

variable {Ds : List Daemon} {D : Daemon} {k : Nat} {ok : SaneStatus → Prop}
  {w w' : DaemonWorld}

/-- The exit of a script child of device `j` is that exit for device `j`. -/
theorem childExit (hab : w.aborted = false) {j g : Nat}
    (h : w.step Ds (.childExit j g) = some w') : DeviceRuns D k ok w w' := by
  simp only [DaemonWorld.step, hab, Bool.false_eq_true, if_false] at h
  split_ifs at h with hg
  cases h
  by_cases hjk : j = k
  · subst hjk
    refine .single (e := .childExit g) nofun ?_
    simp only [World.step, DaemonWorld.device_aborted, hab, Bool.false_eq_true, if_false,
      DaemonWorld.device_children, hg, if_true]
    exact congrArg some (World.ext rfl rfl rfl rfl
      (Function.update_same j ((w.children j).erase g) w.children).symm rfl rfl rfl)
  · exact .stutter hab (World.ext rfl rfl rfl rfl (Function.update_noteq (Ne.symm hjk) _ _)
      rfl rfl rfl)

theorem trans {w'' : DaemonWorld} (h : DeviceRuns D k ok w w') (h' : DeviceRuns D k ok w' w'') :
    DeviceRuns D k ok w w'' := by
  obtain ⟨es, hc, ho, hes⟩ := h
  obtain ⟨es', hc', ho', hes'⟩ := h'
  refine ⟨es ++ es', fun hab a ha => ?_,
    fun st hst => (List.mem_append.mp hst).elim (ho st) (ho' st),
    by rw [World.run_append, hes, Option.some_bind, hes']⟩
  rcases List.mem_append.mp ha with ha | ha
  · exact hc (World.aborted_of_run es' hes' hab) a ha
  · exact hc' hab a ha

end DeviceRuns

namespace DaemonWorld

variable {Ds : List Daemon} {D : Daemon} {k : Nat} {ok : SaneStatus → Prop}
  {w w' : DaemonWorld}

/-- **Every event of the daemon is, for each device, at most one event of the one-device
model**, whose open returns the status the daemon's open returns. -/
theorem device_step (hk : Ds[k]? = some D) (hw : w.Inv Ds.length) {e : DaemonEvent}
    (hok : ∀ j st, e = .poller j st → ok st) (h : w.step Ds e = some w') :
    DeviceRuns D k ok w w' := by
  have hab : w.aborted = false := by
    cases hab : w.aborted
    · rfl
    · simp [step, hab] at h
  have h' := h
  simp only [step, hab, Bool.false_eq_true, if_false] at h'
  cases e with
  | poller j st => exact .pollerStep hk hab (hok j st rfl) h'
  | call d a => exact .call hab h
  | caller i =>
    obtain ⟨c, hc, h'⟩ := Option.bind_eq_some.mp h'
    exact .callerStep hk hw hab hc h'
  | start => exact .beginLifecycle hk hw hab h'
  | stop => exact .beginLifecycle hk hw hab h'
  | main => exact .mainStep hk hw hab h'
  | childExit j g => exact .childExit hab h

end DaemonWorld

/-! ## What every reachable daemon satisfies -/

namespace DaemonWorld

namespace Inv

variable {n : Nat} {w w' : DaemonWorld} {i j : Nat} {c : Call} {s s' : Slot}

theorem init : DaemonWorld.init.Inv n :=
  ⟨fun _ h => (nomatch h), fun _ _ h => (nomatch h), fun _ h => (nomatch h)⟩

/-- The invariant reads only the thread list, the main thread and the calls. -/
theorem congr (hw : w.Inv n) (ht : w'.threads = w.threads) (hm : w'.main = w.main)
    (hc : w'.calls = w.calls) : w'.Inv n :=
  ⟨ht ▸ hw.length, fun r i h k hk => by
    obtain ⟨s, hs, hx⟩ := hw.joined r i (hm ▸ h) k hk
    exact ⟨s, by rw [← hs]; simp [slot, ht], hx⟩, hc ▸ hw.calls⟩

/-- Replacing a slot by one that has terminated if the old one had. -/
theorem setSlot (hw : w.Inv n) (hs : w.slot j = some s) (s' : Slot)
    (hx : s.pc = .exited → s'.pc = .exited) : (w.setSlot j s').Inv n where
  length l h := by
    obtain ⟨l₀, hl₀, rfl⟩ := Option.map_eq_some'.mp h
    rw [List.length_set, hw.length l₀ hl₀]
  joined r i h k hk := by
    obtain ⟨s₀, hs₀, hx₀⟩ := hw.joined r i h k hk
    by_cases hjk : j = k
    · subst hjk
      obtain rfl : s = s₀ := Option.some.inj (hs.symm.trans hs₀)
      exact ⟨s', slot_setSlot_self hs s', hx hx₀⟩
    · exact ⟨s₀, (slot_setSlot_ne hjk s').trans hs₀, hx₀⟩
  calls := hw.calls

theorem setCall (hw : w.Inv n) (hc : w.calls[i]? = some c) {p : CallerPc}
    (hdev : p ≠ .lockSane → p ≠ .done → c.dev < n) : (w.setCall i { c with pc := p }).Inv n where
  length := hw.length
  joined := hw.joined
  calls c' hc' := by
    rcases List.mem_or_eq_of_mem_set hc' with hc' | rfl
    · exact hw.calls c' hc'
    · exact ⟨(hw.calls c (List.getElem?_mem hc)).1, hdev⟩

theorem startThreads (hw : w.Inv n) (hm : w.main = .idle) : (w.startThreads n).Inv n := by
  unfold DaemonWorld.startThreads
  split
  · exact hw
  · exact ⟨fun l h => by cases h; exact List.length_replicate _ _,
      fun _ _ h => absurd (hm.symm.trans h) nofun, hw.calls⟩

/-- A poller's step never starts from a terminated poller. -/
theorem pollerStep_not_exited {D : Daemon} {v v' : World} {st : SaneStatus}
    (h : v.pollerStep D st s = some v') : s.pc ≠ .exited := by
  intro hx
  unfold World.pollerStep at h
  rw [hx] at h
  cases h

theorem callerStep (hw : w.Inv n) (hc : w.calls[i]? = some c) (h : w.callerStep n i c = some w') :
    w'.Inv n := by
  have hdev := hw.calls c (List.getElem?_mem hc)
  by_cases hpc : c.pc = .lockSane
  · obtain ⟨p, rfl, hp⟩ := callerStep_lockSane h hpc
    exact hw.setCall hc fun _ hd => hp hd
  · have hlt := hdev.2 hpc (callerStep_ne_done h)
    obtain ⟨p, rfl | ⟨s, hs, rfl⟩⟩ := callerStep_cases h
    · exact hw.setCall hc fun _ _ => hlt
    · exact (hw.setSlot hs { s with poll := s.poll.setTrigger c.action } id).setCall
        (w := w.setSlot _ _) hc fun _ _ => hlt

theorem beginLifecycle (hw : w.Inv n) {r : Bool} (h : w.beginLifecycle n r = some w') :
    w'.Inv n := by
  unfold DaemonWorld.beginLifecycle at h
  by_cases hfree : w.saneFree = true
  swap
  · rw [if_neg hfree] at h; cases h
  rw [if_pos hfree] at h
  have hidle : w.main = .idle := by
    simp only [saneFree, Bool.and_eq_true, beq_iff_eq] at hfree
    exact hfree.1
  split at h
  · cases h
    exact ⟨hw.length, fun _ _ h => (nomatch h), hw.calls⟩
  · cases h
    cases r
    · exact hw
    · exact hw.startThreads hidle

theorem mainStep (hw : w.Inv n) (h : w.mainStep n = some w') : w'.Inv n := by
  have hfree : ({ w with threads := none, main := .idle } : DaemonWorld).Inv n :=
    ⟨fun _ h => (nomatch h), fun _ _ h => (nomatch h), hw.calls⟩
  obtain ⟨r, i, s, hs, ⟨-, -, rfl⟩ | ⟨-, -, -, rfl⟩ | ⟨-, rfl⟩ | ⟨hm, hx, -, rfl⟩ |
    ⟨-, -, -, rfl⟩⟩ := mainStep_cases h
  · exact ⟨hw.length, fun _ _ h => (by dsimp only at h; split at h <;> cases h), hw.calls⟩
  · exact ⟨hw.length, fun _ _ h => (nomatch h), hw.calls⟩
  · refine ⟨(hw.setSlot hs { s with cancelPending := true } id).length,
      fun r' i' h' k hk => ?_, hw.calls⟩
    split at h'
    · cases h'
    · cases h'
      exact absurd hk (Nat.not_lt_zero k)
  · -- the pollers joined so far, and device `i`'s
    refine ⟨hw.length, fun r' i' h' k hk => ?_, hw.calls⟩
    cases h'
    rcases Nat.lt_succ_iff_lt_or_eq.mp hk with hk | rfl
    · exact hw.joined r i hm k hk
    · exact ⟨s, hs, hx⟩
  · cases r
    · exact hfree
    · exact hfree.startThreads rfl

/-- **Every event keeps the invariant.** -/
theorem step {Ds : List Daemon} (hw : w.Inv Ds.length) {e : DaemonEvent}
    (h : w.step Ds e = some w') : w'.Inv Ds.length := by
  unfold DaemonWorld.step at h
  split at h
  · cases h
  split at h
  · rename_i j st
    unfold DaemonWorld.pollerStep at h
    split at h
    · rename_i D s hD hs
      obtain ⟨v, hv, rfl⟩ := Option.map_eq_some'.mp h
      exact (hw.setSlot hs _ fun hx => absurd hx (pollerStep_not_exited hv)).congr rfl rfl rfl
    · cases h
  · rename_i d a
    cases h
    split
    · exact hw.congr rfl rfl rfl
    · refine ⟨hw.length, hw.joined, fun c hc => ?_⟩
      rcases List.mem_append.mp hc with hc | hc
      · exact hw.calls c hc
      · rw [List.mem_singleton.mp hc]
        exact ⟨show 0 ≤ d by omega, fun h => absurd rfl h⟩
  · obtain ⟨c, hc, h⟩ := Option.bind_eq_some.mp h
    exact hw.callerStep hc h
  · exact hw.beginLifecycle h
  · exact hw.beginLifecycle h
  · exact hw.mainStep h
  · split at h
    · cases h
      exact hw.congr rfl rfl rfl
    · cases h

end Inv

end DaemonWorld

namespace DaemonWorld

variable {Ds : List Daemon} {D : Daemon} {k : Nat}

theorem run_cons (w : DaemonWorld) (e : DaemonEvent) (es : List DaemonEvent) :
    run Ds w (e :: es) = (w.step Ds e).bind fun w₁ => run Ds w₁ es := by
  simp only [run, List.foldlM_cons]
  rfl

/-- What every step keeps holds along every run. -/
theorem run_preserves {P : DaemonWorld → Prop}
    (hP : ∀ {w w' : DaemonWorld} {e : DaemonEvent}, P w → w.step Ds e = some w' → P w') :
    ∀ {w w' : DaemonWorld} (es : List DaemonEvent), P w → run Ds w es = some w' → P w'
  | _, _, [], hw, h => by cases h; exact hw
  | w, _, e :: es, hw, h => by
    rw [run_cons] at h
    obtain ⟨w₁, h₁, h⟩ := Option.bind_eq_some.mp h
    exact run_preserves hP es (hP hw h₁) h

/-- Along a run each device runs the one-device model, its opens returning what the daemon's
opens return. -/
theorem run_devices (hk : Ds[k]? = some D) {ok : SaneStatus → Prop} :
    ∀ {w w' : DaemonWorld} (es : List DaemonEvent), w.Inv Ds.length →
      (∀ j st, DaemonEvent.poller j st ∈ es → ok st) → run Ds w es = some w' →
      DeviceRuns D k ok w w'
  | _, _, [], _, _, h => by
    cases h
    exact ⟨[], fun _ _ ha => absurd ha (List.not_mem_nil _),
      fun _ ha => absurd ha (List.not_mem_nil _), rfl⟩
  | w, _, e :: es, hw, hok, h => by
    rw [run_cons] at h
    obtain ⟨w₁, h₁, h⟩ := Option.bind_eq_some.mp h
    exact (device_step hk hw (fun j st he => hok j st (he ▸ List.mem_cons_self _ _)) h₁).trans
      (run_devices hk es (hw.step h₁) (fun j st hm => hok j st (List.mem_cons_of_mem _ hm)) h)

theorem reachable_inv {w : DaemonWorld} (hw : DaemonReachable Ds w) : w.Inv Ds.length := by
  obtain ⟨es, h⟩ := hw
  exact run_preserves (fun hw h => Inv.step hw h) es Inv.init h

end DaemonWorld

/-! ## Two sample devices -/

/-- Two sample devices, the first pressed in the poll after its second query and the second
after its fourth. -/
def twoDevices : List Daemon := [sampleDaemon 2, sampleDaemon 4]

/-- The daemon starts both pollers. Device 0's rule 0 fires and its script runs; meanwhile
device 1's poller compiles its rules and runs one iteration, a call
`sane_trigger_action(1, 1)` sets device 1's trigger, and a call `sane_trigger_action(2, 0)`
for a device that does not exist returns. -/
def twoDevicesRun : List DaemonEvent :=
  [.start, .poller 0 .good, .poller 0 .good, .poller 0 .good, .poller 0 .good,
    .poller 1 .good, .poller 1 .good, .poller 1 .good, .poller 1 .good, .poller 1 .good,
    .call 1 1, .call 2 0, .caller 0, .caller 0, .caller 1]

def twoDevicesWorld : DaemonWorld :=
  (DaemonWorld.run twoDevices DaemonWorld.init twoDevicesRun).getD DaemonWorld.init

/-- After `twoDevicesRun` a call `sane_trigger_action(1, 0)` finds device 1's action active and
waits; then a call `sane_trigger_action(0, 1)` for the other device comes. -/
def blockedRun : List DaemonEvent := twoDevicesRun ++ [.call 1 0, .caller 2, .caller 2, .call 0 1]

def blockedWorld : DaemonWorld :=
  (DaemonWorld.run twoDevices DaemonWorld.init blockedRun).getD DaemonWorld.init

/-- Both pollers start and are stopped: the main thread requests both cancellations, each
poller acts on its request at the top of its loop, and the main thread joins device 0's
poller. -/
def stopRun : List DaemonEvent :=
  [.start, .stop, .main, .main, .main, .main, .poller 0 .good, .poller 0 .good, .poller 1 .good,
    .poller 1 .good, .main]

def stopWorld : DaemonWorld :=
  (DaemonWorld.run twoDevices DaemonWorld.init stopRun).getD DaemonWorld.init

/-- **Every device of the daemon is a run of the one-device model.** In every reachable state
of the daemon with the devices `Ds`, under any interleaving of the pollers of all devices, the
calls of `sane_trigger_action` for any device number, and the main thread's
`start_sane_threads` and `stop_sane_threads` over all devices, each device `k` (its slot, the
calls for it, the main thread at its place in the loops of `stop_sane_threads`, its script
children and dispatches) is a reachable world of the one-device model of `Scanbd.Threads`. -/
theorem daemon_device_reachable (Ds : List Daemon) {w : DaemonWorld} (hw : DaemonReachable Ds w)
    {k : Nat} {D : Daemon} (hk : Ds[k]? = some D) : Reachable D (w.device k) := by
  obtain ⟨es, h⟩ := hw
  obtain ⟨es', -, -, h'⟩ :=
    DaemonWorld.run_devices hk es DaemonWorld.Inv.init (fun _ _ _ => trivial) h
  exact ⟨es', h'⟩

theorem daemon_device_reachable_two :
    DaemonReachable twoDevices twoDevicesWorld ∧
      (twoDevicesWorld.slot 1).map (·.poll.triggered) = some true ∧
      Reachable (sampleDaemon 4) (twoDevicesWorld.device 1) :=
  have hw : DaemonReachable twoDevices twoDevicesWorld := ⟨twoDevicesRun, rfl⟩
  ⟨hw, rfl, daemon_device_reachable twoDevices hw rfl⟩

/-! ## `sane_mutex` across the devices -/

namespace DaemonWorld

/-- `sane_mutex` over all devices: at most one call holds it, and none while the main thread
is in a lifecycle operation. -/
structure SaneExclusive (w : DaemonWorld) : Prop where
  one : ∀ (i j : Nat) (c c' : Call), w.calls[i]? = some c → w.calls[j]? = some c' →
    c.pc.holdsSane = true → c'.pc.holdsSane = true → i = j
  main : w.main ≠ .idle → ∀ c ∈ w.calls, c.pc.holdsSane = false

namespace SaneExclusive

variable {Ds : List Daemon} {n i : Nat} {c : Call} {w w' : DaemonWorld}

theorem init : DaemonWorld.init.SaneExclusive :=
  ⟨fun _ _ _ _ h => (nomatch h), fun _ _ h => (nomatch h)⟩

/-- A free `sane_mutex` is held by no call. -/
theorem not_holds_of_saneFree (h : w.saneFree = true) {c : Call} (hc : c ∈ w.calls) :
    c.pc.holdsSane = false := by
  simp only [saneFree, Bool.and_eq_true, List.all_eq_true, Bool.not_eq_true'] at h
  exact h.2 c hc

theorem main_idle_of_saneFree (h : w.saneFree = true) : w.main = .idle := by
  simp only [saneFree, Bool.and_eq_true, beq_iff_eq] at h
  exact h.1

/-- A call steps only while it holds `sane_mutex` or when `sane_mutex` is free. -/
theorem callerStep_holds_or_free (h : w.callerStep n i c = some w') :
    c.pc.holdsSane = true ∨ w.saneFree = true := by
  unfold callerStep at h
  cases hpc : c.pc with
  | lockSane =>
    simp only [hpc] at h
    by_cases hfree : w.saneFree = true
    · exact .inr hfree
    · rw [if_neg hfree] at h; cases h
  | waitThreads =>
    simp only [hpc] at h
    by_cases hfree : w.saneFree = true
    · exact .inr hfree
    · rw [if_neg (by simp [hfree])] at h; cases h
  | lockSlot | waitIdle => exact .inl rfl
  | done => simp [hpc] at h

/-- Replacing call `i` by one that holds `sane_mutex` only if the old one did or it was free. -/
theorem setCall (hx : w.SaneExclusive) (hc : w.calls[i]? = some c) {c' : Call}
    (hhold : c'.pc.holdsSane = true → c.pc.holdsSane = true ∨ w.saneFree = true) :
    (w.setCall i c').SaneExclusive where
  one a b x y hx' hy' hxh hyh := by
    -- a holder of the new list is call `i` or a holder of the old one
    have old : ∀ (a : Nat) (x : Call), (w.setCall i c').calls[a]? = some x → a ≠ i →
        w.calls[a]? = some x :=
      fun a x h ha => by simpa [DaemonWorld.setCall, List.getElem?_set_ne (Ne.symm ha)] using h
    have new : ∀ x, (w.setCall i c').calls[i]? = some x → x = c' := fun x h => by
      rw [show (w.setCall i c').calls = w.calls.set i c' from rfl,
        List.getElem?_set_self (List.getElem?_eq_some_iff.mp hc).1] at h
      exact (Option.some.inj h).symm
    have other : ∀ b y, w.calls[b]? = some y → y.pc.holdsSane = true → c'.pc.holdsSane = true →
        i = b := fun b y hy hyh hc' => by
      rcases hhold hc' with hch | hfree
      · exact hx.one i b c y hc hy hch hyh
      · rw [not_holds_of_saneFree hfree (List.getElem?_mem hy)] at hyh
        cases hyh
    by_cases ha : a = i <;> by_cases hb : b = i
    · rw [ha, hb]
    · subst ha
      obtain rfl := new x hx'
      exact other b y (old b y hy' hb) hyh hxh
    · subst hb
      obtain rfl := new y hy'
      exact (other a x (old a x hx' ha) hxh hyh).symm
    · exact hx.one a b x y (old a x hx' ha) (old b y hy' hb) hxh hyh
  main hm x hxm := by
    rcases List.mem_or_eq_of_mem_set hxm with hx' | rfl
    · exact hx.main hm x hx'
    · cases hh : x.pc.holdsSane
      · rfl
      · rcases hhold hh with hch | hfree
        · rw [hx.main hm c (List.getElem?_mem hc)] at hch
          cases hch
        · exact absurd (main_idle_of_saneFree hfree) hm

/-- The invariant reads only the calls and the main thread. -/
theorem congr (hx : w.SaneExclusive) (hc : w'.calls = w.calls) (hm : w'.main = w.main) :
    w'.SaneExclusive :=
  ⟨hc ▸ hx.one, hm ▸ hc ▸ hx.main⟩

/-- A new call has not taken `sane_mutex`. -/
theorem append (hx : w.SaneExclusive) {c : Call} (hc : c.pc.holdsSane = false) :
    { w with calls := w.calls ++ [c] }.SaneExclusive := by
  have old : ∀ (a : Nat) (x : Call), (w.calls ++ [c])[a]? = some x → x.pc.holdsSane = true →
      w.calls[a]? = some x :=
    fun a x h hh => by
      by_cases ha : a < w.calls.length
      · rwa [List.getElem?_append_left ha] at h
      · rw [List.getElem?_append_right (by omega)] at h
        rw [List.mem_singleton.mp (List.getElem?_mem h), hc] at hh
        cases hh
  refine ⟨fun a b x y hx' hy' hxh hyh => hx.one a b x y (old a x hx' hxh) (old b y hy' hyh) hxh hyh,
    fun hm x hxm => ?_⟩
  rcases List.mem_append.mp hxm with hxm | hxm
  · exact hx.main hm x hxm
  · rw [List.mem_singleton.mp hxm, hc]

theorem startThreads_calls_main (w : DaemonWorld) (n : Nat) :
    (w.startThreads n).calls = w.calls ∧ (w.startThreads n).main = w.main := by
  unfold DaemonWorld.startThreads
  split <;> exact ⟨rfl, rfl⟩

/-- The main thread's steps leave the calls, and start from a lifecycle operation. -/
theorem mainStep_calls (h : w.mainStep n = some w') : w'.calls = w.calls ∧ w.main ≠ .idle := by
  obtain ⟨r, i, s, -, ⟨hm, -, rfl⟩ | ⟨hm, -, -, rfl⟩ | ⟨hm, rfl⟩ | ⟨hm, -, -, rfl⟩ |
    ⟨hm, -, -, rfl⟩⟩ := mainStep_cases h
  all_goals refine ⟨?_, by rw [hm]; nofun⟩
  all_goals first | rfl | (cases r <;> first | rfl | exact (startThreads_calls_main _ _).1)

/-- The main thread enters a lifecycle operation only once `sane_mutex` is free. -/
theorem beginLifecycle (hx : w.SaneExclusive) {r : Bool} (h : w.beginLifecycle n r = some w') :
    w'.SaneExclusive := by
  unfold DaemonWorld.beginLifecycle at h
  by_cases hfree : w.saneFree = true
  swap
  · rw [if_neg hfree] at h; cases h
  rw [if_pos hfree] at h
  split at h
  · cases h
    exact ⟨hx.one, fun _ c hc => not_holds_of_saneFree hfree hc⟩
  · cases h
    cases r
    · exact hx
    · exact hx.congr (startThreads_calls_main w n).1 (startThreads_calls_main w n).2

/-- **Every event keeps `sane_mutex` exclusive.** -/
theorem step (hx : w.SaneExclusive) {e : DaemonEvent} (h : w.step Ds e = some w') :
    w'.SaneExclusive := by
  unfold DaemonWorld.step at h
  split at h
  · cases h
  split at h
  · unfold DaemonWorld.pollerStep at h
    split at h
    · obtain ⟨v, -, rfl⟩ := Option.map_eq_some'.mp h
      exact hx.congr rfl rfl
    · cases h
  · cases h
    split
    · exact hx.congr rfl rfl
    · exact hx.append rfl
  · obtain ⟨c, hc, h⟩ := Option.bind_eq_some.mp h
    have hhold := callerStep_holds_or_free h
    obtain ⟨p, rfl | ⟨s, -, rfl⟩⟩ := callerStep_cases h
    · exact hx.setCall hc fun _ => hhold
    · exact setCall (hx.congr rfl rfl : (w.setSlot _ _).SaneExclusive) hc fun _ => hhold
  · exact hx.beginLifecycle h
  · exact hx.beginLifecycle h
  · obtain ⟨hc, hm⟩ := mainStep_calls h
    exact ⟨hc ▸ hx.one, fun _ => hc ▸ hx.main hm⟩
  · split at h
    · cases h
      exact hx.congr rfl rfl
    · cases h

end SaneExclusive

end DaemonWorld

namespace DaemonWorld

theorem reachable_saneExclusive {Ds : List Daemon} {w : DaemonWorld}
    (hw : DaemonReachable Ds w) : w.SaneExclusive := by
  obtain ⟨es, h⟩ := hw
  exact run_preserves (fun hx h => SaneExclusive.step hx h) es SaneExclusive.init h

end DaemonWorld

/-- **A call waiting for one device's action blocks every device.** In every reachable
daemon, while a call of `sane_trigger_action` waits for the active action of its device to
end (line 1240: `pthread_cond_wait` on that device's `cv` releases the device's mutex but not
`sane_mutex`), it is the only call that holds `sane_mutex`: no call for any device can take
`sane_mutex`, and `start_sane_threads` and `stop_sane_threads` cannot begin. -/
theorem waiting_call_blocks_every_device (Ds : List Daemon) {w : DaemonWorld}
    (hw : DaemonReachable Ds w) {i : Nat} {c : Call} (hc : w.calls[i]? = some c)
    (hpc : c.pc = .waitIdle) :
    (∀ j c', w.calls[j]? = some c' → c'.pc.holdsSane = true → j = i) ∧
    (∀ j c', w.calls[j]? = some c' → (c'.pc = .lockSane ∨ c'.pc = .waitThreads) →
      w.step Ds (.caller j) = none) ∧
    w.step Ds .start = none ∧ w.step Ds .stop = none := by
  have hx := DaemonWorld.reachable_saneExclusive hw
  have hholds : c.pc.holdsSane = true := by rw [hpc]; rfl
  have hbusy : w.saneFree = false := by
    cases hf : w.saneFree
    · rfl
    · rw [DaemonWorld.SaneExclusive.not_holds_of_saneFree hf (List.getElem?_mem hc)] at hholds
      cases hholds
  refine ⟨fun j c' hc' hh => hx.one j i c' c hc' hc hh hholds, fun j c' hc' hpc' => ?_, ?_, ?_⟩
  · unfold DaemonWorld.step
    split
    · rfl
    · dsimp only
      rw [hc', Option.some_bind]
      unfold DaemonWorld.callerStep
      rcases hpc' with hpc' | hpc' <;> simp [hpc', hbusy]
  all_goals
    unfold DaemonWorld.step
    split
    · rfl
    · simp [DaemonWorld.beginLifecycle, hbusy]

theorem waiting_call_blocks_device_zero :
    DaemonReachable twoDevices blockedWorld ∧ blockedWorld.calls[2]? = some ⟨1, 0, .waitIdle⟩ ∧
      blockedWorld.calls[3]? = some ⟨0, 1, .lockSane⟩ ∧
      blockedWorld.step twoDevices (.caller 3) = none :=
  have hw : DaemonReachable twoDevices blockedWorld := ⟨blockedRun, rfl⟩
  ⟨hw, rfl, rfl,
    (waiting_call_blocks_every_device twoDevices hw (i := 2) rfl rfl).2.1 3 _ rfl (.inl rfl)⟩

/-- **No poller outlives the thread list.** In every reachable daemon, the step of the main
thread that ends `stop_sane_threads` (its last `pthread_join`, after which
`sane_poll_threads` is freed) is taken only when the poller of every device has terminated. -/
theorem stop_joins_every_poller (Ds : List Daemon) {w w' : DaemonWorld}
    (hw : DaemonReachable Ds w) (h : w.step Ds .main = some w') (hidle : w'.main = .idle) :
    ∀ k < Ds.length, ∃ s, w.slot k = some s ∧ s.pc = .exited := by
  have hinv := DaemonWorld.reachable_inv hw
  unfold DaemonWorld.step at h
  split at h
  · cases h
  obtain ⟨r, i, s, hs, ⟨-, -, rfl⟩ | ⟨-, -, -, rfl⟩ | ⟨-, rfl⟩ | ⟨-, -, -, rfl⟩ |
    ⟨hm, hx, hn, -⟩⟩ := DaemonWorld.mainStep_cases h
  · dsimp only at hidle
    split at hidle <;> cases hidle
  · cases hidle
  · dsimp only [DaemonWorld.setSlot] at hidle
    split at hidle <;> cases hidle
  · cases hidle
  · -- the last join: the pollers joined before it, and device `i`'s
    intro k hk
    rcases Nat.lt_or_ge k i with hki | hki
    · exact hinv.joined r i hm k hki
    · obtain rfl : k = i := by omega
      exact ⟨s, hs, hx⟩

theorem stop_joins_every_poller_two :
    DaemonReachable twoDevices stopWorld ∧
      stopWorld.step twoDevices .main = some ((stopWorld.step twoDevices .main).getD stopWorld) ∧
      ((stopWorld.step twoDevices .main).getD stopWorld).main = .idle ∧
      ∀ k < twoDevices.length, ∃ s, stopWorld.slot k = some s ∧ s.pc = .exited :=
  have hw : DaemonReachable twoDevices stopWorld := ⟨stopRun, rfl⟩
  ⟨hw, rfl, rfl, stop_joins_every_poller twoDevices hw rfl rfl⟩

end Scanbd
