import Scanbd.Pass

/-!
# Scanbd — the threads around one device

For each device the daemon runs a poller thread (`sane_poll`), which owns the device's slot
`sane_thread_t` while it holds the slot's mutex. Two other kinds of thread touch the slot:
the callers of `sane_trigger_action` (the D-Bus thread), and the main thread, whose signal
handlers call `stop_sane_threads` and `start_sane_threads`. This module models their
interleavings around one device as a transition system on `World`. An event is the next
critical section of one thread, up to the next point at which another thread can act: a lock,
a wait on a condition variable, or a cancellation point.

One device suffices. The threads of other devices touch this slot only through
`sane_mutex`, and holding it longer can only block the threads here. So every behaviour of a
slot appears with one device, and every run with one device is a run of the daemon. Other
threads hold `st->mutex` only inside one of their events, so whether it is held is read off
the poller's program point (`PollerPc.holdsMutex`). Likewise `sane_mutex` is read off where
the main thread and the callers are (`World.saneFree`).

* `PollerPc`, `CallerPc`, `MainPc` — where each thread is;
* `Slot` — `sane_thread_t` with its poller's control state;
* `World.step`, `World.run`, `Reachable` — events, runs from the daemon's start;
* `Event.polling` — the poller's and its script children's events when the device reopens;
* `sampleDaemon` — the sample device of `Scanbd.Pass` around its threads, on which the later
  modules run their examples.

The ghost fields record what the code does not keep: the generation of each slot, the
generations whose script child is running, the dispatches made, whether the mutex cleanup
handler unlocked a mutex its thread did not hold, and whether the last reopen failed.

`Scanbd.Invariant` states what every reachable world satisfies, `Scanbd.Races` what follows
for the slot and where the code goes wrong, and `Scanbd.Refinement` connects the poller to the
sequential loop of `Scanbd.Pass`.
-/

namespace Scanbd

/-! ## Threads and where they are -/

/-- The statuses of `sane_open` that `sane_poll` tells apart (`SANE_Status` of `sane.h`, not in
`src/`): success, `SANE_STATUS_ACCESS_DENIED`, and every other failure. -/
inductive SaneStatus where
  | good
  | accessDenied
  | other
  deriving DecidableEq, Repr

/-- `st->h`: an open handle, or `NULL`. `start_sane_threads` and the close before a dispatch
set it to `NULL`. -/
inductive Handle where
  | opened
  | null
  deriving DecidableEq, Repr

/-- Where the poller is: one constructor per point at which another thread can act. -/
inductive PollerPc where
  /-- line 627: created, about to lock `st->mutex`, open the device and compile the rules -/
  | lockInit
  /-- line 762: at `pthread_testcancel`, holding `st->mutex` -/
  | loopTop
  /-- line 773: about to run rule `si`, holding `st->mutex` -/
  | rule (si : Nat)
  /-- line 1043: in the `usleep` before the fork of rule `si`'s script, `st->mutex` released -/
  | preFork (si : Nat)
  /-- line 1052: in `waitpid` for the script child -/
  | waitChild (si : Nat)
  /-- line 1127: about to lock `st->mutex` and clear the trigger -/
  | lockClear (si : Nat)
  /-- line 1141: in the `usleep` after clearing, then locking and reopening (line 1158) -/
  | settle (si : Nat)
  /-- line 1170: in the `usleep` between two iterations, then locking (line 1175) -/
  | pollSleep
  /-- the thread has terminated -/
  | exited
  deriving DecidableEq, Repr

namespace PollerPc

/-- The poller holds `st->mutex` at the loop top and over the rule loop. -/
def holdsMutex : PollerPc → Bool
  | loopTop | rule _ => true
  | _ => false

/-- The points of the polling loop proper: the device is in use. -/
def polling : PollerPc → Bool
  | loopTop | rule _ | pollSleep => true
  | _ => false

theorem polling_of_holdsMutex {pc : PollerPc} (h : pc.holdsMutex = true) : pc.polling = true := by
  cases pc <;> simp_all [holdsMutex, polling]

/-- The points between the close before a dispatch and the reopen after it. -/
def dispatching : PollerPc → Bool
  | preFork _ | waitChild _ | lockClear _ | settle _ => true
  | _ => false

end PollerPc

/-- Where a call `sane_trigger_action(0, action)` is. -/
inductive CallerPc where
  /-- line 1202: about to lock `sane_mutex` -/
  | lockSane
  /-- line 1216: in `pthread_cond_wait(&sane_cv)`, no polling threads -/
  | waitThreads
  /-- line 1229: holding `sane_mutex`, about to lock `st->mutex` -/
  | lockSlot
  /-- line 1240: in `pthread_cond_wait(&st->cv)` holding `sane_mutex`, an action is active -/
  | waitIdle
  /-- returned -/
  | done
  deriving DecidableEq, Repr

/-- A caller holds `sane_mutex` from its lock to its return, except while it waits on
`sane_cv`. -/
def CallerPc.holdsSane : CallerPc → Bool
  | lockSlot | waitIdle => true
  | _ => false

/-- A call of `sane_trigger_action` for the device, with its `action` argument. -/
structure Caller where
  action : Int
  pc : CallerPc
  deriving DecidableEq, Repr

/-- Where the main thread is in `stop_sane_threads`. With `restart`, `start_sane_threads`
called it and creates the new slot once it returns. -/
inductive MainPc where
  /-- in no lifecycle operation -/
  | idle
  /-- line 1352: holding `sane_mutex`, about to lock `st->mutex` -/
  | stopLock (restart : Bool)
  /-- line 1358: in `pthread_cond_wait(&st->cv)`, an action is active -/
  | stopWait (restart : Bool)
  /-- line 1367: `st->mutex` released, about to call `pthread_cancel` -/
  | stopCancel (restart : Bool)
  /-- line 1381: in `pthread_join` of the poller -/
  | stopJoin (restart : Bool)
  deriving DecidableEq, Repr

/-- The slot `sane_poll_threads[0]` with the control state of its poller: the slot's fields
(`poll`, `handle`), where its poller is, its cancelability state and pending cancellation
request. `gen` (which `start_sane_threads` created it) and `reopenFailed` (the last reopen
failed, with a status other than `ACCESS_DENIED`) are ghosts. -/
structure Slot where
  gen : Nat
  poll : PollState
  handle : Handle
  pc : PollerPc
  cancelEnabled : Bool
  cancelPending : Bool
  reopenFailed : Bool

/-- The slot `start_sane_threads` creates (lines 1293-1305): no handle, no rules, no trigger,
and its poller about to start, with cancellation disabled (`CANCEL_TEST`, line 609). -/
def Slot.fresh (gen : Nat) : Slot :=
  ⟨gen, PollState.start (SaneThread.alloc 0), .null, .lockInit, false, false, false⟩

/-- The threads around the device. `children` lists the generation of the slot whose poller
forked each running script child; `dispatches`, the generation and rule of each dispatch;
`badUnlock`, whether the poller's cleanup handler unlocked `st->mutex` without holding it;
`aborted`, whether an assertion failed. -/
structure World where
  slot : Option Slot
  nextGen : Nat
  callers : List Caller
  main : MainPc
  children : List Nat
  dispatches : List (Nat × Nat)
  badUnlock : Bool
  aborted : Bool

/-- The events: the next step of the poller (with what `sane_open` returns if the step opens
the device), a new call of `sane_trigger_action`, the next step of a call, the main thread
entering `start_sane_threads` or `stop_sane_threads` (from a signal handler), the next step of
the main thread, and the exit of a script child. -/
inductive Event where
  | poller (status : SaneStatus)
  | call (action : Int)
  | caller (i : Nat)
  | start
  | stop
  | main
  | childExit (gen : Nat)
  deriving DecidableEq, Repr

/-- What the threads work with: the poller's device, answers, host and regex library, the
configuration, and the device's number of options (the value of its option 0). -/
structure Daemon extends Poller where
  cfg : Cfg
  numOfOptions : Nat

/-- `st->triggered = true; st->triggered_option = action` (lines 1247-1248). -/
def PollState.setTrigger (p : PollState) (action : Int) : PollState :=
  ⟨p.tables, true, action, p.queries⟩

/-! ## One step of each thread -/

namespace World

/-- The daemon before `main` starts the polling threads. -/
def init : World := ⟨none, 0, [], .idle, [], [], false, false⟩

/-- `sane_mutex` is free: the main thread is in no lifecycle operation and no caller holds
it. -/
def saneFree (w : World) : Bool := w.main == .idle && w.callers.all fun c => !c.pc.holdsSane

def setSlot (w : World) (s : Slot) : World := { w with slot := some s }

def setCaller (w : World) (i : Nat) (c : Caller) : World :=
  { w with callers := w.callers.set i c }

/-- A failed assertion aborts the process. -/
def abort (w : World) : World := { w with aborted := true }

/-- The poller terminates, by `pthread_exit` or by acting on a cancellation request. The
cleanup handler `sane_thread_cleanup_mutex` (lines 257-265) unlocks `st->mutex` whether or not
the poller holds it (`held`). -/
def exitPoller (w : World) (s : Slot) (held : Bool) : World :=
  { w with slot := some { s with pc := .exited }, badUnlock := w.badUnlock || !held }

/-- The rule loop's body for rule `si` (lines 772-1166) up to the unlock: the end of the loop,
the rule step, and, when a trigger is pending, the dispatch up to the unlock before the
script. The dispatch closes the handle and forks only when the script is not
`SCANBD_NULL_STRING` (line 1048). On the `NULL` handle a failed reopen left, the library's
reads do nothing: `sane_get_option_descriptor` returns `NULL` and `assert(odesc)` (line 775)
fails. -/
def ruleSegment (D : Daemon) (w : World) (s : Slot) (si : Nat) : World :=
  if s.poll.tables.numOfOptionsWithScripts ≤ si then w.setSlot { s with pc := .pollSleep }
  else if s.handle = .null then w.abort
  else
    match ruleStep D.lib D.dev D.σ s.poll si with
    | none => w.abort
    | some (none, p) => w.setSlot { s with poll := p, pc := .rule (si + 1) }
    | some (some odesc, p) =>
      -- line 866 enables cancellation once the value is stored
      if p.triggered && decide (0 ≤ p.triggeredOption) then
        match dispatchBegin D.toPoller odesc p with
        | none => w.abort
        | some (d, q) =>
          { w with dispatches := w.dispatches ++ [(s.gen, d.rule)] }.setSlot
            { s with poll := q, handle := .null, cancelEnabled := true,
                     pc := if d.script = scanbdNullString then .lockClear si else .preFork si }
      else w.setSlot { s with poll := p, cancelEnabled := true, pc := .rule (si + 1) }

/-- The poller's next step. At a blocking cancellation point (`usleep`, `waitpid`) a pending
request is acted upon when cancellation is enabled; `pthread_testcancel` acts on it
regardless, since line 757 enabled cancellation. -/
def pollerStep (D : Daemon) (status : SaneStatus) (w : World) (s : Slot) : Option World :=
  match s.pc with
  | .lockInit =>
    match status with
    | .good =>
      if D.numOfOptions = 0 then some (w.exitPoller { s with handle := .opened } true)
      else
        match compileRules D.lib D.dev D.σ D.cfg D.numOfOptions with
        | none => some w.abort
        | some st => some (w.setSlot { s with
            poll := ⟨st, s.poll.triggered, s.poll.triggeredOption, s.poll.queries⟩,
            handle := .opened, pc := .loopTop, cancelEnabled := true })
    | _ => some (w.exitPoller s true)
  | .loopTop =>
    if s.cancelPending then some (w.exitPoller s true)
    else some (w.setSlot { s with pc := .rule 0, cancelEnabled := false })
  | .rule si => some (w.ruleSegment D s si)
  | .preFork si =>
    if s.cancelPending && s.cancelEnabled then some (w.exitPoller s false)
    else some ({ w with children := s.gen :: w.children }.setSlot { s with pc := .waitChild si })
  | .waitChild si =>
    if s.cancelPending && s.cancelEnabled then some (w.exitPoller s false)
    else if s.gen ∈ w.children then none
    else some (w.setSlot { s with pc := .lockClear si })
  | .lockClear si => some (w.setSlot { s with poll := s.poll.clearTrigger, pc := .settle si })
  | .settle si =>
    if s.cancelPending && s.cancelEnabled then some (w.exitPoller s false)
    else
      match status with
      | .good =>
        some (w.setSlot { s with handle := .opened, reopenFailed := false, pc := .rule (si + 1) })
      | .accessDenied => some (w.exitPoller s true)
      | .other => some (w.setSlot { s with reopenFailed := true, pc := .rule (si + 1) })
  | .pollSleep =>
    if s.cancelPending && s.cancelEnabled then some (w.exitPoller s false)
    else some (w.setSlot { s with pc := .loopTop, cancelEnabled := true })
  | .exited => none

/-- The next step of call `i` of `sane_trigger_action` (lines 1197-1265). The action is
checked against the count once, before the wait for an active action to end. -/
def callerStep (w : World) (i : Nat) (c : Caller) : Option World :=
  match c.pc with
  | .lockSane =>
    if w.saneFree then
      some (w.setCaller i { c with pc := if w.slot.isSome then .lockSlot else .waitThreads })
    else none
  | .waitThreads =>
    if w.saneFree && w.slot.isSome then some (w.setCaller i { c with pc := .lockSlot }) else none
  | .lockSlot =>
    match w.slot with
    | none => none
    | some s =>
      if s.pc.holdsMutex then none
      else if (s.poll.tables.numOfOptionsWithScripts : Int) ≤ c.action then
        some (w.setCaller i { c with pc := .done })
      else if s.poll.triggered then some (w.setCaller i { c with pc := .waitIdle })
      else some ((w.setSlot { s with poll := s.poll.setTrigger c.action }).setCaller i
        { c with pc := .done })
  | .waitIdle =>
    match w.slot with
    | none => none
    | some s =>
      if s.pc.holdsMutex || s.poll.triggered then none
      else some ((w.setSlot { s with poll := s.poll.setTrigger c.action }).setCaller i
        { c with pc := .done })
  | .done => none

/-- `start_sane_threads` creates a slot (lines 1289-1318). -/
def startSlot (w : World) : World :=
  { w with slot := some (Slot.fresh w.nextGen), nextGen := w.nextGen + 1 }

/-- The main thread enters `start_sane_threads` (`restart`) or `stop_sane_threads` once
`sane_mutex` is free. With no slot, stop has nothing to do and start creates one.

The model's runs are those in which the two operations do not nest. `sane_mutex` is recursive,
so a signal handler's stop or start entered while the main thread is inside another one takes
it again; `Scanbd.Signals` shows that this happens only inside main's initial
`start_sane_threads` or under a `SIGTERM` or `SIGINT` handler, which end the process. -/
def beginLifecycle (w : World) (restart : Bool) : Option World :=
  if w.saneFree then
    match w.slot with
    | some _ => some { w with main := .stopLock restart }
    | none => some (if restart then w.startSlot else w)
  else none

/-- The next step of the main thread in `stop_sane_threads` (lines 1343-1420): wait for the
slot's active action to end, request the poller's cancellation, join it, free the slot. -/
def mainStep (w : World) : Option World :=
  match w.main, w.slot with
  | .stopLock r, some s =>
    if s.pc.holdsMutex then none
    else some { w with main := if s.poll.triggered then .stopWait r else .stopCancel r }
  | .stopWait r, some s =>
    if s.pc.holdsMutex || s.poll.triggered then none
    else some { w with main := .stopCancel r }
  | .stopCancel r, some s => some ({ w with main := .stopJoin r }.setSlot
      { s with cancelPending := true })
  | .stopJoin r, some s =>
    if s.pc = .exited then
      let w' := { w with slot := none, main := .idle }
      some (if r then w'.startSlot else w')
    else none
  | _, _ => none

/-- One event; `none` when it cannot happen now. -/
def step (D : Daemon) (w : World) (e : Event) : Option World :=
  if w.aborted then none
  else
    match e with
    | .poller status => w.slot.bind (w.pollerStep D status)
    | .call a =>
      -- `assert(action >= 0)`
      some (if a < 0 then w.abort else { w with callers := w.callers ++ [⟨a, .lockSane⟩] })
    | .caller i => w.callers[i]?.bind (w.callerStep i)
    | .start => w.beginLifecycle true
    | .stop => w.beginLifecycle false
    | .main => w.mainStep
    | .childExit g =>
      if g ∈ w.children then some { w with children := w.children.erase g } else none

/-- The world after a sequence of events, if each can happen in turn. -/
def run (D : Daemon) (w : World) (es : List Event) : Option World := es.foldlM (step D) w

end World

/-- The worlds some sequence of events reaches from the daemon's start. -/
def Reachable (D : Daemon) (w : World) : Prop := ∃ es, World.run D World.init es = some w

/-- Runs compose. -/
theorem World.run_append (D : Daemon) (w : World) (es es' : List Event) :
    World.run D w (es ++ es') = (World.run D w es).bind fun w' => World.run D w' es' := by
  simp only [World.run, List.foldlM_append]
  rfl

section Runs

variable {D : Daemon} {w : World} {s : Slot}

theorem run_cons_of_step {e : Event} {es : List Event} {w₁ : World}
    (h : World.step D w e = some w₁) : World.run D w (e :: es) = World.run D w₁ es := by
  simp only [World.run, List.foldlM_cons, h]
  rfl

theorem step_poller (hab : w.aborted = false) (hs : w.slot = some s) (st : SaneStatus) :
    World.step D w (.poller st) = w.pollerStep D st s := by
  simp [World.step, hab, hs]

end Runs

/-- The events of the poller and of its script children, every open and reopen of the device
succeeding. -/
def Event.polling : Event → Bool
  | .poller .good | .childExit _ => true
  | _ => false

/-! ## The sample device -/

/-- The daemon around the sample device of three options, on the sample host, with the button
pressed at read `k`. Its rules are the scan action on the button (rule 0, whose script is
forked) and the mode action (rule 1); the compile reads the device twice, and each iteration
reads it twice more. -/
def sampleDaemon (k : Nat) : Daemon :=
  { toPoller := { samplePoller with σ := pressedAt k }, cfg := sampleCfg, numOfOptions := 3 }

end Scanbd
