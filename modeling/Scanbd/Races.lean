import Scanbd.Invariant

/-!
# Scanbd — the slot under every interleaving

What `Inv` gives for the slot in every reachable world, and the runs on the sample device where
the code goes wrong. The runs are given beside the first result that replays them; the later
modules replay them too.

## Results

* `reachable_trigger_ok` — `triggered` and `triggered_option` agree, and the dispatch site's
  index assertions hold;
* `reachable_handle_discipline` — the poller holds the slot on an open handle unless its last
  reopen failed, and holds no open handle while its script child runs;
* `poller_aborts_on_null_handle` — after a failed reopen the next rule aborts the process, and
  across a reload a script child runs while the new poller holds an open handle;
* `reachable_one_script` — each poller has at most one script child running, though across a
  reload the scripts of two pollers may run at once;
* `hung_run` — once the poller has terminated with a trigger pending, a stop that is waiting
  for the trigger waits forever;
* `lost_device_exits_cleanly` — when the reopen after a dispatch is denied, the poller
  terminates holding its mutex with its handle closed, and no later event dispatches for it;
* runs on the sample device where an external trigger is lost, the poller terminates with a
  trigger pending, and cancellation acts outside the loop top.
-/

namespace Scanbd

/-! ## The trigger index -/

/-- **The trigger index invariant.** In every reachable world a pending trigger names a rule
below the count, inside `opts`, and no pending trigger means `triggered_option = -1`. So at the
dispatch site, reached from a rule step below the count, the index assertions
`triggered_option >= 0` and `triggered_option < num_of_options_with_scripts` hold. -/
theorem reachable_trigger_ok (D : Daemon) {w : World} (hw : Reachable D w) {s : Slot}
    (hs : w.slot = some s) :
    (s.poll.triggered = true → 0 ≤ s.poll.triggeredOption ∧
      s.poll.triggeredOption < s.poll.tables.numOfOptionsWithScripts ∧
      s.poll.triggeredOption.toNat < s.poll.tables.opts.length) ∧
    (s.poll.triggered = false → s.poll.triggeredOption = -1) ∧
    ∀ si odesc p, si < s.poll.tables.numOfOptionsWithScripts →
      ruleStep D.lib D.dev D.σ s.poll si = some (some odesc, p) → p.triggered = true →
      0 ≤ p.triggeredOption ∧ p.triggeredOption.toNat < p.tables.numOfOptionsWithScripts := by
  have hS := (reachable_inv hw).slot s hs
  refine ⟨fun ht => ?_, hS.poll.idle, fun si odesc p hsi hr ht => ?_⟩
  · obtain ⟨h0, hlt⟩ := hS.poll.trigger ht
    have := hS.poll.bounds
    rw [s.poll.tables.opts_length]
    omega
  · obtain ⟨h0, hlt⟩ := (hS.poll.ruleStep hsi hr).1.trigger ht
    omega

/-- The daemon starts, the poller compiles and runs one iteration, and a call
`sane_trigger_action(0, 1)` sets the trigger while the poller sleeps. -/
def externalTriggerRun : List Event :=
  [.start, .poller .good, .poller .good, .poller .good, .poller .good, .poller .good,
    .call 1, .caller 0, .caller 0]

/-- The world after `externalTriggerRun`, with the call's trigger pending, and its slot. -/
def calledWorld : World :=
  (World.run (sampleDaemon 4) World.init externalTriggerRun).getD World.init

def calledSlot : Slot := calledWorld.slot.getD (Slot.fresh 0)

theorem reachable_trigger_ok_called :
    Reachable (sampleDaemon 4) calledWorld ∧ calledWorld.slot = some calledSlot ∧
    calledSlot.poll.triggered = true ∧ calledSlot.poll.triggeredOption = 1 ∧
    (calledSlot.poll.triggered = true → 0 ≤ calledSlot.poll.triggeredOption ∧
      calledSlot.poll.triggeredOption < calledSlot.poll.tables.numOfOptionsWithScripts ∧
      calledSlot.poll.triggeredOption.toNat < calledSlot.poll.tables.opts.length) ∧
    (calledSlot.poll.triggered = false → calledSlot.poll.triggeredOption = -1) ∧
    ∀ si odesc p, si < calledSlot.poll.tables.numOfOptionsWithScripts →
      ruleStep (sampleDaemon 4).lib (sampleDaemon 4).dev (sampleDaemon 4).σ calledSlot.poll si =
        some (some odesc, p) → p.triggered = true →
      0 ≤ p.triggeredOption ∧ p.triggeredOption.toNat < p.tables.numOfOptionsWithScripts :=
  have hr : Reachable (sampleDaemon 4) calledWorld := ⟨externalTriggerRun, rfl⟩
  have hs : calledWorld.slot = some calledSlot := rfl
  ⟨hr, hs, by decide, by decide, reachable_trigger_ok (sampleDaemon 4) hr hs⟩

/-! ## The device handle -/

/-- **Handle discipline, as designed.** In every reachable world, where the poller holds the
slot (at the loop top and over the rule loop, where it calls the device library) the handle is
`NULL` exactly when the last reopen failed with a status other than `ACCESS_DENIED`; and while
a script child forked by the slot's poller runs, the slot holds no open handle. -/
theorem reachable_handle_discipline (D : Daemon) {w : World} (hw : Reachable D w) {s : Slot}
    (hs : w.slot = some s) :
    (s.pc.holdsMutex = true → (s.handle = .null ↔ s.reopenFailed = true)) ∧
    (s.gen ∈ w.children → s.handle = .null) := by
  have hinv := reachable_inv hw
  exact ⟨fun hpc => (hinv.slot s hs).handle_iff (PollerPc.polling_of_holdsMutex hpc),
    fun hg => (hinv.forked s hs hg).1⟩

/-- Rule 0 fires in the first iteration and its script runs; the reopen then fails with a
status other than `ACCESS_DENIED`. -/
def reopenRun : List Event :=
  [.start, .poller .good, .poller .good, .poller .good, .poller .good, .childExit 0,
    .poller .good, .poller .good, .poller .other]

/-- The poller runs one iteration; a reload's `stop_sane_threads` finds no trigger, and before
it requests the cancellation the poller wakes, detects the press on rule 0 and forks its
script; the request then acts in `waitpid`. -/
def reloadRun : List Event :=
  [.start, .poller .good, .poller .good, .poller .good, .poller .good, .poller .good, .start,
    .main, .poller .good, .poller .good, .poller .good, .poller .good, .main, .poller .good]

/-- **The poller aborts on `NULL`, and a script child outlives its slot.** After the failed
reopen of `reopenRun` the poller goes on with rule 1 of 2 on the `NULL` handle, and its next
step aborts the process at `assert(odesc)`. And after the cancellation in `waitpid` of
`reloadRun`, the reload's new poller opens the device while the old poller's script child
runs. -/
theorem poller_aborts_on_null_handle :
    ((World.run (sampleDaemon 2) World.init reopenRun).map fun w =>
      w.slot.map fun s => (s.pc, s.poll.tables.numOfOptionsWithScripts, s.handle)) =
      some (some (.rule 1, 2, .null)) ∧
    (World.run (sampleDaemon 2) World.init (reopenRun ++ [.poller .good])).map (·.aborted) =
      some true ∧
    ((World.run (sampleDaemon 4) World.init (reloadRun ++ [.main, .poller .good])).map fun w =>
      (w.children, w.slot.map fun s => (s.gen, s.handle))) = some ([0], some (1, .opened)) :=
  ⟨by decide, by decide, by decide⟩

/-! ## Script children -/

/-- **A poller runs one script at a time.** In every reachable world each poller, that is each
generation of the slot, has at most one script child running: it forks only once its previous
child has exited. -/
theorem reachable_one_script (D : Daemon) {w : World} (hw : Reachable D w) (g : Nat) :
    w.children.count g ≤ 1 :=
  List.nodup_iff_count_le_one.mp (reachable_inv hw).distinct g

/-- After `reloadRun` the new poller starts and, in its second iteration, detects the press
on rule 0 and forks its script while the old poller's script still runs. -/
def overlapRun : List Event := reloadRun ++ .main :: List.replicate 9 (.poller .good)

def overlapWorld : World := (World.run (sampleDaemon 4) World.init overlapRun).getD World.init

theorem reachable_one_script_overlap :
    Reachable (sampleDaemon 4) overlapWorld ∧ overlapWorld.children = [1, 0] ∧
      ∀ g, overlapWorld.children.count g ≤ 1 :=
  have hw : Reachable (sampleDaemon 4) overlapWorld := ⟨overlapRun, rfl⟩
  ⟨hw, rfl, reachable_one_script (sampleDaemon 4) hw⟩

/-! ## A poller that terminates with a trigger pending -/

/-- The main thread waits in `stop_sane_threads` for the trigger of a slot whose poller has
terminated. -/
def Hung (r : Bool) (w : World) : Prop :=
  ∃ s, w.slot = some s ∧ s.pc = .exited ∧ s.poll.triggered = true ∧ w.main = .stopWait r

/-- Nothing can clear the trigger of a terminated poller, and the main thread holds
`sane_mutex` meanwhile: no step ends the wait. -/
theorem Hung.step {D : Daemon} {r : Bool} {w w' : World} (hw : Inv w) (hh : Hung r w)
    {e : Event} (h : World.step D w e = some w') : Hung r w' := by
  obtain ⟨s, hs, hpc, ht, hm⟩ := hh
  have hfree : w.saneFree = false := by simp [World.saneFree, hm]
  unfold World.step at h
  split at h
  · cases h
  split at h
  · obtain ⟨s', hs', h⟩ := Option.bind_eq_some.mp h
    obtain rfl : s = s' := Option.some.inj (hs.symm.trans hs')
    simp [World.pollerStep, hpc] at h
  · cases h
    split
    · exact ⟨s, hs, hpc, ht, hm⟩
    · exact ⟨s, hs, hpc, ht, hm⟩
  · obtain ⟨c, hc, h⟩ := Option.bind_eq_some.mp h
    have hex := hw.exclusive (by rw [hm]; nofun) c (List.getElem?_mem hc)
    unfold World.callerStep at h
    split at h <;> rename_i hpc' <;> simp_all [CallerPc.holdsSane]
  · simp [World.beginLifecycle, hfree] at h
  · simp [World.beginLifecycle, hfree] at h
  · simp [World.mainStep, hm, hs, ht] at h
  · split at h
    · cases h; exact ⟨s, hs, hpc, ht, hm⟩
    · cases h

/-- **Once hung, hung for ever.** -/
theorem hung_run {D : Daemon} {r : Bool} {w : World} (hw : Inv w) (hh : Hung r w) :
    ∀ {es : List Event} {w' : World}, World.run D w es = some w' → Hung r w' := by
  intro es
  induction es generalizing w with
  | nil => intro w' h; cases h; exact hh
  | cons e es ih =>
    intro w' h
    simp only [World.run, List.foldlM_cons] at h
    obtain ⟨w₁, h₁, h⟩ := Option.bind_eq_some.mp h
    exact ih (hw.step h₁) (hh.step hw h₁) h


/-- The poller wakes and its rule 0 reads the button pressed; the script runs, and the trigger
is cleared. -/
def pressRun : List Event :=
  [.poller .good, .poller .good, .poller .good, .poller .good, .childExit 0, .poller .good,
    .poller .good]

/-- Rule 0 fires in the first iteration and its script runs; once the trigger is cleared a
call `sane_trigger_action(0, 1)` sets it again, and the reopen is denied. -/
def deniedRun : List Event :=
  [.start, .poller .good, .poller .good, .poller .good, .poller .good, .childExit 0,
    .poller .good, .poller .good, .call 1, .caller 0, .caller 0, .poller .accessDenied]

/-- **An external trigger is lost, and a poller terminates with a trigger pending.** After a
call sets the trigger on action 1, the poller's next dispatch is of rule 0, which it detected
meanwhile, and the trigger on action 1 is cleared without a dispatch. And after a denied
reopen the poller has terminated with the trigger set: a `stop_sane_threads` entered then
waits for ever. -/
theorem external_trigger_lost :
    ((World.run (sampleDaemon 4) World.init externalTriggerRun).map fun w =>
      (w.slot.map fun s => (s.poll.triggered, s.poll.triggeredOption), w.dispatches)) =
      some (some (true, 1), []) ∧
    ((World.run (sampleDaemon 4) World.init (externalTriggerRun ++ pressRun)).map fun w =>
      (w.slot.map fun s => (s.poll.triggered, s.poll.triggeredOption), w.dispatches)) =
      some (some (false, -1), [(0, 0)]) ∧
    ((World.run (sampleDaemon 2) World.init deniedRun).map fun w =>
      w.slot.map fun s => (s.pc, s.poll.triggered, s.poll.triggeredOption)) =
      some (some (.exited, true, 1)) ∧
    ∀ es w', World.run (sampleDaemon 2) World.init (deniedRun ++ [.stop, .main] ++ es) =
      some w' → w'.main = .stopWait false := by
  refine ⟨by decide, by decide, by decide, fun es w' h => ?_⟩
  rw [World.run_append] at h
  obtain ⟨w₀, h₀, h⟩ := Option.bind_eq_some.mp h
  have hproj : (World.run (sampleDaemon 2) World.init (deniedRun ++ [.stop, .main])).map
      (fun w => (w.slot.map fun s => (s.pc, s.poll.triggered), w.main)) =
      some (some (.exited, true), .stopWait false) := by decide
  rw [h₀, Option.map_some', Option.some.injEq, Prod.mk.injEq] at hproj
  obtain ⟨s, hs, hps⟩ := Option.map_eq_some'.mp hproj.1
  obtain ⟨hpc, ht⟩ := Prod.mk.inj hps
  obtain ⟨-, -, -, -, hm⟩ :=
    hung_run (reachable_inv ⟨_, h₀⟩) ⟨s, hs, hpc, ht, hproj.2⟩ h
  exact hm

/-- The poller runs one iteration; `stop_sane_threads` finds no trigger and requests the
cancellation while the poller sleeps between iterations. -/
def cancelRun : List Event :=
  [.start, .poller .good, .poller .good, .poller .good, .poller .good, .poller .good, .stop,
    .main, .main]

/-- **Cancellation acts outside the loop top.** Line 866 re-enables cancellation for the rest
of every iteration, so a request acts in the sleep between iterations, where the cleanup
handler unlocks a mutex the poller does not hold; and in `waitpid`, abandoning a dispatch with
the trigger set and its script child running. -/
theorem poller_cancelled_outside_loop_top :
    ((World.run (sampleDaemon 4) World.init cancelRun).map fun w =>
      (w.slot.map fun s => (s.pc, s.cancelEnabled, s.cancelPending), w.badUnlock)) =
      some (some (.pollSleep, true, true), false) ∧
    ((World.run (sampleDaemon 4) World.init (cancelRun ++ [.poller .good])).map fun w =>
      (w.slot.map (·.pc), w.badUnlock)) = some (some .exited, true) ∧
    ((World.run (sampleDaemon 4) World.init reloadRun).map fun w =>
      (w.slot.map fun s => (s.pc, s.poll.triggered), w.children, w.badUnlock)) =
      some (some (.exited, true), [0], true) :=
  ⟨by decide, by decide, by decide⟩

/-! ## A device lost mid-dispatch -/

/-- The poller of generation `g` has terminated: the slot, while it is still there, has
terminated, and every later slot is of a newer generation. -/
def World.Retired (w : World) (g : Nat) : Prop :=
  g < w.nextGen ∧ ∀ s, w.slot = some s → s.gen = g → s.pc = .exited

namespace World.Retired

variable {D : Daemon} {w w' : World} {s : Slot} {g : Nat}

theorem setSlot (hr : w.Retired g) {s' : Slot} (hne : s'.gen ≠ g) : (w.setSlot s').Retired g :=
  ⟨hr.1, fun _ h hg => absurd (Option.some.inj h ▸ hg) hne⟩

/-- A slot that keeps its generation and its program point. -/
theorem update (hr : w.Retired g) (hs : w.slot = some s) {s' : Slot} (hgen : s'.gen = s.gen)
    (hpc : s'.pc = s.pc) : (w.setSlot s').Retired g :=
  ⟨hr.1, fun _ h hg => by
    obtain rfl := Option.some.inj h
    rw [hpc]
    exact hr.2 s hs (hgen ▸ hg)⟩

theorem startSlot (hr : w.Retired g) : w.startSlot.Retired g :=
  ⟨Nat.lt_succ_of_lt hr.1, fun _ h hg => by
    obtain rfl := Option.some.inj h
    exact absurd hg (Nat.ne_of_gt hr.1)⟩

theorem free (hr : w.Retired g) {m : MainPc} :
    ({ w with slot := none, main := m } : World).Retired g :=
  ⟨hr.1, fun _ h => nomatch h⟩

theorem ruleSegment (hr : w.Retired g) (hne : s.gen ≠ g) {si : Nat} :
    (w.ruleSegment D s si).Retired g ∧
      (w.ruleSegment D s si).dispatches.filter (·.1 == g) = w.dispatches.filter (·.1 == g) := by
  unfold World.ruleSegment
  repeat' split
  all_goals first
    | exact ⟨hr, rfl⟩
    | exact ⟨hr.setSlot hne, rfl⟩
    | exact ⟨hr.setSlot hne, by simp [World.setSlot, hne]⟩

/-- The poller of another generation keeps the slot's generation, and logs its dispatches under
it. -/
theorem pollerStep (hr : w.Retired g) (hs : w.slot = some s) {st : SaneStatus}
    (h : w.pollerStep D st s = some w') :
    w'.Retired g ∧ w'.dispatches.filter (·.1 == g) = w.dispatches.filter (·.1 == g) := by
  -- a terminated poller takes no step
  have hne : s.gen ≠ g := fun he => by
    unfold World.pollerStep at h
    rw [hr.2 s hs he] at h
    cases h
  unfold World.pollerStep at h
  repeat' split at h
  all_goals cases h
  all_goals first
    | exact ⟨hr.setSlot hne, rfl⟩
    | exact ⟨hr, rfl⟩
    | exact hr.ruleSegment hne

theorem callerStep (hr : w.Retired g) {i : Nat} {c : Caller} (h : w.callerStep i c = some w') :
    w'.Retired g ∧ w'.dispatches = w.dispatches := by
  unfold World.callerStep at h
  repeat' split at h
  all_goals cases h
  all_goals first
    | exact ⟨hr, rfl⟩
    | exact ⟨hr.update ‹w.slot = some _› (by rfl) (by rfl), rfl⟩

theorem mainStep (hr : w.Retired g) (h : w.mainStep = some w') :
    w'.Retired g ∧ w'.dispatches = w.dispatches := by
  unfold World.mainStep at h
  repeat' split at h
  all_goals cases h
  all_goals first
    | exact ⟨hr, rfl⟩
    | exact ⟨hr.update ‹w.slot = some _› (by rfl) (by rfl), rfl⟩
    | exact ⟨hr.free.startSlot, rfl⟩
    | exact ⟨hr.free, rfl⟩

theorem beginLifecycle (hr : w.Retired g) {restart : Bool}
    (h : w.beginLifecycle restart = some w') :
    w'.Retired g ∧ w'.dispatches = w.dispatches := by
  unfold World.beginLifecycle at h
  repeat' split at h
  all_goals cases h
  all_goals first
    | exact ⟨hr, rfl⟩
    | exact ⟨hr.startSlot, rfl⟩

/-- **Every event keeps a terminated poller terminated**, and logs no dispatch for it. -/
theorem step (hr : w.Retired g) {e : Event} (h : World.step D w e = some w') :
    w'.Retired g ∧ w'.dispatches.filter (·.1 == g) = w.dispatches.filter (·.1 == g) := by
  unfold World.step at h
  split at h
  · cases h
  split at h
  · obtain ⟨s, hs, h⟩ := Option.bind_eq_some.mp h
    exact hr.pollerStep hs h
  · cases h
    split <;> exact ⟨hr, rfl⟩
  · obtain ⟨c, -, h⟩ := Option.bind_eq_some.mp h
    obtain ⟨h1, h2⟩ := hr.callerStep h
    exact ⟨h1, by rw [h2]⟩
  · obtain ⟨h1, h2⟩ := hr.beginLifecycle h
    exact ⟨h1, by rw [h2]⟩
  · obtain ⟨h1, h2⟩ := hr.beginLifecycle h
    exact ⟨h1, by rw [h2]⟩
  · obtain ⟨h1, h2⟩ := hr.mainStep h
    exact ⟨h1, by rw [h2]⟩
  · split at h
    · cases h
      exact ⟨hr, rfl⟩
    · cases h

theorem run :
    ∀ {es : List Event} {w : World}, w.Retired g → World.run D w es = some w' →
      w'.Retired g ∧ w'.dispatches.filter (·.1 == g) = w.dispatches.filter (·.1 == g)
  | [], _, hr, h => by cases h; exact ⟨hr, rfl⟩
  | e :: es, w, hr, h => by
    simp only [World.run, List.foldlM_cons] at h
    obtain ⟨w₁, h₁, h⟩ := Option.bind_eq_some.mp h
    obtain ⟨hr₁, hd₁⟩ := hr.step h₁
    obtain ⟨hr', hd'⟩ := run hr₁ h
    exact ⟨hr', hd'.trans hd₁⟩

end World.Retired

/-- **A device lost mid-dispatch.** When the reopen after a dispatch is denied, the poller
terminates holding `st->mutex`, so its cleanup handler unlocks a mutex it holds; its handle has
been closed since the dispatch; and in no run from there is a dispatch logged for it again. -/
theorem lost_device_exits_cleanly (D : Daemon) {w : World} (hw : Reachable D w)
    (hab : w.aborted = false) {s : Slot} (hs : w.slot = some s) {si : Nat}
    (hpc : s.pc = .settle si) (hnc : (s.cancelPending && s.cancelEnabled) = false) :
    s.handle = .null ∧ ∃ w₁, World.step D w (.poller .accessDenied) = some w₁ ∧
      w₁.slot = some { s with pc := .exited } ∧ w₁.badUnlock = w.badUnlock ∧
      ∀ es w', World.run D w₁ es = some w' →
        w'.dispatches.filter (·.1 == s.gen) = w.dispatches.filter (·.1 == s.gen) := by
  have hinv := reachable_inv hw
  have hr : (w.exitPoller s true).Retired s.gen :=
    ⟨hinv.gen s hs, fun _ h _ => by cases h; rfl⟩
  refine ⟨(hinv.slot s hs).handle_null (by rw [hpc]; rfl), w.exitPoller s true,
    by simp only [step_poller hab hs, World.pollerStep, hpc, hnc, Bool.false_eq_true, if_false],
    rfl, by simp [World.exitPoller],
    fun es w' h => (hr.run h).2⟩

/-- The world of `deniedRun` before the reopen: the poller sleeps after clearing the trigger of
its dispatch, and a call has set a trigger again. -/
def lostWorld : World :=
  (World.run (sampleDaemon 2) World.init deniedRun.dropLast).getD World.init

def lostSlot : Slot := lostWorld.slot.getD (Slot.fresh 0)

theorem lost_device_exits_cleanly_denied :
    Reachable (sampleDaemon 2) lostWorld ∧ lostWorld.aborted = false ∧
    lostWorld.slot = some lostSlot ∧ lostSlot.pc = .settle 0 ∧
    (lostSlot.cancelPending && lostSlot.cancelEnabled) = false ∧
    lostSlot.handle = .null ∧
    ∃ w₁, World.step (sampleDaemon 2) lostWorld (.poller .accessDenied) = some w₁ ∧
      w₁.slot = some { lostSlot with pc := .exited } ∧ w₁.badUnlock = lostWorld.badUnlock ∧
      ∀ es w', World.run (sampleDaemon 2) w₁ es = some w' →
        w'.dispatches.filter (·.1 == lostSlot.gen) =
          lostWorld.dispatches.filter (·.1 == lostSlot.gen) :=
  have hw : Reachable (sampleDaemon 2) lostWorld := ⟨deniedRun.dropLast, rfl⟩
  have hab : lostWorld.aborted = false := rfl
  have hs : lostWorld.slot = some lostSlot := rfl
  have hpc : lostSlot.pc = .settle 0 := rfl
  have hnc : (lostSlot.cancelPending && lostSlot.cancelEnabled) = false := rfl
  ⟨hw, hab, hs, hpc, hnc, lost_device_exits_cleanly (sampleDaemon 2) hw hab hs hpc hnc⟩

end Scanbd
