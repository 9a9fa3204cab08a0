import Scanbd.Invariant

/-!
# Scanbd — the poller alone refines the sequential loop

`Scanbd.Pass` models the polling loop as a sequential program: one iteration runs the rule loop
and makes its dispatches. In the threads the same loop is cut into the poller's critical
sections, and other threads can act between them. This module connects the two levels. A
poller left alone on an open handle, whose reopens succeed and whose script children exit, runs
the iteration of the sequential loop step by step. It leaves the same rules' state, logs the
same dispatches, and is back at the loop top on an open handle.

## Results

* `passStep_simulated` — one rule step and its dispatch, as the poller's steps;
* `pollPass_simulated` — one iteration of the polling loop, from the loop top back to it.
-/

namespace Scanbd

/-! ## The poller alone refines the sequential loop -/

section Alone

variable {D : Daemon} {w : World} {s : Slot}

/-- A step of the rule loop keeps the count. -/
private theorem passStep_scripts {P : Poller} {ds ds' : List Dispatch} {p p' : PollState}
    {si : Nat} (h : passStep P (ds, p) si = some (ds', p')) :
    p'.tables.numOfOptionsWithScripts = p.tables.numOfOptionsWithScripts := by
  simp only [passStep, Option.bind_eq_bind] at h
  obtain ⟨⟨o, q⟩, hr, h⟩ := Option.bind_eq_some.mp h
  have hq := (ruleStep_trigger hr).2.1
  cases o with
  | none => cases h; exact hq
  | some odesc =>
    dsimp only at h
    split at h
    · obtain ⟨⟨d, q'⟩, hd, hq'⟩ := Option.map_eq_some'.mp h
      cases hq'
      obtain ⟨⟨d₀, q₀⟩, hb, hdq⟩ := Option.map_eq_some'.mp hd
      cases hdq
      exact ((dispatchBegin_frame hb).1.scripts).trans hq
    · cases h; exact hq

/-- A script child runs to its exit while the poller waits for it. -/
private theorem run_preFork (hs : w.slot = some s) {si : Nat} (hpc : s.pc = .preFork si)
    (hpend : s.cancelPending = false) (hab : w.aborted = false) (hch : s.gen ∉ w.children) :
    World.run D w [.poller .good, .childExit s.gen, .poller .good] =
      some (w.setSlot { s with pc := .lockClear si }) := by
  simp [World.run, World.step, World.pollerStep, World.setSlot, hs, hpc, hab, hpend, hch]

/-- The end of a dispatch: the poller clears the trigger, sleeps and reopens the device. -/
private theorem run_lockClear (hs : w.slot = some s) {si : Nat} (hpc : s.pc = .lockClear si)
    (hpend : s.cancelPending = false) (hab : w.aborted = false) :
    World.run D w [.poller .good, .poller .good] = some (w.setSlot
      { s with poll := s.poll.clearTrigger, handle := .opened, reopenFailed := false,
               pc := .rule (si + 1) }) := by
  simp [World.run, World.step, World.pollerStep, World.setSlot, hs, hpc, hab, hpend]

theorem passStep_simulated (hs : w.slot = some s) {si : Nat} (hpc : s.pc = .rule si)
    (hh : s.handle = .opened) (hpend : s.cancelPending = false) (hab : w.aborted = false)
    (hch : s.gen ∉ w.children) (hsi : si < s.poll.tables.numOfOptionsWithScripts)
    {ds ds' : List Dispatch} {p' : PollState}
    (h : passStep D.toPoller (ds, s.poll) si = some (ds', p')) :
    ∃ new es s', ds' = ds ++ new ∧ es.all Event.polling ∧
      World.run D w es = some
        { w with slot := some s',
                 dispatches := w.dispatches ++ new.map fun d => (s.gen, d.rule) } ∧
      s'.gen = s.gen ∧ s'.poll = p' ∧ s'.pc = .rule (si + 1) ∧ s'.handle = .opened ∧
      s'.cancelPending = false := by
  simp only [passStep, Option.bind_eq_bind] at h
  obtain ⟨⟨o, p⟩, hr, h⟩ := Option.bind_eq_some.mp h
  have hseg : World.run D w [.poller .good] = some (w.ruleSegment D s si) := by
    simp [World.run, step_poller hab hs, World.pollerStep, hpc]
  have hlt := Nat.not_le.mpr hsi
  cases o with
  | none =>
    cases h
    refine ⟨[], [.poller .good], { s with poll := p, pc := .rule (si + 1) }, by simp, rfl, ?_,
      rfl, rfl, rfl, hh, hpend⟩
    simp [hseg, World.ruleSegment, hlt, hh, hr, World.setSlot]
  | some odesc =>
    dsimp only at h
    split at h
    · rename_i htrig
      obtain ⟨⟨d, q⟩, hd, hq⟩ := Option.map_eq_some'.mp h
      cases hq
      obtain ⟨⟨d₀, q₀⟩, hb, hdq⟩ := Option.map_eq_some'.mp hd
      cases hdq
      -- the segment logs the dispatch; the script's child, if any, exits before the clear
      let s₁ : Slot := { s with poll := q₀, handle := .null, cancelEnabled := true }
      let w₁ : World := { w with dispatches := w.dispatches ++ [(s.gen, d₀.rule)] }
      have hfork : ∃ es, es.all Event.polling ∧
          World.run D w es = some (w₁.setSlot { s₁ with pc := .lockClear si }) := by
        have hw₁ : w.ruleSegment D s si = w₁.setSlot { s₁ with
            pc := if d₀.script = scanbdNullString then .lockClear si else .preFork si } := by
          simp [World.ruleSegment, hlt, hh, hr, htrig, hb, s₁, w₁]
        split_ifs at hw₁
        · exact ⟨[.poller .good], rfl, hw₁ ▸ hseg⟩
        · refine ⟨.poller .good :: [.poller .good, .childExit s.gen, .poller .good], rfl, ?_⟩
          rw [← List.singleton_append, World.run_append, hseg, hw₁, Option.some_bind]
          exact run_preFork (s := { s₁ with pc := .preFork si }) rfl rfl hpend hab hch
      obtain ⟨es, hall, hes⟩ := hfork
      let s₂ : Slot := { s₁ with poll := q₀.clearTrigger, handle := .opened,
                                 reopenFailed := false, pc := .rule (si + 1) }
      refine ⟨[d₀], es ++ [.poller .good, .poller .good], s₂, rfl,
        by simp [hall, Event.polling], ?_, rfl, rfl, rfl, rfl, hpend⟩
      rw [World.run_append, hes, Option.some_bind]
      exact run_lockClear (s := { s₁ with pc := .lockClear si }) rfl rfl hpend hab
    · cases h
      refine ⟨[], [.poller .good],
        { s with poll := p', cancelEnabled := true, pc := .rule (si + 1) }, by simp, rfl, ?_, rfl,
        rfl, rfl, hh, hpend⟩
      simp [hseg, World.ruleSegment, hlt, hh, hr, World.setSlot, *]

/-- The rules below `k`, run by the poller alone from rule 0, every reopen succeeding. -/
private theorem rules_simulated (hs : w.slot = some s) (hpc : s.pc = .rule 0)
    (hh : s.handle = .opened) (hpend : s.cancelPending = false) (hab : w.aborted = false)
    (hch : s.gen ∉ w.children) :
    ∀ k ≤ s.poll.tables.numOfOptionsWithScripts, ∀ {ds : List Dispatch} {p : PollState},
      (List.range k).foldlM (passStep D.toPoller) ([], s.poll) = some (ds, p) →
      p.tables.numOfOptionsWithScripts = s.poll.tables.numOfOptionsWithScripts ∧
      ∃ es s', es.all Event.polling ∧ World.run D w es = some
        { w with slot := some s',
                 dispatches := w.dispatches ++ ds.map fun d => (s.gen, d.rule) } ∧
        s'.gen = s.gen ∧ s'.poll = p ∧ s'.pc = .rule k ∧ s'.handle = .opened ∧
        s'.cancelPending = false
  | 0, _, ds, p, h => by
    cases h
    refine ⟨rfl, [], s, rfl, ?_, rfl, rfl, hpc, hh, hpend⟩
    cases w
    simp_all [World.run]
  | k + 1, hk, ds, p, h => by
    rw [List.range_succ, List.foldlM_append] at h
    obtain ⟨⟨ds₁, p₁⟩, h₁, h⟩ := Option.bind_eq_some.mp h
    simp only [List.foldlM_cons, List.foldlM_nil, bind_pure] at h
    obtain ⟨hc₁, es, s₁, hall, hrun, hg, hp, hpc₁, hh₁, hpend₁⟩ :=
      rules_simulated hs hpc hh hpend hab hch k (by omega) h₁
    subst hp
    obtain ⟨new, es', s₂, hds, hall', hrun', hg₂, hp₂, hpc₂, hh₂, hpend₂⟩ :=
      passStep_simulated
        (w := { w with slot := some s₁,
                       dispatches := w.dispatches ++ ds₁.map fun d => (s.gen, d.rule) })
        rfl hpc₁ hh₁ hpend₁ hab (hg ▸ hch) (by omega) h
    refine ⟨(passStep_scripts h).trans hc₁, es ++ es', s₂, by simp [hall, hall'], ?_,
      hg₂.trans hg, hp₂, hpc₂, hh₂, hpend₂⟩
    rw [World.run_append, hrun, Option.some_bind, hrun', hds, hg]
    simp

/-- **The poller alone refines the sequential loop.** From a reachable world whose poller is at
the loop top on an open handle with no cancellation requested, if one iteration of the polling
loop of `Scanbd.Pass` makes the dispatches `ds` and leaves the slot `p'`, then the poller's own
steps and its script children's exits, every reopen succeeding, bring the world back to the
loop top on an open handle, with the slot `p'` and exactly the dispatches `ds` logged; nothing
else of the world changes. -/
theorem pollPass_simulated (D : Daemon) {w : World} (hw : Reachable D w) {s : Slot}
    (hs : w.slot = some s) (hpc : s.pc = .loopTop) (hh : s.handle = .opened)
    (hpend : s.cancelPending = false) (hab : w.aborted = false) {ds : List Dispatch}
    {p' : PollState} (h : pollPass D.toPoller s.poll = some (ds, p')) :
    ∃ es s', es.all Event.polling ∧ World.run D w es = some
        { w with slot := some s',
                 dispatches := w.dispatches ++ ds.map fun d => (s.gen, d.rule) } ∧
      s'.gen = s.gen ∧ s'.poll = p' ∧ s'.pc = .loopTop ∧ s'.handle = .opened ∧
      s'.cancelPending = false := by
  have hch := (reachable_inv hw).not_forked hs (by rw [hpc]; rfl)
  -- the loop top, then the rule loop, then its end and the sleep
  have h₀ : World.step D w (.poller .good) =
      some (w.setSlot { s with pc := .rule 0, cancelEnabled := false }) := by
    rw [step_poller hab hs]; simp [World.pollerStep, hpc, hpend]
  obtain ⟨hc, es, s₁, hall, hrun, hg, hp, hpc₁, hh₁, hpend₁⟩ :=
    rules_simulated (w := w.setSlot { s with pc := .rule 0, cancelEnabled := false }) rfl rfl
      hh hpend hab hch _ le_rfl h
  refine ⟨.poller .good :: es ++ [.poller .good, .poller .good],
    { s₁ with pc := .loopTop, cancelEnabled := true }, by simp [hall, Event.polling], ?_, hg,
    hp, rfl, hh₁, hpend₁⟩
  rw [List.cons_append, run_cons_of_step h₀, World.run_append, hrun, Option.some_bind]
  simp [World.run, World.step, hab, World.pollerStep, hpc₁, World.ruleSegment, hp, hpend₁,
    World.setSlot, hc]

/-- The world once the sample daemon has started and its poller has compiled the rules, its
slot, and the first iteration of the sequential loop from there. -/
def startedWorld : World :=
  (World.run (sampleDaemon 4) World.init [.start, .poller .good]).getD World.init

def startedSlot : Slot := startedWorld.slot.getD (Slot.fresh 0)

def startedPass : List Dispatch × PollState :=
  (pollPass (sampleDaemon 4).toPoller startedSlot.poll).getD ([], startedSlot.poll)

theorem pollPass_simulated_started :
    Reachable (sampleDaemon 4) startedWorld ∧ startedWorld.slot = some startedSlot ∧
    startedSlot.pc = .loopTop ∧ startedSlot.handle = .opened ∧
    startedSlot.cancelPending = false ∧ startedWorld.aborted = false ∧
    pollPass (sampleDaemon 4).toPoller startedSlot.poll = some startedPass ∧
    ∃ es s', es.all Event.polling ∧ World.run (sampleDaemon 4) startedWorld es = some
        { startedWorld with
          slot := some s',
          dispatches := startedWorld.dispatches ++
            startedPass.1.map fun d => (startedSlot.gen, d.rule) } ∧
      s'.gen = startedSlot.gen ∧ s'.poll = startedPass.2 ∧ s'.pc = .loopTop ∧
      s'.handle = .opened ∧ s'.cancelPending = false :=
  have hw : Reachable (sampleDaemon 4) startedWorld := ⟨[.start, .poller .good], rfl⟩
  have hs : startedWorld.slot = some startedSlot := rfl
  have hpc : startedSlot.pc = .loopTop := by decide
  have hh : startedSlot.handle = .opened := by decide
  have hpend : startedSlot.cancelPending = false := by decide
  have hab : startedWorld.aborted = false := by decide
  have h : pollPass (sampleDaemon 4).toPoller startedSlot.poll = some startedPass := rfl
  ⟨hw, hs, hpc, hh, hpend, hab, h, pollPass_simulated (sampleDaemon 4) hw hs hpc hh hpend hab h⟩

end Alone

end Scanbd
