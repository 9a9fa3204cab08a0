import Scanbd.Races

/-!
# Scanbd — no assertion fails

`sane_poll` asserts what it relies on: a descriptor for every rule's option, a string value and
a compiled pattern for each side of a string trigger, a rule with a script at
`triggered_option`, an environment array filled to its end. `sane_trigger_action` asserts that
its action is not negative. The model aborts the process where one of them fails
(`World.abort`). This module shows that for a configuration whose patterns all compile, on a
host where a script's environment can be built, only the last can fail: in every run whose
calls pass non-negative actions and whose reopens all succeed or are denied, under any
interleaving of the poller with calls, stops, starts, reloads and script exits, the process
never aborts. A reopen that fails otherwise leaves the `NULL` handle, on which the next rule
aborts (`poller_aborts_on_null_handle`).

The argument carries the invariant of the sequential loop into the threads: the slot's tables
stay good (`TablesOk` of `Scanbd.Pass`), so every rule step and every dispatch succeeds.

* `ruleSegment_cases` — on good tables one rule of the loop succeeds, with or without a
  dispatch;
* `SafeInv` — the process has not aborted, the slot's tables are good and its last reopen did
  not fail;
* `SafeInv.step` — every event but a call with a negative action and a reopen that fails with
  a status other than `ACCESS_DENIED` keeps it.

## Results

* `run_never_aborts` — a run from the daemon's start whose calls pass non-negative actions and
  whose reopens do not fail otherwise never aborts, and the slot's tables stay good along it.
-/

namespace Scanbd

/-- Tables with no rules are good on a host where a script's environment can be built. -/
theorem TablesOk.alloc_zero {P : Poller} {st : SaneThread}
    (h : EnvSafe P.dev P.host P.env st) : TablesOk P (SaneThread.alloc 0) where
  scripts_le := Nat.zero_le _
  functions_le := Nat.zero_le _
  armed := by simp [SaneThread.validOpts, SaneThread.alloc]
  described := by simp [SaneThread.validFunctions, SaneThread.alloc]
  envSafe := ⟨h.pwd, h.user, h.home, h.device, h.action,
    by simp [SaneThread.validFunctions, SaneThread.alloc]⟩

/-- What the configuration and the host guarantee in every reachable world: the process has not
aborted, the slot's tables are good, and the slot's last reopen did not fail. -/
structure SafeInv (D : Daemon) (w : World) : Prop where
  running : w.aborted = false
  tables : ∀ s, w.slot = some s → TablesOk D.toPoller s.poll.tables
  reopened : ∀ s, w.slot = some s → s.reopenFailed = false

namespace SafeInv

variable {D : Daemon} {w w' : World} {s : Slot}

theorem init : SafeInv D World.init := ⟨rfl, (fun _ h => nomatch h), fun _ h => nomatch h⟩

/-- A step that keeps the slot. -/
theorem of_slot (h : SafeInv D w) (hab : w'.aborted = w.aborted) (hs : w'.slot = w.slot) :
    SafeInv D w' :=
  ⟨hab.trans h.running, fun s' h' => h.tables s' (hs ▸ h'), fun s' h' => h.reopened s' (hs ▸ h')⟩

/-- A step that replaces the slot by one with the same tables and the same last reopen. -/
theorem congr (h : SafeInv D w) (hs : w.slot = some s) {s' : Slot}
    (hab : w'.aborted = w.aborted) (hs' : w'.slot = some s')
    (ht : s'.poll.tables = s.poll.tables) (hr : s'.reopenFailed = s.reopenFailed) :
    SafeInv D w' := by
  refine ⟨hab.trans h.running, fun s₁ h₁ => ?_, fun s₁ h₁ => ?_⟩ <;>
    obtain rfl := Option.some.inj (hs'.symm.trans h₁)
  · exact ht ▸ h.tables s hs
  · exact hr ▸ h.reopened s hs

/-- A step that frees the slot. -/
theorem free (h : SafeInv D w) (hab : w'.aborted = w.aborted) (hs : w'.slot = none) :
    SafeInv D w' :=
  ⟨hab.trans h.running, fun _ h' => Option.noConfusion (hs.symm.trans h'),
    fun _ h' => Option.noConfusion (hs.symm.trans h')⟩

theorem setSlot (h : SafeInv D w) {s' : Slot} (ht : TablesOk D.toPoller s'.poll.tables)
    (hr : s'.reopenFailed = false) : SafeInv D (w.setSlot s') :=
  ⟨h.running, fun _ h' => Option.some.inj h' ▸ ht, fun _ h' => Option.some.inj h' ▸ hr⟩

/-- `start_sane_threads` creates a slot with no rules. -/
theorem startSlot (h : SafeInv D w) (hfresh : TablesOk D.toPoller (SaneThread.alloc 0)) :
    SafeInv D w.startSlot :=
  ⟨h.running, fun _ h' => Option.some.inj h' ▸ hfresh, fun _ h' => Option.some.inj h' ▸ rfl⟩

/-- Where the poller holds the slot, its handle is open: the last reopen did not fail. -/
theorem handle_opened (h : SafeInv D w) (hw : Inv w) (hs : w.slot = some s)
    (hpc : s.pc.polling = true) : s.handle = .opened := by
  cases hh : s.handle
  · rfl
  · have := ((hw.slot s hs).handle_iff hpc).mp hh
    rw [h.reopened s hs] at this
    cases this

end SafeInv

/-- **What one rule of the loop does, on good tables.** The rule step succeeds, and either no
trigger is pending after it and the poller goes on to the next rule, or the dispatch succeeds:
it is logged, the handle is closed and the poller goes on to fork the script, or straight to
clearing the trigger when the script is `SCANBD_NULL_STRING`. The new tables are good and have
the same count. -/
theorem ruleSegment_cases {D : Daemon} {w : World} {s : Slot} (hw : Inv w)
    (hs : w.slot = some s) (ht : TablesOk D.toPoller s.poll.tables) (hh : s.handle = .opened)
    {si : Nat} (hsi : si < s.poll.tables.numOfOptionsWithScripts) :
    (∃ p, w.ruleSegment D s si =
        w.setSlot { s with poll := p, cancelEnabled := true, pc := .rule (si + 1) } ∧
      p.triggered = false ∧ TablesOk D.toPoller p.tables ∧
      p.tables.numOfOptionsWithScripts = s.poll.tables.numOfOptionsWithScripts) ∨
    (∃ (d : Dispatch) (q : PollState), w.ruleSegment D s si =
        { w with dispatches := w.dispatches ++ [(s.gen, d.rule)] }.setSlot
          { s with poll := q, handle := .null, cancelEnabled := true,
                   pc := if d.script = scanbdNullString then .lockClear si else .preFork si } ∧
      TablesOk D.toPoller q.tables ∧
      q.tables.numOfOptionsWithScripts = s.poll.tables.numOfOptionsWithScripts) := by
  obtain ⟨odesc, p, hr, htp⟩ := ht.ruleStep hsi
  obtain ⟨hok, hcnt⟩ := (hw.slot s hs).poll.ruleStep hsi hr
  unfold World.ruleSegment
  rw [if_neg (Nat.not_le.mpr hsi), if_neg (by rw [hh]; nofun)]
  simp only [hr]
  split
  · rename_i htrig
    simp only [Bool.and_eq_true, decide_eq_true_eq] at htrig
    -- the trigger names a rule below the count: the dispatch succeeds
    have hlt := (Int.toNat_lt htrig.2).mpr (hok.trigger htrig.1).2
    obtain ⟨d, q, hd, -, hq⟩ := dispatchBegin_spec D.toPoller odesc htp.envSafe
      htp.functions_le htp.described (Int.toNat_of_nonneg htrig.2).symm hlt
      (htp.armed _ (SaneThread.getD_mem_validOpts htp.scripts_le hlt))
    simp only [hd]
    exact .inr ⟨d, q, rfl, htp.of_queriesOthers hq, (hok.queriesOthers hq).2.trans hcnt⟩
  · rename_i htrig
    refine .inl ⟨p, rfl, ?_, htp, hcnt⟩
    cases hp : p.triggered
    · rfl
    · exact absurd (by simp [hp, (hok.trigger hp).1]) htrig

namespace SafeInv

variable {D : Daemon} {w w' : World} {s : Slot}

/-- The rule loop's body: on good tables and an open handle its rule step and its dispatch
succeed. -/
theorem ruleSegment (h : SafeInv D w) (hw : Inv w) (hs : w.slot = some s) {si : Nat}
    (hpc : s.pc = .rule si) : SafeInv D (w.ruleSegment D s si) := by
  have ht := h.tables s hs
  have hr := h.reopened s hs
  by_cases hsi : si < s.poll.tables.numOfOptionsWithScripts
  · rcases ruleSegment_cases hw hs ht (h.handle_opened hw hs (by rw [hpc]; rfl)) hsi with
      ⟨p, heq, -, htp, -⟩ | ⟨d, q, heq, htq, -⟩ <;> rw [heq]
    · exact h.setSlot htp hr
    · exact (h.of_slot rfl rfl :
        SafeInv D { w with dispatches := w.dispatches ++ [(s.gen, d.rule)] }).setSlot htq hr
  · unfold World.ruleSegment
    rw [if_pos (Nat.not_lt.mp hsi)]
    exact h.setSlot ht hr

/-- **Every step of a call keeps the invariant**: a stored trigger leaves the tables alone. -/
theorem callerStep (h : SafeInv D w) {i : Nat} {c : Caller}
    (hstep : w.callerStep i c = some w') : SafeInv D w' := by
  unfold World.callerStep at hstep
  repeat' split at hstep
  all_goals cases hstep <;> first
    | exact h.of_slot rfl rfl
    | (have hs := ‹w.slot = some _›; exact h.congr hs rfl rfl rfl rfl)

/-- **Every step of the main thread keeps the invariant.** -/
theorem mainStep (h : SafeInv D w) (hfresh : TablesOk D.toPoller (SaneThread.alloc 0))
    (hstep : w.mainStep = some w') : SafeInv D w' := by
  unfold World.mainStep at hstep
  split at hstep
  · split at hstep <;> cases hstep; exact h.of_slot rfl rfl
  · split at hstep <;> cases hstep; exact h.of_slot rfl rfl
  · rename_i hs
    cases hstep
    exact h.congr hs rfl rfl rfl rfl
  · split at hstep
    · cases hstep
      have hfree : SafeInv D { w with slot := none, main := .idle } := h.free rfl rfl
      split
      exacts [hfree.startSlot hfresh, hfree]
    · cases hstep
  · cases hstep

theorem beginLifecycle (h : SafeInv D w) (hfresh : TablesOk D.toPoller (SaneThread.alloc 0))
    {restart : Bool} (hstep : w.beginLifecycle restart = some w') : SafeInv D w' := by
  unfold World.beginLifecycle at hstep
  repeat' split at hstep
  all_goals cases hstep
  all_goals first
    | exact h.of_slot rfl rfl
    | exact h.startSlot hfresh

section Configured

/-! A configuration whose patterns compile, and a host on which a script's environment can be
built for the tables compiled from it. -/

variable (hc : D.cfg.Compiles D.lib) {st₀ : SaneThread}
  (hst₀ : compileRules D.lib D.dev D.σ D.cfg D.numOfOptions = some st₀)
  (henv : EnvSafe D.dev D.host D.env st₀)
include hc hst₀ henv

/-- **Every step of the poller but a reopen that fails otherwise keeps the invariant.** The
compile never fails, and its tables are good. -/
theorem pollerStep (h : SafeInv D w) (hw : Inv w) (hs : w.slot = some s) {st : SaneStatus}
    (hst : st ≠ .other) (hstep : w.pollerStep D st s = some w') : SafeInv D w' := by
  unfold World.pollerStep at hstep
  cases hpc : s.pc
  case lockInit =>
    simp only [hpc] at hstep
    split at hstep
    · split at hstep
      · cases hstep; exact h.congr hs rfl rfl rfl rfl
      · split at hstep
        · rename_i hnone; rw [hst₀] at hnone; cases hnone
        · rename_i st' hst'
          obtain rfl : st₀ = st' := Option.some.inj (hst₀.symm.trans hst')
          cases hstep
          exact h.setSlot
            (compileRules_pollInv D.toPoller D.cfg D.numOfOptions hc hst₀ henv).tables
            (h.reopened s hs)
    · cases hstep; exact h.congr hs rfl rfl rfl rfl
  case rule si =>
    simp only [hpc] at hstep
    cases hstep
    exact h.ruleSegment hw hs hpc
  -- every other step keeps the tables; a successful reopen clears the failure
  all_goals
    simp only [hpc] at hstep
    repeat' split at hstep
    all_goals cases hstep <;> first
      | exact h.congr hs rfl rfl rfl rfl
      | exact h.setSlot (h.tables s hs) rfl
      | exact absurd rfl hst

/-- **Every event but a call with a negative action and a reopen that fails otherwise keeps
the invariant.** -/
theorem step (h : SafeInv D w) (hw : Inv w) {e : Event}
    (he : ∀ a, e = .call a → 0 ≤ a) (ho : e ≠ .poller .other)
    (hstep : World.step D w e = some w') : SafeInv D w' := by
  have hfresh := TablesOk.alloc_zero henv
  unfold World.step at hstep
  split at hstep
  · cases hstep
  split at hstep
  · obtain ⟨s, hs, hstep⟩ := Option.bind_eq_some.mp hstep
    exact h.pollerStep hc hst₀ henv hw hs (fun hst => ho (hst ▸ rfl)) hstep
  · rename_i a
    cases hstep
    rw [if_neg (not_lt.mpr (he a rfl))]
    exact h.of_slot rfl rfl
  · obtain ⟨c, -, hstep⟩ := Option.bind_eq_some.mp hstep
    exact h.callerStep hstep
  · exact h.beginLifecycle hfresh hstep
  · exact h.beginLifecycle hfresh hstep
  · exact h.mainStep hfresh hstep
  · split at hstep
    · cases hstep; exact h.of_slot rfl rfl
    · cases hstep

/-- **Every run whose calls pass non-negative actions and whose reopens do not fail otherwise
keeps the invariant.** -/
theorem run :
    ∀ {es : List Event} {w : World}, Inv w → SafeInv D w → (∀ a, .call a ∈ es → 0 ≤ a) →
      Event.poller .other ∉ es → World.run D w es = some w' → SafeInv D w'
  | [], _, _, h, _, _, hrun => by cases hrun; exact h
  | e :: es, w, hw, h, hes, ho, hrun => by
    simp only [World.run, List.foldlM_cons] at hrun
    obtain ⟨w₁, h₁, hrun⟩ := Option.bind_eq_some.mp hrun
    obtain ⟨ho₁, ho⟩ := not_or.mp (List.mem_cons.not.mp ho)
    exact run (hw.step h₁)
      (h.step hc hst₀ henv hw (fun a ha => hes a (ha ▸ List.mem_cons_self _ _)) (Ne.symm ho₁) h₁)
      (fun a ha => hes a (List.mem_cons_of_mem _ ha)) ho hrun

end Configured

end SafeInv

/-- **No assertion fails.** For a configuration whose patterns all compile, on a host where a
script's environment can be built, every run from the daemon's start whose calls of
`sane_trigger_action` pass non-negative actions and whose reopens succeed or are denied leaves
the process running, under any interleaving; and the slot's tables stay good along it. -/
theorem run_never_aborts (D : Daemon) (hc : D.cfg.Compiles D.lib) {st₀ : SaneThread}
    (hst₀ : compileRules D.lib D.dev D.σ D.cfg D.numOfOptions = some st₀)
    (henv : EnvSafe D.dev D.host D.env st₀) {es : List Event}
    (hes : ∀ a, Event.call a ∈ es → 0 ≤ a) (ho : Event.poller .other ∉ es) {w : World}
    (h : World.run D World.init es = some w) :
    w.aborted = false ∧ ∀ s, w.slot = some s → TablesOk D.toPoller s.poll.tables :=
  have hs := SafeInv.run hc hst₀ henv Inv.init SafeInv.init hes ho h
  ⟨hs.running, hs.tables⟩

/-- The world after a call's trigger is overwritten by the press on rule 0, whose script then
runs. -/
def pressedWorld : World :=
  (World.run (sampleDaemon 4) World.init (externalTriggerRun ++ pressRun)).getD World.init

theorem run_never_aborts_pressed :
    (sampleDaemon 4).cfg.Compiles (sampleDaemon 4).lib ∧
    compileRules (sampleDaemon 4).lib (sampleDaemon 4).dev (sampleDaemon 4).σ
      (sampleDaemon 4).cfg (sampleDaemon 4).numOfOptions = some sampleTables ∧
    EnvSafe (sampleDaemon 4).dev (sampleDaemon 4).host (sampleDaemon 4).env sampleTables ∧
    (∀ a, Event.call a ∈ externalTriggerRun ++ pressRun → 0 ≤ a) ∧
    Event.poller .other ∉ externalTriggerRun ++ pressRun ∧
    World.run (sampleDaemon 4) World.init (externalTriggerRun ++ pressRun) = some pressedWorld ∧
    pressedWorld.aborted = false ∧
    ∀ s, pressedWorld.slot = some s → TablesOk (sampleDaemon 4).toPoller s.poll.tables :=
  have hc : (sampleDaemon 4).cfg.Compiles (sampleDaemon 4).lib := by decide
  have hst₀ : compileRules (sampleDaemon 4).lib (sampleDaemon 4).dev (sampleDaemon 4).σ
      (sampleDaemon 4).cfg (sampleDaemon 4).numOfOptions = some sampleTables := rfl
  have henv : EnvSafe (sampleDaemon 4).dev (sampleDaemon 4).host (sampleDaemon 4).env
      sampleTables := ⟨by decide, by decide, by decide, by decide, by decide, by decide⟩
  have hes : ∀ a, Event.call a ∈ externalTriggerRun ++ pressRun → 0 ≤ a := by
    simp [externalTriggerRun, pressRun]
  have ho : Event.poller .other ∉ externalTriggerRun ++ pressRun := by decide
  have h : World.run (sampleDaemon 4) World.init (externalTriggerRun ++ pressRun) =
      some pressedWorld := rfl
  ⟨hc, hst₀, henv, hes, ho, h, run_never_aborts (sampleDaemon 4) hc hst₀ henv hes ho h⟩

end Scanbd
