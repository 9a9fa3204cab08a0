import Scanbd.Safety

/-!
# Scanbd — a stop completes

`stop_sane_threads` (lines 1332-1420) waits for the slot's mutex, waits while an action is
active, requests the poller's cancellation and joins it. `hung_run` shows that it waits for
ever once the poller has terminated with a trigger pending. This module shows that this is the
only way it can fail to finish. Take a configuration whose patterns compile, a host on which a
script's environment can be built, calls of non-negative actions, and reopens that succeed or
are denied. Then a stop in progress completes through the steps of the poller, its script
children and the main thread alone, with every reopen succeeding, unless its poller terminated
with a trigger pending before the stop got past that wait.

The proof drives the poller. It first brings the poller, without a cancellation request, to a
point where it holds no mutex and no trigger is pending (the `quiesce` lemmas). The main thread
then requests the cancellation, and the `exit` lemmas bring the poller to its termination.

* `World.Runs` — the worlds a run of given events reaches;
* `Good` — the configuration's and the host's guarantees, and the invariants `Inv` and
  `SafeInv`, which every such run keeps;
* `Reaches` — the slots the poller can bring itself to.

## Results

* `quiesce` — with no cancellation requested, the poller reaches a point where it holds no
  mutex and no trigger is pending;
* `exit` — a cancellation request ends the poller wherever it is;
* `stop_completes` — from every world reached under these guarantees, a stop in progress
  completes, unless the poller terminated with a trigger pending before the stop got past its
  wait for the active action.
-/

namespace Scanbd

/-- The events a stop relies on: the poller's, its script children's and the main thread's,
every reopen succeeding. -/
def Event.unaided : Event → Bool
  | .main => true
  | e => e.polling

theorem Event.unaided_of_polling {e : Event} (h : e.polling = true) : e.unaided = true := by
  cases e <;> first | rfl | exact h

/-- `w'` is reached from `w` by a run of events that `ok` allows. -/
def World.Runs (D : Daemon) (ok : Event → Bool) (w w' : World) : Prop :=
  ∃ es : List Event, es.all ok ∧ World.run D w es = some w'

namespace World.Runs

variable {D : Daemon} {ok : Event → Bool} {w w₁ w₂ : World}

theorem refl (w : World) : World.Runs D ok w w := ⟨[], rfl, rfl⟩

theorem trans (h₁ : World.Runs D ok w w₁) (h₂ : World.Runs D ok w₁ w₂) :
    World.Runs D ok w w₂ := by
  obtain ⟨es₁, ha₁, hr₁⟩ := h₁
  obtain ⟨es₂, ha₂, hr₂⟩ := h₂
  exact ⟨es₁ ++ es₂, by simp [ha₁, ha₂],
    by rw [World.run_append, hr₁, Option.some_bind, hr₂]⟩

theorem single {e : Event} (he : ok e = true) (h : World.step D w e = some w₁) :
    World.Runs D ok w w₁ :=
  ⟨[e], by simp [he], (run_cons_of_step h).trans rfl⟩

theorem mono {ok' : Event → Bool} (hle : ∀ e, ok e = true → ok' e = true)
    (h : World.Runs D ok w w₁) : World.Runs D ok' w w₁ := by
  obtain ⟨es, ha, hr⟩ := h
  exact ⟨es, List.all_eq_true.mpr fun e he => hle e (List.all_eq_true.mp ha e he), hr⟩

end World.Runs

/-! ## The poller's events leave the main thread and the calls where they are -/

section Frame

variable {D : Daemon} {w w' : World} {s : Slot}

theorem World.ruleSegment_frame {si : Nat} :
    (w.ruleSegment D s si).main = w.main ∧ (w.ruleSegment D s si).callers = w.callers := by
  unfold World.ruleSegment
  repeat' split
  all_goals exact ⟨rfl, rfl⟩

theorem World.pollerStep_frame {st : SaneStatus} (h : w.pollerStep D st s = some w') :
    w'.main = w.main ∧ w'.callers = w.callers := by
  unfold World.pollerStep at h
  repeat' split at h
  all_goals cases h
  all_goals first | exact ⟨rfl, rfl⟩ | exact World.ruleSegment_frame

theorem World.step_frame {e : Event} (he : e.polling = true) (h : World.step D w e = some w') :
    w'.main = w.main ∧ w'.callers = w.callers := by
  cases e with
  | poller st =>
    simp only [World.step] at h
    split at h
    · cases h
    obtain ⟨s, -, h⟩ := Option.bind_eq_some.mp h
    exact World.pollerStep_frame h
  | childExit g =>
    simp only [World.step] at h
    repeat' split at h
    all_goals cases h
    exact ⟨rfl, rfl⟩
  | _ => cases he

theorem World.Runs.frame (h : World.Runs D Event.polling w w') :
    w'.main = w.main ∧ w'.callers = w.callers := by
  obtain ⟨es, hall, hrun⟩ := h
  induction es generalizing w with
  | nil => cases hrun; exact ⟨rfl, rfl⟩
  | cons e es ih =>
    simp only [List.all_cons, Bool.and_eq_true] at hall
    simp only [World.run, List.foldlM_cons] at hrun
    obtain ⟨w₁, h₁, hrun⟩ := Option.bind_eq_some.mp hrun
    obtain ⟨hm, hc⟩ := World.step_frame hall.1 h₁
    obtain ⟨hm', hc'⟩ := ih hall.2 hrun
    exact ⟨hm'.trans hm, hc'.trans hc⟩

end Frame

/-! ## Good worlds -/

/-- What the stop's progress relies on: a configuration whose patterns compile, a host on which
a script's environment can be built, and the invariants of the world. -/
structure Good (D : Daemon) (w : World) : Prop where
  compiles : D.cfg.Compiles D.lib
  env : ∃ st, compileRules D.lib D.dev D.σ D.cfg D.numOfOptions = some st ∧
    EnvSafe D.dev D.host D.env st
  inv : Inv w
  safe : SafeInv D w

namespace Good

variable {D : Daemon} {w w' : World} {s : Slot}

/-- Runs without calls and without a reopen that fails otherwise keep a world good. -/
theorem runs {ok : Event → Bool} (hok : ∀ e, ok e = true → (∀ a, e ≠ .call a) ∧ e ≠ .poller .other)
    (hg : Good D w) (h : World.Runs D ok w w') : Good D w' := by
  obtain ⟨es, hall, hrun⟩ := h
  obtain ⟨st, hst, henv⟩ := hg.env
  exact ⟨hg.compiles, hg.env, hg.inv.run hrun, SafeInv.run hg.compiles hst henv hg.inv hg.safe
    (fun a ha => absurd rfl ((hok _ (List.all_eq_true.mp hall _ ha)).1 a))
    (fun ho => (hok _ (List.all_eq_true.mp hall _ ho)).2 rfl) hrun⟩

/-- A step of the poller whose open does not fail otherwise keeps a world good. -/
theorem pollerStep (hg : Good D w) (hs : w.slot = some s) {st : SaneStatus} (hst : st ≠ .other)
    (h : w.pollerStep D st s = some w') : Good D w' :=
  have ⟨_, hst₀, henv⟩ := hg.env
  ⟨hg.compiles, hg.env, hg.inv.pollerStep hs h,
    hg.safe.pollerStep hg.compiles hst₀ henv hg.inv hs hst h⟩

theorem runs_polling (hg : Good D w) (h : World.Runs D Event.polling w w') : Good D w' :=
  hg.runs (fun _ he => ⟨fun _ => (by rintro rfl; cases he), by rintro rfl; cases he⟩) h

theorem runs_unaided (hg : Good D w) (h : World.Runs D Event.unaided w w') : Good D w' :=
  hg.runs (fun _ he => ⟨fun _ => (by rintro rfl; cases he), by rintro rfl; cases he⟩) h

theorem running (hg : Good D w) : w.aborted = false := hg.safe.running

theorem slotInv (hg : Good D w) (hs : w.slot = some s) : SlotInv s := hg.inv.slot s hs

/-- Outside the join no cancellation is requested. -/
theorem pending_false (hg : Good D w) (hs : w.slot = some s) (hm : ∀ r, w.main ≠ .stopJoin r) :
    s.cancelPending = false :=
  Bool.eq_false_iff.mpr fun hp => let ⟨r, hj⟩ := (hg.inv.pending s hs).mp hp; hm r hj

end Good

/-! ## Where the poller can bring its slot -/

/-- The poller of `w` can bring its slot to one satisfying `P` by its own steps and its script
children's exits. -/
def Reaches (D : Daemon) (w : World) (P : Slot → Prop) : Prop :=
  ∃ w' s', World.Runs D Event.polling w w' ∧ w'.slot = some s' ∧ P s'

namespace Reaches

variable {D : Daemon} {w w₁ : World} {s : Slot} {P Q : Slot → Prop}

theorem here (hs : w.slot = some s) (hp : P s) : Reaches D w P := ⟨w, s, .refl w, hs, hp⟩

theorem mono (h : Reaches D w P) (hpq : ∀ s, P s → Q s) : Reaches D w Q := by
  obtain ⟨w', s', hr, hs', hp⟩ := h
  exact ⟨w', s', hr, hs', hpq s' hp⟩

/-- Continue from wherever the poller brought its slot. -/
theorem bind (hg : Good D w) (h : Reaches D w P)
    (hq : ∀ w' s', Good D w' → w'.slot = some s' → P s' → Reaches D w' Q) :
    Reaches D w Q := by
  obtain ⟨w', s', hr, hs', hp⟩ := h
  obtain ⟨w'', s'', hr', hs'', hq'⟩ :=
    hq w' s' (hg.runs_polling hr) hs' hp
  exact ⟨w'', s'', hr.trans hr', hs'', hq'⟩

/-- One step of the poller, every open succeeding, then the rest. -/
theorem poller (hg : Good D w) (hs : w.slot = some s)
    (h : w.pollerStep D .good s = some w₁) (h₁ : Good D w₁ → Reaches D w₁ P) :
    Reaches D w P :=
  have hr : World.Runs D Event.polling w w₁ :=
    .single (e := .poller .good) rfl ((step_poller hg.running hs .good).trans h)
  (h₁ (hg.runs_polling hr)).elim fun w' ⟨s', hr', hs', hp⟩ =>
    ⟨w', s', hr.trans hr', hs', hp⟩

/-- A script child exits, then the rest. -/
theorem childExit (hg : Good D w) {g : Nat} (hm : g ∈ w.children)
    (h₁ : Good D { w with children := w.children.erase g } →
      Reaches D { w with children := w.children.erase g } P) : Reaches D w P :=
  have hr : World.Runs D Event.polling w { w with children := w.children.erase g } :=
    .single (e := .childExit g) rfl (by simp [World.step, hg.running, hm])
  (h₁ (hg.runs_polling hr)).elim fun w' ⟨s', hr', hs', hp⟩ =>
    ⟨w', s', hr.trans hr', hs', hp⟩

end Reaches

/-! ## The poller with no cancellation requested -/

section Forward

variable {D : Daemon} {w : World} {s : Slot} {si : Nat}

/-- The end of a dispatch: the poller clears the trigger. -/
theorem reaches_settle_of_lockClear (hg : Good D w) (hs : w.slot = some s)
    (hpc : s.pc = .lockClear si) :
    Reaches D w fun s' => s'.pc = .settle si ∧ s'.poll.triggered = false ∧
      s'.cancelPending = s.cancelPending ∧ s'.cancelEnabled = s.cancelEnabled ∧
      s'.poll.tables = s.poll.tables := by
  have h : w.pollerStep D .good s =
      some (w.setSlot { s with poll := s.poll.clearTrigger, pc := .settle si }) := by
    simp [World.pollerStep, hpc]
  exact Reaches.poller hg hs h fun _ => .here rfl ⟨rfl, rfl, rfl, rfl, rfl⟩

/-- The poller waits for its script child, which exits, and clears the trigger. -/
theorem reaches_settle_of_waitChild (hg : Good D w) (hs : w.slot = some s)
    (hpc : s.pc = .waitChild si) (hpend : s.cancelPending = false) :
    Reaches D w fun s' => s'.pc = .settle si ∧ s'.poll.triggered = false ∧
      s'.cancelPending = false ∧ s'.poll.tables = s.poll.tables := by
  -- once no child of the poller runs, `waitpid` returns
  have hwait : ∀ w₁ : World, Good D w₁ → w₁.slot = some s → s.gen ∉ w₁.children →
      Reaches D w₁ fun s' => s'.pc = .settle si ∧ s'.poll.triggered = false ∧
        s'.cancelPending = false ∧ s'.poll.tables = s.poll.tables :=
      fun w₁ hg₁ hs₁ hnm => by
    have h : w₁.pollerStep D .good s = some (w₁.setSlot { s with pc := .lockClear si }) := by
      simp [World.pollerStep, hpc, hpend, hnm]
    exact Reaches.poller hg₁ hs₁ h fun hg₂ => (reaches_settle_of_lockClear hg₂ rfl rfl).mono
      fun _ ⟨h1, h2, h3, _, h5⟩ => ⟨h1, h2, h3.trans hpend, h5⟩
  by_cases hm : s.gen ∈ w.children
  · exact Reaches.childExit hg hm fun hg₁ => hwait _ hg₁ hs hg.inv.distinct.not_mem_erase
  · exact hwait w hg hs hm

/-- The poller forks the script, waits for it and clears the trigger. -/
theorem reaches_settle_of_preFork (hg : Good D w) (hs : w.slot = some s)
    (hpc : s.pc = .preFork si) (hpend : s.cancelPending = false) :
    Reaches D w fun s' => s'.pc = .settle si ∧ s'.poll.triggered = false ∧
      s'.cancelPending = false ∧ s'.poll.tables = s.poll.tables := by
  have h : w.pollerStep D .good s = some ({ w with children := s.gen :: w.children }.setSlot
      { s with pc := .waitChild si }) := by
    simp [World.pollerStep, hpc, hpend]
  exact Reaches.poller hg hs h fun hg₁ =>
    reaches_settle_of_waitChild (s := { s with pc := .waitChild si }) hg₁ rfl rfl hpend

/-- At the loop top the poller disables cancellation and starts the rule loop. -/
theorem reaches_rule_of_loopTop (hg : Good D w) (hs : w.slot = some s) (hpc : s.pc = .loopTop)
    (hpend : s.cancelPending = false) :
    Reaches D w fun s' => s'.pc = .rule 0 ∧ s'.poll = s.poll ∧ s'.cancelPending = false := by
  have h : w.pollerStep D .good s =
      some (w.setSlot { s with pc := .rule 0, cancelEnabled := false }) := by
    simp [World.pollerStep, hpc, hpend]
  exact Reaches.poller hg hs h fun _ => .here rfl ⟨rfl, rfl, hpend⟩

/-- The poller wakes from the sleep between two iterations. -/
theorem reaches_loopTop_of_pollSleep (hg : Good D w) (hs : w.slot = some s)
    (hpc : s.pc = .pollSleep) (hpend : s.cancelPending = false) :
    Reaches D w fun s' => s'.pc = .loopTop ∧ s'.poll = s.poll ∧ s'.cancelPending = false := by
  have h : w.pollerStep D .good s =
      some (w.setSlot { s with pc := .loopTop, cancelEnabled := true }) := by
    simp [World.pollerStep, hpc, hpend]
  exact Reaches.poller hg hs h fun _ => .here rfl ⟨rfl, rfl, hpend⟩

/-- After the clear the poller sleeps, reopens the device and goes on to the next rule. -/
theorem reaches_rule_of_settle (hg : Good D w) (hs : w.slot = some s)
    (hpc : s.pc = .settle si) (hpend : s.cancelPending = false) :
    Reaches D w fun s' => s'.pc = .rule (si + 1) ∧ s'.poll = s.poll ∧
      s'.cancelPending = false := by
  have h : w.pollerStep D .good s = some (w.setSlot
      { s with handle := .opened, reopenFailed := false, pc := .rule (si + 1) }) := by
    simp [World.pollerStep, hpc, hpend]
  exact Reaches.poller hg hs h fun _ => .here rfl ⟨rfl, rfl, hpend⟩

/-- **One rule of the loop**, below the count: the poller goes on to the next rule with no
trigger pending, having dispatched the rule if a trigger was pending after its step. -/
theorem reaches_next_rule (hg : Good D w) (hs : w.slot = some s) (hpc : s.pc = .rule si)
    (hpend : s.cancelPending = false) (hsi : si < s.poll.tables.numOfOptionsWithScripts) :
    Reaches D w fun s' => s'.pc = .rule (si + 1) ∧ s'.poll.triggered = false ∧
      s'.cancelPending = false ∧
      s'.poll.tables.numOfOptionsWithScripts = s.poll.tables.numOfOptionsWithScripts := by
  have hseg : w.pollerStep D .good s = some (w.ruleSegment D s si) := by
    simp [World.pollerStep, hpc]
  rcases ruleSegment_cases hg.inv hs (hg.safe.tables s hs)
      (hg.safe.handle_opened hg.inv hs (by rw [hpc]; rfl)) hsi with
    ⟨p, heq, htr, -, hcnt⟩ | ⟨d, q, heq, -, hcnt⟩ <;> rw [heq] at hseg
  · exact Reaches.poller hg hs hseg fun _ => .here rfl ⟨rfl, htr, hpend, hcnt⟩
  · -- the dispatch: the script runs unless it is `SCANBD_NULL_STRING`, then the clear
    have hclear : ∀ w₁ s₁, Good D w₁ → w₁.slot = some s₁ →
        (s₁.pc = .settle si ∧ s₁.poll.triggered = false ∧ s₁.cancelPending = false ∧
          s₁.poll.tables = q.tables) →
        Reaches D w₁ fun s' => s'.pc = .rule (si + 1) ∧ s'.poll.triggered = false ∧
          s'.cancelPending = false ∧
          s'.poll.tables.numOfOptionsWithScripts =
            s.poll.tables.numOfOptionsWithScripts :=
      fun _ _ hg₁ hs₁ ⟨h1, h2, h3, h4⟩ => (reaches_rule_of_settle hg₁ hs₁ h1 h3).mono
        fun _ ⟨h1', h2', h3'⟩ => ⟨h1', h2' ▸ h2, h3', by rw [h2', h4, hcnt]⟩
    by_cases hnull : d.script = scanbdNullString
    · rw [if_pos hnull] at hseg
      exact Reaches.poller hg hs hseg fun hg₁ =>
        (reaches_settle_of_lockClear hg₁ rfl rfl).bind hg₁
          fun _ _ hg₂ hs₂ ⟨h1, h2, h3, _, h5⟩ =>
            hclear _ _ hg₂ hs₂ ⟨h1, h2, h3.trans hpend, h5⟩
    · rw [if_neg hnull] at hseg
      exact Reaches.poller hg hs hseg fun hg₁ =>
        (reaches_settle_of_preFork hg₁ rfl rfl hpend).bind hg₁ hclear

/-- **The rest of the rule loop**, from rule `si`: the poller reaches the sleep between two
iterations. A trigger is then pending only if it was at rule `si` and `si` was past the count. -/
theorem reaches_pollSleep_of_rule (hg : Good D w) (hs : w.slot = some s)
    (hpc : s.pc = .rule si) (hpend : s.cancelPending = false) :
    Reaches D w fun s' => s'.pc = .pollSleep ∧ s'.cancelPending = false ∧
      (s'.poll.triggered = true →
        s.poll.triggered = true ∧ s.poll.tables.numOfOptionsWithScripts ≤ si) := by
  generalize hn : s.poll.tables.numOfOptionsWithScripts - si = n
  induction n generalizing w s si with
  | zero =>
    have hle : s.poll.tables.numOfOptionsWithScripts ≤ si := by omega
    have h : w.pollerStep D .good s = some (w.setSlot { s with pc := .pollSleep }) := by
      simp [World.pollerStep, hpc, World.ruleSegment, hle]
    exact Reaches.poller hg hs h fun _ => .here rfl ⟨rfl, hpend, fun ht => ⟨ht, by omega⟩⟩
  | succ n ih =>
    exact (reaches_next_rule hg hs hpc hpend (by omega)).bind hg
      fun w₁ s₁ hg₁ hs₁ ⟨h1, h2, h3, h4⟩ => (ih hg₁ hs₁ h1 h3 (by omega)).mono
        fun _ ⟨h1', h2', h3'⟩ => ⟨h1', h2', fun ht => absurd (h3' ht).1 (by rw [h2]; nofun)⟩

end Forward

/-! ## Quiescing the poller -/

/-- The poller holds no mutex, no trigger is pending and no cancellation is requested: it sleeps
between two iterations, or has not started. -/
def Slot.Quiet (s : Slot) : Prop :=
  (s.pc = .pollSleep ∨ s.pc = .lockInit) ∧ s.poll.triggered = false ∧ s.cancelPending = false

section Quiesce

variable {D : Daemon} {w : World} {s : Slot}

/-- From the sleep between two iterations: a pending trigger is dispatched by one more
iteration, whose first rule is below the count. -/
theorem quiesce_pollSleep (hg : Good D w) (hs : w.slot = some s) (hpc : s.pc = .pollSleep)
    (hpend : s.cancelPending = false) : Reaches D w Slot.Quiet := by
  cases ht : s.poll.triggered
  · exact .here hs ⟨.inl hpc, ht, hpend⟩
  have hcnt : 0 < s.poll.tables.numOfOptionsWithScripts := by
    have := (hg.slotInv hs).poll.trigger ht; omega
  exact (reaches_loopTop_of_pollSleep hg hs hpc hpend).bind hg
    fun _ _ hg₁ hs₁ ⟨h1, h2, h3⟩ => (reaches_rule_of_loopTop hg₁ hs₁ h1 h3).bind hg₁
    fun _ _ hg₂ hs₂ ⟨h1', h2', h3'⟩ => (reaches_pollSleep_of_rule hg₂ hs₂ h1' h3').mono
    fun _ ⟨h1'', h2'', h3''⟩ =>
      ⟨.inl h1'', Bool.eq_false_iff.mpr fun ht' => absurd (h3'' ht').2 (by rw [h2', h2]; omega),
        h2''⟩

theorem quiesce_rule (hg : Good D w) (hs : w.slot = some s) {si : Nat} (hpc : s.pc = .rule si)
    (hpend : s.cancelPending = false) : Reaches D w Slot.Quiet :=
  (reaches_pollSleep_of_rule hg hs hpc hpend).bind hg fun _ _ hg₁ hs₁ ⟨h1, h2, _⟩ =>
    quiesce_pollSleep hg₁ hs₁ h1 h2

theorem quiesce_settle (hg : Good D w) (hs : w.slot = some s) {si : Nat}
    (hpc : s.pc = .settle si) (hpend : s.cancelPending = false) : Reaches D w Slot.Quiet :=
  (reaches_rule_of_settle hg hs hpc hpend).bind hg fun _ _ hg₁ hs₁ ⟨h1, _, h3⟩ =>
    quiesce_rule hg₁ hs₁ h1 h3

/-- **The poller quiesces.** A running poller with no cancellation requested reaches a point
where it holds no mutex and no trigger is pending. -/
theorem quiesce (hg : Good D w) (hs : w.slot = some s) (hpend : s.cancelPending = false)
    (hx : s.pc ≠ .exited) : Reaches D w Slot.Quiet := by
  cases hpc : s.pc with
  | lockInit =>
    -- before the compile there are no rules, so no trigger
    refine .here hs ⟨.inr hpc, Bool.eq_false_iff.mpr fun ht => ?_, hpend⟩
    have := (hg.slotInv hs).poll.trigger ht
    have := ((hg.slotInv hs).ok hpc).1
    omega
  | loopTop =>
    exact (reaches_rule_of_loopTop hg hs hpc hpend).bind hg fun _ _ hg₁ hs₁ ⟨h1, _, h3⟩ =>
      quiesce_rule hg₁ hs₁ h1 h3
  | rule si => exact quiesce_rule hg hs hpc hpend
  | preFork si =>
    exact (reaches_settle_of_preFork hg hs hpc hpend).bind hg
      fun _ _ hg₁ hs₁ ⟨h1, _, h3, _⟩ => quiesce_settle hg₁ hs₁ h1 h3
  | waitChild si =>
    exact (reaches_settle_of_waitChild hg hs hpc hpend).bind hg
      fun _ _ hg₁ hs₁ ⟨h1, _, h3, _⟩ => quiesce_settle hg₁ hs₁ h1 h3
  | lockClear si =>
    exact (reaches_settle_of_lockClear hg hs hpc).bind hg fun _ _ hg₁ hs₁ ⟨h1, _, h3, _⟩ =>
      quiesce_settle hg₁ hs₁ h1 (h3.trans hpend)
  | settle si => exact quiesce_settle hg hs hpc hpend
  | pollSleep => exact quiesce_pollSleep hg hs hpc hpend
  | exited => exact absurd hpc hx

end Quiesce

/-! ## The poller with a cancellation request -/

/-- The poller's blocking cancellation points: its calls of `usleep` and its `waitpid`. -/
def PollerPc.blocking : PollerPc → Bool
  | preFork _ | waitChild _ | settle _ | pollSleep => true
  | _ => false

section Exit

variable {D : Daemon} {w : World} {s : Slot}

/-- At a blocking cancellation point with cancellation enabled, the request acts. -/
theorem exit_of_enabled (hg : Good D w) (hs : w.slot = some s) (hpc : s.pc.blocking = true)
    (hpend : s.cancelPending = true) (hen : s.cancelEnabled = true) :
    Reaches D w (·.pc = .exited) := by
  have h : w.pollerStep D .good s = some (w.exitPoller s false) := by
    cases hp : s.pc <;> rw [hp] at hpc <;> first
      | exact absurd hpc Bool.false_ne_true
      | simp [World.pollerStep, hp, hpend, hen]
  exact Reaches.poller hg hs h fun _ => .here rfl rfl

/-- `pthread_testcancel` acts on the request whatever the cancelability. -/
theorem exit_loopTop (hg : Good D w) (hs : w.slot = some s) (hpc : s.pc = .loopTop)
    (hpend : s.cancelPending = true) : Reaches D w (·.pc = .exited) := by
  have h : w.pollerStep D .good s = some (w.exitPoller s true) := by
    simp [World.pollerStep, hpc, hpend]
  exact Reaches.poller hg hs h fun _ => .here rfl rfl

theorem exit_pollSleep (hg : Good D w) (hs : w.slot = some s) (hpc : s.pc = .pollSleep)
    (hpend : s.cancelPending = true) : Reaches D w (·.pc = .exited) := by
  cases hen : s.cancelEnabled
  · have h : w.pollerStep D .good s =
        some (w.setSlot { s with pc := .loopTop, cancelEnabled := true }) := by
      simp [World.pollerStep, hpc, hen]
    exact Reaches.poller hg hs h fun hg₁ => exit_loopTop hg₁ rfl rfl hpend
  · exact exit_of_enabled hg hs (by rw [hpc]; rfl) hpend hen

/-- **The rest of the rule loop ends in the termination**: at the sleep after the loop, or at
the fork or the clear of a dispatch, where cancellation is enabled. -/
theorem exit_rule (hg : Good D w) (hs : w.slot = some s) {si : Nat} (hpc : s.pc = .rule si)
    (hpend : s.cancelPending = true) : Reaches D w (·.pc = .exited) := by
  generalize hn : s.poll.tables.numOfOptionsWithScripts - si = n
  induction n generalizing w s si with
  | zero =>
    have hle : s.poll.tables.numOfOptionsWithScripts ≤ si := by omega
    have h : w.pollerStep D .good s = some (w.setSlot { s with pc := .pollSleep }) := by
      simp [World.pollerStep, hpc, World.ruleSegment, hle]
    exact Reaches.poller hg hs h fun hg₁ => exit_pollSleep hg₁ rfl rfl hpend
  | succ n ih =>
    have hseg : w.pollerStep D .good s = some (w.ruleSegment D s si) := by
      simp [World.pollerStep, hpc]
    rcases ruleSegment_cases hg.inv hs (hg.safe.tables s hs)
        (hg.safe.handle_opened hg.inv hs (by rw [hpc]; rfl)) (show si < _ by omega) with
      ⟨p, heq, -, -, hcnt⟩ | ⟨d, q, heq, -, -⟩ <;> rw [heq] at hseg
    · exact Reaches.poller hg hs hseg fun hg₁ => ih hg₁ rfl rfl hpend (by simp only; omega)
    · by_cases hnull : d.script = scanbdNullString
      · -- the clear, then the sleep before the reopen
        rw [if_pos hnull] at hseg
        exact Reaches.poller hg hs hseg fun hg₁ =>
          (reaches_settle_of_lockClear hg₁ rfl rfl).bind hg₁
            fun _ _ hg₂ hs₂ ⟨h1, _, h3, h4, _⟩ =>
              exit_of_enabled hg₂ hs₂ (by rw [h1]; rfl) (h3.trans hpend) h4
      · rw [if_neg hnull] at hseg
        exact Reaches.poller hg hs hseg fun hg₁ =>
          exit_of_enabled hg₁ rfl rfl hpend rfl

theorem exit_settle (hg : Good D w) (hs : w.slot = some s) {si : Nat} (hpc : s.pc = .settle si)
    (hpend : s.cancelPending = true) : Reaches D w (·.pc = .exited) := by
  cases hen : s.cancelEnabled
  · have h : w.pollerStep D .good s = some (w.setSlot
        { s with handle := .opened, reopenFailed := false, pc := .rule (si + 1) }) := by
      simp [World.pollerStep, hpc, hen]
    exact Reaches.poller hg hs h fun hg₁ => exit_rule hg₁ rfl rfl hpend
  · exact exit_of_enabled hg hs (by rw [hpc]; rfl) hpend hen

theorem exit_lockClear (hg : Good D w) (hs : w.slot = some s) {si : Nat}
    (hpc : s.pc = .lockClear si) (hpend : s.cancelPending = true) :
    Reaches D w (·.pc = .exited) :=
  (reaches_settle_of_lockClear hg hs hpc).bind hg fun _ _ hg₁ hs₁ ⟨h1, _, h3, _⟩ =>
    exit_settle hg₁ hs₁ h1 (h3.trans hpend)

theorem exit_waitChild (hg : Good D w) (hs : w.slot = some s) {si : Nat}
    (hpc : s.pc = .waitChild si) (hpend : s.cancelPending = true) :
    Reaches D w (·.pc = .exited) := by
  cases hen : s.cancelEnabled
  · have hwait : ∀ w₁, Good D w₁ → w₁.slot = some s → s.gen ∉ w₁.children →
        Reaches D w₁ (·.pc = .exited) := fun w₁ hg₁ hs₁ hnm => by
      have h : w₁.pollerStep D .good s = some (w₁.setSlot { s with pc := .lockClear si }) := by
        simp [World.pollerStep, hpc, hen, hnm]
      exact Reaches.poller hg₁ hs₁ h fun hg₂ => exit_lockClear hg₂ rfl rfl hpend
    by_cases hm : s.gen ∈ w.children
    · exact Reaches.childExit hg hm fun hg₁ => hwait _ hg₁ hs hg.inv.distinct.not_mem_erase
    · exact hwait w hg hs hm
  · exact exit_of_enabled hg hs (by rw [hpc]; rfl) hpend hen

theorem exit_preFork (hg : Good D w) (hs : w.slot = some s) {si : Nat}
    (hpc : s.pc = .preFork si) (hpend : s.cancelPending = true) :
    Reaches D w (·.pc = .exited) := by
  cases hen : s.cancelEnabled
  · have h : w.pollerStep D .good s = some ({ w with children := s.gen :: w.children }.setSlot
        { s with pc := .waitChild si }) := by
      simp [World.pollerStep, hpc, hen]
    exact Reaches.poller hg hs h fun hg₁ => exit_waitChild hg₁ rfl rfl hpend
  · exact exit_of_enabled hg hs (by rw [hpc]; rfl) hpend hen

/-- **A cancellation request ends the poller**, wherever it is, every open succeeding. -/
theorem exit (hg : Good D w) (hs : w.slot = some s) (hpend : s.cancelPending = true) :
    Reaches D w (·.pc = .exited) := by
  cases hpc : s.pc with
  | lockInit =>
    -- the poller opens the device and compiles the rules before its first cancellation point
    obtain ⟨st, hst, -⟩ := hg.env
    by_cases h0 : D.numOfOptions = 0
    · have h : w.pollerStep D .good s =
          some (w.exitPoller { s with handle := .opened } true) := by
        simp [World.pollerStep, hpc, h0]
      exact Reaches.poller hg hs h fun _ => .here rfl rfl
    · have h : w.pollerStep D .good s = some (w.setSlot { s with
          poll := ⟨st, s.poll.triggered, s.poll.triggeredOption, s.poll.queries⟩,
          handle := .opened, pc := .loopTop, cancelEnabled := true }) := by
        simp [World.pollerStep, hpc, h0, hst]
      exact Reaches.poller hg hs h fun hg₁ => exit_loopTop hg₁ rfl rfl hpend
  | loopTop => exact exit_loopTop hg hs hpc hpend
  | rule si => exact exit_rule hg hs hpc hpend
  | preFork si => exact exit_preFork hg hs hpc hpend
  | waitChild si => exact exit_waitChild hg hs hpc hpend
  | lockClear si => exact exit_lockClear hg hs hpc hpend
  | settle si => exact exit_settle hg hs hpc hpend
  | pollSleep => exact exit_pollSleep hg hs hpc hpend
  | exited => exact .here hs hpc

end Exit

/-! ## The main thread completes the stop -/

section Stop

variable {D : Daemon} {w : World} {r : Bool}

/-- Once the cancellation is requested, the poller terminates and the join returns. -/
theorem finish_join (hg : Good D w) (hm : w.main = .stopJoin r) :
    ∃ w', World.Runs D Event.unaided w w' ∧ w'.main = .idle := by
  obtain ⟨s, hs⟩ := Option.isSome_iff_exists.mp (hg.inv.stopping (by rw [hm]; nofun))
  obtain ⟨w₁, s₁, hr, hs₁, hex⟩ := exit hg hs ((hg.inv.pending s hs).mpr ⟨r, hm⟩)
  have hg₁ := hg.runs_polling hr
  let w₂ := { w₁ with slot := none, main := .idle }
  have h : World.step D w₁ .main = some (if r then w₂.startSlot else w₂) := by
    simp [World.step, hg₁.running, World.mainStep, hr.frame.1.trans hm, hs₁, hex, w₂]
  refine ⟨_, (hr.mono fun _ => Event.unaided_of_polling).trans (.single (e := .main) rfl h), ?_⟩
  cases r <;> rfl

/-- The main thread requests the cancellation, then joins. -/
theorem finish_cancel (hg : Good D w) (hm : w.main = .stopCancel r) :
    ∃ w', World.Runs D Event.unaided w w' ∧ w'.main = .idle := by
  obtain ⟨s, hs⟩ := Option.isSome_iff_exists.mp (hg.inv.stopping (by rw [hm]; nofun))
  have h : World.step D w .main =
      some ({ w with main := .stopJoin r }.setSlot { s with cancelPending := true }) := by
    simp [World.step, hg.running, World.mainStep, hm, hs]
  have hr : World.Runs D Event.unaided w _ := .single (e := .main) rfl h
  obtain ⟨w', hr', hm'⟩ := finish_join (hg.runs_unaided hr) rfl
  exact ⟨w', hr.trans hr', hm'⟩

/-- Before the cancellation request: the poller quiesces, so the main thread's wait for the
slot's mutex and for the active action ends. -/
theorem finish_wait (hg : Good D w) (hm : w.main = .stopLock r ∨ w.main = .stopWait r)
    (hex : ∀ s, w.slot = some s → s.pc = .exited → s.poll.triggered = false) :
    ∃ w', World.Runs D Event.unaided w w' ∧ w'.main = .idle := by
  obtain ⟨s, hs⟩ := Option.isSome_iff_exists.mp
    (hg.inv.stopping (by rcases hm with hm | hm <;> rw [hm] <;> nofun))
  have hpend := hg.pending_false hs fun _ hj => by
    rcases hm with hm | hm <;> rw [hm] at hj <;> cases hj
  -- the poller holds no mutex and no trigger is pending, having quiesced or terminated
  have hq : Reaches D w fun s' => s'.pc.holdsMutex = false ∧ s'.poll.triggered = false := by
    by_cases hx : s.pc = .exited
    · exact .here hs ⟨by rw [hx]; rfl, hex s hs hx⟩
    · exact (quiesce hg hs hpend hx).mono fun _ ⟨hpc, htr, _⟩ =>
        ⟨by rcases hpc with h | h <;> rw [h] <;> rfl, htr⟩
  obtain ⟨w₁, s₁, hr, hs₁, hfree, htr⟩ := hq
  have hg₁ := hg.runs_polling hr
  have h : World.step D w₁ .main = some { w₁ with main := .stopCancel r } := by
    rcases hm with hm | hm <;>
      simp [World.step, hg₁.running, World.mainStep, hr.frame.1.trans hm, hs₁, hfree, htr]
  have hr₁ : World.Runs D Event.unaided w₁ _ := .single (e := .main) rfl h
  obtain ⟨w', hr', hm'⟩ := finish_cancel (hg₁.runs_unaided hr₁) rfl
  exact ⟨w', ((hr.mono fun _ => Event.unaided_of_polling).trans hr₁).trans hr', hm'⟩

end Stop

/-- **A stop completes.** Take a configuration whose patterns compile, a host on which a
script's environment can be built, and a run from the daemon's start whose calls pass
non-negative actions and whose reopens succeed or are denied; in it stops and starts do not
nest (`World.beginLifecycle`). If a stop is in progress, and the poller has not terminated with
a trigger pending before the stop got past its wait for the active action, then the steps of
the poller, of its script children and of the main thread alone complete the stop, every
reopen succeeding. -/
theorem stop_completes (D : Daemon) (hc : D.cfg.Compiles D.lib) {st₀ : SaneThread}
    (hst₀ : compileRules D.lib D.dev D.σ D.cfg D.numOfOptions = some st₀)
    (henv : EnvSafe D.dev D.host D.env st₀) {es : List Event}
    (hes : ∀ a, Event.call a ∈ es → 0 ≤ a) (ho : Event.poller .other ∉ es) {w : World}
    (h : World.run D World.init es = some w) (hstop : w.main ≠ .idle)
    (hhung : ∀ s, w.slot = some s → s.pc = .exited → s.poll.triggered = true →
      ∃ r, w.main = .stopCancel r ∨ w.main = .stopJoin r) :
    ∃ w', World.Runs D Event.unaided w w' ∧ w'.main = .idle := by
  have hg : Good D w := ⟨hc, ⟨st₀, hst₀, henv⟩, Inv.init.run h,
    SafeInv.run hc hst₀ henv Inv.init SafeInv.init hes ho h⟩
  cases hm : w.main with
  | idle => exact absurd hm hstop
  | stopCancel r => exact finish_cancel hg hm
  | stopJoin r => exact finish_join hg hm
  | stopLock r | stopWait r =>
    refine finish_wait hg (r := r) (by simp [hm]) fun s hs hpc => Bool.eq_false_iff.mpr fun ht => ?_
    obtain ⟨_, h' | h'⟩ := hhung s hs hpc ht <;> rw [hm] at h' <;> cases h'

/-- The world after `reloadRun`: the old poller was cancelled in `waitpid`, with the trigger of
rule 0 pending. -/
def reloadWorld : World := (World.run (sampleDaemon 4) World.init reloadRun).getD World.init

theorem stop_completes_reload :
    (sampleDaemon 4).cfg.Compiles (sampleDaemon 4).lib ∧
    compileRules (sampleDaemon 4).lib (sampleDaemon 4).dev (sampleDaemon 4).σ
      (sampleDaemon 4).cfg (sampleDaemon 4).numOfOptions = some sampleTables ∧
    EnvSafe (sampleDaemon 4).dev (sampleDaemon 4).host (sampleDaemon 4).env sampleTables ∧
    (∀ a, Event.call a ∈ reloadRun → 0 ≤ a) ∧ Event.poller .other ∉ reloadRun ∧
    World.run (sampleDaemon 4) World.init reloadRun = some reloadWorld ∧
    reloadWorld.main ≠ .idle ∧
    (∀ s, reloadWorld.slot = some s → s.pc = .exited → s.poll.triggered = true →
      ∃ r, reloadWorld.main = .stopCancel r ∨ reloadWorld.main = .stopJoin r) ∧
    ∃ w', World.Runs (sampleDaemon 4) Event.unaided reloadWorld w' ∧ w'.main = .idle :=
  have hc : (sampleDaemon 4).cfg.Compiles (sampleDaemon 4).lib := by decide
  have hst₀ : compileRules (sampleDaemon 4).lib (sampleDaemon 4).dev (sampleDaemon 4).σ
      (sampleDaemon 4).cfg (sampleDaemon 4).numOfOptions = some sampleTables := rfl
  have henv : EnvSafe (sampleDaemon 4).dev (sampleDaemon 4).host (sampleDaemon 4).env
      sampleTables := ⟨by decide, by decide, by decide, by decide, by decide, by decide⟩
  have hes : ∀ a, Event.call a ∈ reloadRun → 0 ≤ a := by simp [reloadRun]
  have ho : Event.poller .other ∉ reloadRun := by decide
  have h : World.run (sampleDaemon 4) World.init reloadRun = some reloadWorld := rfl
  have hm : reloadWorld.main = .stopJoin true := rfl
  have hstop : reloadWorld.main ≠ .idle := by rw [hm]; nofun
  have hhung : ∀ s, reloadWorld.slot = some s → s.pc = .exited → s.poll.triggered = true →
      ∃ r, reloadWorld.main = .stopCancel r ∨ reloadWorld.main = .stopJoin r :=
    fun _ _ _ _ => ⟨true, .inr hm⟩
  ⟨hc, hst₀, henv, hes, ho, h, hstop, hhung,
    stop_completes (sampleDaemon 4) hc hst₀ henv hes ho h hstop hhung⟩

end Scanbd
