import Scanbd.DaemonSafety

/-!
# Scanbd — a stop of every device completes, and every call returns

`Scanbd.Progress` and `Scanbd.Calls` show that around one device a stop completes and every
call returns. In the daemon the stop goes through every device of `sane_poll_threads`: device
after device it waits for the slot's mutex and for the active action and requests the poller's
cancellation (lines 1347-1373), and only then joins the pollers one by one and frees the list
(lines 1375-1412). And `sane_mutex` is shared by the calls for all devices: a call that waits
for one device's action blocks the calls for every other (`waiting_call_blocks_every_device`).

This module shows that neither fails in the daemon, under the guarantees of `Scanbd.Progress`
for every device. The proofs run the one-device progress once per device, through
`DaemonWorld.Good.lift_reaches`.

## Results

* `stop_completes_on_every_device` — a stop in progress completes through the steps of the
  pollers, their script children and the main thread alone, unless a poller not yet cancelled
  has terminated with a trigger pending;
* `call_returns_on_every_device` — while no lifecycle operation is in progress and every
  poller runs, every call in progress returns through the steps of the calls, the pollers and
  their script children alone: the blocking of `waiting_call_blocks_every_device` always ends.
-/

namespace Scanbd

namespace DaemonWorld

/-! ## The main thread completes the stop -/

/-- Device `k`'s poller has not terminated with a trigger pending. -/
def NotHung (w : DaemonWorld) (k : Nat) : Prop :=
  ∀ s, w.slot k = some s → s.pc = .exited → s.poll.triggered = false

theorem NotHung.of_slot {w w' : DaemonWorld} {k : Nat} (h : w.NotHung k)
    (hs : w'.slot k = w.slot k) : w'.NotHung k :=
  fun s h' => h s (hs ▸ h')

theorem startThreads_main {w : DaemonWorld} {n : Nat} : (w.startThreads n).main = w.main := by
  unfold startThreads
  split_ifs <;> rfl

namespace Good

variable {Ds : List Daemon} {w : DaemonWorld} {r : Bool} {i : Nat}

theorem dev_lt (hg : w.Good Ds) {p : StopPc} (hm : w.main = p) (hp : p ≠ .idle) :
    p.dev < Ds.length :=
  hm ▸ hg.bounded.main (hm ▸ hp)

/-- Once its cancellation is requested, device `i`'s poller terminates and the join returns. -/
theorem finish_join (hg : w.Good Ds) (hm : w.main = .join r i) :
    ∃ w', Runs Ds DaemonEvent.unaided w w' ∧ w'.main = .idle := by
  generalize hd : Ds.length - i = d
  induction d generalizing w i with
  | zero => have := hg.dev_lt hm nofun; simp only [StopPc.dev] at this; omega
  | succ d ih =>
    have hi : i < Ds.length := hg.dev_lt hm nofun
    have hk := List.getElem?_eq_getElem hi
    have hgi := hg.device i _ hk
    have hmi : (w.device i).main = .stopJoin r := by simp [hm, StopPc.device]
    obtain ⟨s, hs⟩ := Option.isSome_iff_exists.mp (hgi.inv.stopping (by rw [hmi]; nofun))
    obtain ⟨w₁, s₁, hr, hs₁, hx, -, -, hm₁⟩ :=
      hg.lift_reaches hk (exit hgi hs ((hgi.inv.pending s hs).mpr ⟨r, hmi⟩))
    have hg₁ := hg.runs (fun _ _ => rfl) (fun _ => rfl) hr
    replace hr := hr.mono fun _ => DaemonEvent.unaided_of_polling
    by_cases hn : i + 1 < Ds.length
    · have h : w₁.step Ds .main = some { w₁ with main := .join r (i + 1) } := by
        simp [DaemonWorld.step, hg₁.running, mainStep, hm₁.trans hm, hs₁, hx, hn]
      obtain ⟨w', hr', hm'⟩ := ih (hg₁.step (e := .main) (fun _ _ h => nomatch h) (fun _ h => nomatch h) h) rfl (by omega)
      exact ⟨w', (hr.trans (.single (e := .main) rfl h)).trans hr', hm'⟩
    · -- the last join: the list is freed, and a restart allocates a new one
      let w₂ : DaemonWorld := { w₁ with threads := none, main := .idle }
      have h : w₁.step Ds .main = some (if r then w₂.startThreads Ds.length else w₂) := by
        simp [DaemonWorld.step, hg₁.running, mainStep, hm₁.trans hm, hs₁, hx, hn, w₂]
      refine ⟨_, hr.trans (.single (e := .main) rfl h), ?_⟩
      cases r
      · rfl
      · exact startThreads_main

/-- The main thread requests device `i`'s cancellation and moves to the next device, or to
the joins. -/
theorem cancel_step (hg : w.Good Ds) (hm : w.main = .cancel r i) :
    ∃ w', w.step Ds .main = some w' ∧
      w'.main = (if i + 1 < Ds.length then .lock r (i + 1) else .join r 0) ∧
      ∀ k ≠ i, w'.slot k = w.slot k := by
  have hi : i < Ds.length := hg.dev_lt hm nofun
  have hgi := hg.device i _ (List.getElem?_eq_getElem hi)
  obtain ⟨s, hs⟩ := Option.isSome_iff_exists.mp (hgi.inv.stopping (by simp [hm, StopPc.device]))
  have hs' : w.slot i = some s := hs
  exact ⟨({ w with main := if i + 1 < Ds.length then .lock r (i + 1) else .join r 0 }).setSlot i
      { s with cancelPending := true }, by simp [DaemonWorld.step, hg.running, mainStep, hm, hs'],
    rfl, fun k hk => slot_setSlot_ne (Ne.symm hk) _⟩

/-- Before device `i`'s cancellation: its poller quiesces, or has terminated with no trigger
pending, so the main thread's wait for the slot's mutex and for the active action ends. -/
theorem cancel_of_lock (hg : w.Good Ds) (hm : w.main = .lock r i ∨ w.main = .wait r i)
    (hfin : w.NotHung i) :
    ∃ w', Runs Ds DaemonEvent.unaided w w' ∧ w'.main = .cancel r i ∧
      ∀ k ≠ i, w'.slot k = w.slot k := by
  have hi : i < Ds.length := hm.elim (fun h => hg.dev_lt h nofun) (fun h => hg.dev_lt h nofun)
  have hk := List.getElem?_eq_getElem hi
  have hgi := hg.device i _ hk
  have hmi : (w.device i).main = .stopLock r ∨ (w.device i).main = .stopWait r := by
    rcases hm with hm | hm <;> simp [hm, StopPc.device]
  obtain ⟨s, hs⟩ := Option.isSome_iff_exists.mp
    (hgi.inv.stopping (by rcases hmi with h | h <;> rw [h] <;> nofun))
  have hpend := hgi.pending_false hs fun _ hj => by
    rcases hmi with h | h <;> rw [h] at hj <;> cases hj
  -- the poller holds no mutex and no trigger is pending, having quiesced or terminated
  have hq : Reaches Ds[i] (w.device i)
      fun s' => s'.pc.holdsMutex = false ∧ s'.poll.triggered = false := by
    by_cases hx : s.pc = .exited
    · exact .here hs ⟨by rw [hx]; rfl, hfin s hs hx⟩
    · exact (quiesce hgi hs hpend hx).mono fun _ ⟨hpc, htr, _⟩ =>
        ⟨by rcases hpc with h | h <;> rw [h] <;> rfl, htr⟩
  obtain ⟨w₁, s₁, hr, hs₁, ⟨hfree, htr⟩, hsl, -, hm₁⟩ := hg.lift_reaches hk hq
  have h : w₁.step Ds .main = some { w₁ with main := .cancel r i } := by
    rcases hm with hm | hm <;>
      simp [DaemonWorld.step, (hg.runs (fun _ _ => rfl) (fun _ => rfl) hr).running, mainStep, hm₁.trans hm,
        hs₁, hfree, htr]
  exact ⟨_, (hr.mono fun _ => DaemonEvent.unaided_of_polling).trans (.single (e := .main) rfl h),
    rfl, hsl⟩

/-- **The stop goes through the devices.** From device `i` on, every device quiesces and is
cancelled, and then every poller is joined, unless a device not yet cancelled has a poller
that terminated with a trigger pending. -/
theorem finish_stop (hg : w.Good Ds)
    (hm : w.main = .cancel r i ∨ ((w.main = .lock r i ∨ w.main = .wait r i) ∧ w.NotHung i))
    (hrest : ∀ k, i < k → w.NotHung k) :
    ∃ w', Runs Ds DaemonEvent.unaided w w' ∧ w'.main = .idle := by
  generalize hd : Ds.length - i = d
  induction d generalizing w i with
  | zero =>
    have : i < Ds.length := by
      rcases hm with hm | ⟨hm | hm, -⟩ <;> exact hg.dev_lt hm nofun
    omega
  | succ d ih =>
    -- from the cancellation request on
    have hcancel : ∀ {w₁ : DaemonWorld}, w₁.Good Ds → w₁.main = .cancel r i →
        (∀ k, i < k → w₁.NotHung k) →
        ∃ w', Runs Ds DaemonEvent.unaided w₁ w' ∧ w'.main = .idle := by
      intro w₁ hg₁ hm₁ hrest₁
      obtain ⟨w₂, h, hm₂, hsl⟩ := hg₁.cancel_step hm₁
      have hg₂ := hg₁.step (e := .main) (fun _ _ h => nomatch h) (fun _ h => nomatch h) h
      have hr : Runs Ds DaemonEvent.unaided w₁ w₂ := .single (e := .main) rfl h
      split at hm₂
      · obtain ⟨w', hr', hm'⟩ := ih hg₂
          (.inr ⟨.inl hm₂, (hrest₁ (i + 1) (by omega)).of_slot (hsl _ (by omega))⟩)
          (fun k hk => (hrest₁ k (by omega)).of_slot (hsl k (by omega))) (by omega)
        exact ⟨w', hr.trans hr', hm'⟩
      · obtain ⟨w', hr', hm'⟩ := hg₂.finish_join hm₂
        exact ⟨w', hr.trans hr', hm'⟩
    rcases hm with hm | ⟨hm, hfin⟩
    · exact hcancel hg hm hrest
    · obtain ⟨w₁, hr, hm₁, hsl⟩ := hg.cancel_of_lock hm hfin
      obtain ⟨w', hr', hm'⟩ := hcancel (hg.runs (fun _ _ => rfl) (fun _ => rfl) hr) hm₁
        fun k hk => (hrest k hk).of_slot (hsl k (by omega))
      exact ⟨w', hr.trans hr', hm'⟩

end Good

end DaemonWorld

/-- `stop_sane_threads` begins after `twoDevicesRun`: device 0's script is running, and
device 1's trigger from `sane_trigger_action(1, 1)` is pending. -/
def stopAllRun : List DaemonEvent := twoDevicesRun ++ [.stop]

def stopAllWorld : DaemonWorld :=
  (DaemonWorld.run twoDevices DaemonWorld.init stopAllRun).getD DaemonWorld.init

/-- **A stop of every device completes.** Take devices whose configurations' patterns all
compile and whose hosts can build a script's environment, and a run of the daemon from its
start whose calls of `sane_trigger_action` pass non-negative device numbers and actions, and
whose reopens succeed or are denied; in it starts and stops do not nest
(`DaemonWorld.beginLifecycle`). If `stop_sane_threads` is in progress, and no poller whose cancellation is not requested yet has
terminated with a trigger pending, then the steps of the pollers of all devices, of their
script children and of the main thread alone complete the stop, every reopen succeeding: each
device in turn quiesces and is cancelled, then every poller terminates and is joined, and the
thread list is freed (and, for `start_sane_threads`, allocated again). -/
theorem stop_completes_on_every_device (Ds : List Daemon) (hDs : ∀ D ∈ Ds, D.Sound)
    {es : List DaemonEvent} (hes : ∀ d a, DaemonEvent.call d a ∈ es → 0 ≤ d ∧ 0 ≤ a)
    (ho : ∀ j, DaemonEvent.poller j .other ∉ es)
    {w : DaemonWorld} (h : DaemonWorld.run Ds DaemonWorld.init es = some w)
    (hstop : w.main ≠ .idle)
    (hhung : ∀ k s, w.slot k = some s → s.pc = .exited → s.poll.triggered = true →
      ∃ r, w.main.device k = .stopCancel r ∨ w.main.device k = .stopJoin r) :
    ∃ w', DaemonWorld.Runs Ds DaemonEvent.unaided w w' ∧ w'.main = .idle := by
  have hg := (DaemonWorld.Good.init hDs).run hes ho h
  -- a device whose cancellation is not requested yet has no poller hung with a trigger
  have hfin : ∀ k, (∀ r, w.main.device k ≠ .stopCancel r ∧ w.main.device k ≠ .stopJoin r) →
      w.NotHung k := fun k hk s hs hx => Bool.eq_false_iff.mpr fun ht =>
    let ⟨r, h'⟩ := hhung k s hs hx ht
    h'.elim (hk r).1 (hk r).2
  cases hm : w.main with
  | idle => exact absurd hm hstop
  | join r i => exact hg.finish_join hm
  | cancel r i =>
    refine hg.finish_stop (.inl hm) fun k hk => hfin k fun r' => ?_
    simp [hm, StopPc.device, Nat.not_lt.mpr hk.le, Nat.ne_of_gt hk]
  | lock r i =>
    refine hg.finish_stop (.inr ⟨.inl hm, hfin i fun r' => ?_⟩) fun k hk => hfin k fun r' => ?_
    · simp [hm, StopPc.device]
    · simp [hm, StopPc.device, Nat.not_lt.mpr hk.le]
  | wait r i =>
    refine hg.finish_stop (.inr ⟨.inr hm, hfin i fun r' => ?_⟩) fun k hk => hfin k fun r' => ?_
    · simp [hm, StopPc.device]
    · simp [hm, StopPc.device, Nat.not_lt.mpr hk.le, Nat.ne_of_gt hk]

theorem stop_completes_on_every_device_two :
    (∀ D ∈ twoDevices, D.Sound) ∧
    (∀ d a, DaemonEvent.call d a ∈ stopAllRun → 0 ≤ d ∧ 0 ≤ a) ∧
    (∀ j, DaemonEvent.poller j .other ∉ stopAllRun) ∧
    DaemonWorld.run twoDevices DaemonWorld.init stopAllRun = some stopAllWorld ∧
    stopAllWorld.main ≠ .idle ∧
    (∀ k s, stopAllWorld.slot k = some s → s.pc = .exited → s.poll.triggered = true →
      ∃ r, stopAllWorld.main.device k = .stopCancel r ∨
        stopAllWorld.main.device k = .stopJoin r) ∧
    ∃ w', DaemonWorld.Runs twoDevices DaemonEvent.unaided stopAllWorld w' ∧ w'.main = .idle :=
  have hes : ∀ d a, DaemonEvent.call d a ∈ stopAllRun → 0 ≤ d ∧ 0 ≤ a := by
    simp only [stopAllRun, twoDevicesRun, List.cons_append, List.nil_append, List.mem_cons,
      DaemonEvent.call.injEq, reduceCtorEq, false_or, List.not_mem_nil, or_false]
    omega
  have ho : ∀ j, DaemonEvent.poller j .other ∉ stopAllRun := by simp [stopAllRun, twoDevicesRun]
  have h : DaemonWorld.run twoDevices DaemonWorld.init stopAllRun = some stopAllWorld := rfl
  have hstop : stopAllWorld.main ≠ .idle := by decide
  -- no poller has terminated
  have hhung : ∀ k s, stopAllWorld.slot k = some s → s.pc = .exited →
      s.poll.triggered = true → ∃ r, stopAllWorld.main.device k = .stopCancel r ∨
        stopAllWorld.main.device k = .stopJoin r := fun k s hs hx _ => by
    have hnx : ∀ s ∈ stopAllWorld.threads.getD [], s.pc ≠ .exited := by decide
    obtain ⟨l, hl, hk⟩ := Option.bind_eq_some.mp hs
    exact absurd hx (hnx s (by rw [hl]; exact List.getElem?_mem hk))
  ⟨twoDevices_sound, hes, ho, h, hstop, hhung,
    stop_completes_on_every_device twoDevices twoDevices_sound hes ho h hstop hhung⟩

/-! ## Every call returns -/

namespace DaemonWorld

/-- The poller of every one of the `n` devices runs: its slot exists and it has not
terminated. -/
def Polling (n : Nat) (w : DaemonWorld) : Prop :=
  ∀ k < n, ∃ s, w.slot k = some s ∧ s.pc ≠ .exited

variable {Ds : List Daemon} {n i : Nat} {c : Call} {s : Slot} {w : DaemonWorld}

/-- A step that leaves every poller where it is keeps them running. -/
theorem Polling.of_pc {w' : DaemonWorld} (h : w.Polling n)
    (hs : ∀ k, (w'.slot k).map Slot.pc = (w.slot k).map Slot.pc) : w'.Polling n := by
  intro k hk
  obtain ⟨s, hs₁, hx⟩ := h k hk
  have := hs k
  rw [hs₁] at this
  obtain ⟨s', h', hpc⟩ := Option.map_eq_some'.mp this
  exact ⟨s', h', hpc ▸ hx⟩

theorem Polling.threads_isSome (h : w.Polling n) (hn : 0 < n) : w.threads.isSome := by
  obtain ⟨s, hs, -⟩ := h 0 hn
  unfold slot at hs
  cases ht : w.threads
  · simp [ht] at hs
  · rfl

/-- Once the poller of its device holds no mutex and no trigger is pending, a call holding
`sane_mutex` returns in one step: it stores its trigger, or returns at once when its action is
not below the count. It leaves every poller where it is. -/
theorem callerStep_quiet (hs : w.slot c.dev.toNat = some s) (hfree : s.pc.holdsMutex = false)
    (htr : s.poll.triggered = false) (hh : c.pc.holdsSane = true) :
    ∃ w', w.callerStep n i c = some w' ∧ w'.calls = w.calls.set i { c with pc := .done } ∧
      w'.main = w.main ∧ ∀ k, (w'.slot k).map Slot.pc = (w.slot k).map Slot.pc := by
  -- the stored trigger changes the slot's rules' state only
  have hstore : ∀ k, ((w.setSlot c.dev.toNat { s with poll := s.poll.setTrigger c.action }).slot
      k).map Slot.pc = (w.slot k).map Slot.pc := fun k => by
    by_cases hk : c.dev.toNat = k
    · subst hk
      rw [slot_setSlot_self hs, hs]
      rfl
    · rw [slot_setSlot_ne hk]
  cases hpc : c.pc <;> rw [hpc] at hh <;> try exact absurd hh Bool.false_ne_true
  case lockSlot =>
    by_cases hle : (s.poll.tables.numOfOptionsWithScripts : Int) ≤ c.action
    · exact ⟨w.setCall i { c with pc := .done }, by simp [callerStep, hpc, hs, hfree, hle], rfl,
        rfl, fun _ => rfl⟩
    · exact ⟨(w.setSlot c.dev.toNat { s with poll := s.poll.setTrigger c.action }).setCall i
        { c with pc := .done }, by simp [callerStep, hpc, hs, hfree, hle, htr], rfl, rfl, hstore⟩
  case waitIdle =>
    exact ⟨(w.setSlot c.dev.toNat { s with poll := s.poll.setTrigger c.action }).setCall i
      { c with pc := .done }, by simp [callerStep, hpc, hs, hfree, htr], rfl, rfl, hstore⟩

namespace Good

/-- **A call holding `sane_mutex` returns**, once the poller of its device has quiesced. The
main thread stays idle and every poller keeps running. -/
theorem finish_holder (hg : w.Good Ds) (hm : w.main = .idle) (hp : w.Polling Ds.length)
    (hc : w.calls[i]? = some c) (hh : c.pc.holdsSane = true) :
    ∃ w', Runs Ds DaemonEvent.calling w w' ∧ w'.calls = w.calls.set i { c with pc := .done } ∧
      w'.main = .idle ∧ w'.Polling Ds.length := by
  -- the call is for a device that exists
  have hd : c.dev.toNat < Ds.length := by
    have hdev := hg.inv.calls c (List.getElem?_mem hc)
    have := hdev.2 (by intro h; rw [h] at hh; cases hh) (by intro h; rw [h] at hh; cases hh)
    omega
  obtain ⟨s, hs, hx⟩ := hp _ hd
  have hk := List.getElem?_eq_getElem hd
  have hgd := hg.device _ _ hk
  have hpend := hgd.pending_false hs fun _ hj => by simp [hm, StopPc.device] at hj
  obtain ⟨w₁, s₁, hr, hs₁, ⟨hpc, htr, -⟩, hsl, hc₁, hm₁⟩ :=
    hg.lift_reaches hk (quiesce hgd hs hpend hx)
  have hfree : s₁.pc.holdsMutex = false := by rcases hpc with h | h <;> rw [h] <;> rfl
  obtain ⟨w₂, h, hcl, hm₂, hsl₂⟩ := callerStep_quiet (n := Ds.length) (i := i) hs₁ hfree htr hh
  have hstep : w₁.step Ds (.caller i) = some w₂ := by
    simp [DaemonWorld.step, (hg.runs (fun _ _ => rfl) (fun _ => rfl) hr).running, hc₁, hc, h]
  refine ⟨w₂, (hr.mono fun _ => DaemonEvent.calling_of_polling).trans
    (.single (e := .caller i) rfl hstep), by rw [hcl, hc₁], hm₂.trans (hm₁.trans hm),
    Polling.of_pc (fun k hk' => ?_) hsl₂⟩
  -- device `c.dev`'s poller is quiet, the others are where they were
  by_cases hkd : k = c.dev.toNat
  · subst hkd
    exact ⟨s₁, hs₁, by rcases hpc with h | h <;> rw [h] <;> nofun⟩
  · rw [hsl k hkd]
    exact hp k hk'

/-- A call waiting to take `sane_mutex` returns: the calls holding it return one after the
other, whatever their devices, then the call takes it. -/
theorem finish_waiting (hg : w.Good Ds) (hm : w.main = .idle) (hp : w.Polling Ds.length)
    (hc : w.calls[i]? = some c) (hpc : c.pc = .lockSane ∨ c.pc = .waitThreads) :
    ∃ w', Runs Ds DaemonEvent.calling w w' ∧ w'.calls[i]? = some { c with pc := .done } := by
  have hi : i < w.calls.length := (List.getElem?_eq_some_iff.mp hc).1
  have hnh : c.pc.holdsSane = false := by rcases hpc with h | h <;> rw [h] <;> rfl
  generalize hn : w.calls.countP (·.pc.holdsSane) = n
  induction n generalizing w with
  | zero =>
    -- no call holds `sane_mutex`: the call takes it
    have hfree : w.saneFree = true := by
      simp only [saneFree, hm, beq_self_eq_true, Bool.true_and, List.all_eq_true,
        Bool.not_eq_true']
      exact fun c' hc' => by simpa using List.countP_eq_zero.mp hn c' hc'
    -- past its first lock the call is for a device that exists, so some device exists
    have hthreads : ¬(Ds.length = 0 ∨ (Ds.length : Int) ≤ c.dev) → w.threads.isSome :=
      fun hno => hp.threads_isSome (by omega)
    -- once it holds `sane_mutex` past its checks, the call returns
    have htake : w.step Ds (.caller i) = some (w.setCall i { c with pc := .lockSlot }) →
        ∃ w', Runs Ds DaemonEvent.calling w w' ∧ w'.calls[i]? = some { c with pc := .done } :=
      fun h => by
        have hg₁ := hg.step (e := .caller i) (fun _ _ h => nomatch h) (fun _ h => nomatch h) h
        obtain ⟨w', hr', hcl, -⟩ := hg₁.finish_holder (i := i) (c := { c with pc := .lockSlot })
          hm hp (by simp [setCall, hi]) rfl
        exact ⟨w', (Runs.single (e := .caller i) rfl h).trans hr', by simp [hcl, setCall, hi]⟩
    rcases hpc with hpc | hpc
    · by_cases hno : Ds.length = 0 ∨ (Ds.length : Int) ≤ c.dev
      · -- no such device: the call returns at once
        have h : w.step Ds (.caller i) = some (w.setCall i { c with pc := .done }) := by
          simp [DaemonWorld.step, hg.running, hc, callerStep, hpc, hfree]
          rw [if_pos hno]
        exact ⟨_, .single (e := .caller i) rfl h, by simp [setCall, hi]⟩
      · refine htake ?_
        simp [DaemonWorld.step, hg.running, hc, callerStep, hpc, hfree, hthreads hno]
        rw [if_neg hno]
    · have hno : ¬(Ds.length = 0 ∨ (Ds.length : Int) ≤ c.dev) := by
        have hcall := hg.inv.calls c (List.getElem?_mem hc)
        have := hcall.2 (by rw [hpc]; nofun) (by rw [hpc]; nofun)
        omega
      exact htake (by simp [DaemonWorld.step, hg.running, hc, callerStep, hpc, hfree, hthreads hno])
  | succ n ih =>
    -- another call holds `sane_mutex`: it returns first
    obtain ⟨c', hc', hh'⟩ :=
      List.countP_pos_iff.mp (by omega : 0 < w.calls.countP (·.pc.holdsSane))
    obtain ⟨j, hj⟩ := List.mem_iff_getElem?.mp hc'
    have hji : j ≠ i := by
      rintro rfl
      rw [hc, Option.some_inj] at hj
      subst hj
      simp [hnh] at hh'
    obtain ⟨w₁, hr, hcl, hm₁, hp₁⟩ := hg.finish_holder hm hp hj hh'
    have hj' : j < w.calls.length := (List.getElem?_eq_some_iff.mp hj).1
    obtain ⟨w', hr', hdone⟩ := ih (hg.runs (fun _ _ => rfl) (fun _ => rfl) hr) hm₁ hp₁
      (by rw [hcl, List.getElem?_set_ne hji]; exact hc) (by rw [hcl]; exact hi.trans_eq (by simp))
      (by
        rw [hcl, List.countP_set _ _ _ _ hj', List.getElem_eq_iff.mpr hj]
        simp [hh', hn, show CallerPc.done.holdsSane = false from rfl])
    exact ⟨w', hr.trans hr', hdone⟩

end Good

end DaemonWorld

/-- **Every call returns, whatever device it is for.** Take devices whose configurations'
patterns all compile and whose hosts can build a script's environment, and a run of the
daemon from its start whose calls of `sane_trigger_action` pass non-negative device numbers and
actions and whose reopens succeed or are denied. While no lifecycle operation is in progress and the poller of every device runs, the
steps of the calls, of the pollers and of their script children alone bring every call in
progress to its return, every reopen succeeding. The calls holding `sane_mutex` return first,
one after the other, each needing only its own device's poller; a call for a device that does
not exist returns once it holds `sane_mutex`. -/
theorem call_returns_on_every_device (Ds : List Daemon) (hDs : ∀ D ∈ Ds, D.Sound)
    {es : List DaemonEvent} (hes : ∀ d a, DaemonEvent.call d a ∈ es → 0 ≤ d ∧ 0 ≤ a)
    (ho : ∀ j, DaemonEvent.poller j .other ∉ es) {w : DaemonWorld} (h : DaemonWorld.run Ds DaemonWorld.init es = some w)
    (hm : w.main = .idle) (hp : ∀ k < Ds.length, ∃ s, w.slot k = some s ∧ s.pc ≠ .exited)
    {i : Nat} {c : Call} (hc : w.calls[i]? = some c) :
    ∃ w', DaemonWorld.Runs Ds DaemonEvent.calling w w' ∧
      w'.calls[i]? = some { c with pc := .done } := by
  have hg := (DaemonWorld.Good.init hDs).run hes ho h
  cases hpc : c.pc with
  | done => exact ⟨w, .refl w, by rw [hc, ← hpc]⟩
  | lockSlot | waitIdle =>
    obtain ⟨w', hr, hcl, -⟩ := hg.finish_holder hm hp hc (by rw [hpc]; rfl)
    exact ⟨w', hr, by rw [hcl, List.getElem?_set_self (List.getElem?_eq_some_iff.mp hc).1]⟩
  | lockSane => exact hg.finish_waiting hm hp hc (.inl hpc)
  | waitThreads => exact hg.finish_waiting hm hp hc (.inr hpc)

/-- In `blockedWorld` a call for device 0 waits for `sane_mutex`, which a call waiting for
device 1's action holds. -/
theorem call_returns_on_every_device_blocked :
    (∀ D ∈ twoDevices, D.Sound) ∧
    (∀ d a, DaemonEvent.call d a ∈ blockedRun → 0 ≤ d ∧ 0 ≤ a) ∧
    (∀ j, DaemonEvent.poller j .other ∉ blockedRun) ∧
    DaemonWorld.run twoDevices DaemonWorld.init blockedRun = some blockedWorld ∧
    blockedWorld.main = .idle ∧
    (∀ k < twoDevices.length, ∃ s, blockedWorld.slot k = some s ∧ s.pc ≠ .exited) ∧
    blockedWorld.calls[2]? = some ⟨1, 0, .waitIdle⟩ ∧
    blockedWorld.calls[3]? = some ⟨0, 1, .lockSane⟩ ∧
    ∃ w', DaemonWorld.Runs twoDevices DaemonEvent.calling blockedWorld w' ∧
      w'.calls[3]? = some ⟨0, 1, .done⟩ :=
  have hes : ∀ d a, DaemonEvent.call d a ∈ blockedRun → 0 ≤ d ∧ 0 ≤ a := by
    simp only [blockedRun, twoDevicesRun, List.cons_append, List.nil_append, List.mem_cons,
      DaemonEvent.call.injEq, reduceCtorEq, false_or, List.not_mem_nil, or_false]
    omega
  have ho : ∀ j, DaemonEvent.poller j .other ∉ blockedRun := by simp [blockedRun, twoDevicesRun]
  have h : DaemonWorld.run twoDevices DaemonWorld.init blockedRun = some blockedWorld := rfl
  have hp : ∀ k < twoDevices.length, ∃ s, blockedWorld.slot k = some s ∧ s.pc ≠ .exited := by
    intro k hk
    match k, hk with
    | 0, _ => exact ⟨_, rfl, by decide⟩
    | 1, _ => exact ⟨_, rfl, by decide⟩
  have hc : blockedWorld.calls[3]? = some ⟨0, 1, .lockSane⟩ := rfl
  ⟨twoDevices_sound, hes, ho, h, rfl, hp, rfl, hc,
    call_returns_on_every_device twoDevices twoDevices_sound hes ho h rfl hp hc⟩

end Scanbd
