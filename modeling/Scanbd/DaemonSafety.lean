import Scanbd.Devices

/-!
# Scanbd — what every reachable daemon keeps

`Scanbd.Safety` and `Scanbd.Progress` rest on the guarantees of one device: its configuration's
patterns compile, its host can build a script's environment, the calls pass non-negative
actions, and no reopen fails with a status other than `ACCESS_DENIED`. This module carries them
to the daemon of `Scanbd.Devices`, with all its devices. Every event of the daemon whose call
passes non-negative numbers and whose reopen does not fail otherwise keeps them for every
device (`DaemonWorld.Good.step`): each device runs the one-device model, with the calls for
it.

Conversely, the progress of one device's poller in the one-device model is progress of the
daemon. A run of device `j`'s poller and of its script children in the one-device model is a
run of the daemon that leaves the other slots, the calls and the main thread where they are
(`DaemonWorld.Good.lift_reaches`).

* `Daemon.Sound` — the configuration's and the host's guarantees for one device;
* `DaemonWorld.Bounded` — a thread list exists only for some device, and the main thread is at
  a device that exists;
* `DaemonWorld.Allocated` — every call that holds `sane_mutex` found the thread list there;
* `DaemonWorld.Good` — the daemon's invariants and `Good` for every device;
* `DaemonWorld.Runs` — the daemons a run of given events reaches.

## Results

* `daemon_never_aborts` — no assertion fails in any thread of the daemon, and every slot's
  tables stay good;
* `call_finds_its_slot` — a call that holds `sane_mutex` past its checks finds its device's
  slot in an allocated thread list;
* `DaemonWorld.Good.lift_reaches` — where a device's poller can bring its slot in the
  one-device model, it can bring it in the daemon.
-/

namespace Scanbd

/-- The guarantees `Scanbd.Progress` relies on for device `D`: its configuration's patterns
compile, and its host can build a script's environment for the compiled tables. -/
def Daemon.Sound (D : Daemon) : Prop :=
  D.cfg.Compiles D.lib ∧ ∃ st, compileRules D.lib D.dev D.σ D.cfg D.numOfOptions = some st ∧
    EnvSafe D.dev D.host D.env st

/-- Runs whose calls pass non-negative actions and whose reopens do not fail otherwise keep a
world good. -/
theorem Good.run_nonneg {D : Daemon} {v v' : World} {es : List Event} (hg : Good D v)
    (hes : ∀ a, Event.call a ∈ es → 0 ≤ a) (ho : Event.poller .other ∉ es)
    (h : World.run D v es = some v') : Good D v' := by
  obtain ⟨st, hst, henv⟩ := hg.env
  exact ⟨hg.compiles, hg.env, hg.inv.run h,
    SafeInv.run hg.compiles hst henv hg.inv hg.safe hes ho h⟩

/-- The device the main thread is at in the loops of `stop_sane_threads`. -/
def StopPc.dev : StopPc → Nat
  | idle => 0
  | lock _ i | wait _ i | cancel _ i | join _ i => i

/-- The events of the pollers and of their script children, every open and reopen of a device
succeeding. -/
def DaemonEvent.polling : DaemonEvent → Bool
  | .poller _ .good | .childExit _ _ => true
  | _ => false

/-- The events a stop relies on: the pollers', their script children's and the main
thread's. -/
def DaemonEvent.unaided : DaemonEvent → Bool
  | .main => true
  | e => e.polling

/-- The events a call relies on: the calls', the pollers' and their script children's. -/
def DaemonEvent.calling : DaemonEvent → Bool
  | .caller _ => true
  | e => e.polling

theorem DaemonEvent.unaided_of_polling {e : DaemonEvent} (h : e.polling = true) :
    e.unaided = true := by
  cases e <;> first | rfl | exact h

theorem DaemonEvent.calling_of_polling {e : DaemonEvent} (h : e.polling = true) :
    e.calling = true := by
  cases e <;> first | rfl | exact h

namespace DaemonWorld

/-! ## The main thread is at a device that exists -/

/-- `start_sane_threads` allocates a thread list only for some device, and `stop_sane_threads`
walks the devices of the list. -/
structure Bounded (n : Nat) (w : DaemonWorld) : Prop where
  threads : w.threads.isSome → 0 < n
  main : w.main ≠ .idle → w.main.dev < n

namespace Bounded

variable {Ds : List Daemon} {n : Nat} {w w' : DaemonWorld}

theorem init : DaemonWorld.init.Bounded n := ⟨nofun, fun h => absurd rfl h⟩

theorem congr (hb : w.Bounded n) (ht : w'.threads.isSome = w.threads.isSome)
    (hm : w'.main = w.main) : w'.Bounded n :=
  ⟨fun h => hb.threads (ht ▸ h), fun h => hm ▸ hb.main (hm ▸ h)⟩

theorem setSlot (hb : w.Bounded n) {k : Nat} {s : Slot} : (w.setSlot k s).Bounded n :=
  hb.congr (by simp [DaemonWorld.setSlot]) rfl

/-- The list allocated once the old one is freed. -/
theorem startThreads (hb : w.Bounded n) (hm : w.main = .idle) : (w.startThreads n).Bounded n := by
  unfold DaemonWorld.startThreads
  split_ifs with h0
  · exact hb
  · exact ⟨fun _ => Nat.pos_of_ne_zero h0, fun h => absurd hm h⟩

theorem beginLifecycle (hb : w.Bounded n) {r : Bool} (h : w.beginLifecycle n r = some w') :
    w'.Bounded n := by
  unfold DaemonWorld.beginLifecycle at h
  split_ifs at h with hfree <;> split at h <;> cases h
  all_goals first
    | exact hb
    | exact hb.startThreads (SaneExclusive.main_idle_of_saneFree hfree)
    | exact ⟨hb.threads, fun _ => hb.threads (by simp [*])⟩

theorem mainStep (hb : w.Bounded n) (h : w.mainStep n = some w') : w'.Bounded n := by
  have hfree : Bounded n { w with threads := none, main := .idle } :=
    ⟨nofun, fun h => absurd rfl h⟩
  obtain ⟨r, i, s, -, ⟨hm, -, rfl⟩ | ⟨hm, -, -, rfl⟩ | ⟨hm, rfl⟩ | ⟨-, -, hn, rfl⟩ |
    ⟨-, -, -, rfl⟩⟩ := mainStep_cases h
  all_goals try have hin : i < n := by simpa [hm, StopPc.dev] using hb.main (by rw [hm]; nofun)
  · exact ⟨hb.threads, fun _ => by dsimp only; split <;> exact hin⟩
  · exact ⟨hb.threads, fun _ => hin⟩
  · refine ⟨fun ht => hb.threads (by simpa [DaemonWorld.setSlot] using ht), fun _ => ?_⟩
    show (if i + 1 < n then StopPc.lock r (i + 1) else .join r 0).dev < n
    split <;> simp only [StopPc.dev] <;> omega
  · exact ⟨hb.threads, fun _ => hn⟩
  · cases r
    · exact hfree
    · exact hfree.startThreads rfl

/-- **Every event keeps the main thread at a device that exists.** -/
theorem step (hb : w.Bounded Ds.length) {e : DaemonEvent} (h : w.step Ds e = some w') :
    w'.Bounded Ds.length := by
  unfold DaemonWorld.step at h
  split at h
  · cases h
  split at h
  · unfold DaemonWorld.pollerStep at h
    split at h
    · obtain ⟨v, -, rfl⟩ := Option.map_eq_some'.mp h
      exact hb.congr (by simp [absorb, DaemonWorld.setSlot]) rfl
    · cases h
  · cases h
    split
    · exact hb.congr rfl rfl
    · exact hb.congr rfl rfl
  · obtain ⟨c, -, h⟩ := Option.bind_eq_some.mp h
    obtain ⟨p, rfl | ⟨s, -, rfl⟩⟩ := callerStep_cases h
    · exact hb.congr rfl rfl
    · exact hb.congr (by simp [DaemonWorld.setCall, DaemonWorld.setSlot]) rfl
  · exact hb.beginLifecycle h
  · exact hb.beginLifecycle h
  · exact hb.mainStep h
  · split at h
    · cases h
      exact hb.congr rfl rfl
    · cases h

end Bounded

/-! ## The main thread's operations leave the process running -/

section Aborted

variable {n : Nat} {w w' : DaemonWorld}

theorem startThreads_aborted : (w.startThreads n).aborted = w.aborted := by
  unfold startThreads
  split_ifs <;> rfl

theorem beginLifecycle_aborted {r : Bool} (h : w.beginLifecycle n r = some w') :
    w'.aborted = w.aborted := by
  unfold beginLifecycle at h
  split_ifs at h <;> split at h <;> cases h <;> first | rfl | exact startThreads_aborted

theorem mainStep_aborted (h : w.mainStep n = some w') : w'.aborted = w.aborted := by
  obtain ⟨r, i, s, -, ⟨-, -, rfl⟩ | ⟨-, -, -, rfl⟩ | ⟨-, rfl⟩ | ⟨-, -, -, rfl⟩ |
    ⟨-, -, -, rfl⟩⟩ := mainStep_cases h
  all_goals first | rfl | (cases r <;> first | rfl | exact startThreads_aborted)

end Aborted

/-! ## Every device stays good -/

/-- What the stop's progress relies on in the daemon: its invariants, and `Good` for every
device. -/
structure Good (Ds : List Daemon) (w : DaemonWorld) : Prop where
  inv : w.Inv Ds.length
  bounded : w.Bounded Ds.length
  running : w.aborted = false
  device : ∀ k D, Ds[k]? = some D → Scanbd.Good D (w.device k)

namespace Good

variable {Ds : List Daemon} {w w' : DaemonWorld}

theorem init (hDs : ∀ D ∈ Ds, D.Sound) : DaemonWorld.init.Good Ds :=
  ⟨Inv.init, Bounded.init, rfl, fun _ D hk =>
    have ⟨hc, henv⟩ := hDs D (List.getElem?_mem hk)
    ⟨hc, henv, Scanbd.Inv.init, SafeInv.init⟩⟩

/-- A step whose call passes non-negative numbers and whose reopen does not fail otherwise
leaves the process running: a poller's step keeps its device good, and the other events do not
abort. -/
theorem running_step (hg : w.Good Ds) {e : DaemonEvent}
    (he : ∀ d a, e = .call d a → 0 ≤ d ∧ 0 ≤ a) (ho : ∀ j, e ≠ .poller j .other)
    (h : w.step Ds e = some w') : w'.aborted = false := by
  unfold DaemonWorld.step at h
  rw [if_neg (by simp [hg.running])] at h
  split at h
  · unfold pollerStep at h
    split at h
    · rename_i j st _ _ D s hD hs
      obtain ⟨v, hv, rfl⟩ := Option.map_eq_some'.mp h
      exact ((hg.device j D hD).pollerStep hs (fun hst => ho j (hst ▸ rfl)) hv).running
    · cases h
  · rename_i d a
    obtain ⟨hd, ha⟩ := he d a rfl
    cases h
    rw [if_neg (by omega)]
    exact hg.running
  · obtain ⟨c, -, h⟩ := Option.bind_eq_some.mp h
    obtain ⟨p, rfl | ⟨s, -, rfl⟩⟩ := callerStep_cases h <;> exact hg.running
  · exact (beginLifecycle_aborted h).trans hg.running
  · exact (beginLifecycle_aborted h).trans hg.running
  · exact (mainStep_aborted h).trans hg.running
  · split at h
    · cases h
      exact hg.running
    · cases h

/-- **Every event whose call passes non-negative numbers and whose reopen does not fail
otherwise keeps the daemon good.** Each device runs the one-device model
(`DaemonWorld.device_step`) with non-negative calls and such reopens. -/
theorem step (hg : w.Good Ds) {e : DaemonEvent} (he : ∀ d a, e = .call d a → 0 ≤ d ∧ 0 ≤ a)
    (ho : ∀ j, e ≠ .poller j .other) (h : w.step Ds e = some w') : w'.Good Ds := by
  have hrun := hg.running_step he ho h
  refine ⟨hg.inv.step h, hg.bounded.step h, hrun, fun k D hk => ?_⟩
  have hok : ∀ j st, e = .poller j st → st ≠ .other := fun j _ he' hst => ho j (hst ▸ he')
  obtain ⟨es, hes, hst, hk'⟩ := device_step hk hg.inv hok h
  exact (hg.device k D hk).run_nonneg (hes hrun) (fun hm => hst _ hm rfl) hk'

theorem run :
    ∀ {es : List DaemonEvent} {w w' : DaemonWorld}, w.Good Ds →
      (∀ d a, .call d a ∈ es → 0 ≤ d ∧ 0 ≤ a) → (∀ j, .poller j .other ∉ es) →
      DaemonWorld.run Ds w es = some w' → w'.Good Ds
  | [], _, _, hg, _, _, h => by cases h; exact hg
  | e :: es, _, _, hg, hes, ho, h => by
    rw [run_cons] at h
    obtain ⟨w₁, h₁, h⟩ := Option.bind_eq_some.mp h
    exact run (hg.step (fun d a he => hes d a (he ▸ List.mem_cons_self _ _))
        (fun j he => ho j (he ▸ List.mem_cons_self _ _)) h₁)
      (fun d a ha => hes d a (List.mem_cons_of_mem _ ha))
      (fun j hj => ho j (List.mem_cons_of_mem _ hj)) h

end Good

end DaemonWorld

/-- Both sample devices compile their rules and can build a script's environment. -/
theorem twoDevices_sound : ∀ D ∈ twoDevices, D.Sound := by
  have hc : (sampleDaemon 4).cfg.Compiles (sampleDaemon 4).lib := by decide
  have henv : EnvSafe (sampleDaemon 4).dev (sampleDaemon 4).host (sampleDaemon 4).env
      sampleTables := ⟨by decide, by decide, by decide, by decide, by decide, by decide⟩
  intro D hD
  simp only [twoDevices, List.mem_cons, List.mem_singleton, List.not_mem_nil, or_false] at hD
  rcases hD with rfl | rfl <;> exact ⟨hc, sampleTables, rfl, henv⟩

/-- **No assertion fails in the daemon.** Take devices whose configurations' patterns all
compile and whose hosts can build a script's environment. Every run of the daemon from its
start whose calls of `sane_trigger_action` pass non-negative device numbers and actions, and
whose reopens succeed or are denied, leaves the process running, under any interleaving of the
pollers of all devices, the calls, the starts and stops and the script exits; and the tables
of every device's slot stay good. Starts and stops do not nest in these runs
(`DaemonWorld.beginLifecycle`). -/
theorem daemon_never_aborts (Ds : List Daemon) (hDs : ∀ D ∈ Ds, D.Sound)
    {es : List DaemonEvent} (hes : ∀ d a, DaemonEvent.call d a ∈ es → 0 ≤ d ∧ 0 ≤ a)
    (ho : ∀ j, DaemonEvent.poller j .other ∉ es)
    {w : DaemonWorld} (h : DaemonWorld.run Ds DaemonWorld.init es = some w) :
    w.aborted = false ∧
      ∀ k D s, Ds[k]? = some D → w.slot k = some s → TablesOk D.toPoller s.poll.tables := by
  have hg := (DaemonWorld.Good.init hDs).run hes ho h
  exact ⟨hg.running, fun k D s hk hs => (hg.device k D hk).safe.tables s hs⟩

theorem daemon_never_aborts_two :
    (∀ D ∈ twoDevices, D.Sound) ∧
    (∀ d a, DaemonEvent.call d a ∈ twoDevicesRun → 0 ≤ d ∧ 0 ≤ a) ∧
    (∀ j, DaemonEvent.poller j .other ∉ twoDevicesRun) ∧
    DaemonWorld.run twoDevices DaemonWorld.init twoDevicesRun = some twoDevicesWorld ∧
    twoDevicesWorld.aborted = false ∧
    ∀ k D s, twoDevices[k]? = some D → twoDevicesWorld.slot k = some s →
      TablesOk D.toPoller s.poll.tables :=
  have hes : ∀ d a, DaemonEvent.call d a ∈ twoDevicesRun → 0 ≤ d ∧ 0 ≤ a := by
    simp only [twoDevicesRun, List.mem_cons, DaemonEvent.call.injEq, reduceCtorEq, false_or,
      List.not_mem_nil, or_false]
    omega
  have ho : ∀ j, DaemonEvent.poller j .other ∉ twoDevicesRun := by simp [twoDevicesRun]
  ⟨twoDevices_sound, hes, ho, rfl, daemon_never_aborts twoDevices twoDevices_sound hes ho rfl⟩

namespace DaemonWorld

/-! ## The thread list under `sane_mutex` -/

/-- Every call that holds `sane_mutex` found the thread list there: `sane_trigger_action`
waits on `sane_cv` until `sane_poll_threads` is not `NULL` (lines 1215-1222) and keeps
`sane_mutex` until it returns. -/
def Allocated (w : DaemonWorld) : Prop :=
  ∀ c ∈ w.calls, c.pc.holdsSane = true → w.threads.isSome = true

namespace Allocated

variable {Ds : List Daemon} {n i : Nat} {c : Call} {w w' : DaemonWorld}

theorem init : DaemonWorld.init.Allocated := fun _ h => absurd h (List.not_mem_nil _)

/-- With no call holding `sane_mutex` there is nothing to keep. -/
theorem of_not_holds (h : ∀ c ∈ w.calls, c.pc.holdsSane = false) : w.Allocated :=
  fun c hc hh => absurd hh (by rw [h c hc]; decide)

theorem setSlot (ha : w.Allocated) {k : Nat} {s : Slot} : (w.setSlot k s).Allocated :=
  fun c hc hh => by simpa [DaemonWorld.setSlot] using ha c hc hh

/-- Replacing a call by one that holds `sane_mutex` only with the thread list there. -/
theorem setCall (ha : w.Allocated) {c' : Call}
    (hc' : c'.pc.holdsSane = true → w.threads.isSome = true) : (w.setCall i c').Allocated :=
  fun x hx hh => (List.mem_or_eq_of_mem_set hx).elim (ha x · hh) fun h => hc' (h ▸ hh)

/-- A call takes `sane_mutex` past its checks only once the thread list is there
(lines 1202-1222), and keeps it from then on. -/
theorem callerStep (ha : w.Allocated) (hc : w.calls[i]? = some c)
    (h : w.callerStep n i c = some w') : w'.Allocated := by
  have held : c.pc.holdsSane = true → w.threads.isSome = true := ha c (List.getElem?_mem hc)
  have done : ∀ p : CallerPc, p.holdsSane = false →
      (w.setCall i { c with pc := p }).Allocated := fun p hp => ha.setCall fun hh => by
    rw [hp] at hh; cases hh
  unfold DaemonWorld.callerStep at h
  cases hpc : c.pc with
  | lockSane =>
    rw [hpc] at h
    dsimp only at h
    split_ifs at h with hfree hout hth <;> cases h
    · exact done _ rfl
    · exact ha.setCall fun _ => hth
    · exact done _ rfl
  | waitThreads =>
    rw [hpc] at h
    dsimp only at h
    split_ifs at h with hth
    cases h
    exact ha.setCall fun _ => (Bool.and_eq_true _ _ ▸ hth).2
  | lockSlot | waitIdle =>
    have hth := held (by rw [hpc]; rfl)
    obtain ⟨p, rfl | ⟨s, -, rfl⟩⟩ := callerStep_cases h
    · exact ha.setCall fun _ => hth
    · exact ha.setSlot.setCall fun _ => by simpa [DaemonWorld.setSlot] using hth
  | done => rw [hpc] at h; cases h

/-- A lifecycle operation begins with `sane_mutex` free and leaves the calls as they are. -/
theorem beginLifecycle {r : Bool} (h : w.beginLifecycle n r = some w') : w'.Allocated := by
  unfold DaemonWorld.beginLifecycle at h
  by_cases hfree : w.saneFree = true
  swap
  · rw [if_neg hfree] at h; cases h
  rw [if_pos hfree] at h
  refine of_not_holds fun c hc => SaneExclusive.not_holds_of_saneFree hfree ?_
  split at h <;> cases h
  · exact hc
  · cases r
    · exact hc
    · rwa [if_pos rfl, (SaneExclusive.startThreads_calls_main w n).1] at hc

/-- **Every event keeps the thread list under the calls that hold `sane_mutex`.** The list is
freed only by the main thread, which holds `sane_mutex` then. -/
theorem step (hx : w.SaneExclusive) (ha : w.Allocated) {e : DaemonEvent}
    (h : w.step Ds e = some w') : w'.Allocated := by
  unfold DaemonWorld.step at h
  split at h
  · cases h
  split at h
  · unfold DaemonWorld.pollerStep at h
    split at h
    · obtain ⟨v, -, rfl⟩ := Option.map_eq_some'.mp h
      exact ha.setSlot
    · cases h
  · cases h
    split
    · exact ha
    · intro x hx hh
      rcases List.mem_append.mp hx with hx | hx
      · exact ha x hx hh
      · rw [List.mem_singleton.mp hx] at hh; cases hh
  · obtain ⟨c, hc, h⟩ := Option.bind_eq_some.mp h
    exact ha.callerStep hc h
  · exact beginLifecycle h
  · exact beginLifecycle h
  · -- the main thread holds `sane_mutex` through the operation
    obtain ⟨hc, hm⟩ := SaneExclusive.mainStep_calls h
    exact of_not_holds (hc ▸ hx.main hm)
  · split at h
    · cases h; exact ha
    · cases h

end Allocated

theorem reachable_allocated {Ds : List Daemon} {w : DaemonWorld} (hw : DaemonReachable Ds w) :
    w.Allocated := by
  obtain ⟨es, h⟩ := hw
  exact (run_preserves (P := fun w => w.SaneExclusive ∧ w.Allocated)
    (fun hw h => ⟨hw.1.step h, hw.2.step hw.1 h⟩) es ⟨SaneExclusive.init, Allocated.init⟩ h).2

end DaemonWorld

/-- **A call never indexes a missing thread list.** In every reachable daemon, a call of
`sane_trigger_action` that holds `sane_mutex` past its checks (lines 1223-1240) is for one of
the devices, and the thread list holds that device's slot: `&sane_poll_threads[number_of_dev]`
is never taken of a list that is not there, has been freed, or is shorter. -/
theorem call_finds_its_slot (Ds : List Daemon) {w : DaemonWorld} (hw : DaemonReachable Ds w)
    {c : Call} (hc : c ∈ w.calls) (hpc : c.pc.holdsSane = true) :
    c.dev.toNat < Ds.length ∧ ∃ s, w.slot c.dev.toNat = some s := by
  have hinv := DaemonWorld.reachable_inv hw
  have hdev : 0 ≤ c.dev ∧ c.dev < Ds.length := by
    obtain ⟨h0, hlt⟩ := hinv.calls c hc
    refine ⟨h0, hlt ?_ ?_⟩ <;> intro h <;> rw [h] at hpc <;> cases hpc
  have hk : c.dev.toNat < Ds.length := by omega
  refine ⟨hk, Option.isSome_iff_exists.mp ?_⟩
  rw [hinv.slot_isSome hk]
  exact DaemonWorld.reachable_allocated hw c hc hpc

theorem call_finds_its_slot_blocked :
    DaemonReachable twoDevices blockedWorld ∧ (⟨1, 0, .waitIdle⟩ : Call) ∈ blockedWorld.calls ∧
      (1 : Int).toNat < twoDevices.length ∧ ∃ s, blockedWorld.slot 1 = some s :=
  have hw : DaemonReachable twoDevices blockedWorld := ⟨blockedRun, rfl⟩
  have hc : (⟨1, 0, .waitIdle⟩ : Call) ∈ blockedWorld.calls :=
    List.getElem?_mem (show blockedWorld.calls[2]? = some ⟨1, 0, .waitIdle⟩ from rfl)
  ⟨hw, hc, call_finds_its_slot twoDevices hw hc rfl⟩

namespace DaemonWorld

/-! ## Runs of the daemon -/

theorem run_append {Ds : List Daemon} (w : DaemonWorld) (es es' : List DaemonEvent) :
    run Ds w (es ++ es') = (run Ds w es).bind fun w' => run Ds w' es' := by
  simp only [run, List.foldlM_append]
  rfl

/-- `w'` is reached from `w` by a run of events that `ok` allows. -/
def Runs (Ds : List Daemon) (ok : DaemonEvent → Bool) (w w' : DaemonWorld) : Prop :=
  ∃ es : List DaemonEvent, es.all ok ∧ run Ds w es = some w'

namespace Runs

variable {Ds : List Daemon} {ok : DaemonEvent → Bool} {w w₁ w₂ : DaemonWorld}

theorem refl (w : DaemonWorld) : Runs Ds ok w w := ⟨[], rfl, rfl⟩

theorem single {e : DaemonEvent} (he : ok e = true) (h : w.step Ds e = some w₁) :
    Runs Ds ok w w₁ :=
  ⟨[e], by simp [he], by rw [run_cons, h, Option.some_bind]; rfl⟩

theorem trans (h₁ : Runs Ds ok w w₁) (h₂ : Runs Ds ok w₁ w₂) : Runs Ds ok w w₂ := by
  obtain ⟨es, ha, h⟩ := h₁
  obtain ⟨es', ha', h'⟩ := h₂
  exact ⟨es ++ es', by simp [ha, ha'], by rw [run_append, h, Option.some_bind, h']⟩

theorem mono {ok' : DaemonEvent → Bool} (hle : ∀ e, ok e = true → ok' e = true)
    (h : Runs Ds ok w w₁) : Runs Ds ok' w w₁ := by
  obtain ⟨es, ha, h⟩ := h
  exact ⟨es, List.all_eq_true.mpr fun e he => hle e (List.all_eq_true.mp ha e he), h⟩

end Runs

/-! ## A device's poller in the daemon -/

namespace Good

variable {Ds : List Daemon} {D : Daemon} {w w' : DaemonWorld} {j : Nat}

/-- Runs with no new call and no reopen that fails otherwise keep the daemon good. -/
theorem runs {ok : DaemonEvent → Bool} (hok : ∀ d a, ok (.call d a) = false)
    (hother : ∀ j, ok (.poller j .other) = false) (hg : w.Good Ds) (h : Runs Ds ok w w') :
    w'.Good Ds := by
  obtain ⟨es, hall, h⟩ := h
  refine hg.run (fun d a ha => ?_) (fun j hj => ?_) h
  · simpa [hok] using List.all_eq_true.mp hall _ ha
  · simpa [hother] using List.all_eq_true.mp hall _ hj

/-- **A step of device `j`'s poller or of one of its script children in the one-device model
is a step of the daemon**, which leaves the other slots and the main thread where they are. -/
theorem lift_step (hg : w.Good Ds) (hk : Ds[j]? = some D) {e : Event} (he : e.polling = true)
    {v : World} (h : World.step D (w.device j) e = some v) :
    ∃ w', Runs Ds DaemonEvent.polling w w' ∧ w'.device j = v ∧
      (∀ k ≠ j, w'.slot k = w.slot k) ∧ w'.calls = w.calls ∧ w'.main = w.main := by
  cases e with
  | poller st =>
    obtain rfl : st = .good := by cases st <;> first | rfl | cases he
    obtain ⟨s, hs, hv⟩ := Option.bind_eq_some.mp (by simpa [World.step, hg.running] using h)
    obtain ⟨hm, hc⟩ := World.pollerStep_frame hv
    obtain ⟨hn, hsl⟩ := World.pollerStep_slot hs hv
    refine ⟨w.absorb j s v, .single (e := .poller j .good) rfl ?_,
      device_absorb_self hs hsl hn hc hm, fun k hkj => slot_setSlot_ne (Ne.symm hkj) _, rfl, rfl⟩
    simp [DaemonWorld.step, hg.running, pollerStep, hk, hs, hv]
  | childExit g =>
    rw [World.step, if_neg (by simp [hg.running])] at h
    split at h
    · rename_i hm
      have hm : g ∈ w.children j := hm
      cases h
      exact ⟨{ w with children := Function.update w.children j ((w.children j).erase g) },
        .single (e := .childExit j g) rfl (by simp [DaemonWorld.step, hg.running, hm]),
        World.ext rfl rfl rfl rfl (Function.update_same _ _ _) rfl rfl rfl, fun _ _ => rfl, rfl,
        rfl⟩
    · cases h
  | _ => cases he

/-- A run of device `j`'s poller and script children in the one-device model is a run of the
daemon. -/
theorem lift_runs (hg : w.Good Ds) (hk : Ds[j]? = some D) {v : World}
    (h : World.Runs D Event.polling (w.device j) v) :
    ∃ w', Runs Ds DaemonEvent.polling w w' ∧ w'.device j = v ∧
      (∀ k ≠ j, w'.slot k = w.slot k) ∧ w'.calls = w.calls ∧ w'.main = w.main := by
  obtain ⟨es, hall, h⟩ := h
  induction es generalizing w with
  | nil => cases h; exact ⟨w, .refl w, rfl, fun _ _ => rfl, rfl, rfl⟩
  | cons e es ih =>
    rw [List.all_cons, Bool.and_eq_true] at hall
    simp only [World.run, List.foldlM_cons] at h
    obtain ⟨v₁, h₁, h⟩ := Option.bind_eq_some.mp h
    obtain ⟨w₁, hr₁, hd₁, hs₁, hc₁, hm₁⟩ := hg.lift_step hk hall.1 h₁
    obtain ⟨w₂, hr₂, hd₂, hs₂, hc₂, hm₂⟩ := ih (hg.runs (fun _ _ => rfl) (fun _ => rfl) hr₁) hall.2 (hd₁ ▸ h)
    exact ⟨w₂, hr₁.trans hr₂, hd₂, fun k hkj => (hs₂ k hkj).trans (hs₁ k hkj), hc₂.trans hc₁,
      hm₂.trans hm₁⟩

/-- Where device `j`'s poller can bring its slot in the one-device model, it can bring it in
the daemon. -/
theorem lift_reaches (hg : w.Good Ds) (hk : Ds[j]? = some D) {P : Slot → Prop}
    (h : Reaches D (w.device j) P) :
    ∃ w' s, Runs Ds DaemonEvent.polling w w' ∧ w'.slot j = some s ∧ P s ∧
      (∀ k ≠ j, w'.slot k = w.slot k) ∧ w'.calls = w.calls ∧ w'.main = w.main := by
  obtain ⟨v, s, hr, hs, hp⟩ := h
  obtain ⟨w', hr', hd, hsl, hc, hm⟩ := hg.lift_runs hk hr
  exact ⟨w', s, hr', (congrArg World.slot hd).trans hs, hp, hsl, hc, hm⟩

end Good

end DaemonWorld

end Scanbd
