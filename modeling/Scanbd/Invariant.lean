import Scanbd.Threads

/-!
# Scanbd — what every reachable world satisfies

`Inv` collects what holds in every world reachable from the daemon's start:
* the slot's trigger agrees with its count (`PollState.TriggerOk`);
* the poller's program point agrees with its tables and its handle (`SlotInv`);
* the generations of the slot and of the running script children, and that no two of these
  children were forked by one poller;
* during a lifecycle operation no call holds `sane_mutex` and there is a slot;
* a cancellation request is pending exactly while the main thread joins the poller.

Each operation on a world (`World.setSlot`, `World.exitPoller`, a fork, `World.setCaller`, ...)
keeps `Inv` under its own side conditions (the first part of namespace `Inv`). From these,
each thread's step keeps it (the second part), and so does every run.

## Results

* `Inv.step` — every event keeps the invariant;
* `reachable_inv` — every reachable world satisfies `Inv`.
-/

namespace Scanbd

/-! ## The slot's trigger -/

namespace PollState

/-- `triggered` and `triggered_option` agree with the count (`triggered_option = -1` when no
trigger is pending), and the count fits in the tables. -/
structure TriggerOk (p : PollState) : Prop where
  trigger : p.triggered = true →
    0 ≤ p.triggeredOption ∧ p.triggeredOption < p.tables.numOfOptionsWithScripts
  idle : p.triggered = false → p.triggeredOption = -1
  bounds : p.tables.numOfOptionsWithScripts ≤ p.tables.numOfOptions

namespace TriggerOk

variable {p q : PollState}

theorem start (n : Nat) : (PollState.start (SaneThread.alloc n)).TriggerOk :=
  ⟨nofun, fun _ => rfl, Nat.zero_le _⟩

/-- With no rules no trigger can be pending, so installing compiled tables keeps the trigger
idle. -/
theorem compile (h : p.TriggerOk) (h0 : p.tables.numOfOptionsWithScripts = 0) {st : SaneThread}
    (hle : st.numOfOptionsWithScripts ≤ st.numOfOptions) :
    (⟨st, p.triggered, p.triggeredOption, p.queries⟩ : PollState).TriggerOk := by
  have hidle : p.triggered = false := by
    cases ht : p.triggered
    · rfl
    · have := h.trigger ht; omega
  exact ⟨fun ht => absurd (hidle.symm.trans ht) Bool.false_ne_true, fun _ => h.idle hidle, hle⟩

theorem ruleStep (h : p.TriggerOk) {lib : RegexLib} {dev : Device} {σ : Nat → Sample} {si : Nat}
    {o : Option OptionDescriptor} (hsi : si < p.tables.numOfOptionsWithScripts)
    (hr : ruleStep lib dev σ p si = some (o, q)) :
    q.TriggerOk ∧ q.tables.numOfOptionsWithScripts = p.tables.numOfOptionsWithScripts := by
  obtain ⟨hN, hS, ⟨ht, ho⟩ | ⟨ht, ho⟩⟩ := ruleStep_trigger hr
  · exact ⟨⟨fun h' => hS ▸ ho ▸ h.trigger (ht ▸ h'), fun h' => ho ▸ h.idle (ht ▸ h'),
      hS ▸ hN ▸ h.bounds⟩, hS⟩
  · refine ⟨⟨fun _ => ?_, fun h' => absurd (h'.symm.trans ht) Bool.false_ne_true,
      hS ▸ hN ▸ h.bounds⟩, hS⟩
    rw [ho, hS]; omega

theorem queriesOthers (h : p.TriggerOk) (hq : p.QueriesOthers q) :
    q.TriggerOk ∧ q.tables.numOfOptionsWithScripts = p.tables.numOfOptionsWithScripts := by
  obtain ⟨n, qs, rfl, -⟩ := hq
  exact ⟨⟨h.trigger, h.idle, h.bounds⟩, rfl⟩

theorem clearTrigger (h : p.TriggerOk) : p.clearTrigger.TriggerOk :=
  ⟨nofun, fun _ => rfl, h.bounds⟩

theorem setTrigger (h : p.TriggerOk) {a : Int} (h0 : 0 ≤ a)
    (ha : a < p.tables.numOfOptionsWithScripts) : (p.setTrigger a).TriggerOk :=
  ⟨fun _ => ⟨h0, ha⟩, nofun, h.bounds⟩

end TriggerOk

end PollState

/-- The dispatch hands over rule `triggered_option` and changes the slot only by queries. -/
theorem dispatchBegin_frame {P : Poller} {odesc : OptionDescriptor} {p q : PollState}
    {d : Dispatch} (h : dispatchBegin P odesc p = some (d, q)) :
    p.QueriesOthers q ∧ d.rule = p.triggeredOption.toNat := by
  simp only [dispatchBegin, Option.bind_eq_bind] at h
  split at h
  · cases h
  obtain ⟨r, hr, h⟩ := Option.bind_eq_some.mp h
  obtain ⟨sc, -, h⟩ := Option.bind_eq_some.mp h
  split at h
  · cases h
  cases h
  exact ⟨buildEnv_frame hr, rfl⟩

/-! ## What every reachable world satisfies -/

namespace PollerPc

/-- What the poller's program point says of its slot: before the start there are no rules
and no failed reopen; in the polling loop the handle is `NULL` exactly when the last reopen
failed; from the close before a dispatch to the reopen after it the handle is `NULL`. -/
def Ok : PollerPc → PollState → Handle → Bool → Prop
  | lockInit, p, _, rf => p.tables.numOfOptionsWithScripts = 0 ∧ rf = false
  | loopTop, _, h, rf | rule _, _, h, rf | pollSleep, _, h, rf => (h = .null ↔ rf = true)
  | preFork _, _, h, _ | waitChild _, _, h, _ | lockClear _, _, h, _ | settle _, _, h, _ =>
    h = .null
  | exited, _, _, _ => True

/-- What a program point says of the slot depends on its tables only through the count. -/
theorem Ok.of_count {pc : PollerPc} {p p' : PollState} {h : Handle} {rf : Bool}
    (hok : pc.Ok p h rf)
    (hc : p'.tables.numOfOptionsWithScripts = p.tables.numOfOptionsWithScripts) :
    pc.Ok p' h rf := by
  cases pc
  case lockInit => exact ⟨hc.trans hok.1, hok.2⟩
  all_goals exact hok

/-- The points at which a script child the poller forked may still run. -/
def childMayRun : PollerPc → Bool
  | waitChild _ | exited => true
  | _ => false

end PollerPc

/-- What holds of the slot: its trigger, and what its poller's program point says of it. -/
structure SlotInv (s : Slot) : Prop where
  poll : s.poll.TriggerOk
  pc : s.pc.Ok s.poll s.handle s.reopenFailed

/-- **The invariant of the daemon around the device.** The slot satisfies `SlotInv`; the
generations of the slot and of the running children are below the next one, and no two running
children were forked by the same poller; while a child
forked by the slot's poller runs, the poller waits for it or has terminated, with the handle
closed; every call's action is non-negative, and a call waiting for an active action to end
passed the check against the count; while the main thread is in a lifecycle operation no call
holds `sane_mutex` and there is a slot; and the poller has a cancellation request pending exactly
when the main thread waits to join it. -/
structure Inv (w : World) : Prop where
  slot : ∀ s, w.slot = some s → SlotInv s
  gen : ∀ s, w.slot = some s → s.gen < w.nextGen
  children : ∀ g ∈ w.children, g < w.nextGen
  distinct : w.children.Nodup
  forked : ∀ s, w.slot = some s → s.gen ∈ w.children →
    s.handle = .null ∧ s.pc.childMayRun = true
  actions : ∀ c ∈ w.callers, 0 ≤ c.action
  waiting : ∀ c ∈ w.callers, c.pc = .waitIdle →
    ∃ s, w.slot = some s ∧ c.action < s.poll.tables.numOfOptionsWithScripts
  exclusive : w.main ≠ .idle → ∀ c ∈ w.callers, c.pc.holdsSane = false
  stopping : w.main ≠ .idle → w.slot.isSome
  pending : ∀ s, w.slot = some s → (s.cancelPending = true ↔ ∃ r, w.main = .stopJoin r)

namespace Inv

variable {w : World} {s : Slot}

theorem init : Inv World.init :=
  ⟨fun _ h => (nomatch h), fun _ h => (nomatch h), fun _ h => (nomatch h), List.nodup_nil,
    fun _ h => (nomatch h), fun _ h => (nomatch h), fun _ h => (nomatch h), fun h => absurd rfl h,
    fun h => absurd rfl h, fun _ h => (nomatch h)⟩

/-- The invariant reads only the slot, the generations, the children, the calls and the main
thread. -/
theorem congr (h : Inv w) {w' : World} (hs : w'.slot = w.slot) (hg : w'.nextGen = w.nextGen)
    (hc : w'.children = w.children) (hcl : w'.callers = w.callers) (hm : w'.main = w.main) :
    Inv w' := by
  obtain ⟨h1, h2, h3, h4, h5, h6, h7, h8, h9, h10⟩ := h
  exact ⟨hs ▸ h1, hs ▸ hg ▸ h2, hc ▸ hg ▸ h3, hc ▸ h4, hs ▸ hc ▸ h5, hcl ▸ h6,
    hcl ▸ hs ▸ h7, hm ▸ hcl ▸ h8, fun h => hs ▸ h9 (hm ▸ h),
    fun s h => hm ▸ h10 s (hs ▸ h)⟩

theorem abort (h : Inv w) : Inv w.abort := h.congr rfl rfl rfl rfl rfl

theorem not_forked (hw : Inv w) (hs : w.slot = some s) (h : s.pc.childMayRun = false) :
    s.gen ∉ w.children :=
  fun hm => Bool.false_ne_true (h.symm.trans (hw.forked s hs hm).2)

/-- Replacing the slot by one of the same generation that satisfies `SlotInv`, whose count did
not shrink unless it was zero, and that keeps a running child's guarantees. -/
theorem setSlot (hw : Inv w) (hs : w.slot = some s) {s' : Slot} (h' : SlotInv s')
    (hgen : s'.gen = s.gen) (hpend : s'.cancelPending = s.cancelPending)
    (hcount : s.poll.tables.numOfOptionsWithScripts = 0 ∨
      s.poll.tables.numOfOptionsWithScripts ≤ s'.poll.tables.numOfOptionsWithScripts)
    (hforked : s.gen ∈ w.children → s'.handle = .null ∧ s'.pc.childMayRun = true) :
    Inv (w.setSlot s') where
  slot _ h := Option.some.inj h ▸ h'
  gen _ h := Option.some.inj h ▸ hgen ▸ hw.gen s hs
  children := hw.children
  distinct := hw.distinct
  forked _ h := Option.some.inj h ▸ hgen ▸ hforked
  actions := hw.actions
  waiting c hc hpc := by
    obtain ⟨s₀, hs₀, hlt⟩ := hw.waiting c hc hpc
    obtain rfl : s₀ = s := Option.some.inj (hs₀.symm.trans hs)
    have := hw.actions c hc
    exact ⟨s', rfl, by omega⟩
  exclusive := hw.exclusive
  stopping _ := rfl
  pending _ h := by obtain rfl := Option.some.inj h; rw [hpend]; exact hw.pending s hs

/-- `setSlot` at a point where no child of the slot's poller can run. -/
theorem setSlot_unforked (hw : Inv w) (hs : w.slot = some s) (hpc : s.pc.childMayRun = false)
    {s' : Slot} (h' : SlotInv s') (hgen : s'.gen = s.gen)
    (hpend : s'.cancelPending = s.cancelPending)
    (hcount : s.poll.tables.numOfOptionsWithScripts ≤ s'.poll.tables.numOfOptionsWithScripts) :
    Inv (w.setSlot s') :=
  hw.setSlot hs h' hgen hpend (.inr hcount) (absurd · (hw.not_forked hs hpc))

theorem exitPoller (hw : Inv w) (hs : w.slot = some s) (held : Bool) :
    Inv (w.exitPoller s held) :=
  (hw.setSlot hs (⟨(hw.slot s hs).poll, trivial⟩ : SlotInv { s with pc := .exited }) rfl rfl
    (.inr le_rfl)
    fun hm => ⟨(hw.forked s hs hm).1, rfl⟩).congr rfl rfl rfl rfl rfl

theorem fork (hw : Inv w) (hs : w.slot = some s) (hnull : s.handle = .null)
    (hnf : s.gen ∉ w.children) {si : Nat} :
    Inv ({ w with children := s.gen :: w.children }.setSlot { s with pc := .waitChild si }) where
  slot _ h := Option.some.inj h ▸ ⟨(hw.slot s hs).poll, hnull⟩
  gen _ h := Option.some.inj h ▸ hw.gen s hs
  children g hg := by
    rcases List.mem_cons.mp hg with rfl | hg
    · exact hw.gen s hs
    · exact hw.children g hg
  distinct := List.nodup_cons.mpr ⟨hnf, hw.distinct⟩
  forked _ h _ := Option.some.inj h ▸ ⟨hnull, rfl⟩
  actions := hw.actions
  waiting c hc hpc := by
    obtain ⟨s₀, hs₀, hlt⟩ := hw.waiting c hc hpc
    obtain rfl : s₀ = s := Option.some.inj (hs₀.symm.trans hs)
    exact ⟨_, rfl, hlt⟩
  exclusive := hw.exclusive
  stopping _ := rfl
  pending _ h := Option.some.inj h ▸ hw.pending s hs

theorem setCaller (hw : Inv w) {i : Nat} {c c' : Caller} (hc : w.callers[i]? = some c)
    (hact : c'.action = c.action)
    (hwait : c'.pc = .waitIdle →
      ∃ s, w.slot = some s ∧ c'.action < s.poll.tables.numOfOptionsWithScripts)
    (hex : w.main ≠ .idle → c'.pc.holdsSane = false) : Inv (w.setCaller i c') := by
  have hmem : ∀ c₀ ∈ (w.setCaller i c').callers, c₀ ∈ w.callers ∨ c₀ = c' :=
    fun c₀ h => List.mem_or_eq_of_mem_set h
  refine ⟨hw.slot, hw.gen, hw.children, hw.distinct, hw.forked, fun c₀ h => ?_,
    fun c₀ h hp => ?_, fun hm c₀ h => ?_, hw.stopping, hw.pending⟩
  · rcases hmem c₀ h with h | rfl
    · exact hw.actions c₀ h
    · rw [hact]; exact hw.actions c (List.getElem?_mem hc)
  · rcases hmem c₀ h with h | rfl
    · exact hw.waiting c₀ h hp
    · exact hwait hp
  · rcases hmem c₀ h with h | rfl
    · exact hw.exclusive hm c₀ h
    · exact hex hm

/-- The main thread moves between two points of `stop_sane_threads` before the join. -/
theorem setMain (hw : Inv w) (hm : w.main ≠ .idle) (hj : ∀ r, w.main ≠ .stopJoin r)
    {m : MainPc} (hj' : ∀ r, m ≠ .stopJoin r) : Inv { w with main := m } :=
  ⟨hw.slot, hw.gen, hw.children, hw.distinct, hw.forked, hw.actions, hw.waiting,
    fun _ => hw.exclusive hm, fun _ => hw.stopping hm, fun s h =>
    iff_of_false (fun hc => (hw.pending s h).mp hc |>.elim hj) fun ⟨r, hr⟩ => hj' r hr⟩

/-- `stop_sane_threads` requests the poller's cancellation and waits to join it. -/
theorem requestCancel (hw : Inv w) (hs : w.slot = some s) {r : Bool}
    (hm : w.main = .stopCancel r) :
    Inv ({ w with main := .stopJoin r }.setSlot { s with cancelPending := true }) where
  slot _ h := Option.some.inj h ▸ ⟨(hw.slot s hs).poll, (hw.slot s hs).pc⟩
  gen _ h := Option.some.inj h ▸ hw.gen s hs
  children := hw.children
  distinct := hw.distinct
  forked _ h hg := by obtain rfl := Option.some.inj h; exact hw.forked s hs hg
  actions := hw.actions
  waiting c hc hp := by
    obtain ⟨s₀, hs₀, hlt⟩ := hw.waiting c hc hp
    obtain rfl : s₀ = s := Option.some.inj (hs₀.symm.trans hs)
    exact ⟨_, rfl, hlt⟩
  exclusive _ := hw.exclusive (by rw [hm]; nofun)
  stopping _ := rfl
  pending _ h := Option.some.inj h ▸ iff_of_true rfl ⟨r, rfl⟩

/-- `start_sane_threads` creates a slot where there was none. -/
theorem startSlot (hw : Inv w) (hnone : w.slot = none) (hm : ∀ r, w.main ≠ .stopJoin r) :
    Inv w.startSlot where
  slot _ h := Option.some.inj h ▸ ⟨PollState.TriggerOk.start 0, rfl, rfl⟩
  gen _ h := Option.some.inj h ▸ Nat.lt_succ_self _
  children g hg := Nat.lt_succ_of_lt (hw.children g hg)
  distinct := hw.distinct
  forked _ h hg := by
    obtain rfl := Option.some.inj h
    exact absurd (hw.children _ hg) (Nat.lt_irrefl _)
  actions := hw.actions
  waiting c hc hp := by
    obtain ⟨s, hs, -⟩ := hw.waiting c hc hp
    exact absurd (hnone.symm.trans hs) nofun
  exclusive := hw.exclusive
  stopping _ := rfl
  pending _ h := Option.some.inj h ▸ iff_of_false Bool.false_ne_true fun ⟨r, hr⟩ => hm r hr

/-- `stop_sane_threads` frees the slot once its poller is joined. -/
theorem freeSlot (hw : Inv w) (hm : w.main ≠ .idle) :
    Inv { w with slot := none, main := .idle } where
  slot _ h := nomatch h
  gen _ h := nomatch h
  children := hw.children
  distinct := hw.distinct
  forked _ h := nomatch h
  actions := hw.actions
  waiting c hc hp := absurd (hp ▸ hw.exclusive hm c hc) nofun
  exclusive h := absurd rfl h
  stopping h := absurd rfl h
  pending _ h := nomatch h

end Inv

namespace SlotInv

variable {s : Slot}

/-- What the poller's program point says, at a known point. -/
theorem ok (h : SlotInv s) {pc : PollerPc} (hpc : s.pc = pc) :
    pc.Ok s.poll s.handle s.reopenFailed :=
  hpc ▸ h.pc

/-- In the polling loop the handle is `NULL` exactly when the last reopen failed. -/
theorem handle_iff (h : SlotInv s) (hpc : s.pc.polling = true) :
    s.handle = .null ↔ s.reopenFailed = true := by
  have := h.pc
  revert hpc this
  cases s.pc <;> intro hpc h <;> first | exact h | exact absurd hpc Bool.false_ne_true

/-- Over a dispatch the handle is `NULL`. -/
theorem handle_null (h : SlotInv s) (hpc : s.pc.dispatching = true) : s.handle = .null := by
  have := h.pc
  revert hpc this
  cases s.pc <;> intro hpc h <;> first | exact h | exact absurd hpc Bool.false_ne_true

end SlotInv

/-! ## Every step keeps the invariant -/

namespace Inv

variable {D : Daemon} {w w' : World} {s : Slot}

theorem ruleSegment (hw : Inv w) (hs : w.slot = some s) {si : Nat} (hpc : s.pc = .rule si) :
    Inv (w.ruleSegment D s si) := by
  have hS := hw.slot s hs
  have hnf : s.pc.childMayRun = false := by rw [hpc]; rfl
  have hok := hS.handle_iff (by rw [hpc]; rfl)
  unfold World.ruleSegment
  split
  · exact hw.setSlot_unforked hs hnf ⟨hS.poll, hok⟩ rfl rfl le_rfl
  rename_i hsi
  split
  · exact hw.abort
  split
  · exact hw.abort
  · rename_i p hr
    obtain ⟨hp, hcnt⟩ := hS.poll.ruleStep (by omega) hr
    exact hw.setSlot_unforked hs hnf ⟨hp, hok⟩ rfl rfl hcnt.ge
  · rename_i odesc p hr
    obtain ⟨hp, hcnt⟩ := hS.poll.ruleStep (by omega) hr
    split
    · split
      · exact hw.abort
      · rename_i d q hd
        obtain ⟨hq, hcq⟩ := hp.queriesOthers (dispatchBegin_frame hd).1
        refine Inv.congr (w := w.setSlot _) ?_ rfl rfl rfl rfl rfl
        refine hw.setSlot_unforked hs hnf ⟨hq, ?_⟩ rfl rfl (hcq.trans hcnt).ge
        dsimp only
        split <;> rfl
    · exact hw.setSlot_unforked hs hnf ⟨hp, hok⟩ rfl rfl hcnt.ge

/-- **Every step of the poller keeps the invariant.** -/
theorem pollerStep (hw : Inv w) (hs : w.slot = some s) {st : SaneStatus}
    (h : w.pollerStep D st s = some w') : Inv w' := by
  have hS := hw.slot s hs
  unfold World.pollerStep at h
  cases hpc : s.pc with
  | lockInit =>
    have hnf : s.pc.childMayRun = false := by rw [hpc]; rfl
    obtain ⟨h0, hrf⟩ := hS.ok hpc
    simp only [hpc] at h
    split at h
    · split at h
      · cases h
        refine Inv.congr (w := w.setSlot _) ?_ rfl rfl rfl rfl rfl
        exact hw.setSlot_unforked hs hnf ⟨hS.poll, trivial⟩ rfl rfl le_rfl
      · split at h
        · cases h; exact hw.abort
        · rename_i st hc
          cases h
          obtain ⟨st₀, hst₀, -, hwf⟩ :=
            compileRules_wellFormed D.lib D.dev D.σ D.cfg D.numOfOptions
          obtain rfl : st₀ = st := Option.some.inj (hst₀.symm.trans hc)
          exact hw.setSlot hs ⟨hS.poll.compile h0 hwf.scripts_le, by simp [PollerPc.Ok, hrf]⟩
            rfl rfl (.inl h0) (absurd · (hw.not_forked hs hnf))
    · cases h; exact hw.exitPoller hs true
  | loopTop =>
    simp only [hpc] at h
    split at h
    · cases h; exact hw.exitPoller hs true
    · cases h
      exact hw.setSlot_unforked hs (by rw [hpc]; rfl)
        ⟨hS.poll, hS.handle_iff (by rw [hpc]; rfl)⟩ rfl rfl le_rfl
  | rule si =>
    simp only [hpc] at h
    cases h
    exact hw.ruleSegment hs hpc
  | preFork si =>
    simp only [hpc] at h
    split at h
    · cases h; exact hw.exitPoller hs false
    · cases h
      exact hw.fork hs (hS.handle_null (by rw [hpc]; rfl)) (hw.not_forked hs (by rw [hpc]; rfl))
  | waitChild si =>
    simp only [hpc] at h
    split at h
    · cases h; exact hw.exitPoller hs false
    · split at h
      · cases h
      · rename_i hnm
        cases h
        exact hw.setSlot hs ⟨hS.poll, hS.handle_null (by rw [hpc]; rfl)⟩ rfl rfl (.inr le_rfl)
          (absurd · hnm)
  | lockClear si =>
    simp only [hpc] at h
    cases h
    exact hw.setSlot_unforked hs (by rw [hpc]; rfl)
      ⟨hS.poll.clearTrigger, hS.handle_null (by rw [hpc]; rfl)⟩ rfl rfl le_rfl
  | settle si =>
    have hnf : s.pc.childMayRun = false := by rw [hpc]; rfl
    have hnull := hS.handle_null (by rw [hpc]; rfl)
    simp only [hpc] at h
    split at h
    · cases h; exact hw.exitPoller hs false
    · split at h
      · cases h
        exact hw.setSlot_unforked hs hnf ⟨hS.poll, by simp [PollerPc.Ok]⟩ rfl rfl le_rfl
      · cases h; exact hw.exitPoller hs true
      · cases h
        exact hw.setSlot_unforked hs hnf ⟨hS.poll, by simp [PollerPc.Ok, hnull]⟩ rfl rfl le_rfl
  | pollSleep =>
    simp only [hpc] at h
    split at h
    · cases h; exact hw.exitPoller hs false
    · cases h
      exact hw.setSlot_unforked hs (by rw [hpc]; rfl)
        ⟨hS.poll, hS.handle_iff (by rw [hpc]; rfl)⟩ rfl rfl le_rfl
  | exited => simp [hpc] at h

/-- A free `sane_mutex` is held by no call. -/
private theorem holdsSane_of_saneFree (h : w.saneFree = true) :
    w.main = .idle ∧ ∀ c ∈ w.callers, c.pc.holdsSane = false := by
  simp only [World.saneFree, Bool.and_eq_true, beq_iff_eq, List.all_eq_true,
    Bool.not_eq_true'] at h
  exact h

/-- A call that passed the check stores its action as the trigger and returns. -/
theorem storeTrigger (hw : Inv w) {i : Nat} {c : Caller} (hc : w.callers[i]? = some c)
    (hs : w.slot = some s) (hlt : c.action < s.poll.tables.numOfOptionsWithScripts)
    (hidle : w.main = .idle) :
    Inv ((w.setSlot { s with poll := s.poll.setTrigger c.action }).setCaller i
      { c with pc := .done }) :=
  have hS := hw.slot s hs
  (hw.setSlot hs (⟨hS.poll.setTrigger (hw.actions c (List.getElem?_mem hc)) hlt,
    hS.pc.of_count rfl⟩ : SlotInv { s with poll := s.poll.setTrigger c.action }) rfl rfl
    (.inr le_rfl) fun hm => hw.forked s hs hm).setCaller hc rfl nofun fun hm => absurd hidle hm

/-- **Every step of a call of `sane_trigger_action` keeps the invariant.** -/
theorem callerStep (hw : Inv w) {i : Nat} {c : Caller} (hc : w.callers[i]? = some c)
    (h : w.callerStep i c = some w') : Inv w' := by
  have hcm := List.getElem?_mem hc
  -- a call holding `sane_mutex` keeps the main thread out of its lifecycle operations
  have hidle : c.pc.holdsSane = true → w.main = .idle := fun hh => Classical.byContradiction
    fun hm => Bool.false_ne_true ((hw.exclusive hm c hcm).symm.trans hh)
  unfold World.callerStep at h
  split at h
  · split at h
    · rename_i hfree
      cases h
      refine hw.setCaller hc rfl (fun hp => ?_) fun hm => absurd (holdsSane_of_saneFree hfree).1 hm
      dsimp only at hp; split at hp <;> cases hp
    · cases h
  · split at h
    · rename_i hfree
      cases h
      exact hw.setCaller hc rfl nofun fun hm => absurd (holdsSane_of_saneFree
        (Bool.and_eq_true_iff.mp hfree).1).1 hm
    · cases h
  · rename_i hpc
    have hidle := hidle (by rw [hpc]; rfl)
    split at h
    · cases h
    · rename_i s hs
      split at h
      · cases h
      split at h
      · cases h; exact hw.setCaller hc rfl nofun fun hm => absurd hidle hm
      rename_i hlt
      split at h
      · cases h
        exact hw.setCaller hc rfl (fun _ => ⟨s, hs, by dsimp only; omega⟩)
          fun hm => absurd hidle hm
      · cases h
        exact hw.storeTrigger hc hs (by omega) hidle
  · rename_i hpc
    have hidle := hidle (by rw [hpc]; rfl)
    split at h
    · cases h
    · rename_i s hs
      split at h
      · cases h
      · cases h
        obtain ⟨s₀, hs₀, hlt⟩ := hw.waiting c hcm hpc
        obtain rfl : s = s₀ := Option.some.inj (hs.symm.trans hs₀)
        exact hw.storeTrigger hc hs hlt hidle
  · cases h

/-- **Every step of the main thread in `stop_sane_threads` keeps the invariant.** -/
theorem mainStep (hw : Inv w) (h : w.mainStep = some w') : Inv w' := by
  unfold World.mainStep at h
  split at h
  · rename_i r s hm hs
    split at h
    · cases h
    · cases h
      exact hw.setMain (by rw [hm]; nofun) (by rw [hm]; exact fun _ => nofun)
        fun _ => by split <;> nofun
  · rename_i r s hm hs
    split at h
    · cases h
    · cases h
      exact hw.setMain (by rw [hm]; nofun) (by rw [hm]; exact fun _ => nofun) fun _ => nofun
  · rename_i r s hm hs
    cases h
    exact hw.requestCancel hs hm
  · split at h
    · rename_i r s hm hs hex
      cases h
      have hfree := hw.freeSlot (by rw [hm]; nofun)
      split
      · exact hfree.startSlot rfl fun _ => nofun
      · exact hfree
    · cases h
  · cases h

/-- Entering `start_sane_threads` or `stop_sane_threads` keeps the invariant. -/
theorem beginLifecycle (hw : Inv w) {restart : Bool} (h : w.beginLifecycle restart = some w') :
    Inv w' := by
  unfold World.beginLifecycle at h
  split at h
  · rename_i hfree
    obtain ⟨hidle, hex⟩ := holdsSane_of_saneFree hfree
    have hnj : ∀ r, w.main ≠ .stopJoin r := fun r h => by rw [hidle] at h; cases h
    split at h
    · rename_i s hs
      cases h
      exact ⟨hw.slot, hw.gen, hw.children, hw.distinct, hw.forked, hw.actions, hw.waiting,
        fun _ => hex, fun _ => by rw [hs]; rfl,
        fun s h => iff_of_false (fun hc => ((hw.pending s h).mp hc).elim hnj) nofun⟩
    · rename_i hs
      cases h
      split
      · exact hw.startSlot hs hnj
      · exact hw
  · cases h

/-- **Every event keeps the invariant.** -/
theorem step (hw : Inv w) {e : Event} (h : World.step D w e = some w') : Inv w' := by
  unfold World.step at h
  split at h
  · cases h
  split at h
  · obtain ⟨s, hs, h⟩ := Option.bind_eq_some.mp h
    exact hw.pollerStep hs h
  · rename_i a
    cases h
    split
    · exact hw.abort
    · rename_i ha
      refine ⟨hw.slot, hw.gen, hw.children, hw.distinct, hw.forked, fun c hc => ?_,
        fun c hc hp => ?_, fun hm c hc => ?_, hw.stopping, hw.pending⟩ <;>
        rcases List.mem_append.mp hc with hc | hc
      · exact hw.actions c hc
      · rw [List.mem_singleton.mp hc]; dsimp only; omega
      · exact hw.waiting c hc hp
      · rw [List.mem_singleton.mp hc] at hp; cases hp
      · exact hw.exclusive hm c hc
      · rw [List.mem_singleton.mp hc]; rfl
  · obtain ⟨c, hc, h⟩ := Option.bind_eq_some.mp h
    exact hw.callerStep hc h
  · exact hw.beginLifecycle h
  · exact hw.beginLifecycle h
  · exact hw.mainStep h
  · split at h
    · cases h
      exact ⟨hw.slot, hw.gen, fun g' hg => hw.children g' (List.mem_of_mem_erase hg),
        hw.distinct.erase _, fun s hs hg => hw.forked s hs (List.mem_of_mem_erase hg),
        hw.actions, hw.waiting, hw.exclusive, hw.stopping, hw.pending⟩
    · cases h

/-- **Every run keeps the invariant.** -/
theorem run (hw : Inv w) : ∀ {es : List Event}, World.run D w es = some w' → Inv w' := by
  intro es
  induction es generalizing w with
  | nil => intro h; cases h; exact hw
  | cons e es ih =>
    intro h
    simp only [World.run, List.foldlM_cons] at h
    obtain ⟨w₁, h₁, h⟩ := Option.bind_eq_some.mp h
    exact ih (hw.step h₁) h

end Inv

/-- **Every reachable world satisfies the invariant.** -/
theorem reachable_inv {D : Daemon} {w : World} (hw : Reachable D w) : Inv w := by
  obtain ⟨es, h⟩ := hw
  exact Inv.init.run h

end Scanbd
