import Mathlib.Data.List.Basic

/-!
# Scanbd — the main thread and its signal handlers

`main` (in `scanbd.c`) installs its signal handlers first (lines 194-243), calls
`start_sane_threads` (line 519), and then sits in `pause()`. The handlers run on the main
thread:
* `SIGHUP` stops the threads, rereads the configuration and starts them;
* `SIGUSR1` stops them;
* `SIGUSR2` starts them;
* `SIGTERM` and `SIGINT` stop them, unlink the pid file and exit.

A handler runs with its signal blocked, together with the `sa_mask` given to `sigaction`.
This module models the main thread as a stack of frames: `main`'s own code at the bottom, and
above it the handlers that interrupted the frame below. A frame runs a list of operations, and
a signal can arrive before, inside or after any of them. `start_sane_threads` calls
`stop_sane_threads` itself, and that call stays inside the one `start` operation.

* `Signal`, `Op`, `Signal.handler`, `Signal.mask` — the handlers and their masks;
* `MainThread.step` — the frame on top advances, or an unblocked signal is delivered;
* `MainThread.Nested` — two lifecycle operations are in progress at once.

## Results

* `handlers_never_interrupt_each_other` — the masks keep the handlers of `SIGHUP`, `SIGUSR1`
  and `SIGUSR2` from interrupting each other;
* `nested_only_initial_or_exit` — two lifecycle operations are in progress at once only
  inside `main`'s initial `start_sane_threads` or under a `SIGTERM` or `SIGINT` handler;
* `lifecycle_operations_nest` — runs where a signal handler's `stop_sane_threads` begins
  inside `main`'s initial `start_sane_threads`, and a `SIGTERM` handler's inside a `SIGUSR1`
  handler's.
-/

namespace Scanbd

/-- The signals `main` installs handlers for. -/
inductive Signal where
  | hup
  | usr1
  | usr2
  | term
  | int
  deriving DecidableEq, Repr

/-- The operations of the main thread's code: the two lifecycle operations, and the rest of
the handlers' code, which touches neither the threads nor `sane_mutex`. -/
inductive Op where
  | stop
  | start
  /-- `cfg_do_parse()` in the `SIGHUP` handler -/
  | parse
  /-- the unlink of the pid file in the `SIGTERM`/`SIGINT` handler -/
  | unlink
  deriving DecidableEq, Repr

/-- `stop_sane_threads` and `start_sane_threads`. -/
def Op.lifecycle : Op → Bool
  | stop | start => true
  | _ => false

namespace Signal

/-- The operations of each handler (lines 139-188). -/
def handler : Signal → List Op
  | hup => [.stop, .parse, .start]
  | usr1 => [.stop]
  | usr2 => [.start]
  | term | int => [.stop, .unlink]

/-- `sa_mask` of each handler (lines 197-238). `SIGTERM` and `SIGINT` get an empty mask. -/
def mask : Signal → List Signal
  | hup => [usr1, usr2]
  | usr1 => [usr2, hup]
  | usr2 => [usr1, hup]
  | term | int => []

/-- The signals a running handler blocks: its own, and its mask. -/
def blocks (s t : Signal) : Bool := s == t || s.mask.contains t

/-- The handlers that stop or start the threads for a reload or a pause. -/
def reloading : Signal → Bool
  | hup | usr1 | usr2 => true
  | _ => false

end Signal

/-- `main`'s own operations after installing the handlers: `start_sane_threads`, then
`pause()` for ever. -/
def mainOps : List Op := [.start]

/-- A frame of the main thread: `main`'s code (`none`) or a handler, how many of its
operations are done, and whether the next one is in progress. -/
structure Frame where
  sig : Option Signal
  pos : Nat
  inside : Bool
  deriving DecidableEq, Repr

namespace Frame

/-- The operations the frame runs. -/
def ops (f : Frame) : List Op := f.sig.elim mainOps Signal.handler

/-- The frame is inside `stop_sane_threads` or `start_sane_threads`. -/
def inLifecycle (f : Frame) : Bool := f.inside && ((f.ops.get? f.pos).map Op.lifecycle).getD false

end Frame

/-- The main thread: its frames, innermost first, and whether the process has exited. -/
structure MainThread where
  frames : List Frame
  exited : Bool
  deriving DecidableEq, Repr

/-- The events: the frame on top takes its next step, or a signal is delivered. -/
inductive SigEvent where
  | run
  | deliver (s : Signal)
  deriving DecidableEq, Repr

namespace MainThread

/-- `main` has installed its handlers and is about to start the threads. -/
def init : MainThread := ⟨[⟨none, 0, false⟩], false⟩

/-- Signal `s` is blocked: a running handler blocks it. -/
def blocked (t : MainThread) (s : Signal) : Bool :=
  t.frames.any fun f => f.sig.elim false (·.blocks s)

/-- One event. The frame on top begins its next operation, ends the one in progress, or has
none left: `main` then waits in `pause()`, a `SIGTERM` or `SIGINT` handler exits the process,
and another handler returns. A signal is delivered unless it is blocked; a blocked one stays
pending until a later delivery. -/
def step (t : MainThread) : SigEvent → Option MainThread
  | .run =>
    if t.exited then none
    else
      match t.frames with
      | [] => none
      | f :: fs =>
        if f.inside then some { t with frames := { f with pos := f.pos + 1, inside := false } :: fs }
        else if f.pos < f.ops.length then some { t with frames := { f with inside := true } :: fs }
        else
          match f.sig with
          | none => none
          | some .term | some .int => some { t with exited := true }
          | some _ => some { t with frames := fs }
  | .deliver s =>
    if t.exited || t.blocked s then none
    else some { t with frames := ⟨some s, 0, false⟩ :: t.frames }

/-- The main thread after a sequence of events. -/
def run (t : MainThread) (es : List SigEvent) : Option MainThread := es.foldlM step t

/-- Two executions of `stop_sane_threads` or `start_sane_threads` are in progress at once. -/
def Nested (t : MainThread) : Prop := 2 ≤ (t.frames.filter Frame.inLifecycle).length

instance (t : MainThread) : Decidable t.Nested := inferInstanceAs (Decidable (2 ≤ _))

/-- How many handlers of `SIGHUP`, `SIGUSR1` and `SIGUSR2` are running. -/
def reloadHandlers (t : MainThread) : Nat :=
  (t.frames.map Frame.sig).countP fun o => o.elim false Signal.reloading

end MainThread

/-! ## The masks of the reload handlers -/

/-- Each of the three reload handlers blocks all three. -/
theorem Signal.blocks_of_reloading {s t : Signal} (hs : s.reloading = true)
    (ht : t.reloading = true) : s.blocks t = true := by
  cases s <;> cases t <;> simp_all [Signal.reloading, Signal.blocks, Signal.mask]

namespace MainThread

/-- One step never adds a reload handler to a stack that has one. -/
theorem reloadHandlers_step {t t' : MainThread} {e : SigEvent} (h : t.step e = some t')
    (ht : t.reloadHandlers ≤ 1) : t'.reloadHandlers ≤ 1 := by
  cases e with
  | run =>
    simp only [step] at h
    split at h
    · cases h
    split at h
    · cases h
    rename_i f fs hfr
    -- the frame on top changes its position only: the handlers stay
    have hsame : ∀ f' : Frame, f'.sig = f.sig →
        (⟨f' :: fs, t.exited⟩ : MainThread).reloadHandlers = t.reloadHandlers := by
      intro f' hf'; simp [reloadHandlers, hfr, hf']
    split at h
    · cases h; exact (hsame _ rfl).trans_le ht
    split at h
    · cases h; exact (hsame _ rfl).trans_le ht
    split at h
    · cases h
    · cases h; exact ht
    · cases h; exact ht
    · cases h
      refine le_trans ?_ ht
      simp only [reloadHandlers, hfr, List.map_cons, List.countP_cons]
      exact Nat.le_add_right _ _
  | deliver s =>
    simp only [step] at h
    split at h
    · cases h
    rename_i hnb
    cases h
    simp only [reloadHandlers, List.map_cons, List.countP_cons, Option.elim_some] at ht ⊢
    by_cases hs : s.reloading = true
    · -- a running reload handler would block `s`
      have hnone :
          (t.frames.map Frame.sig).countP (fun o => o.elim false Signal.reloading) = 0 := by
        rw [List.countP_eq_zero]
        intro o ho hr
        obtain ⟨f, hf, rfl⟩ := List.mem_map.mp ho
        apply hnb
        simp only [Bool.or_eq_true, blocked, List.any_eq_true]
        refine .inr ⟨f, hf, ?_⟩
        cases hfs : f.sig with
        | none => simp [hfs] at hr
        | some g => simpa [hfs] using Signal.blocks_of_reloading (by simpa [hfs] using hr) hs
      simp [hnone, hs]
    · simpa [hs] using ht

/-- Every run from a stack with at most one reload handler keeps at most one. -/
theorem reloadHandlers_run :
    ∀ (es : List SigEvent) {t₀ t : MainThread}, t₀.reloadHandlers ≤ 1 → t₀.run es = some t →
      t.reloadHandlers ≤ 1
  | [], _, _, h₀, h => by cases h; exact h₀
  | e :: es, _, _, h₀, h => by
    simp only [run, List.foldlM_cons] at h
    obtain ⟨t₁, h₁, h⟩ := Option.bind_eq_some.mp h
    exact reloadHandlers_run es (reloadHandlers_step h₁ h₀) h

end MainThread

/-- **The masks keep the reload handlers apart.** In every run of the main thread from its
start, under any deliveries of the five signals, at most one handler of `SIGHUP`, `SIGUSR1`
and `SIGUSR2` is running. -/
theorem handlers_never_interrupt_each_other (es : List SigEvent) (t : MainThread)
    (h : MainThread.init.run es = some t) : t.reloadHandlers ≤ 1 :=
  MainThread.reloadHandlers_run es (by decide) h

theorem handlers_never_interrupt_each_other_reload :
    MainThread.init.run [.run, .run, .deliver .hup, .run] =
      some ⟨[⟨some .hup, 0, true⟩, ⟨none, 1, false⟩], false⟩ ∧
    (⟨[⟨some .hup, 0, true⟩, ⟨none, 1, false⟩], false⟩ : MainThread).reloadHandlers ≤ 1 :=
  ⟨by decide,
    handlers_never_interrupt_each_other [.run, .run, .deliver .hup, .run] _ (by decide)⟩

/-! ## Lifecycle operations nest -/

/-- The signals other than `SIGTERM` and `SIGINT` are the reload signals. -/
theorem Signal.reloading_of_ne {s : Signal} (ht : s ≠ .term) (hi : s ≠ .int) :
    s.reloading = true := by
  cases s <;> simp_all [Signal.reloading]

/-- **Only the initial start and the exit handlers nest.** In every run of the main thread
from its start, under any deliveries of the five signals, two executions of
`stop_sane_threads` or `start_sane_threads` are in progress at once only when one of them is
`main`'s own initial `start_sane_threads`, or when a `SIGTERM` or `SIGINT` handler, whose mask
is empty, is running. -/
theorem nested_only_initial_or_exit (es : List SigEvent) (t : MainThread)
    (h : MainThread.init.run es = some t) (hn : t.Nested) :
    (∃ f ∈ t.frames, f.sig = none ∧ f.inLifecycle = true) ∨
      ∃ f ∈ t.frames, f.sig = some .term ∨ f.sig = some .int := by
  by_contra hno
  simp only [not_or, not_exists, not_and] at hno
  -- every frame in a lifecycle operation is then a reload handler's, and there is at most one
  have hle : (t.frames.filter Frame.inLifecycle).length ≤ t.reloadHandlers := by
    rw [← List.countP_eq_length_filter, MainThread.reloadHandlers, List.countP_map]
    refine List.countP_mono_left fun f hf hl => ?_
    cases hs : f.sig with
    | none => exact absurd hl (hno.1 f hf hs)
    | some s =>
      simp only [Function.comp_apply, hs, Option.elim_some]
      exact Signal.reloading_of_ne (fun he => (hno.2 f hf).1 (he ▸ hs))
        (fun he => (hno.2 f hf).2 (he ▸ hs))
  have h1 := MainThread.reloadHandlers_run es (by decide) h
  exact absurd (le_trans hn hle) (by omega)

theorem nested_only_initial_or_exit_usr1 :
    MainThread.init.run [.run, .deliver .usr1, .run] =
      some ⟨[⟨some .usr1, 0, true⟩, ⟨none, 0, true⟩], false⟩ ∧
    (⟨[⟨some .usr1, 0, true⟩, ⟨none, 0, true⟩], false⟩ : MainThread).Nested ∧
    ((∃ f ∈ ([⟨some .usr1, 0, true⟩, ⟨none, 0, true⟩] : List Frame),
        f.sig = none ∧ f.inLifecycle = true) ∨
      ∃ f ∈ ([⟨some .usr1, 0, true⟩, ⟨none, 0, true⟩] : List Frame),
        f.sig = some .term ∨ f.sig = some .int) :=
  ⟨by decide, by decide,
    nested_only_initial_or_exit [.run, .deliver .usr1, .run]
      ⟨[⟨some .usr1, 0, true⟩, ⟨none, 0, true⟩], false⟩ (by decide) (by decide)⟩

/-- **Lifecycle operations nest.** A `SIGUSR1` delivered while `main` is inside its initial
`start_sane_threads` begins `stop_sane_threads` inside it; and a `SIGTERM` delivered while the
`SIGUSR1` handler is inside `stop_sane_threads` begins another. -/
theorem lifecycle_operations_nest :
    ((MainThread.init.run [.run, .deliver .usr1, .run]).map fun t => decide t.Nested) =
      some true ∧
    ((MainThread.init.run [.run, .run, .deliver .usr1, .run, .deliver .term, .run]).map
      fun t => decide t.Nested) = some true :=
  ⟨by decide, by decide⟩

end Scanbd
