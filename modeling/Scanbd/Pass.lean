import Scanbd.Environment
import Scanbd.Numeric

/-!
# Scanbd — polling passes and transition detection

One iteration of the polling loop of `sane_poll` walks the installed rules in order; after
each rule step it dispatches when a trigger is pending: it builds the script's environment,
closes the device, runs the script, clears the trigger and reopens the device (lines 870-1166
of `sane.c`). This module models the loop of one poller without interference from other
threads and with a device that reopens, which is the setting of transition detection; the
interleavings with other threads are the subject of `Scanbd.Threads`.

* `Poller` — what a poller works with besides its slot;
* `dispatch`, `passStep`, `pollPass`, `pollIter` — the dispatch block, one iteration of the
  rule loop, one iteration of the polling loop, and `k` of them;
* `PollInv` — what holds of the slot between two iterations.

## Results

* `passStep_spec` — what one iteration of the rule loop does;
* `pollPass_spec` — one iteration of the polling loop queries every option of a rule once, at
  its first rule, and dispatches exactly the rules whose trigger predicate holds on their last
  value and the value obtained;
* `pollIter_transitions` — so does every iteration of every run from compiled tables.
-/

namespace Scanbd

/-- What a poller works with besides its slot: the regex library, the device and its answers,
the host, the configured variable names, and `make_script_path_abs` (defined outside
`sane.c`). -/
structure Poller where
  lib : RegexLib
  dev : Device
  σ : Nat → Sample
  host : Host
  env : CfgEnvironment
  makeScriptPathAbs : String → String

/-- A dispatch as its script sees it: the rule that fired, the environment, and the absolute
path of the script. -/
structure Dispatch where
  rule : Nat
  env : List (List UInt8)
  script : String

/-- The dispatch block up to the unlock before the script runs (lines 870-1038), for the rule
at `triggered_option` whose option has descriptor `odesc`: the environment, the script's
absolute path, and the slot once the environment is built. `none` where an assertion fails. -/
def dispatchBegin (P : Poller) (odesc : OptionDescriptor) (p : PollState) :
    Option (Dispatch × PollState) :=
  let t := p.triggeredOption.toNat
  -- `assert(st->triggered_option < st->num_of_options_with_scripts)`
  if p.tables.numOfOptionsWithScripts ≤ t then none
  else do
    let r ← buildEnv P.dev P.σ P.host P.env odesc p
    let q := r.2
    let script ← (q.tables.opts.getD t .init).script
    -- `assert(strlen(st->opts[st->triggered_option].script) > 0)`
    if script = "" then none
    else some (⟨t, r.1, P.makeScriptPathAbs script⟩, q)

/-- `st->triggered = false; st->triggered_option = -1` once the script has run (lines
1131-1132). -/
def PollState.clearTrigger (p : PollState) : PollState := ⟨p.tables, false, -1, p.queries⟩

/-- The dispatch block (lines 870-1166) in a run where the device reopens: the dispatch, and
the slot with the trigger cleared. -/
def dispatch (P : Poller) (odesc : OptionDescriptor) (p : PollState) :
    Option (Dispatch × PollState) :=
  (dispatchBegin P odesc p).map fun d => (d.1, d.2.clearTrigger)

/-- One iteration of the rule loop for rule `si` (lines 773-1166): the rule step, then the
dispatch when a trigger is pending (`triggered && triggered_option >= 0`). -/
def passStep (P : Poller) (acc : List Dispatch × PollState) (si : Nat) :
    Option (List Dispatch × PollState) := do
  let r ← ruleStep P.lib P.dev P.σ acc.2 si
  match r.1 with
  | none => some (acc.1, r.2)
  | some odesc =>
    if r.2.triggered && decide (0 ≤ r.2.triggeredOption) then
      (dispatch P odesc r.2).map fun d => (acc.1 ++ [d.1], d.2)
    else some (acc.1, r.2)

/-- One iteration of the polling loop (lines 753-1190): the rule loop over
`opts[0 .. num_of_options_with_scripts)`, whose bound no step changes, with the dispatches it
made. Locking and sleeping change nothing here. -/
def pollPass (P : Poller) (p : PollState) : Option (List Dispatch × PollState) :=
  (List.range p.tables.numOfOptionsWithScripts).foldlM (passStep P) ([], p)

/-- The slot after `k` iterations of the polling loop. -/
def pollIter (P : Poller) : Nat → PollState → Option PollState
  | 0, p => some p
  | k + 1, p => (pollIter P k p).bind fun q => (pollPass P q).map (·.2)

/-- Rule `r` of the slot, `opts[r]`. -/
def PollState.rule (p : PollState) (r : Nat) : DevOption := p.tables.opts.getD r .init

/-- Setting rule `si` changes that rule only. -/
theorem PollState.rule_of_set {q q' : PollState} {si : Nat} {o : DevOption}
    (hsl : si < q.tables.opts.length) (hopts : q'.tables.opts = q.tables.opts.set si o)
    (r : Nat) : q'.rule r = if r = si then o else q.rule r := by
  unfold PollState.rule
  rw [hopts, List.getD_eq_getElem?_getD]
  by_cases hr : r = si
  · subst r; simp [hsl]
  · rw [if_neg hr, List.getElem?_set_ne (Ne.symm hr), ← List.getD_eq_getElem?_getD]

/-! ## Installed rules, pointwise -/

section Pointwise

variable {st st' : SaneThread}

theorem SaneThread.forall_validOpts (hle : st.numOfOptionsWithScripts ≤ st.numOfOptions)
    {P : DevOption → Prop} :
    (∀ e ∈ st.validOpts, P e) ↔
      ∀ r < st.numOfOptionsWithScripts, P (st.opts.getD r .init) := by
  refine ⟨fun h r hr => h _ (SaneThread.getD_mem_validOpts hle hr), fun h e he => ?_⟩
  obtain ⟨r, hr, rfl⟩ := List.mem_iff_getElem.mp he
  rw [SaneThread.validOpts_length hle] at hr
  have hrl : r < st.opts.length := by rw [st.opts_length]; omega
  have := h r hr
  rw [List.getD_eq_getElem _ _ hrl] at this
  simpa [SaneThread.validOpts] using this

/-- Tables whose rules sit on the same options below the count have the same list of rule
options. -/
theorem SaneThread.validOpts_map_number (hle : st.numOfOptionsWithScripts ≤ st.numOfOptions)
    (hle' : st'.numOfOptionsWithScripts ≤ st'.numOfOptions)
    (hS : st'.numOfOptionsWithScripts = st.numOfOptionsWithScripts)
    (h : ∀ r < st.numOfOptionsWithScripts,
      (st'.opts.getD r .init).number = (st.opts.getD r .init).number) :
    st'.validOpts.map (·.number) = st.validOpts.map (·.number) := by
  refine List.ext_getElem (by simp [SaneThread.validOpts_length hle,
    SaneThread.validOpts_length hle', hS]) fun r h1 h2 => ?_
  simp only [List.length_map, SaneThread.validOpts_length hle] at h2
  have hr' : r < st'.opts.length := by rw [st'.opts_length]; omega
  have hr : r < st.opts.length := by rw [st.opts_length]; omega
  have := h r h2
  rw [List.getD_eq_getElem _ _ hr', List.getD_eq_getElem _ _ hr] at this
  simpa [SaneThread.validOpts] using this

end Pointwise

/-- A rule stays armed when it stores a value that holds a string on a string option. -/
theorem Armed.setValue {dev : Device} {e : DevOption} {v : OptValue} (h : Armed dev e)
    (hv : ∀ d, dev.descriptor e.number = some d → d.type = .string → v.str.isSome) :
    Armed dev { e with value := v } where
  descriptor := h.descriptor
  script := h.script
  strings d hd hs := by
    obtain ⟨h1, h2, h3, h4, -⟩ := h.strings d hd hs
    exact ⟨h1, h2, h3, h4, hv d hd hs⟩

/-! ## What holds between two iterations -/

/-- What the polling loop needs of the tables: both counts fit the arrays, the installed
action rules are armed and the function rules described, and the environment of a dispatch
can be built. -/
structure TablesOk (P : Poller) (st : SaneThread) : Prop where
  scripts_le : st.numOfOptionsWithScripts ≤ st.numOfOptions
  functions_le : st.numOfOptionsWithFunctions ≤ st.numOfOptions
  armed : ∀ e ∈ st.validOpts, Armed P.dev e
  described : ∀ f ∈ st.validFunctions, (P.dev.descriptor f.number).isSome
  envSafe : EnvSafe P.dev P.host P.env st

/-- Tables with the same function rules, whose counts fit and whose rules are armed, are as
good. -/
theorem TablesOk.of_eq {P : Poller} {st st' : SaneThread} (h : TablesOk P st)
    (hS : st'.numOfOptionsWithScripts ≤ st'.numOfOptions)
    (hF : st'.numOfOptionsWithFunctions ≤ st'.numOfOptions)
    (harm : ∀ e ∈ st'.validOpts, Armed P.dev e) (hvf : st'.validFunctions = st.validFunctions) :
    TablesOk P st' where
  scripts_le := hS
  functions_le := hF
  armed := harm
  described := hvf ▸ h.described
  envSafe := { h.envSafe with functions := hvf ▸ h.envSafe.functions }

/-- Queries of other options leave the tables as good as they were. -/
theorem TablesOk.of_queriesOthers {P : Poller} {p p' : PollState} (h : TablesOk P p.tables)
    (hq : p.QueriesOthers p') : TablesOk P p'.tables := by
  obtain ⟨n, qs, rfl, -⟩ := hq
  exact h.of_eq h.scripts_le h.functions_le h.armed rfl

/-- What holds of the slot between two iterations of the polling loop, and between two
iterations of the rule loop: the tables are good and no trigger is pending. -/
structure PollInv (P : Poller) (p : PollState) : Prop where
  tables : TablesOk P p.tables
  idle : p.triggered = false

/-- **What a dispatch does**, for an armed rule below the count on a safe host: it hands over
the rule at `triggered_option` and queries only options without an action rule. -/
theorem dispatchBegin_spec (P : Poller) (odesc : OptionDescriptor) {q : PollState} {si : Nat}
    (hsafe : EnvSafe P.dev P.host P.env q.tables)
    (hF : q.tables.numOfOptionsWithFunctions ≤ q.tables.numOfOptions)
    (hdesc : ∀ f ∈ q.tables.validFunctions, (P.dev.descriptor f.number).isSome)
    (ht : q.triggeredOption = si) (hsi : si < q.tables.numOfOptionsWithScripts)
    (harm : Armed P.dev (q.rule si)) :
    ∃ d q₂, dispatchBegin P odesc q = some (d, q₂) ∧ d.rule = si ∧
      q.QueriesOthers q₂ := by
  obtain ⟨⟨env, q₂⟩, henv⟩ := Option.isSome_iff_exists.mp
    (@buildEnv_isSome P.dev P.σ odesc q P.host P.env hsafe hF hdesc)
  have hfr := buildEnv_frame henv
  obtain ⟨s, hs, hne⟩ := harm.script
  refine ⟨⟨si, env, P.makeScriptPathAbs s⟩, q₂, ?_, rfl, hfr⟩
  have hs' : (q₂.tables.opts.getD si .init).script = some s := by rw [hfr.opts]; exact hs
  simp only [dispatchBegin, ht, Int.toNat_ofNat, henv, hs', if_neg (Nat.not_le.mpr hsi),
    Option.bind_eq_bind, Option.some_bind, if_neg hne]

/-- The dispatch then clears the trigger. -/
theorem dispatch_spec (P : Poller) (odesc : OptionDescriptor) {q : PollState} {si : Nat}
    (hsafe : EnvSafe P.dev P.host P.env q.tables)
    (hF : q.tables.numOfOptionsWithFunctions ≤ q.tables.numOfOptions)
    (hdesc : ∀ f ∈ q.tables.validFunctions, (P.dev.descriptor f.number).isSome)
    (ht : q.triggeredOption = si) (hsi : si < q.tables.numOfOptionsWithScripts)
    (harm : Armed P.dev (q.rule si)) :
    ∃ d q₂, dispatch P odesc q = some (d, ⟨q₂.tables, false, -1, q₂.queries⟩) ∧
      d.rule = si ∧ q.QueriesOthers q₂ := by
  obtain ⟨d, q₂, h, hr, hq⟩ := dispatchBegin_spec P odesc hsafe hF hdesc ht hsi harm
  exact ⟨d, q₂, by simp [dispatch, h, PollState.clearTrigger], hr, hq⟩

/-! ## One iteration of the rule loop -/

section Step

variable {P : Poller} {q : PollState} {si : Nat} {v : OptValue} {st' : SaneThread}

/-- Storing a value into rule `si` keeps every rule on its option. -/
private theorem setValue_rule
    (hopts : st'.opts = q.tables.opts.set si { q.rule si with value := v }) (r : Nat) :
    (st'.opts.getD r .init).number = (q.rule r).number := by
  rw [hopts]
  by_cases hr : si = r
  · subst hr
    by_cases hl : si < q.tables.opts.length
    · simp [List.getD_eq_getElem?_getD, hl]
    · rw [List.set_eq_of_length_le (Nat.not_lt.mp hl)]; rfl
  · simp [List.getD_eq_getElem?_getD, List.getElem?_set_ne hr, PollState.rule]

/-- Good tables stay good when rule `si` below the count stores a value that holds a string
on a string option. -/
private theorem tablesOk_setValue (h : TablesOk P q.tables)
    (hsi : si < q.tables.numOfOptionsWithScripts)
    (hopts : st'.opts = q.tables.opts.set si { q.rule si with value := v })
    (hN : st'.numOfOptions = q.tables.numOfOptions)
    (hS : st'.numOfOptionsWithScripts = q.tables.numOfOptionsWithScripts)
    (hfun : st'.functions = q.tables.functions)
    (hF : st'.numOfOptionsWithFunctions = q.tables.numOfOptionsWithFunctions)
    (hv : ∀ d, P.dev.descriptor (q.rule si).number = some d → d.type = .string →
      v.str.isSome) :
    TablesOk P st' ∧ st'.validOpts.map (·.number) = q.tables.validOpts.map (·.number) := by
  have hle : st'.numOfOptionsWithScripts ≤ st'.numOfOptions := by
    rw [hS, hN]; exact h.scripts_le
  have hnum := SaneThread.validOpts_map_number h.scripts_le hle hS
    fun r _ => setValue_rule hopts r
  refine ⟨h.of_eq hle (by rw [hF, hN]; exact h.functions_le) ?_
    (by rw [SaneThread.validFunctions, SaneThread.validFunctions, hfun, hF]), hnum⟩
  refine (SaneThread.forall_validOpts hle).mpr fun r hr => ?_
  have hsl : si < q.tables.opts.length := by rw [q.tables.opts_length]; have := h.scripts_le; omega
  rw [hopts]
  by_cases hrs : si = r
  · subst hrs
    simp only [List.getD_eq_getElem?_getD, List.getElem?_set_self hsl, Option.getD_some]
    exact (h.armed _ (SaneThread.getD_mem_validOpts h.scripts_le hsi)).setValue hv
  · rw [List.getD_eq_getElem?_getD, List.getElem?_set_ne hrs, ← List.getD_eq_getElem?_getD]
    exact h.armed _ (SaneThread.getD_mem_validOpts h.scripts_le (hS ▸ hr))

/-- On good tables a rule step below the count succeeds and keeps them good, whether or not a
trigger is pending. -/
theorem TablesOk.ruleStep (h : TablesOk P q.tables)
    (hsi : si < q.tables.numOfOptionsWithScripts) :
    ∃ odesc q', ruleStep P.lib P.dev P.σ q si = some (some odesc, q') ∧ TablesOk P q'.tables := by
  obtain ⟨odesc, q₁, -, hstep, hopts, hN, hS, hfun, hF, -⟩ :=
    ruleStep_spec P.lib P.dev P.σ h.scripts_le h.armed hsi
  exact ⟨odesc, q₁, hstep, (tablesOk_setValue h hsi hopts hN hS hfun hF fun _ hd hs =>
    obtainValue_str h.scripts_le h.armed hsi hd hs).1⟩

/-- **What one iteration of the rule loop does.** Between two iterations, rule `si` below the
count stores the value obtained for it, and is dispatched exactly when its trigger predicate
holds on its last value and that value; the dispatch queries only options without an action
rule and clears the trigger. Nothing else of the tables changes, and they stay good. -/
theorem passStep_spec (P : Poller) {q : PollState} {si : Nat} (hq : PollInv P q)
    (hsi : si < q.tables.numOfOptionsWithScripts) (ds : List Dispatch) :
    ∃ ds' q', passStep P (ds, q) si = some (ds', q') ∧ PollInv P q' ∧
      ds'.map (·.rule) = ds.map (·.rule) ++
        (if transitionFires P.lib P.dev (q.rule si) (q.rule si).value
          (obtainValue P.dev P.σ q si).1 then [si] else []) ∧
      q'.tables.opts = q.tables.opts.set si
        { q.rule si with value := (obtainValue P.dev P.σ q si).1 } ∧
      q'.tables.numOfOptions = q.tables.numOfOptions ∧
      q'.tables.numOfOptionsWithScripts = q.tables.numOfOptionsWithScripts ∧
      ∃ qs, q'.queries = (obtainValue P.dev P.σ q si).2.queries ++ qs ∧
        ∀ x ∈ qs, x.1 ∉ q.tables.validOpts.map (·.number) := by
  obtain ⟨odesc, q₁, -, hstep, hopts, hN, hS, hfun, hF, -, hqs, htrig, hopt⟩ :=
    ruleStep_spec P.lib P.dev P.σ hq.tables.scripts_le hq.tables.armed hsi
  have hv : ∀ d, P.dev.descriptor (q.rule si).number = some d → d.type = .string →
      (obtainValue P.dev P.σ q si).1.str.isSome := fun d hd hs =>
    obtainValue_str hq.tables.scripts_le hq.tables.armed hsi hd hs
  obtain ⟨hok₁, hnum₁⟩ := tablesOk_setValue hq.tables hsi hopts hN hS hfun hF hv
  rw [hq.idle, Bool.or_false] at htrig
  simp only [PollState.rule] at hv ⊢
  by_cases ht : transitionFires P.lib P.dev (q.tables.opts.getD si .init)
    (q.tables.opts.getD si .init).value (obtainValue P.dev P.σ q si).1
  · -- the rule fired: it is dispatched
    rw [ht] at htrig
    rw [if_pos ht] at hopt
    have hsl : si < q.tables.opts.length := by
      rw [q.tables.opts_length]; have := hq.tables.scripts_le; omega
    have harm₁ : Armed P.dev (q₁.rule si) := by
      rw [PollState.rule, hopts, List.getD_eq_getElem?_getD, List.getElem?_set_self hsl,
        Option.getD_some]
      exact (hq.tables.armed _ (SaneThread.getD_mem_validOpts hq.tables.scripts_le hsi)).setValue hv
    obtain ⟨d, q₂, hdisp, hrule, hfr⟩ :=
      dispatch_spec P odesc hok₁.envSafe hok₁.functions_le hok₁.described hopt
        (by rw [hS]; exact hsi) harm₁
    have hok₂ := hok₁.of_queriesOthers hfr
    obtain ⟨n, qs, rfl, hqs'⟩ := hfr
    refine ⟨ds ++ [d], ⟨_, false, -1, q₁.queries ++ qs⟩, ?_, ⟨hok₂, rfl⟩,
      by rw [if_pos ht]; simp [hrule], hopts, hN, hS, qs, by rw [hqs], by rwa [← hnum₁]⟩
    simp only [passStep, hstep, Option.bind_eq_bind, Option.some_bind, htrig, hopt, hdisp,
      Bool.true_and, Int.ofNat_nonneg, decide_True, if_true, Option.map_some']
  · -- no trigger: the loop goes on
    rw [Bool.not_eq_true] at ht
    rw [ht] at htrig
    refine ⟨ds, q₁, ?_, ⟨hok₁, htrig⟩,
      by rw [if_neg (by rw [ht]; exact Bool.false_ne_true)]; simp, hopts, hN, hS, [],
      by rw [hqs, List.append_nil], by simp⟩
    simp only [passStep, hstep, Option.bind_eq_bind, Option.some_bind, htrig, Bool.false_and,
      Bool.false_eq_true, if_false]

end Step

/-! ## One iteration of the polling loop -/

/-- A loop over `0 .. n-1` in the `Option` monad whose body, from a state where `I i` holds,
succeeds into one where `I (i + 1)` holds, succeeds and ends where `I n` holds. -/
theorem foldlM_range_inv {β : Type} {f : β → Nat → Option β} {I : Nat → β → Prop} :
    ∀ (n : Nat) (b : β), I 0 b →
      (∀ i < n, ∀ b, I i b → ∃ b', f b i = some b' ∧ I (i + 1) b') →
      ∃ b', (List.range n).foldlM f b = some b' ∧ I n b'
  | 0, b, h0, _ => ⟨b, rfl, h0⟩
  | n + 1, b, h0, hs => by
    obtain ⟨b₁, h₁, hI₁⟩ := foldlM_range_inv n b h0 fun i hi => hs i (by omega)
    obtain ⟨b₂, h₂, hI₂⟩ := hs n (by omega) b₁ hI₁
    exact ⟨b₂, by rw [List.range_succ, List.foldlM_append, h₁]; simpa using h₂, hI₂⟩

/-- The value the rule loop obtains for rule `si`: a copy of the value of the first earlier
rule on the same option, or, when there is none, a query of the option. -/
theorem obtainValue_cases (dev : Device) (σ : Nat → Sample) (p : PollState) {si : Nat}
    (hsi : si ≤ p.tables.opts.length) :
    (∃ o < si, (p.rule o).number = (p.rule si).number ∧
      obtainValue dev σ p si = ((p.rule o).value.copy, p)) ∨
    ((∀ j < si, (p.rule j).number ≠ (p.rule si).number) ∧
      obtainValue dev σ p si = p.query dev σ (p.rule si).number) := by
  unfold obtainValue
  split
  · rename_i o ho
    obtain ⟨hlt, hnum, -⟩ := SaneThread.firstSame_eq_some ho
    exact .inl ⟨o, hlt, hnum, rfl⟩
  · rename_i ho
    exact .inr ⟨SaneThread.firstSame_eq_none hsi ho, rfl⟩

/-- What holds after the rule steps for the rules below `si` of an iteration that started from
`p`, with the dispatches `ds` made and the slot `q`: the slot is as good, the rules are those of
`p` with new values below `si`, the answers `Q` recorded since `p` hold exactly one query of
each option of a rule below `si` and the value each of these rules stored, and the rules
dispatched are those below `si` whose trigger predicate held. -/
structure PassInv (P : Poller) (p : PollState) (si : Nat) (ds : List Dispatch) (q : PollState) :
    Prop where
  inv : PollInv P q
  numOfOptions : q.tables.numOfOptions = p.tables.numOfOptions
  scripts : q.tables.numOfOptionsWithScripts = p.tables.numOfOptionsWithScripts
  rules : ∀ r, q.rule r = { p.rule r with value := (q.rule r).value }
  later : ∀ r, si ≤ r → q.rule r = p.rule r
  noRegex : ∀ r < si, (q.rule r).value.reg = none
  queries : ∃ Q, q.queries = p.queries ++ Q ∧
    (∀ r < p.tables.numOfOptionsWithScripts, (Q.map Prod.fst).count (p.rule r).number =
      if ∃ j < si, (p.rule j).number = (p.rule r).number then 1 else 0) ∧
    ∀ r < si, ((p.rule r).number, (q.rule r).value) ∈ Q
  fired : ds.map (·.rule) = (List.range si).filter fun r =>
    transitionFires P.lib P.dev (p.rule r) (p.rule r).value (q.rule r).value

theorem PassInv.start {P : Poller} {p : PollState} (hp : PollInv P p) : PassInv P p 0 [] p where
  inv := hp
  numOfOptions := rfl
  scripts := rfl
  rules _ := rfl
  later _ _ := rfl
  noRegex _ h := absurd h (Nat.not_lt_zero _)
  queries := ⟨[], by simp, fun _ _ => by simp, fun _ h => absurd h (Nat.not_lt_zero _)⟩
  fired := rfl

/-- **One rule step keeps the invariant of the iteration.** -/
theorem PassInv.step {P : Poller} {p q : PollState} {si : Nat} {ds : List Dispatch}
    (h : PassInv P p si ds q) (hsi : si < p.tables.numOfOptionsWithScripts) :
    ∃ b, passStep P (ds, q) si = some b ∧ PassInv P p (si + 1) b.1 b.2 := by
  obtain ⟨ds', q', hstep, hinv', hds, hopts, hN, hS, qs, hqs, hqs'⟩ :=
    passStep_spec P h.inv (h.scripts ▸ hsi) ds
  refine ⟨(ds', q'), hstep, ?_⟩
  have hsl : si < q.tables.opts.length := by
    rw [q.tables.opts_length]; have := h.inv.tables.scripts_le; have := h.scripts; omega
  -- rule `si` stored the value obtained; no other rule changed
  have hrule' := PollState.rule_of_set hsl hopts
  have hsi_eq : q.rule si = p.rule si := h.later si le_rfl
  have hnum : ∀ r, (q.rule r).number = (p.rule r).number := fun r => by rw [h.rules r]
  have hvreg : (obtainValue P.dev P.σ q si).1.reg = none := by
    rcases obtainValue_cases P.dev P.σ q hsl.le with ⟨o, -, -, ho⟩ | ⟨-, ho⟩ <;> rw [ho]
    · rfl
    · exact getSaneOptionValue_reg _ _
  -- the options of rules are not among the options a dispatch queries
  have hothers : ∀ r < p.tables.numOfOptionsWithScripts,
      List.count (p.rule r).number (qs.map Prod.fst) = 0 := fun r hr =>
    List.count_eq_zero_of_not_mem fun hx => by
      obtain ⟨y, hy, hyx⟩ := List.mem_map.mp hx
      exact hqs' y hy (hyx ▸ List.mem_map.mpr ⟨q.rule r,
        SaneThread.getD_mem_validOpts h.inv.tables.scripts_le (h.scripts ▸ hr), hnum r⟩)
  obtain ⟨Q, hQ, hcount, hmem⟩ := h.queries
  refine {
    inv := hinv'
    numOfOptions := hN.trans h.numOfOptions
    scripts := hS.trans h.scripts
    rules := fun r => ?_
    later := fun r hr => ?_
    noRegex := fun r hr => ?_
    queries := ?_
    fired := ?_ }
  · rw [hrule' r]
    split
    · subst r; rw [hsi_eq]
    · exact h.rules r
  · rw [hrule' r, if_neg (by omega)]; exact h.later r (by omega)
  · rw [hrule' r]
    split
    · exact hvreg
    · exact h.noRegex r (by omega)
  · rcases obtainValue_cases P.dev P.σ q hsl.le with ⟨o, ho, hono, hov⟩ | ⟨hno, hov⟩
    · -- a later rule on an option already read copies its value
      rw [hov] at hqs hrule'
      refine ⟨Q ++ qs, by rw [hqs, hQ, List.append_assoc], fun r hr => ?_, fun r hr => ?_⟩
      · rw [List.map_append, List.count_append, hcount r hr, hothers r hr, add_zero]
        congr 1
        refine propext
          ⟨fun ⟨j, hj, hjx⟩ => ⟨j, by omega, hjx⟩, fun ⟨j, hj, hjx⟩ => ?_⟩
        by_cases hjs : j = si
        · exact ⟨o, ho, by rw [← hnum, hono, hnum, ← hjs, hjx]⟩
        · exact ⟨j, by omega, hjx⟩
      · rw [hrule' r]
        split
        · subst r
          rw [OptValue.copy_eq_self (h.noRegex o ho), ← hnum, ← hono, hnum]
          exact List.mem_append_left _ (hmem o ho)
        · exact List.mem_append_left _ (hmem r (by omega))
    · -- the first rule on an option queries it
      rw [hov] at hqs hrule'
      refine ⟨Q ++ [((p.rule si).number, (q.query P.dev P.σ (q.rule si).number).1)] ++ qs,
        by rw [hqs, PollState.query_queries, hQ, hnum]; simp only [List.append_assoc],
        fun r hr => ?_, fun r hr => ?_⟩
      · rw [List.map_append, List.count_append, hothers r hr, add_zero, List.map_append,
          List.count_append, hcount r hr]
        by_cases hx : (p.rule si).number = (p.rule r).number
        · have hnot : ¬∃ j < si, (p.rule j).number = (p.rule r).number :=
            fun ⟨j, hj, hjx⟩ => hno j hj (by rw [hnum, hnum, hjx, hx])
          rw [if_neg hnot, if_pos ⟨si, Nat.lt_succ_self _, hx⟩]
          simp [hx]
        · have hiff : (∃ j < si + 1, (p.rule j).number = (p.rule r).number) ↔
              ∃ j < si, (p.rule j).number = (p.rule r).number :=
            Nat.exists_lt_succ.trans (or_iff_left hx)
          simp only [hiff, List.map_cons, List.map_nil, List.count_cons, List.count_nil,
            beq_iff_eq, hx, if_false, add_zero]
      · rw [hrule' r]
        split
        · subst r
          exact List.mem_append_left _ (List.mem_append_right _ (List.mem_singleton_self _))
        · exact List.mem_append_left _ (List.mem_append_left _ (hmem r (by omega)))
  · rw [hds, h.fired, List.range_succ, List.filter_append]
    congr 1
    · refine List.filter_congr fun r hr => ?_
      rw [hrule' r, if_neg (by simp at hr; omega)]
    · simp only [List.filter_cons, List.filter_nil]
      rw [hrule' si, if_pos rfl, hsi_eq]

/-- **One iteration of the polling loop**, from a slot where the invariant holds: it succeeds,
and the iteration's invariant holds for all its rules. -/
theorem pollPass_spec (P : Poller) {p : PollState} (hp : PollInv P p) :
    ∃ ds p', pollPass P p = some (ds, p') ∧
      PassInv P p p.tables.numOfOptionsWithScripts ds p' := by
  obtain ⟨⟨ds, p'⟩, h, hI⟩ := foldlM_range_inv (I := fun i b => PassInv P p i b.1 b.2)
    p.tables.numOfOptionsWithScripts ([], p) (PassInv.start hp) fun i hi b hb => hb.step hi
  exact ⟨ds, p', h, hI⟩

/-- Two answers recorded for an option queried once are the same answer. -/
theorem value_eq_of_count_eq_one {Q : List (Nat × OptValue)} {o : Nat} {a b : OptValue}
    (h : (Q.map Prod.fst).count o = 1) (ha : (o, a) ∈ Q) (hb : (o, b) ∈ Q) : a = b := by
  rw [List.count, List.countP_map, List.countP_eq_length_filter] at h
  obtain ⟨x, hx⟩ := List.length_eq_one.mp h
  have hmem : ∀ c, (o, c) ∈ Q → (o, c) = x := fun c hc => by
    have : (o, c) ∈ Q.filter ((· == o) ∘ Prod.fst) := List.mem_filter.mpr ⟨hc, by simp⟩
    rw [hx] at this
    exact List.mem_singleton.mp this
  exact (Prod.mk.inj (hmem a ha |>.trans (hmem b hb).symm)).2

/-- Every iteration of a run keeps the invariant, the count, and the rules up to their
values. -/
theorem pollIter_inv (P : Poller) {p₀ : PollState} (h₀ : PollInv P p₀) :
    ∀ k, ∃ p, pollIter P k p₀ = some p ∧ PollInv P p ∧
      p.tables.numOfOptionsWithScripts = p₀.tables.numOfOptionsWithScripts ∧
      ∀ r, p.rule r = { p₀.rule r with value := (p.rule r).value }
  | 0 => ⟨p₀, rfl, h₀, rfl, fun _ => rfl⟩
  | k + 1 => by
    obtain ⟨p, hp, hinv, hS, hrules⟩ := pollIter_inv P h₀ k
    obtain ⟨ds, p', hpass, hI⟩ := pollPass_spec P hinv
    refine ⟨p', by simp [pollIter, hp, hpass], hI.inv, hI.scripts.trans hS, fun r => ?_⟩
    have := hI.rules r
    rw [hrules r] at this
    exact this

/-! ## Compiled tables are ready to poll -/

private theorem foldl_invariant {α β : Type} {I : β → Prop} {f : β → α → β}
    (hf : ∀ b a, I b → I (f b a)) : ∀ (l : List α) (b : β), I b → I (l.foldl f b)
  | [], _, hb => hb
  | a :: l, b, hb => foldl_invariant hf l _ (hf b a hb)

/-- A rule of the override policy is armed: the rule of a matching option, with a value read
from it. -/
theorem actionRule_armed {lib : RegexLib} {dev : Device} {act : CfgAction} {opt : Nat}
    {d : OptionDescriptor} (hd : keptDescriptor lib dev act.filter opt = some d)
    (s : Sample) :
    Armed dev (actionRule act opt d (getSaneOptionValue (dev.descriptor opt) s)) := by
  rw [keptDescriptor_eq_matchingDescriptor] at hd
  obtain ⟨hdesc, -, hpol, -⟩ := matchingDescriptor_eq_some_iff.mp hd
  refine ⟨⟨d, hdesc, hpol⟩, ⟨_, rfl, act.scriptOrNull_ne_empty⟩, fun d' hd' hs => ?_⟩
  obtain rfl : d' = d := Option.some.inj (hd'.symm.trans hdesc)
  have hn : d'.type.isNumeric = false := by rw [hs]; rfl
  obtain ⟨t, ht⟩ := getSaneOptionValue_str_of_string hs s
  simp [actionRule, hn, hdesc, ht]

/-- **Every rule of the reference fold is armed.** -/
theorem referenceRules_armed (lib : RegexLib) (dev : Device) (σ : Nat → Sample) (cfg : Cfg)
    (n : Nat) : ∀ r ∈ (referenceRules lib dev σ cfg n).rules, Armed dev r := by
  let I : RuleTables → Prop := fun R => ∀ r ∈ R.rules, Armed dev r
  have hacts : ∀ acts R, I R → I (refActions lib dev σ cfg.global.multipleActions n acts R) :=
    fun acts => foldl_invariant (fun R act hR => foldl_invariant (fun R opt hR => by
      intro r hr
      split at hr
      · rename_i d hd
        unfold RuleTables.addAction at hr
        split at hr
        · rcases List.mem_or_eq_of_mem_set hr with hr | rfl
          · exact hR r hr
          · exact actionRule_armed hd _
        · split at hr
          · rcases List.mem_append.mp hr with hr | hr
            · exact hR r hr
            · rw [List.mem_singleton.mp hr]; exact actionRule_armed hd _
          · exact hR r hr
      · exact hR r hr) _ R hR) acts
  have hfuns : ∀ fs R, I R → I (refFunctions lib dev n fs R) :=
    fun fs => foldl_invariant (fun R f hR => foldl_invariant (fun R opt hR => by
      intro r hr
      split at hr
      · rw [RuleTables.addFunction_rules] at hr; exact hR r hr
      · exact hR r hr) _ R hR) fs
  exact foldl_invariant (fun R loc hR => by
    show I (if _ then _ else _)
    split
    · exact hacts _ _ hR
    · exact hR) _ _ (hfuns _ _ (hacts _ _ (by simp [I, RuleTables.empty])))

/-- The tables compiled from a configuration whose regexes compile are ready to poll, on a
host and configuration where a dispatch's environment can be built. -/
theorem compileRules_pollInv (P : Poller) (cfg : Cfg) (n : Nat) {st : SaneThread}
    (hc : cfg.Compiles P.lib) (hst : compileRules P.lib P.dev P.σ cfg n = some st)
    (henv : EnvSafe P.dev P.host P.env st) : PollInv P (PollState.start st) := by
  obtain ⟨st', h', hs⟩ := compileRules_simulates P.lib P.dev P.σ cfg n hc
  obtain rfl : st' = st := Option.some.inj (h'.symm.trans hst)
  refine ⟨⟨hs.wellFormed.scripts_le, hs.wellFormed.functions_le, ?_, fun f hf => ?_, henv⟩,
    rfl⟩
  · show ∀ e ∈ st'.validOpts, _
    rw [hs.validOpts_eq]
    exact referenceRules_armed P.lib P.dev P.σ cfg n
  · obtain ⟨d, hd, -⟩ := (hs.wellFormed.functions_installed f hf).2.2
    simp [hd]

/-! ## Transition detection -/

/-- **Transition detection.** For every configuration whose regexes compile, every device and
every sequence of its answers, on a host and configuration where a dispatch's environment can
be built, take the slot `p` after `k` iterations of the loop from the compiled tables and the
slot `p'` after one more. Then:
* the rules of `p` are the compiled ones, with the values last stored;
* iteration `k + 1` queries the device once for the option of each rule, and the rule stores
  that answer;
* two rules on the same option therefore store the same value;
* the rules dispatched are, in order and once each, exactly those whose trigger predicate holds
  on the value stored at iteration `k` (at install when `k = 0`) and the value of `k + 1`. -/
theorem pollIter_transitions (P : Poller) (cfg : Cfg) (n : Nat) {st : SaneThread}
    (hc : cfg.Compiles P.lib) (hst : compileRules P.lib P.dev P.σ cfg n = some st)
    (henv : EnvSafe P.dev P.host P.env st) (k : Nat) :
    ∃ p ds p', pollIter P k (PollState.start st) = some p ∧ pollPass P p = some (ds, p') ∧
      (∀ r, p.rule r = { (PollState.start st).rule r with value := (p.rule r).value }) ∧
      (∀ r < st.numOfOptionsWithScripts,
        ((p'.queries.drop p.queries.length).map Prod.fst).count (p.rule r).number = 1 ∧
        ((p.rule r).number, (p'.rule r).value) ∈ p'.queries.drop p.queries.length) ∧
      (∀ r < st.numOfOptionsWithScripts, ∀ r' < st.numOfOptionsWithScripts,
        (p.rule r).number = (p.rule r').number → (p'.rule r).value = (p'.rule r').value) ∧
      ds.map (·.rule) = (List.range st.numOfOptionsWithScripts).filter fun r =>
        transitionFires P.lib P.dev (p.rule r) (p.rule r).value (p'.rule r).value := by
  obtain ⟨p, hp, hinv, hS, hrules⟩ :=
    pollIter_inv P (compileRules_pollInv P cfg n hc hst henv) k
  obtain ⟨ds, p', hpass, hI⟩ := pollPass_spec P hinv
  obtain ⟨Q, hQ, hcount, hmem⟩ := hI.queries
  have hS' : p.tables.numOfOptionsWithScripts = st.numOfOptionsWithScripts := hS
  have hdrop : p'.queries.drop p.queries.length = Q := by rw [hQ, List.drop_left]
  have hone : ∀ r < st.numOfOptionsWithScripts, (Q.map Prod.fst).count (p.rule r).number = 1 :=
    fun r hr => by rw [hcount r (by omega), if_pos ⟨r, by omega, rfl⟩]
  refine ⟨p, ds, p', hp, hpass, hrules, fun r hr => ?_, fun r hr r' hr' heq => ?_, ?_⟩
  · rw [hdrop]
    exact ⟨hone r hr, hmem r (by omega)⟩
  · refine value_eq_of_count_eq_one (hone r hr) (hmem r (by omega)) ?_
    rw [heq]
    exact hmem r' (by omega)
  · rw [hI.fired, hS']

/-- A host where `PATH`, `PWD`, `USER` and `HOME` are all set. -/
def sampleHost : Host where
  getenv
    | "PATH" => some "/usr/bin:/bin"
    | "PWD" => some "/"
    | "USER" => some "saned"
    | "HOME" => some "/var/lib/saned"
    | _ => none
  cwd := some "/"
  passwd := some ("saned", "/var/lib/saned")

/-- The poller of the sample device on the sample host. -/
def samplePoller : Poller :=
  ⟨sampleLib, sampleDevice, sampleSamples, sampleHost, sampleCfg.global.environment, fun s => s⟩

/-- The tables compiled from the sample configuration. -/
def sampleTables : SaneThread :=
  (compileRules sampleLib sampleDevice sampleSamples sampleCfg 3).getD (SaneThread.alloc 3)

/-- The sample device's answers, with the button pressed at read `k` only. -/
def pressedAt (k : Nat) : Nat → Sample := fun i =>
  if i = k then ⟨true, 1, "Color"⟩ else ⟨true, 0, "Color"⟩

/-- The sample poller with the button pressed at the first read of the polling loop. -/
def pressedPoller : Poller := { samplePoller with σ := pressedAt 2 }

theorem pollIter_transitions_pressed : sampleCfg.Compiles pressedPoller.lib ∧
    compileRules pressedPoller.lib pressedPoller.dev pressedPoller.σ sampleCfg 3 =
      some sampleTables ∧
    EnvSafe pressedPoller.dev pressedPoller.host pressedPoller.env sampleTables ∧
    (pollPass pressedPoller (PollState.start sampleTables)).map (·.1.map (·.rule)) = some [0] ∧
    ∃ p ds p', pollIter pressedPoller 0 (PollState.start sampleTables) = some p ∧
      pollPass pressedPoller p = some (ds, p') ∧
      (∀ r, p.rule r = { (PollState.start sampleTables).rule r with value := (p.rule r).value }) ∧
      (∀ r < sampleTables.numOfOptionsWithScripts,
        ((p'.queries.drop p.queries.length).map Prod.fst).count (p.rule r).number = 1 ∧
        ((p.rule r).number, (p'.rule r).value) ∈ p'.queries.drop p.queries.length) ∧
      (∀ r < sampleTables.numOfOptionsWithScripts, ∀ r' < sampleTables.numOfOptionsWithScripts,
        (p.rule r).number = (p.rule r').number → (p'.rule r).value = (p'.rule r').value) ∧
      ds.map (·.rule) = (List.range sampleTables.numOfOptionsWithScripts).filter fun r =>
        transitionFires pressedPoller.lib pressedPoller.dev (p.rule r) (p.rule r).value
          (p'.rule r).value :=
  have hc : sampleCfg.Compiles pressedPoller.lib := by decide
  have hst : compileRules pressedPoller.lib pressedPoller.dev pressedPoller.σ sampleCfg 3 =
      some sampleTables := rfl
  have henv : EnvSafe pressedPoller.dev pressedPoller.host pressedPoller.env sampleTables :=
    ⟨by decide, by decide, by decide, by decide, by decide, by decide⟩
  ⟨hc, hst, henv, rfl, pollIter_transitions pressedPoller sampleCfg 3 hc hst henv 0⟩

/-- A device whose option 1 is an `INT` knob of one word. -/
def knobDevice : Device where
  name := "knob"
  descriptor
    | 1 => some ⟨some "knob", .int, 4, true⟩
    | _ => none

/-- The knob reads the word `-1` when the rule is installed, and `0` afterwards. -/
def knobSamples : Nat → Sample := fun i => if i = 0 then Sample.ofWord (-1) else Sample.ofWord 0

/-- An action on the knob from `-1` to `0`. -/
def knobCfg : Cfg where
  global := ⟨false, ⟨some "SCANBD_DEVICE", some "SCANBD_ACTION"⟩, [],
    [⟨some "zero", "knob", ⟨-1, 0⟩, ⟨"", ""⟩, some "/etc/scanbd/zero.sh"⟩]⟩
  devices := []

/-- A device with a `BOOL` button (option 1) and a `BUTTON` option (option 2). -/
def buttonsDevice : Device where
  name := "buttons"
  descriptor
    | 1 => some ⟨some "button", .bool, 4, true⟩
    | 2 => some ⟨some "scan", .button, 4, true⟩
    | _ => none

/-- A scan action on the button from `0` to `1`, and a function exporting the `BUTTON`
option. -/
def buttonsCfg : Cfg where
  global := ⟨false, ⟨some "SCANBD_DEVICE", some "SCANBD_ACTION"⟩, [⟨"scan", "SCAN"⟩],
    [⟨some "scan", "button", ⟨0, 1⟩, ⟨"", ""⟩, some "/etc/scanbd/scan.sh"⟩]⟩
  devices := []

/-- **A transition is missed, and a detected one aborts.** An action from `-1` to `0` on an
`INT` knob that reads the word `-1` and then `0` stores `-1` as `2 ^ 64 - 1` and the word as
`2 ^ 32 - 1`, so the first iteration dispatches nothing. And a scan action on a `BOOL` button
going from `0` to `1` fires, but the dispatch aborts: the function on the `BUTTON` option is
formatted by the type of the button's descriptor, and hits `assert(false)`. -/
theorem transition_missed_or_aborted :
    ((compileRules sampleLib knobDevice knobSamples knobCfg 2).bind fun st =>
      (pollPass ⟨sampleLib, knobDevice, knobSamples, sampleHost, knobCfg.global.environment,
        fun s => s⟩ (PollState.start st)).map fun r =>
        ((st.opts.getD 0 .init).fromValue.numValue, (st.opts.getD 0 .init).value.numValue,
          r.1.length)) =
      some (ulong (-1), 4294967295, 0) ∧
    ((compileRules sampleLib buttonsDevice (pressedAt 1) buttonsCfg 3).map fun st =>
      ((ruleStep sampleLib buttonsDevice (pressedAt 1) (PollState.start st) 0).map (·.2.triggered),
        (pollPass ⟨sampleLib, buttonsDevice, pressedAt 1, sampleHost,
          buttonsCfg.global.environment, fun s => s⟩ (PollState.start st)).isNone)) =
      some (some true, true) :=
  ⟨by decide, by decide⟩

end Scanbd
