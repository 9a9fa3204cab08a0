import Scanbd.Reference

/-!
# Scanbd — the rule loop of the poller

Once its rules are compiled, `sane_poll` loops forever: every iteration walks the installed
action rules `opts[0 .. num_of_options_with_scripts)` in order (lines 773-869 of `sane.c`).
For rule `si` it obtains the current value of the rule's option, compares the rule's stored
last value and the new one against the trigger, stores the new value, and dispatches the rule
when it fired. An option is read from the device only at its first rule: a later rule on the
same option copies the value the first one stored in this iteration.

* `PollState` — the slot as the loop sees it, with a record of the device's answers;
* `obtainValue`, `triggerTest`, `ruleStep` — the body of the loop up to the dispatch check;
* `transitionFires` — the trigger predicate of the specification, on two successive values.

## Results

* `triggerTest_eq_transitionFires` — on an armed rule the code's test is the predicate;
* `ruleStep_spec` — what one rule step does: one query or one copy, one stored value, and the
  trigger flag set exactly when the predicate holds.
-/

namespace Scanbd

/-- The slot as the polling loop sees it: the compiled tables, `triggered` and
`triggered_option`, and the answers of the `get_sane_option_value` calls made so far, in order
(a record kept for the statements; no code reads it). -/
structure PollState where
  tables : SaneThread
  triggered : Bool
  triggeredOption : Int
  queries : List (Nat × OptValue)

namespace PollState

/-- The state `sane_poll` enters its loop with: `start_sane_threads` left `triggered` false and
`triggered_option` at `-1`. -/
def start (st : SaneThread) : PollState := ⟨st, false, -1, []⟩

/-- `get_sane_option_value(st->h, opt)`: the device's next answer, recorded. -/
def query (dev : Device) (σ : Nat → Sample) (p : PollState) (opt : Nat) :
    OptValue × PollState :=
  let r := p.tables.read dev σ opt
  (r.1, { p with tables := r.2, queries := p.queries ++ [(opt, r.1)] })

section Query

variable (dev : Device) (σ : Nat → Sample) (p : PollState) (opt : Nat)

@[simp] theorem query_fst :
    (p.query dev σ opt).1 = getSaneOptionValue (dev.descriptor opt) (σ p.tables.reads) := rfl
@[simp] theorem query_opts : (p.query dev σ opt).2.tables.opts = p.tables.opts := rfl
@[simp] theorem query_scripts :
    (p.query dev σ opt).2.tables.numOfOptionsWithScripts = p.tables.numOfOptionsWithScripts := rfl
@[simp] theorem query_numOfOptions :
    (p.query dev σ opt).2.tables.numOfOptions = p.tables.numOfOptions := rfl
@[simp] theorem query_functions :
    (p.query dev σ opt).2.tables.functions = p.tables.functions := rfl
@[simp] theorem query_functionsCount :
    (p.query dev σ opt).2.tables.numOfOptionsWithFunctions =
      p.tables.numOfOptionsWithFunctions := rfl
@[simp] theorem query_triggered : (p.query dev σ opt).2.triggered = p.triggered := rfl
@[simp] theorem query_triggeredOption :
    (p.query dev σ opt).2.triggeredOption = p.triggeredOption := rfl
@[simp] theorem query_queries :
    (p.query dev σ opt).2.queries = p.queries ++ [(opt, (p.query dev σ opt).1)] := rfl

end Query

end PollState

/-- The copy lines 808-815 make of the value an earlier rule stored: `num_value`, and a
`strdup` of the string, over a fresh value. -/
def OptValue.copy (v : OptValue) : OptValue :=
  { OptValue.init with numValue := v.numValue, str := v.str }

/-- A value without a regex is its own copy; values read from the device have none. -/
theorem OptValue.copy_eq_self {v : OptValue} (h : v.reg = none) : v.copy = v := by
  cases v; cases h; rfl

/-- The loop at lines 801-806: the first rule before `si` on the same option as rule `si`. -/
def SaneThread.firstSame (st : SaneThread) (si : Nat) : Option Nat :=
  (st.opts.take si).findIdx? (·.number == (st.opts.getD si .init).number)

/-- The value the loop obtains for rule `si` (lines 796-816): a copy of the value the first
earlier rule on the same option stored, otherwise a query of the device. -/
def obtainValue (dev : Device) (σ : Nat → Sample) (p : PollState) (si : Nat) :
    OptValue × PollState :=
  match p.tables.firstSame si with
  | some o => ((p.tables.opts.getD o .init).value.copy, p)
  | none => p.query dev σ (p.tables.opts.getD si .init).number

/-- `regexec(reg, str, 0, NULL, 0) == 0`; `none` when the regex or the string is `NULL`. -/
def regexecValue (lib : RegexLib) (reg str : Option String) : Option Bool :=
  match reg, str with
  | some p, some s => some (lib.regexec p s)
  | _, _ => none

/-- The trigger test of lines 823-857 for rule `e`, whose option has descriptor `d`, against
the value `v` just obtained: `none` at `assert(false)` and where `regexec` gets a `NULL`. The
second `regexec` runs only when the first matched (`&&`). -/
def triggerTest (lib : RegexLib) (d : OptionDescriptor) (e : DevOption) (v : OptValue) :
    Option Bool :=
  if d.type.isNumeric then
    some (e.fromValue.numValue == e.value.numValue && e.toValue.numValue == v.numValue)
  else if d.type = .string then
    match regexecValue lib e.fromValue.reg e.value.str with
    | some true => regexecValue lib e.toValue.reg v.str
    | some false => some false
    | none => none
  else none

/-- The body of the rule loop for rule `si` up to the dispatch check (lines 773-869): `none`
when an assertion fails; with no descriptor when the rule has no script (`continue`);
otherwise with the descriptor read at the top and the state once the new value is stored and,
if the rule fired, `triggered` set with `triggered_option = si`. -/
def ruleStep (lib : RegexLib) (dev : Device) (σ : Nat → Sample) (p : PollState) (si : Nat) :
    Option (Option OptionDescriptor × PollState) :=
  let e := p.tables.opts.getD si .init
  match dev.descriptor e.number with
  | none => none
  | some odesc =>
    -- no script, or an empty one: `continue`
    if e.script.getD "" = "" then some (none, p)
    else
      let r := obtainValue dev σ p si
      match triggerTest lib odesc e r.1 with
      | none => none
      | some t =>
        (r.2.tables.setOpt si { e with value := r.1 }).map fun tables =>
          (some odesc, { r.2 with tables,
                                  triggered := t || r.2.triggered,
                                  triggeredOption := if t then si else r.2.triggeredOption })

/-- **The trigger predicate of the specification**, on the last value `prev` of rule `e` and
the value `cur` obtained now: `from == prev` and `to == cur` on the numbers for
`BOOL/INT/FIXED/BUTTON`; the from-regex matching `prev` and the to-regex matching `cur` for
`STRING`. -/
def transitionFires (lib : RegexLib) (dev : Device) (e : DevOption) (prev cur : OptValue) :
    Bool :=
  match dev.descriptor e.number with
  | none => false
  | some d =>
    if d.type.isNumeric then
      e.fromValue.numValue == prev.numValue && e.toValue.numValue == cur.numValue
    else
      match e.fromValue.str, e.toValue.str, prev.str, cur.str with
      | some p, some q, some a, some b => lib.regexec p a && lib.regexec q b
      | _, _, _, _ => false

/-! ## Armed rules -/

/-- A rule the loop can test: its option has a descriptor of a polled type, it has a
non-empty script, and on a string option both trigger sides hold their pattern with the regex
compiled from it, and its last value holds a string. -/
structure Armed (dev : Device) (e : DevOption) : Prop where
  descriptor : ∃ d, dev.descriptor e.number = some d ∧ d.type.isPolled
  script : ∃ s, e.script = some s ∧ s ≠ ""
  strings : ∀ d, dev.descriptor e.number = some d → d.type = .string →
    e.fromValue.reg = e.fromValue.str ∧ e.fromValue.str.isSome ∧
    e.toValue.reg = e.toValue.str ∧ e.toValue.str.isSome ∧ e.value.str.isSome

/-- On an armed rule, and a value that holds a string when the option is a string option,
the code's test is the specification's predicate. -/
theorem triggerTest_eq_transitionFires (lib : RegexLib) {dev : Device} {e : DevOption}
    {d : OptionDescriptor} {v : OptValue} (ha : Armed dev e) (hd : dev.descriptor e.number = some d)
    (hv : d.type = .string → v.str.isSome) :
    triggerTest lib d e v = some (transitionFires lib dev e e.value v) := by
  obtain ⟨d', hd', hpol⟩ := ha.descriptor
  obtain rfl : d' = d := Option.some.inj (hd'.symm.trans hd)
  unfold triggerTest transitionFires
  rw [hd]
  by_cases hn : d'.type.isNumeric
  · simp only [hn, if_true]
  · have hs : d'.type = .string := ((ValueType.isPolled_iff _).mp hpol).resolve_left hn
    obtain ⟨hf, hfs, ht, hts, hvs⟩ := ha.strings d' hd hs
    obtain ⟨p, hp⟩ := Option.isSome_iff_exists.mp hfs
    obtain ⟨q, hq⟩ := Option.isSome_iff_exists.mp hts
    obtain ⟨a, ha'⟩ := Option.isSome_iff_exists.mp hvs
    obtain ⟨b, hb⟩ := Option.isSome_iff_exists.mp (hv hs)
    simp only [hn, hs, if_false, if_true, hf, ht, hp, hq, ha', hb, regexecValue]
    cases lib.regexec p a <;> rfl

/-! ## The value a rule step obtains -/

section FindIdx

variable {α : Type} {l : List α} {p : α → Bool} {k o : Nat}

private theorem findIdx?_take_eq_some (d : α) (h : (l.take k).findIdx? p = some o) :
    o < k ∧ p (l.getD o d) ∧ ∀ j < o, p (l.getD j d) = false := by
  obtain ⟨ho, hp, hj⟩ := List.findIdx?_eq_some_iff_getElem.mp h
  rw [List.length_take] at ho
  have hol : o < l.length := lt_of_lt_of_le ho (min_le_right _ _)
  refine ⟨lt_of_lt_of_le ho (min_le_left _ _), ?_, fun j hjo => ?_⟩
  · rw [List.getElem_take] at hp
    rwa [List.getD_eq_getElem _ _ hol]
  · have := hj j hjo
    rw [List.getElem_take] at this
    rw [List.getD_eq_getElem _ _ (by omega)]
    simpa using this

private theorem findIdx?_take_eq_none (d : α) (hk : k ≤ l.length)
    (h : (l.take k).findIdx? p = none) : ∀ j < k, p (l.getD j d) = false := by
  intro j hj
  rw [List.getD_eq_getElem _ _ (by omega)]
  exact List.findIdx?_eq_none_iff.mp h _ (List.getElem_take' l _ hj ▸ List.getElem_mem _)

end FindIdx

section FirstSame

variable {st : SaneThread} {si o : Nat}

/-- The search for an earlier rule on the same option stops at the first one. -/
theorem SaneThread.firstSame_eq_some (h : st.firstSame si = some o) :
    o < si ∧ (st.opts.getD o .init).number = (st.opts.getD si .init).number ∧
      ∀ j < o, (st.opts.getD j .init).number ≠ (st.opts.getD si .init).number := by
  obtain ⟨ho, hp, hj⟩ := findIdx?_take_eq_some DevOption.init h
  exact ⟨ho, beq_iff_eq.mp hp, fun j hjo => by simpa using hj j hjo⟩

/-- The search finds nothing exactly when no earlier rule is on the same option. -/
theorem SaneThread.firstSame_eq_none (hsi : si ≤ st.opts.length) (h : st.firstSame si = none) :
    ∀ j < si, (st.opts.getD j .init).number ≠ (st.opts.getD si .init).number :=
  fun j hj => by simpa using findIdx?_take_eq_none DevOption.init hsi h j hj

end FirstSame

/-- An index below the count holds an installed rule. -/
theorem SaneThread.getD_mem_validOpts {st : SaneThread} {o : Nat}
    (hle : st.numOfOptionsWithScripts ≤ st.numOfOptions) (ho : o < st.numOfOptionsWithScripts) :
    st.opts.getD o .init ∈ st.validOpts := by
  have hol : o < st.opts.length := by rw [st.opts_length]; omega
  rw [List.getD_eq_getElem _ _ hol, List.getElem_take' _ hol ho]
  exact List.getElem_mem _

section Obtain

variable {dev : Device} {σ : Nat → Sample} {p : PollState} {si : Nat}

@[simp] theorem obtainValue_tables_opts :
    (obtainValue dev σ p si).2.tables.opts = p.tables.opts := by
  unfold obtainValue; split <;> rfl
@[simp] theorem obtainValue_numOfOptions :
    (obtainValue dev σ p si).2.tables.numOfOptions = p.tables.numOfOptions := by
  unfold obtainValue; split <;> rfl
@[simp] theorem obtainValue_scripts :
    (obtainValue dev σ p si).2.tables.numOfOptionsWithScripts =
      p.tables.numOfOptionsWithScripts := by
  unfold obtainValue; split <;> rfl
@[simp] theorem obtainValue_functions :
    (obtainValue dev σ p si).2.tables.functions = p.tables.functions := by
  unfold obtainValue; split <;> rfl
@[simp] theorem obtainValue_functionsCount :
    (obtainValue dev σ p si).2.tables.numOfOptionsWithFunctions =
      p.tables.numOfOptionsWithFunctions := by
  unfold obtainValue; split <;> rfl
@[simp] theorem obtainValue_triggered : (obtainValue dev σ p si).2.triggered = p.triggered := by
  unfold obtainValue; split <;> rfl
@[simp] theorem obtainValue_triggeredOption :
    (obtainValue dev σ p si).2.triggeredOption = p.triggeredOption := by
  unfold obtainValue; split <;> rfl

/-- On a string option of an armed table the value obtained holds a string: a query of a
string option always does, and a copy takes the string of an armed rule on the same option. -/
theorem obtainValue_str {d : OptionDescriptor}
    (hle : p.tables.numOfOptionsWithScripts ≤ p.tables.numOfOptions)
    (harm : ∀ e ∈ p.tables.validOpts, Armed dev e) (hsi : si < p.tables.numOfOptionsWithScripts)
    (hd : dev.descriptor (p.tables.opts.getD si .init).number = some d) (hs : d.type = .string) :
    (obtainValue dev σ p si).1.str.isSome := by
  unfold obtainValue
  split
  · rename_i o ho
    obtain ⟨hlt, hnum, -⟩ := SaneThread.firstSame_eq_some ho
    have ha := harm _ (SaneThread.getD_mem_validOpts hle (hlt.trans hsi))
    exact (ha.strings d (hnum ▸ hd) hs).2.2.2.2
  · obtain ⟨t, ht⟩ := getSaneOptionValue_str_of_string hs (σ p.tables.reads)
    rw [PollState.query_fst, hd, ht]
    rfl

end Obtain

/-- **What any rule step does to the trigger**, armed rule or not: the count stays, and the
trigger is either left alone or set to rule `si`. -/
theorem ruleStep_trigger {lib : RegexLib} {dev : Device} {σ : Nat → Sample} {p p' : PollState}
    {si : Nat} {o : Option OptionDescriptor} (h : ruleStep lib dev σ p si = some (o, p')) :
    p'.tables.numOfOptions = p.tables.numOfOptions ∧
    p'.tables.numOfOptionsWithScripts = p.tables.numOfOptionsWithScripts ∧
      (p'.triggered = p.triggered ∧ p'.triggeredOption = p.triggeredOption ∨
        p'.triggered = true ∧ p'.triggeredOption = si) := by
  simp only [ruleStep] at h
  split at h
  · cases h
  split at h
  · cases h; exact ⟨rfl, rfl, .inl ⟨rfl, rfl⟩⟩
  split at h
  · cases h
  rename_i t _
  obtain ⟨st', hst', h⟩ := Option.map_eq_some'.mp h
  cases h
  unfold SaneThread.setOpt at hst'
  split at hst' <;> cases hst'
  cases t <;> simp

/-- **What one rule step does.** On a table whose installed rules are armed, the step for rule
`si` below the count reads the rule's descriptor, obtains the value, stores it into `opts[si]`
and touches nothing else of the tables, and sets the trigger, with `triggered_option = si`,
exactly when the specification's predicate holds on the rule's last value and the new one. -/
theorem ruleStep_spec (lib : RegexLib) (dev : Device) (σ : Nat → Sample) {p : PollState}
    {si : Nat} (hle : p.tables.numOfOptionsWithScripts ≤ p.tables.numOfOptions)
    (harm : ∀ e ∈ p.tables.validOpts, Armed dev e)
    (hsi : si < p.tables.numOfOptionsWithScripts) :
    ∃ odesc p', dev.descriptor (p.tables.opts.getD si .init).number = some odesc ∧
      ruleStep lib dev σ p si = some (some odesc, p') ∧
      p'.tables.opts = p.tables.opts.set si
        { p.tables.opts.getD si .init with value := (obtainValue dev σ p si).1 } ∧
      p'.tables.numOfOptions = p.tables.numOfOptions ∧
      p'.tables.numOfOptionsWithScripts = p.tables.numOfOptionsWithScripts ∧
      p'.tables.functions = p.tables.functions ∧
      p'.tables.numOfOptionsWithFunctions = p.tables.numOfOptionsWithFunctions ∧
      p'.tables.reads = (obtainValue dev σ p si).2.tables.reads ∧
      p'.queries = (obtainValue dev σ p si).2.queries ∧
      p'.triggered = (transitionFires lib dev (p.tables.opts.getD si .init)
        (p.tables.opts.getD si .init).value (obtainValue dev σ p si).1 || p.triggered) ∧
      p'.triggeredOption = if transitionFires lib dev (p.tables.opts.getD si .init)
        (p.tables.opts.getD si .init).value (obtainValue dev σ p si).1
        then (si : Int) else p.triggeredOption := by
  have he := harm _ (SaneThread.getD_mem_validOpts hle hsi)
  obtain ⟨d, hd, -⟩ := he.descriptor
  obtain ⟨s, hs, hne⟩ := he.script
  have htest := triggerTest_eq_transitionFires lib (v := (obtainValue dev σ p si).1) he hd
    fun hst => obtainValue_str hle harm hsi hd hst
  obtain ⟨st', hset, hopts, hN, hS, hfun, hF⟩ :=
    SaneThread.setOpt_eq_some (s := (obtainValue dev σ p si).2.tables) (n := si)
      (e := { p.tables.opts.getD si .init with value := (obtainValue dev σ p si).1 })
      (by rw [obtainValue_numOfOptions]; omega)
  have hreads : st'.reads = (obtainValue dev σ p si).2.tables.reads := by
    simp only [SaneThread.setOpt, obtainValue_numOfOptions,
      show si < p.tables.numOfOptions by omega, if_true, Option.some.injEq] at hset
    rw [← hset]
  refine ⟨d, ⟨st', transitionFires lib dev (p.tables.opts.getD si .init)
      (p.tables.opts.getD si .init).value (obtainValue dev σ p si).1 || p.triggered,
    if transitionFires lib dev (p.tables.opts.getD si .init) (p.tables.opts.getD si .init).value
      (obtainValue dev σ p si).1 then (si : Int) else p.triggeredOption,
    (obtainValue dev σ p si).2.queries⟩, hd, ?_, ?_⟩
  · simp only [ruleStep, hd]
    rw [if_neg (by rw [hs]; exact hne)]
    simp only [htest, hset, Option.map_some', obtainValue_triggered, obtainValue_triggeredOption]
  · simp only [hopts, hN, hS, hfun, hF, hreads, obtainValue_tables_opts, obtainValue_numOfOptions,
      obtainValue_scripts, obtainValue_functions, obtainValue_functionsCount, and_self]

end Scanbd
