import Scanbd.Config
import Mathlib.Order.Interval.Finset.Nat
import Mathlib.Data.List.GetD

/-!
# Scanbd — rule compilation

`sane_poll` opens its device, reads the number of options `N`, allocates two arrays of `N`
entries and fills them from the configuration (lines 656-745 of `sane.c`): the global section
first, then every `device` section whose filter matches the device name. Each section goes
through `sane_find_matching_options` (action rules) and `sane_find_matching_functions`
(function rules), which try every action or function against every option `1 .. N-1`.

* `matchingDescriptor` — the checks both option loops make before installing a rule;
* `installAction`, `installFunction` — the loop bodies once an option matched: look the option
  up among the installed rules, then overwrite an entry or take the next free one;
* `saneFindMatchingOptions`, `saneFindMatchingFunctions`, `compileRules` — the loops.

The function table has no capacity check; what keeps its writes inside the array is that its
option numbers stay pairwise distinct and lie in `[1, N)` (`SaneThread.WellFormed`).

## Results

* `installAction_wellFormed`, `installFunction_wellFormed` — each install step keeps the
  tables well formed and writes inside the arrays;
* `compileRules_wellFormed` — the whole compile phase does, from the fresh tables.
-/

namespace Scanbd

open SaneThread

/-- The checks both option loops make on option `opt` before installing a rule for it: a
descriptor, active, named, of a polled type, and a name the filter regex matches. -/
def matchingDescriptor (lib : RegexLib) (dev : Device) (filter : String) (opt : Nat) :
    Option OptionDescriptor :=
  match dev.descriptor opt with
  | none => none
  | some d =>
    if d.active then
      match d.name with
      | none => none
      | some name => if d.type.isPolled && lib.regexec filter name then some d else none
    else none

/-- The loop over the installed function rules: the first one on `opt`, else the end. -/
def SaneThread.functionSlot (st : SaneThread) (opt : Nat) : Nat :=
  st.validFunctions.findIdx (·.number == opt)

/-- The loop over the installed action rules (lines 491-514): without `multiple_actions` the
first rule on `opt`; with it the end of the list, unless the rule found is at an index
`≥ num_of_options`; the end of the list when no rule is on `opt`. -/
def SaneThread.actionSlot (multipleActions : Bool) (st : SaneThread) (opt : Nat) : Nat :=
  let n := st.validOpts.findIdx (·.number == opt)
  if n < st.numOfOptionsWithScripts then
    if !multipleActions then n
    else if n < st.numOfOptions then st.numOfOptionsWithScripts else n
  else st.numOfOptionsWithScripts

/-- The body of `sane_find_matching_functions`' option loop once `opt` matched
(lines 356-384): overwrite the function on `opt`, or take the next entry. -/
def installFunction (env : String) (opt : Nat) (st : SaneThread) : Option SaneThread :=
  let n := st.functionSlot opt
  (st.setFunction n ⟨opt, some env⟩).map (countFunction n)

/-- What `sane_find_matching_options` writes into `opts[n]` before it looks at the option's
type (lines 523-528): the option number, the action's name and script, and the three values
freed (`sane_option_value_free` keeps `num_value`). -/
def DevOption.overwrite (old : DevOption) (act : CfgAction) (opt : Nat) : DevOption :=
  { old with number := opt, actionName := some act.name, script := some act.scriptOrNull,
             fromValue := old.fromValue.free, toValue := old.toValue.free,
             value := old.value.free }

/-- The numerical trigger of `act` and the value read, over the entry `e` (lines 533-539). -/
def DevOption.numericTrigger (e : DevOption) (act : CfgAction) (v : OptValue) : DevOption :=
  { e with fromValue := { e.fromValue with numValue := ulong act.numericalTrigger.fromValue }
           toValue := { e.toValue with numValue := ulong act.numericalTrigger.toValue }
           value := v }

/-- The string trigger of `act` (the pattern and the regex compiled from it, for each side)
and the value read, over the entry `e` (lines 547-580). -/
def DevOption.stringTrigger (e : DevOption) (act : CfgAction) (v : OptValue) : DevOption :=
  let p := act.stringTrigger.fromValue
  let q := act.stringTrigger.toValue
  { e with fromValue := { e.fromValue with str := some p, reg := some p }
           toValue := { e.toValue with str := some q, reg := some q }
           value := v }

/-- The three values of `e` freed (lines 583-585). -/
def DevOption.freeValues (e : DevOption) : DevOption :=
  { e with fromValue := e.fromValue.free, toValue := e.toValue.free, value := e.value.free }

/-- `valid` at line 582: neither `regcomp` of the string trigger returned a negative code. -/
def stringTriggerValid (lib : RegexLib) (act : CfgAction) : Bool :=
  !decide (lib.regcomp act.stringTrigger.fromValue < 0) &&
    !decide (lib.regcomp act.stringTrigger.toValue < 0)

/-- The body of `sane_find_matching_options`' option loop once `opt` matched with descriptor
`d` (lines 468-596). A string trigger that is not `valid` is written into `opts[n]` and then
freed, without being counted. The `assert(false)` branch is `none`. -/
def installAction (lib : RegexLib) (dev : Device) (σ : Nat → Sample)
    (multipleActions : Bool) (act : CfgAction) (opt : Nat) (d : OptionDescriptor)
    (st : SaneThread) : Option SaneThread :=
  let n := st.actionSlot multipleActions opt
  if n = st.numOfOptions then some st
  else
    let e := (st.opts.getD n .init).overwrite act opt
    let r := st.read dev σ opt
    if d.type.isNumeric then
      (r.2.setOpt n (e.numericTrigger act r.1)).map (countScript n)
    else if d.type = .string then
      if stringTriggerValid lib act then
        (r.2.setOpt n (e.stringTrigger act r.1)).map (countScript n)
      else r.2.setOpt n (e.stringTrigger act r.1).freeValues
    else none

/-- `sane_find_matching_functions(st, sec)` for the `function` subsections of `sec`. -/
def saneFindMatchingFunctions (lib : RegexLib) (dev : Device) (functions : List CfgFunction)
    (st : SaneThread) : Option SaneThread :=
  functions.foldlM (fun st f =>
    if lib.regcomp f.filter < 0 then some st
    else (List.range' 1 (st.numOfOptions - 1)).foldlM (fun st opt =>
      match matchingDescriptor lib dev f.filter opt with
      | some _ => installFunction f.env opt st
      | none => some st) st) st

/-- `sane_find_matching_options(st, sec)` for the `action` subsections of `sec`;
`multiple_actions` comes from the global section. -/
def saneFindMatchingOptions (lib : RegexLib) (dev : Device) (σ : Nat → Sample)
    (multipleActions : Bool) (actions : List CfgAction) (st : SaneThread) :
    Option SaneThread :=
  actions.foldlM (fun st act =>
    if lib.regcomp act.filter < 0 then some st
    else (List.range' 1 (st.numOfOptions - 1)).foldlM (fun st opt =>
      match matchingDescriptor lib dev act.filter opt with
      | some d => installAction lib dev σ multipleActions act opt d st
      | none => some st) st) st

/-- One `device` section of the loop at lines 710-745. -/
def compileDevice (lib : RegexLib) (dev : Device) (σ : Nat → Sample) (multipleActions : Bool)
    (st : SaneThread) (loc : CfgDevice) : Option SaneThread :=
  if lib.regcomp loc.filter < 0 then some st
  else if lib.regexec loc.filter dev.name then do
    let st ← saneFindMatchingOptions lib dev σ multipleActions loc.actions st
    saneFindMatchingFunctions lib dev [] st
  else some st

/-- The compile phase of `sane_poll` for a device of `n` options (lines 656-745). -/
def compileRules (lib : RegexLib) (dev : Device) (σ : Nat → Sample) (cfg : Cfg) (n : Nat) :
    Option SaneThread := do
  let m := cfg.global.multipleActions
  let st ← saneFindMatchingOptions lib dev σ m cfg.global.actions (.alloc n)
  let st ← saneFindMatchingFunctions lib dev cfg.global.functions st
  cfg.devices.foldlM (compileDevice lib dev σ m) st

/-! ## Entries written by an install step -/

@[simp] theorem DevOption.overwrite_number (old : DevOption) (act : CfgAction) (opt : Nat) :
    (old.overwrite act opt).number = opt := rfl
@[simp] theorem DevOption.overwrite_script (old : DevOption) (act : CfgAction) (opt : Nat) :
    (old.overwrite act opt).script = some act.scriptOrNull := rfl
@[simp] theorem DevOption.numericTrigger_number (e : DevOption) (act : CfgAction) (v : OptValue) :
    (e.numericTrigger act v).number = e.number := rfl
@[simp] theorem DevOption.numericTrigger_script (e : DevOption) (act : CfgAction) (v : OptValue) :
    (e.numericTrigger act v).script = e.script := rfl
@[simp] theorem DevOption.stringTrigger_number (e : DevOption) (act : CfgAction) (v : OptValue) :
    (e.stringTrigger act v).number = e.number := rfl
@[simp] theorem DevOption.stringTrigger_script (e : DevOption) (act : CfgAction) (v : OptValue) :
    (e.stringTrigger act v).script = e.script := rfl
@[simp] theorem DevOption.freeValues_number (e : DevOption) : e.freeValues.number = e.number := rfl
@[simp] theorem DevOption.freeValues_script (e : DevOption) : e.freeValues.script = e.script := rfl

section Read

variable (dev : Device) (σ : Nat → Sample) (st : SaneThread) (opt : Nat)

@[simp] theorem SaneThread.read_fst :
    (st.read dev σ opt).1 = getSaneOptionValue (dev.descriptor opt) (σ st.reads) := rfl
@[simp] theorem SaneThread.read_opts : (st.read dev σ opt).2.opts = st.opts := rfl
@[simp] theorem SaneThread.read_functions : (st.read dev σ opt).2.functions = st.functions := rfl
@[simp] theorem SaneThread.read_numOfOptions :
    (st.read dev σ opt).2.numOfOptions = st.numOfOptions := rfl
@[simp] theorem SaneThread.read_numOfOptionsWithScripts :
    (st.read dev σ opt).2.numOfOptionsWithScripts = st.numOfOptionsWithScripts := rfl
@[simp] theorem SaneThread.read_numOfOptionsWithFunctions :
    (st.read dev σ opt).2.numOfOptionsWithFunctions = st.numOfOptionsWithFunctions := rfl
@[simp] theorem SaneThread.read_reads : (st.read dev σ opt).2.reads = st.reads + 1 := rfl

end Read

/-! ## Well-formed tables -/

/-- Option `o` may carry a rule on a device of `n` options: `1 ≤ o < n`, and its descriptor
is active, named and of a polled type. -/
def Installable (dev : Device) (n o : Nat) : Prop :=
  1 ≤ o ∧ o < n ∧ ∃ d, dev.descriptor o = some d ∧ d.active ∧ d.name.isSome ∧ d.type.isPolled

/-- An installed action rule: its option may carry a rule, and it has a non-empty script. -/
def InstalledOpt (dev : Device) (n : Nat) (e : DevOption) : Prop :=
  Installable dev n e.number ∧ ∃ s, e.script = some s ∧ s ≠ ""

/-- What the compile phase keeps true of the tables: both fill counts within the arrays,
every installed rule on an option that may carry one, the function rules on pairwise distinct
options, and so the action rules unless `multiple_actions` is set. -/
structure SaneThread.WellFormed (dev : Device) (multipleActions : Bool) (st : SaneThread) :
    Prop where
  scripts_le : st.numOfOptionsWithScripts ≤ st.numOfOptions
  functions_le : st.numOfOptionsWithFunctions ≤ st.numOfOptions
  opts_installed : ∀ e ∈ st.validOpts, InstalledOpt dev st.numOfOptions e
  functions_installed : ∀ f ∈ st.validFunctions, Installable dev st.numOfOptions f.number
  functions_nodup : (st.validFunctions.map (·.number)).Nodup
  opts_nodup : multipleActions = false → (st.validOpts.map (·.number)).Nodup

theorem alloc_wellFormed (dev : Device) (m : Bool) (n : Nat) :
    (SaneThread.alloc n).WellFormed dev m where
  scripts_le := Nat.zero_le _
  functions_le := Nat.zero_le _
  opts_installed := by simp [validOpts, alloc]
  functions_installed := by simp [validFunctions, alloc]
  functions_nodup := by simp [validFunctions, alloc]
  opts_nodup := by simp [validOpts, alloc]

/-- Distinct options in `[1, n)` number at most `n - 1`: the counting argument that bounds
the function table. -/
theorem length_le_of_nodup_Ico {l : List Nat} {n : Nat} (hl : l.Nodup)
    (h : ∀ o ∈ l, 1 ≤ o ∧ o < n) : l.length ≤ n - 1 := by
  rw [← List.toFinset_card_of_nodup hl, ← Nat.card_Ico 1 n]
  exact Finset.card_le_card fun o ho => by simpa using h o (List.mem_toFinset.mp ho)

/-- The function table of well-formed tables holds at most `N - 1` rules. -/
theorem SaneThread.WellFormed.functions_le_pred {dev : Device} {m : Bool} {st : SaneThread}
    (h : st.WellFormed dev m) : st.numOfOptionsWithFunctions ≤ st.numOfOptions - 1 := by
  have hlen : st.validFunctions.length = st.numOfOptionsWithFunctions := by
    simp [validFunctions, st.functions_length, h.functions_le]
  have := length_le_of_nodup_Ico h.functions_nodup (n := st.numOfOptions) (by
    simp only [List.mem_map]
    rintro _ ⟨f, hf, rfl⟩
    exact ⟨(h.functions_installed f hf).1, (h.functions_installed f hf).2.1⟩)
  simpa [hlen] using this

/-! ## Writing into the arrays -/

section ListLemmas

variable {α : Type} {l : List α} {n k : Nat} {a : α}

private theorem take_set_of_le' (h : k ≤ n) : (l.set n a).take k = l.take k := by
  rw [List.set_take, List.set_eq_of_length_le]
  simp only [List.length_take]
  omega

private theorem take_succ_set (h : n < l.length) :
    (l.set n a).take (n + 1) = l.take n ++ [a] := by
  rw [List.set_take, List.take_succ, List.getElem?_eq_getElem h, Option.toList_some,
    List.set_append_right _ _ (by simp)]
  simp [Nat.min_eq_left h.le]

private theorem map_set_of_eq {β : Type} {f : α → β} (h : n < l.length)
    (hf : ∀ b, l[n]? = some b → f a = f b) : (l.set n a).map f = l.map f := by
  apply List.ext_getElem (by simp)
  intro i h1 _
  simp only [List.getElem_map, List.getElem_set]
  split
  · subst_vars
    exact hf _ (List.getElem?_eq_getElem h)
  · rfl

/-- A search over the first `c` entries: it stops at an entry satisfying `p`, or runs to `c`. -/
private theorem findIdx_take_cases (d : α) (p : α → Bool) {c : Nat} (hc : c ≤ l.length) :
    ((l.take c).findIdx p < c ∧ p (l.getD ((l.take c).findIdx p) d) = true) ∨
    ((l.take c).findIdx p = c ∧ ∀ x ∈ l.take c, p x = false) := by
  have hlen : (l.take c).length = c := by simp [hc]
  by_cases hlt : (l.take c).findIdx p < c
  · refine .inl ⟨hlt, ?_⟩
    have := List.findIdx_getElem (w := by rw [hlen]; exact hlt)
    rwa [List.getElem_take, ← List.getD_eq_getElem _ d] at this
  · have hle := @List.findIdx_le_length _ p (l.take c)
    have heq : (l.take c).findIdx p = (l.take c).length := by omega
    exact .inr ⟨heq.trans hlen, List.findIdx_eq_length.mp heq⟩

end ListLemmas

/-! ## Where an install step writes -/

theorem SaneThread.validOpts_length {st : SaneThread}
    (h : st.numOfOptionsWithScripts ≤ st.numOfOptions) :
    st.validOpts.length = st.numOfOptionsWithScripts := by
  simp [validOpts, st.opts_length, h]

theorem SaneThread.validFunctions_length {st : SaneThread}
    (h : st.numOfOptionsWithFunctions ≤ st.numOfOptions) :
    st.validFunctions.length = st.numOfOptionsWithFunctions := by
  simp [validFunctions, st.functions_length, h]

/-- The function slot is the entry on `opt`, or the fill count when no rule is on `opt`. -/
theorem functionSlot_cases {st : SaneThread} (h : st.numOfOptionsWithFunctions ≤ st.numOfOptions)
    (opt : Nat) :
    (st.functionSlot opt < st.numOfOptionsWithFunctions ∧
      (st.functions.getD (st.functionSlot opt) .init).number = opt) ∨
    (st.functionSlot opt = st.numOfOptionsWithFunctions ∧
      ∀ f ∈ st.validFunctions, f.number ≠ opt) := by
  rcases findIdx_take_cases DevFunction.init (·.number == opt)
      (h.trans_eq st.functions_length.symm) with ⟨hlt, hp⟩ | ⟨heq, hno⟩
  · exact .inl ⟨hlt, beq_iff_eq.mp hp⟩
  · exact .inr ⟨heq, fun f hf => by simpa using hno f hf⟩

/-- The action slot: without `multiple_actions` the rule on `opt` if there is one; otherwise
the fill count, and then (without `multiple_actions`) no rule is on `opt`. -/
theorem actionSlot_cases {st : SaneThread} (h : st.numOfOptionsWithScripts ≤ st.numOfOptions)
    (m : Bool) (opt : Nat) :
    (st.actionSlot m opt < st.numOfOptionsWithScripts ∧ m = false ∧
      (st.opts.getD (st.actionSlot m opt) .init).number = opt) ∨
    (st.actionSlot m opt = st.numOfOptionsWithScripts ∧
      (m = false → ∀ e ∈ st.validOpts, e.number ≠ opt)) := by
  rcases findIdx_take_cases DevOption.init (·.number == opt)
      (h.trans_eq st.opts_length.symm) with ⟨hlt, hp⟩ | ⟨heq, hno⟩
  · have hslot : st.actionSlot m opt = if !m then st.validOpts.findIdx (·.number == opt)
        else st.numOfOptionsWithScripts := by
      unfold actionSlot validOpts
      dsimp only
      rw [if_pos hlt]
      cases m
      · rfl
      · exact if_pos (hlt.trans_le h)
    cases m with
    | false => exact .inl ⟨hslot ▸ hlt, rfl, hslot ▸ beq_iff_eq.mp hp⟩
    | true => exact .inr ⟨hslot, nofun⟩
  · have hslot : st.actionSlot m opt = st.numOfOptionsWithScripts := by
      unfold actionSlot validOpts
      exact if_neg (by omega)
    exact .inr ⟨hslot, fun _ e he => by simpa using hno e he⟩

/-- Without `multiple_actions` the action slot is the first rule on `opt`, or the fill count
when no rule is on `opt`. -/
theorem actionSlot_false {st : SaneThread} (h : st.numOfOptionsWithScripts ≤ st.numOfOptions)
    (opt : Nat) : st.actionSlot false opt = st.validOpts.findIdx (·.number == opt) := by
  have hle := @List.findIdx_le_length _ (·.number == opt) st.validOpts
  rw [validOpts_length h] at hle
  unfold actionSlot
  dsimp only
  split
  · rfl
  · omega

/-- With `multiple_actions` the action slot is always the fill count. -/
theorem actionSlot_true {st : SaneThread} (h : st.numOfOptionsWithScripts ≤ st.numOfOptions)
    (opt : Nat) : st.actionSlot true opt = st.numOfOptionsWithScripts := by
  unfold actionSlot
  dsimp only
  split
  · rename_i hlt
    exact if_pos (hlt.trans_le h)
  · rfl

/-- **What `installFunction` does**: on tables whose count fits the array, and with room for
a new rule when `opt` has none, it overwrites the rule on `opt` or appends one, and touches
nothing else. -/
theorem installFunction_spec {st : SaneThread} {opt : Nat} (env : String)
    (hle : st.numOfOptionsWithFunctions ≤ st.numOfOptions)
    (hroom : (∀ f ∈ st.validFunctions, f.number ≠ opt) →
      st.numOfOptionsWithFunctions < st.numOfOptions) :
    ∃ st', installFunction env opt st = some st' ∧ st'.numOfOptions = st.numOfOptions ∧
      st'.opts = st.opts ∧ st'.numOfOptionsWithScripts = st.numOfOptionsWithScripts ∧
      st'.reads = st.reads ∧
      ((st.functionSlot opt < st.numOfOptionsWithFunctions ∧
          (st.functions.getD (st.functionSlot opt) .init).number = opt ∧
          st'.validFunctions = st.validFunctions.set (st.functionSlot opt) ⟨opt, some env⟩ ∧
          st'.numOfOptionsWithFunctions = st.numOfOptionsWithFunctions) ∨
       (st.functionSlot opt = st.numOfOptionsWithFunctions ∧
          (∀ f ∈ st.validFunctions, f.number ≠ opt) ∧
          st'.validFunctions = st.validFunctions ++ [⟨opt, some env⟩] ∧
          st'.numOfOptionsWithFunctions = st.numOfOptionsWithFunctions + 1)) := by
  unfold installFunction
  rcases functionSlot_cases hle opt with ⟨hlt, hnum⟩ | ⟨heq, hno⟩
  · obtain ⟨st', hset, hfun, hN, hF, hopts, hS⟩ :=
      setFunction_eq_some (f := ⟨opt, some env⟩)
        (show st.functionSlot opt < st.numOfOptions by omega)
    refine ⟨st', by simp [hset, countFunction, hF, Nat.ne_of_lt hlt], hN, hopts, hS, ?_, .inl
      ⟨hlt, hnum, by simp [validFunctions, hfun, hF, List.set_take], hF⟩⟩
    simp [setFunction, hlt.trans_le hle] at hset
    rw [← hset]
  · obtain ⟨st', hset, hfun, hN, hF, hopts, hS⟩ :=
      setFunction_eq_some (f := ⟨opt, some env⟩)
        (show st.functionSlot opt < st.numOfOptions by rw [heq]; exact hroom hno)
    refine ⟨countFunction (st.functionSlot opt) st', by simp [hset], by simp [countFunction,
      heq, hF, hN], by simp [countFunction, heq, hF, hopts], by simp [countFunction, heq, hF, hS],
      ?_, .inr ⟨heq, hno, ?_, by simp [countFunction, heq, hF]⟩⟩
    · simp [setFunction, show st.functionSlot opt < st.numOfOptions by rw [heq]; exact hroom hno]
        at hset
      simp [countFunction, heq, hF, ← hset]
    · simp only [countFunction, heq, hF, if_true, validFunctions, hfun]
      exact take_succ_set (by rw [st.functions_length]; exact heq ▸ hroom hno)

/-- The entry `installAction` writes over `old`, with the value `v` read for it. -/
def installedEntry (lib : RegexLib) (act : CfgAction) (opt : Nat) (d : OptionDescriptor)
    (old : DevOption) (v : OptValue) : DevOption :=
  let e := old.overwrite act opt
  if d.type.isNumeric then e.numericTrigger act v
  else if stringTriggerValid lib act then e.stringTrigger act v
  else (e.stringTrigger act v).freeValues

/-- Whether `installAction` counts the entry it writes. -/
def countsEntry (lib : RegexLib) (act : CfgAction) (d : OptionDescriptor) : Bool :=
  d.type.isNumeric || stringTriggerValid lib act

@[simp] theorem installedEntry_number (lib : RegexLib) (act : CfgAction) (opt : Nat)
    (d : OptionDescriptor) (old : DevOption) (v : OptValue) :
    (installedEntry lib act opt d old v).number = opt := by
  unfold installedEntry; split <;> [rfl; split <;> rfl]

@[simp] theorem installedEntry_script (lib : RegexLib) (act : CfgAction) (opt : Nat)
    (d : OptionDescriptor) (old : DevOption) (v : OptValue) :
    (installedEntry lib act opt d old v).script = some act.scriptOrNull := by
  unfold installedEntry; split <;> [rfl; split <;> rfl]

/-- `installAction` for an option of a polled type, with its three branches folded into
`installedEntry` and `countsEntry`. -/
theorem installAction_eq (lib : RegexLib) (dev : Device) (σ : Nat → Sample) (m : Bool)
    (act : CfgAction) (opt : Nat) {d : OptionDescriptor} (st : SaneThread)
    (hpol : d.type.isPolled) :
    installAction lib dev σ m act opt d st =
      if st.actionSlot m opt = st.numOfOptions then some st
      else ((st.read dev σ opt).2.setOpt (st.actionSlot m opt)
          (installedEntry lib act opt d (st.opts.getD (st.actionSlot m opt) .init)
            (st.read dev σ opt).1)).map
          (if countsEntry lib act d then countScript (st.actionSlot m opt) else id) := by
  have hpol' := (ValueType.isPolled_iff _).mp hpol
  unfold installAction installedEntry countsEntry
  dsimp only
  split
  · rfl
  · by_cases hn : d.type.isNumeric
    · simp [hn]
    · have hs : d.type = .string := hpol'.resolve_left hn
      by_cases hv : stringTriggerValid lib act <;> simp [hn, hs, hv, ValueType.isNumeric]

/-- **What `installAction` does**: for an option of a polled type it either drops the rule
(no room: the slot is `num_of_options`), or reads the option once and writes the installed
entry into its slot, counting it when it is valid and the slot is the fill count. -/
theorem installAction_spec (lib : RegexLib) (dev : Device) (σ : Nat → Sample) (m : Bool)
    (act : CfgAction) (opt : Nat) {d : OptionDescriptor} {st : SaneThread}
    (hle : st.numOfOptionsWithScripts ≤ st.numOfOptions) (hpol : d.type.isPolled) :
    ∃ st', installAction lib dev σ m act opt d st = some st' ∧
      st'.numOfOptions = st.numOfOptions ∧ st'.functions = st.functions ∧
      st'.numOfOptionsWithFunctions = st.numOfOptionsWithFunctions ∧
      ((st.actionSlot m opt = st.numOfOptions ∧ st' = st) ∨
       (st.actionSlot m opt < st.numOfOptions ∧ st'.reads = st.reads + 1 ∧
        st'.opts = st.opts.set (st.actionSlot m opt) (installedEntry lib act opt d
          (st.opts.getD (st.actionSlot m opt) .init)
          (getSaneOptionValue (dev.descriptor opt) (σ st.reads))) ∧
        st'.numOfOptionsWithScripts =
          if countsEntry lib act d ∧ st.actionSlot m opt = st.numOfOptionsWithScripts
          then st.numOfOptionsWithScripts + 1 else st.numOfOptionsWithScripts)) := by
  rw [installAction_eq lib dev σ m act opt st hpol]
  have hslot : st.actionSlot m opt ≤ st.numOfOptionsWithScripts := by
    rcases actionSlot_cases hle m opt with h | h <;> omega
  by_cases hN : st.actionSlot m opt = st.numOfOptions
  · exact ⟨st, by simp [hN], rfl, rfl, rfl, .inl ⟨hN, rfl⟩⟩
  have hlt : st.actionSlot m opt < st.numOfOptions := by omega
  obtain ⟨st₁, hset, hopts, hN₁, hS₁, hfun, hF⟩ :=
    setOpt_eq_some (s := (st.read dev σ opt).2)
      (e := installedEntry lib act opt d (st.opts.getD (st.actionSlot m opt) .init)
        (st.read dev σ opt).1) hlt
  have hreads : st₁.reads = st.reads + 1 := by
    simp only [setOpt, SaneThread.read_numOfOptions, hlt, if_true, Option.some.injEq] at hset
    rw [← hset, SaneThread.read_reads]
  simp only [SaneThread.read_opts, SaneThread.read_numOfOptions, SaneThread.read_functions,
    SaneThread.read_numOfOptionsWithScripts, SaneThread.read_numOfOptionsWithFunctions,
    SaneThread.read_fst] at hopts hN₁ hS₁ hfun hF
  rw [if_neg hN, hset]
  by_cases hc : countsEntry lib act d
  · refine ⟨countScript (st.actionSlot m opt) st₁, by simp [hc], ?_⟩
    by_cases he : st.actionSlot m opt = st.numOfOptionsWithScripts
    · simp [countScript, he, hc, hN₁, hfun, hF, hS₁, hreads, hopts]
      omega
    · simp [countScript, he, hc, hN₁, hfun, hF, hS₁, hlt, hreads, hopts]
  · exact ⟨st₁, by simp [hc], by simp [hc, hN₁, hfun, hF, hS₁, hlt, hreads, hopts]⟩

/-! ## Install steps keep the tables well formed -/

theorem matchingDescriptor_installable {lib : RegexLib} {dev : Device} {filter : String}
    {opt n : Nat} {d : OptionDescriptor} (h : matchingDescriptor lib dev filter opt = some d)
    (h1 : 1 ≤ opt) (h2 : opt < n) :
    Installable dev n opt ∧ d.type.isPolled ∧ dev.descriptor opt = some d := by
  unfold matchingDescriptor at h
  rcases hd : dev.descriptor opt with _ | d'
  · simp [hd] at h
  · rcases hn : d'.name with _ | name
    · simp [hd, hn] at h
    · by_cases ha : d'.active <;> by_cases hc : d'.type.isPolled && lib.regexec filter name
      · simp only [hd, hn, ha, hc, if_true, Option.some.injEq] at h
        subst h
        exact ⟨⟨h1, h2, _, hd, ha, by simp [hn], (Bool.and_eq_true _ _).mp hc |>.1⟩,
          ((Bool.and_eq_true _ _).mp hc).1, rfl⟩
      all_goals simp [hd, hn, ha, hc] at h

/-- Well-formed tables have room for a function rule on an installable option that has none:
the rules' options and the new one are distinct options in `[1, N)`. -/
theorem SaneThread.WellFormed.functions_room {dev : Device} {m : Bool} {st : SaneThread}
    {opt : Nat} (hwf : st.WellFormed dev m) (hopt : Installable dev st.numOfOptions opt)
    (hno : ∀ f ∈ st.validFunctions, f.number ≠ opt) :
    st.numOfOptionsWithFunctions < st.numOfOptions := by
  have := length_le_of_nodup_Ico (n := st.numOfOptions)
    (l := st.validFunctions.map (·.number) ++ [opt])
    (List.nodup_append.mpr ⟨hwf.functions_nodup, List.nodup_singleton _, by
      simpa [List.disjoint_singleton] using hno⟩)
    (fun o ho => by
      rw [List.mem_append, List.mem_map, List.mem_singleton] at ho
      rcases ho with ⟨f, hf, rfl⟩ | rfl
      · exact ⟨(hwf.functions_installed f hf).1, (hwf.functions_installed f hf).2.1⟩
      · exact ⟨hopt.1, hopt.2.1⟩)
  simp only [List.length_append, List.length_map, validFunctions_length hwf.functions_le,
    List.length_singleton] at this
  omega

theorem installFunction_wellFormed {dev : Device} {m : Bool} {st : SaneThread} {opt : Nat}
    (hwf : st.WellFormed dev m) (hopt : Installable dev st.numOfOptions opt) (env : String) :
    ∃ st', installFunction env opt st = some st' ∧ st'.WellFormed dev m ∧
      st'.numOfOptions = st.numOfOptions := by
  have hlen := validFunctions_length hwf.functions_le
  have hroom := hwf.functions_room hopt
  obtain ⟨st', h, hN, hopts, hS, -, hcase⟩ := installFunction_spec env hwf.functions_le hroom
  have hvo : st'.validOpts = st.validOpts := by rw [validOpts, validOpts, hopts, hS]
  have base : ∀ (hF' : st'.numOfOptionsWithFunctions ≤ st'.numOfOptions)
      (hmem : ∀ f ∈ st'.validFunctions, f ∈ st.validFunctions ∨ f = ⟨opt, some env⟩)
      (hnd : (st'.validFunctions.map (·.number)).Nodup), st'.WellFormed dev m :=
    fun hF' hmem hnd => {
      scripts_le := hS ▸ hN ▸ hwf.scripts_le
      functions_le := hF'
      opts_installed := hvo ▸ hN ▸ hwf.opts_installed
      functions_installed := fun f hf => by
        rcases hmem f hf with hf | rfl
        · exact hN ▸ hwf.functions_installed f hf
        · exact hN ▸ hopt
      functions_nodup := hnd
      opts_nodup := hvo ▸ hwf.opts_nodup }
  refine ⟨st', h, ?_, hN⟩
  rcases hcase with ⟨hi, hnum, hvf, hF⟩ | ⟨-, hno, hvf, hF⟩
  · -- the rule on `opt` is overwritten in place
    have hmap : st'.validFunctions.map (·.number) = st.validFunctions.map (·.number) := by
      rw [hvf]
      refine map_set_of_eq (hlen ▸ hi) fun b hb => ?_
      rw [validFunctions, List.getElem?_take, if_pos hi] at hb
      rw [List.getD_eq_getElem?_getD, hb] at hnum
      exact hnum.symm
    exact base (hF ▸ hN ▸ hwf.functions_le) (fun f hf => List.mem_or_eq_of_mem_set (hvf ▸ hf))
      (hmap ▸ hwf.functions_nodup)
  · -- a new rule at the end of the list
    refine base (by rw [hF, hN]; exact hroom hno) (fun f hf => ?_) ?_
    · rwa [hvf, List.mem_append, List.mem_singleton] at hf
    · rw [hvf, List.map_append]
      exact List.nodup_append.mpr ⟨hwf.functions_nodup, List.nodup_singleton _, by
        simpa [List.disjoint_singleton] using hno⟩

theorem installAction_wellFormed (lib : RegexLib) (dev : Device) (σ : Nat → Sample) (m : Bool)
    (act : CfgAction) {opt : Nat} {d : OptionDescriptor} {st : SaneThread}
    (hwf : st.WellFormed dev m) (hopt : Installable dev st.numOfOptions opt)
    (hpol : d.type.isPolled) :
    ∃ st', installAction lib dev σ m act opt d st = some st' ∧ st'.WellFormed dev m ∧
      st'.numOfOptions = st.numOfOptions := by
  obtain ⟨st', h, hN, hfun, hF, hcase⟩ :=
    installAction_spec lib dev σ m act opt hwf.scripts_le hpol
  refine ⟨st', h, ?_, hN⟩
  have hvf : st'.validFunctions = st.validFunctions := by
    rw [validFunctions, validFunctions, hfun, hF]
  rcases hcase with ⟨-, rfl⟩ | ⟨hlt, -, hopts, hS⟩
  · exact hwf
  set n := st.actionSlot m opt
  set e := installedEntry lib act opt d (st.opts.getD n .init)
    (getSaneOptionValue (dev.descriptor opt) (σ st.reads))
  have he : InstalledOpt dev st.numOfOptions e :=
    ⟨by simpa [e] using hopt, act.scriptOrNull, by simp [e], act.scriptOrNull_ne_empty⟩
  have hnl : n < st.opts.length := st.opts_length ▸ hlt
  have base : ∀ (hS' : st'.numOfOptionsWithScripts ≤ st'.numOfOptions)
      (hins : ∀ x ∈ st'.validOpts, InstalledOpt dev st.numOfOptions x)
      (hnd : m = false → (st'.validOpts.map (·.number)).Nodup), st'.WellFormed dev m :=
    fun hS' hins hnd => {
      scripts_le := hS'
      functions_le := hF ▸ hN ▸ hwf.functions_le
      opts_installed := hN ▸ hins
      functions_installed := hvf ▸ hN ▸ hwf.functions_installed
      functions_nodup := hvf ▸ hwf.functions_nodup
      opts_nodup := hnd }
  rcases actionSlot_cases hwf.scripts_le m opt with ⟨hlt', hm, hnum⟩ | ⟨heq, hno⟩
  · -- the rule on `opt` is overwritten in place
    have hS' : st'.numOfOptionsWithScripts = st.numOfOptionsWithScripts := by
      rw [hS, if_neg (fun h => Nat.ne_of_lt hlt' h.2)]
    have hvo : st'.validOpts = st.validOpts.set n e := by
      rw [validOpts, validOpts, hopts, hS', List.set_take]
    refine base (hS' ▸ hN ▸ hwf.scripts_le) (fun x hx => ?_) (fun hm' => ?_)
    · rw [hvo] at hx
      rcases List.mem_or_eq_of_mem_set hx with hx | rfl
      · exact hwf.opts_installed x hx
      · exact he
    · rw [hvo, map_set_of_eq ((validOpts_length hwf.scripts_le).symm ▸ hlt') fun b hb => ?_]
      · exact hwf.opts_nodup hm'
      · rw [validOpts, List.getElem?_take, if_pos hlt'] at hb
        rw [List.getD_eq_getElem?_getD, hb] at hnum
        simpa [e] using hnum.symm
  · by_cases hc : countsEntry lib act d
    · -- a new rule at the end of the list
      have hS' : st'.numOfOptionsWithScripts = st.numOfOptionsWithScripts + 1 := by
        rw [hS, if_pos ⟨hc, heq⟩]
      have hvo : st'.validOpts = st.validOpts ++ [e] := by
        rw [validOpts, validOpts, hopts, hS', ← heq, take_succ_set hnl]
      refine base (by omega) (fun x hx => ?_) (fun hm' => ?_)
      · rw [hvo, List.mem_append, List.mem_singleton] at hx
        rcases hx with hx | rfl
        · exact hwf.opts_installed x hx
        · exact he
      · rw [hvo, List.map_append]
        exact List.nodup_append.mpr ⟨hwf.opts_nodup hm', List.nodup_singleton _, by
          simpa [List.disjoint_singleton, e] using hno hm'⟩
    · -- an invalid string trigger written past the end of the list
      have hS' : st'.numOfOptionsWithScripts = st.numOfOptionsWithScripts := by
        rw [hS, if_neg (fun h => hc h.1)]
      have hvo : st'.validOpts = st.validOpts := by
        rw [validOpts, validOpts, hopts, hS', take_set_of_le' heq.ge]
      exact base (hS' ▸ hN ▸ hwf.scripts_le) (hvo ▸ hwf.opts_installed)
        (hvo ▸ hwf.opts_nodup)

/-! ## The loops -/

/-- A loop in the `Option` monad simulates a pure loop over the same list when each body
step, from related states, succeeds into states related by the pure body. -/
theorem foldlM_option_sim {α β γ : Type} {P : β → γ → Prop} {f : β → α → Option β}
    {g : γ → α → γ} :
    ∀ (l : List α) (b : β) (c : γ), P b c →
      (∀ b c a, a ∈ l → P b c → ∃ b', f b a = some b' ∧ P b' (g c a)) →
      ∃ b', l.foldlM f b = some b' ∧ P b' (l.foldl g c)
  | [], b, _, hb, _ => ⟨b, rfl, hb⟩
  | a :: l, b, c, hb, hf => by
    obtain ⟨b', h, hb'⟩ := hf b c a (List.mem_cons_self _ _) hb
    obtain ⟨b'', h', hb''⟩ :=
      foldlM_option_sim l b' (g c a) hb' fun b c a ha => hf b c a (List.mem_cons_of_mem _ ha)
    exact ⟨b'', by simp [h, h'], hb''⟩

/-- A loop in the `Option` monad whose body keeps `P` and never fails keeps `P` and never
fails. -/
theorem foldlM_option_inv {α β : Type} {P : β → Prop} {f : β → α → Option β}
    (l : List α) (b : β) (hb : P b)
    (hf : ∀ b a, a ∈ l → P b → ∃ b', f b a = some b' ∧ P b') :
    ∃ b', l.foldlM f b = some b' ∧ P b' :=
  foldlM_option_sim (P := fun b (_ : Unit) => P b) (g := fun _ _ => ()) l b () hb
    fun b _ a ha hb => hf b a ha hb

section Loops

variable (lib : RegexLib) (dev : Device) (σ : Nat → Sample) (m : Bool)

/-- The option loop of one section entry keeps the tables well formed, given a body that does
for every matching option in `[1, N)`. -/
private theorem optionLoop_wellFormed {g : SaneThread → Nat → Option SaneThread}
    (hbody : ∀ st opt, st.WellFormed dev m → 1 ≤ opt → opt < st.numOfOptions →
      ∃ st', g st opt = some st' ∧ st'.WellFormed dev m ∧ st'.numOfOptions = st.numOfOptions)
    {st : SaneThread} (hwf : st.WellFormed dev m) :
    ∃ st', (List.range' 1 (st.numOfOptions - 1)).foldlM g st = some st' ∧
      st'.WellFormed dev m ∧ st'.numOfOptions = st.numOfOptions :=
  foldlM_option_inv (P := fun st' : SaneThread =>
    st'.WellFormed dev m ∧ st'.numOfOptions = st.numOfOptions)
    _ _ ⟨hwf, rfl⟩ fun st' opt hopt ⟨hwf', hN⟩ => by
      rw [List.mem_range'_1] at hopt
      obtain ⟨st'', h, hwf'', hN'⟩ := hbody st' opt hwf' hopt.1 (by omega)
      exact ⟨st'', h, hwf'', hN'.trans hN⟩

theorem saneFindMatchingFunctions_wellFormed (fs : List CfgFunction) {st : SaneThread}
    (hwf : st.WellFormed dev m) :
    ∃ st', saneFindMatchingFunctions lib dev fs st = some st' ∧ st'.WellFormed dev m ∧
      st'.numOfOptions = st.numOfOptions := by
  refine foldlM_option_inv (P := fun st' : SaneThread => st'.WellFormed dev m ∧
    st'.numOfOptions = st.numOfOptions) _ _ ⟨hwf, rfl⟩ fun st' f _ ⟨hwf', hN⟩ => ?_
  split
  · exact ⟨st', rfl, hwf', hN⟩
  · obtain ⟨st'', h, hwf'', hN'⟩ := optionLoop_wellFormed dev m (g := fun st opt =>
        match matchingDescriptor lib dev f.filter opt with
        | some _ => installFunction f.env opt st
        | none => some st) (fun st opt hwf h1 h2 => by
      dsimp only
      split
      · rename_i d hd
        exact installFunction_wellFormed hwf (matchingDescriptor_installable hd h1 h2).1 f.env
      · exact ⟨st, rfl, hwf, rfl⟩) hwf'
    exact ⟨st'', h, hwf'', hN'.trans hN⟩

theorem saneFindMatchingOptions_wellFormed (acts : List CfgAction) {st : SaneThread}
    (hwf : st.WellFormed dev m) :
    ∃ st', saneFindMatchingOptions lib dev σ m acts st = some st' ∧ st'.WellFormed dev m ∧
      st'.numOfOptions = st.numOfOptions := by
  refine foldlM_option_inv (P := fun st' : SaneThread => st'.WellFormed dev m ∧
    st'.numOfOptions = st.numOfOptions) _ _ ⟨hwf, rfl⟩ fun st' act _ ⟨hwf', hN⟩ => ?_
  split
  · exact ⟨st', rfl, hwf', hN⟩
  · obtain ⟨st'', h, hwf'', hN'⟩ := optionLoop_wellFormed dev m (g := fun st opt =>
        match matchingDescriptor lib dev act.filter opt with
        | some d => installAction lib dev σ m act opt d st
        | none => some st) (fun st opt hwf h1 h2 => by
      dsimp only
      split
      · rename_i d hd
        obtain ⟨hins, hpol, -⟩ := matchingDescriptor_installable hd h1 h2
        exact installAction_wellFormed lib dev σ m act hwf hins hpol
      · exact ⟨st, rfl, hwf, rfl⟩) hwf'
    exact ⟨st'', h, hwf'', hN'.trans hN⟩

theorem compileDevice_wellFormed (loc : CfgDevice) {st : SaneThread}
    (hwf : st.WellFormed dev m) :
    ∃ st', compileDevice lib dev σ m st loc = some st' ∧ st'.WellFormed dev m ∧
      st'.numOfOptions = st.numOfOptions := by
  unfold compileDevice
  split
  · exact ⟨st, rfl, hwf, rfl⟩
  split
  · obtain ⟨st₁, h₁, hwf₁, hN₁⟩ :=
      saneFindMatchingOptions_wellFormed lib dev σ m loc.actions hwf
    obtain ⟨st₂, h₂, hwf₂, hN₂⟩ :=
      saneFindMatchingFunctions_wellFormed lib dev m [] hwf₁
    exact ⟨st₂, by simp [h₁, h₂], hwf₂, hN₂.trans hN₁⟩
  · exact ⟨st, rfl, hwf, rfl⟩

end Loops

/-- The compile phase succeeds, with well-formed tables of `n` entries. -/
theorem compileRules_wellFormed (lib : RegexLib) (dev : Device) (σ : Nat → Sample) (cfg : Cfg)
    (n : Nat) : ∃ st, compileRules lib dev σ cfg n = some st ∧ st.numOfOptions = n ∧
      st.WellFormed dev cfg.global.multipleActions := by
  set m := cfg.global.multipleActions
  obtain ⟨st₁, h₁, hwf₁, hN₁⟩ :=
    saneFindMatchingOptions_wellFormed lib dev σ m cfg.global.actions (alloc_wellFormed dev m n)
  obtain ⟨st₂, h₂, hwf₂, hN₂⟩ :=
    saneFindMatchingFunctions_wellFormed lib dev m cfg.global.functions hwf₁
  obtain ⟨st₃, h₃, hwf₃, hN₃⟩ :=
    foldlM_option_inv (P := fun st : SaneThread => st.WellFormed dev m ∧ st.numOfOptions = n)
      cfg.devices st₂ ⟨hwf₂, hN₂.trans hN₁⟩ fun st loc _ ⟨hwf, hN⟩ => by
      obtain ⟨st', h, hwf', hN'⟩ := compileDevice_wellFormed lib dev σ m loc hwf
      exact ⟨st', h, hwf', hN'.trans hN⟩
  exact ⟨st₃, by simp [compileRules, h₁, h₂, h₃, m], hN₃, hwf₃⟩

/-- **The rule tables stay in bounds** (every configuration, every regex library, every
`multiple_actions` setting, every device). The fresh tables are well formed; every install
step the option loops make keeps them so and writes inside the arrays (`setOpt` and
`setFunction` fail past the end); and the whole compile phase returns well-formed tables of
`N` entries whose function table holds at most `N - 1` rules. -/
theorem compileRules_tables_in_bounds (lib : RegexLib) (dev : Device) (σ : Nat → Sample)
    (cfg : Cfg) (n : Nat) :
    (SaneThread.alloc n).WellFormed dev cfg.global.multipleActions ∧
    (∀ (st : SaneThread) (act : CfgAction) (opt : Nat) (d : OptionDescriptor),
      st.WellFormed dev cfg.global.multipleActions → 1 ≤ opt → opt < st.numOfOptions →
      matchingDescriptor lib dev act.filter opt = some d →
      ∃ st', installAction lib dev σ cfg.global.multipleActions act opt d st = some st' ∧
        st'.WellFormed dev cfg.global.multipleActions) ∧
    (∀ (st : SaneThread) (f : CfgFunction) (opt : Nat) (d : OptionDescriptor),
      st.WellFormed dev cfg.global.multipleActions → 1 ≤ opt → opt < st.numOfOptions →
      matchingDescriptor lib dev f.filter opt = some d →
      ∃ st', installFunction f.env opt st = some st' ∧
        st'.WellFormed dev cfg.global.multipleActions) ∧
    ∃ st, compileRules lib dev σ cfg n = some st ∧ st.numOfOptions = n ∧
      st.WellFormed dev cfg.global.multipleActions ∧ st.numOfOptionsWithFunctions ≤ n - 1 := by
  set m := cfg.global.multipleActions
  refine ⟨alloc_wellFormed dev m n, fun st act opt d hwf h1 h2 hd => ?_,
    fun st f opt d hwf h1 h2 hd => ?_, ?_⟩
  · obtain ⟨hins, hpol, -⟩ := matchingDescriptor_installable hd h1 h2
    obtain ⟨st', h, hwf', -⟩ := installAction_wellFormed lib dev σ m act hwf hins hpol
    exact ⟨st', h, hwf'⟩
  · obtain ⟨st', h, hwf', -⟩ :=
      installFunction_wellFormed hwf (matchingDescriptor_installable hd h1 h2).1 f.env
    exact ⟨st', h, hwf'⟩
  · obtain ⟨st, h, hN, hwf⟩ := compileRules_wellFormed lib dev σ cfg n
    exact ⟨st, h, hN, hwf, hN ▸ hwf.functions_le_pred⟩

end Scanbd
