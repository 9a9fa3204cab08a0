import Scanbd.Sane

/-!
# Scanbd — configuration and rule tables

The two inputs of rule compilation and the tables it fills:

* `Cfg` — the parsed configuration, as far as the poller reads it (libconfuse's `cfg_t`): the
  `global` section with its `action`, `function` and `environment` subsections, and the `device`
  sections in file order;
* `DevOption`, `DevFunction` — `sane_dev_option_t` and `sane_dev_function_t`, one action rule
  and one function rule;
* `SaneThread` — the part of `sane_thread_t` the compile phase works on: the two arrays of
  `num_of_options` entries and their fill counts. The arrays carry their length, so a write
  past the end is visible in the model (`setOpt` and `setFunction` return `none`).
-/

namespace Scanbd

/-- `SCANBD_NULL_STRING`, the script of an action whose `script` is unset or empty.
Modelled from the spec: the "no-op" sentinel a rule's script path may be; `scanbd.h`, which
defines it, is not in `src/`. Only its being a non-empty string matters to the poller. -/
def scanbdNullString : String := "(null)"

/-- A `long` stored into an `unsigned long`: its value modulo `2^64`. -/
def ulong (c : Int) : UInt64 := UInt64.ofNat (c % 18446744073709551616).toNat

/-- `numerical-trigger { from-value, to-value }` (`cfg_getint`, a `long`). -/
structure NumericalTrigger where
  fromValue : Int
  toValue : Int
  deriving DecidableEq, Repr

/-- `string-trigger { from-value, to-value }`: two extended regular expressions. -/
structure StringTrigger where
  fromValue : String
  toValue : String
  deriving DecidableEq, Repr

/-- An `action "<title>"` section: `cfg_title` (`none` when `NULL`), `filter`, both trigger
subsections and `script` (`none` when `NULL`). -/
structure CfgAction where
  title : Option String
  filter : String
  numericalTrigger : NumericalTrigger
  stringTrigger : StringTrigger
  script : Option String
  deriving DecidableEq, Repr

/-- A `function "<title>"` section: `filter` and `env`. -/
structure CfgFunction where
  filter : String
  env : String
  deriving DecidableEq, Repr

/-- A `device "<title>"` section: its device-name `filter` and its actions. The section
declares no `function` option, so `cfg_size(loc_i, C_FUNCTION)` is `0` for it. -/
structure CfgDevice where
  filter : String
  actions : List CfgAction
  deriving DecidableEq, Repr

/-- `environment { device, action }`: the names of the two variables a script gets for the
device and the action (`none` when `NULL`). -/
structure CfgEnvironment where
  device : Option String
  action : Option String
  deriving DecidableEq, Repr

/-- The `global` section, as far as the poller reads it. -/
structure CfgGlobal where
  multipleActions : Bool
  environment : CfgEnvironment
  functions : List CfgFunction
  actions : List CfgAction
  deriving DecidableEq, Repr

/-- A parsed configuration: the global section and the device sections, in file order. -/
structure Cfg where
  global : CfgGlobal
  devices : List CfgDevice
  deriving DecidableEq, Repr

namespace CfgAction

/-- `title = cfg_title(action_i)`, `"(none)"` when `NULL`: the rule's `action_name`. -/
def name (act : CfgAction) : String := act.title.getD "(none)"

/-- `script = cfg_getstr(action_i, C_SCRIPT)`, `SCANBD_NULL_STRING` when `NULL` or empty. -/
def scriptOrNull (act : CfgAction) : String :=
  match act.script with
  | some s => if s.isEmpty then scanbdNullString else s
  | none => scanbdNullString

theorem scriptOrNull_ne_empty (act : CfgAction) : act.scriptOrNull ≠ "" := by
  unfold scriptOrNull
  split
  · split
    · decide
    · rename_i s h
      rintro rfl
      exact h rfl
  · decide

end CfgAction

/-- `sane_dev_option_t`, one action rule: its option number, the two trigger sides, the
value of the last polling cycle, the script and the action's name. -/
structure DevOption where
  number : Nat
  fromValue : OptValue
  toValue : OptValue
  value : OptValue
  script : Option String
  actionName : Option String
  deriving DecidableEq, Repr

/-- An entry as `calloc` and `sane_option_value_init` leave it. -/
def DevOption.init : DevOption := ⟨0, .init, .init, .init, none, none⟩

/-- `sane_dev_function_t`, one function rule: its option number and variable name. -/
structure DevFunction where
  number : Nat
  env : Option String
  deriving DecidableEq, Repr

/-- An entry as `calloc` leaves it. -/
def DevFunction.init : DevFunction := ⟨0, none⟩

/-- The fields of `sane_thread_t` the compile phase reads and writes: the two arrays of
`num_of_options` entries, the number of valid entries in each, and the number of device
reads made so far (the next read returns the sample with that index). -/
structure SaneThread where
  numOfOptions : Nat
  opts : List DevOption
  numOfOptionsWithScripts : Nat
  functions : List DevFunction
  numOfOptionsWithFunctions : Nat
  reads : Nat
  opts_length : opts.length = numOfOptions
  functions_length : functions.length = numOfOptions

namespace SaneThread

/-- The tables `sane_poll` allocates and initialises for a device of `n` options. -/
def alloc (n : Nat) : SaneThread where
  numOfOptions := n
  opts := List.replicate n .init
  numOfOptionsWithScripts := 0
  functions := List.replicate n .init
  numOfOptionsWithFunctions := 0
  reads := 0
  opts_length := List.length_replicate _ _
  functions_length := List.length_replicate _ _

/-- The installed action rules, `opts[0 .. num_of_options_with_scripts)`. -/
def validOpts (st : SaneThread) : List DevOption := st.opts.take st.numOfOptionsWithScripts

/-- The installed function rules, `functions[0 .. num_of_options_with_functions)`. -/
def validFunctions (st : SaneThread) : List DevFunction :=
  st.functions.take st.numOfOptionsWithFunctions

/-- `st->opts[n] = e`; `none` when `n` is past the end of the array. -/
def setOpt (st : SaneThread) (n : Nat) (e : DevOption) : Option SaneThread :=
  if n < st.numOfOptions then
    some { st with opts := st.opts.set n e, opts_length := by simp [st.opts_length] }
  else none

/-- `st->functions[n] = f`; `none` when `n` is past the end of the array. -/
def setFunction (st : SaneThread) (n : Nat) (f : DevFunction) : Option SaneThread :=
  if n < st.numOfOptions then
    some { st with functions := st.functions.set n f,
                   functions_length := by simp [st.functions_length] }
  else none

/-- `get_sane_option_value(st->h, opt)`: the next sample of the device. -/
def read (dev : Device) (σ : Nat → Sample) (st : SaneThread) (opt : Nat) :
    OptValue × SaneThread :=
  (getSaneOptionValue (dev.descriptor opt) (σ st.reads), { st with reads := st.reads + 1 })

/-- `if (n == num_of_options_with_scripts) num_of_options_with_scripts += 1`. -/
def countScript (n : Nat) (st : SaneThread) : SaneThread :=
  if n = st.numOfOptionsWithScripts then
    { st with numOfOptionsWithScripts := st.numOfOptionsWithScripts + 1 }
  else st

/-- `if (n == num_of_options_with_functions) num_of_options_with_functions += 1`. -/
def countFunction (n : Nat) (st : SaneThread) : SaneThread :=
  if n = st.numOfOptionsWithFunctions then
    { st with numOfOptionsWithFunctions := st.numOfOptionsWithFunctions + 1 }
  else st

theorem setOpt_eq_some {s : SaneThread} {n : Nat} {e : DevOption} (h : n < s.numOfOptions) :
    ∃ st', s.setOpt n e = some st' ∧ st'.opts = s.opts.set n e ∧
      st'.numOfOptions = s.numOfOptions ∧
      st'.numOfOptionsWithScripts = s.numOfOptionsWithScripts ∧
      st'.functions = s.functions ∧
      st'.numOfOptionsWithFunctions = s.numOfOptionsWithFunctions := by
  simp [setOpt, h]

theorem setFunction_eq_some {st : SaneThread} {n : Nat} {f : DevFunction}
    (h : n < st.numOfOptions) :
    ∃ st', st.setFunction n f = some st' ∧ st'.functions = st.functions.set n f ∧
      st'.numOfOptions = st.numOfOptions ∧
      st'.numOfOptionsWithFunctions = st.numOfOptionsWithFunctions ∧
      st'.opts = st.opts ∧ st'.numOfOptionsWithScripts = st.numOfOptionsWithScripts := by
  simp [setFunction, h]

end SaneThread

end Scanbd
