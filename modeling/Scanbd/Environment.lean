import Scanbd.Poll

/-!
# Scanbd — the environment of an action script

Before it runs the script of the rule that fired, `sane_poll` builds its environment in an
array of `F + 7` strings, `F` the number of function rules (lines 883-1014 of `sane.c`): one
`NAME=value` entry per function rule, then `PATH`, `PWD`, `USER` and `HOME`, then the variables
that name the device and the action, then the `NULL` that ends the array. The assertion
`e == number_of_envs - 1` checks that exactly `F + 6` entries were written.

* `Host` — what the host provides: the process environment, `getcwd`, the `passwd` entry;
* `functionEntry` — one entry of the function loop;
* `buildEnv` — the whole array, up to its `NULL`.

An option that carries an action rule is not queried again for its function entry: the loop
leaves the value it formats at its initial `0`/`NULL` instead of taking the value the rule has
just stored. A `NULL` string under `%s` is printed the way glibc prints it, as `(null)`.

## Results

* `buildEnv_frame` — building the environment queries only options without an action rule and
  changes nothing else;
* `buildEnv_isSome` — it cannot fail on a host and configuration that provide every entry;
* `functionEntry_of_action_option` — the entry of an option with an action rule is formatted
  from the initial value, whatever the rule stored.
-/

namespace Scanbd

/-- The host a dispatch runs on: the variables `getenv` finds, what `getcwd` returns, and the
`passwd` entry `getpwuid(geteuid())` returns (`pw_name`, `pw_dir`; `none` when it fails). -/
structure Host where
  getenv : String → Option String
  cwd : Option String
  passwd : Option (String × String)

/-- `NAME_MAX` of Linux's `<limits.h>`. -/
def nameMax : Nat := 255

/-- `snprintf(env[e], NAME_MAX, "%s=%s", name, value)`: the bytes of `name=value`, cut to
`NAME_MAX - 1` bytes. -/
def envEntry (name value : String) : List UInt8 :=
  (cBytes (name ++ "=" ++ value)).take (nameMax - 1)

/-- What glibc's `printf` prints for a `NULL` argument of `%s`. -/
def printfNull : String := "(null)"

/-- The `snprintf` of lines 926-938 for the variable `name` and the value `v` of an option
with descriptor `fdesc`, while the rule whose option has descriptor `odesc` is dispatched: the
format is chosen by the function option's type, except that a `BUTTON` is recognised by
`odesc`. A `NULL` name or string prints as `(null)`; `none` at `assert(false)`. -/
def formatFunction (fdesc odesc : OptionDescriptor) (name : Option String) (v : OptValue) :
    Option (List UInt8) :=
  if fdesc.type = .bool ∨ fdesc.type = .int ∨ fdesc.type = .fixed ∨ odesc.type = .button then
    some (envEntry (name.getD printfNull) (toString v.numValue.toNat))
  else if fdesc.type = .string then some (envEntry (name.getD printfNull) (v.str.getD printfNull))
  else none

/-- One entry of the function loop (lines 898-939). The option is queried only when no action
rule is on it; otherwise `v` keeps its initial value. `none` at `assert(fdesc)` and where the
entry cannot be formatted. -/
def functionEntry (dev : Device) (σ : Nat → Sample) (odesc : OptionDescriptor) (p : PollState)
    (f : DevFunction) : Option (List UInt8 × PollState) :=
  match dev.descriptor f.number with
  | none => none
  | some fdesc =>
    let r := if p.tables.validOpts.any (·.number == f.number) then (OptValue.init, p)
      else p.query dev σ f.number
    (formatFunction fdesc odesc f.env r.1).map fun x => (x, r.2)

/-- The `PATH` entry (lines 940-951): the variable, or a default search path. -/
def pathEntry (host : Host) : List UInt8 :=
  envEntry "PATH" ((host.getenv "PATH").getD "/usr/sbin:/usr/bin:/sbin:/bin")

/-- The `PWD` entry (lines 952-970): the variable, else the working directory; no entry when
`getcwd` fails. -/
def pwdEntries (host : Host) : List (List UInt8) :=
  match host.getenv "PWD" with
  | some v => [envEntry "PWD" v]
  | none =>
    match host.cwd with
    | some c => [envEntry "PWD" c]
    | none => []

/-- The `USER` and `HOME` entries (lines 971-996): the variable `ev`, else the `field` of the
`passwd` entry; `none` at `assert(pwd)`. -/
def passwdEntry (host : Host) (ev : String) (field : String × String → String) :
    Option (List UInt8) :=
  match host.getenv ev with
  | some v => some (envEntry ev v)
  | none => host.passwd.map fun pw => envEntry ev (field pw)

/-- The configured variable naming the device (lines 997-1002), when there is one. -/
def deviceEntries (env : CfgEnvironment) (devName : String) : List (List UInt8) :=
  match env.device with
  | some ev => [envEntry ev devName]
  | none => []

/-- The configured variable naming the action (lines 1003-1009), when there is one. -/
def actionEntries (env : CfgEnvironment) (actionName : Option String) : List (List UInt8) :=
  match env.action with
  | some ev => [envEntry ev (actionName.getD printfNull)]
  | none => []

/-- **The environment of a dispatch** (lines 883-1012), up to its `NULL`, for the rule at
`triggered_option` whose option has descriptor `odesc`: the function entries in table order,
then `PATH`, `PWD`, `USER`, `HOME`, the device and the action. `none` where an assertion fails,
the last one being `e == number_of_envs - 1`. -/
def buildEnv (dev : Device) (σ : Nat → Sample) (host : Host) (env : CfgEnvironment)
    (odesc : OptionDescriptor) (p : PollState) : Option (List (List UInt8) × PollState) := do
  let r ← p.tables.validFunctions.foldlM (fun acc f =>
    (functionEntry dev σ odesc acc.2 f).map fun x => (acc.1 ++ [x.1], x.2)) ([], p)
  let user ← passwdEntry host "USER" (·.1)
  let home ← passwdEntry host "HOME" (·.2)
  let entries := r.1 ++ [pathEntry host] ++ pwdEntries host ++ [user, home] ++
    deviceEntries env dev.name ++
    actionEntries env (p.tables.opts.getD p.triggeredOption.toNat .init).actionName
  if entries.length = p.tables.numOfOptionsWithFunctions + 6 then some (entries, r.2) else none

/-! ## Queries of other options -/

/-- `p'` is `p` after queries of options that carry no action rule: only the read count and
the record of answers grew. -/
def PollState.QueriesOthers (p p' : PollState) : Prop :=
  ∃ n qs, p' = { p with tables := { p.tables with reads := n }, queries := p.queries ++ qs } ∧
    ∀ q ∈ qs, q.1 ∉ p.tables.validOpts.map (·.number)

namespace PollState.QueriesOthers

theorem refl (p : PollState) : p.QueriesOthers p :=
  ⟨p.tables.reads, [], by simp, by simp⟩

theorem trans {p p' p'' : PollState} (h : p.QueriesOthers p') (h' : p'.QueriesOthers p'') :
    p.QueriesOthers p'' := by
  obtain ⟨n, qs, rfl, hqs⟩ := h
  obtain ⟨n', qs', rfl, hqs'⟩ := h'
  exact ⟨n', qs ++ qs', by simp, fun q hq => (List.mem_append.mp hq).elim (hqs q) (hqs' q)⟩

theorem query {p : PollState} {dev : Device} {σ : Nat → Sample} {opt : Nat}
    (h : opt ∉ p.tables.validOpts.map (·.number)) : p.QueriesOthers (p.query dev σ opt).2 :=
  ⟨p.tables.reads + 1, [(opt, (p.query dev σ opt).1)], rfl, by simpa using h⟩

theorem opts {p p' : PollState} (h : p.QueriesOthers p') : p'.tables.opts = p.tables.opts := by
  obtain ⟨n, qs, rfl, -⟩ := h; rfl

theorem scripts {p p' : PollState} (h : p.QueriesOthers p') :
    p'.tables.numOfOptionsWithScripts = p.tables.numOfOptionsWithScripts := by
  obtain ⟨n, qs, rfl, -⟩ := h; rfl

theorem validOpts {p p' : PollState} (h : p.QueriesOthers p') :
    p'.tables.validOpts = p.tables.validOpts := by
  rw [SaneThread.validOpts, SaneThread.validOpts, h.opts, h.scripts]

end PollState.QueriesOthers

/-! ## Building the environment -/

section Build

variable {dev : Device} {σ : Nat → Sample} {odesc : OptionDescriptor} {p : PollState}

/-- The value and the state the function loop works with for rule `f`: the initial value
when an action rule is on the option, otherwise a query, which only reads an option without
one. -/
private theorem functionValue_frame (dev : Device) (σ : Nat → Sample) (p : PollState)
    (f : DevFunction) :
    p.QueriesOthers (if p.tables.validOpts.any (·.number == f.number) then
      (OptValue.init, p) else p.query dev σ f.number).2 := by
  split
  · exact .refl p
  · rename_i hany
    exact .query (by simpa [List.any_eq_true] using hany)

theorem functionEntry_frame {f : DevFunction} {x : List UInt8} {p' : PollState}
    (h : functionEntry dev σ odesc p f = some (x, p')) : p.QueriesOthers p' := by
  unfold functionEntry at h
  split at h
  · cases h
  · obtain ⟨_, -, h⟩ := Option.map_eq_some'.mp h
    cases h
    exact functionValue_frame dev σ p f

/-- A function rule the loop can format: its option is of type `BOOL`, `INT`, `FIXED` or
`STRING`. A function on a `BUTTON` option is formatted only while a rule on a `BUTTON` option
is dispatched, and hits `assert(false)` otherwise. -/
def FunctionFormattable (dev : Device) (f : DevFunction) : Prop :=
  ∀ d ∈ dev.descriptor f.number,
    d.type = .bool ∨ d.type = .int ∨ d.type = .fixed ∨ d.type = .string

instance (dev : Device) (f : DevFunction) : Decidable (FunctionFormattable dev f) :=
  inferInstanceAs (Decidable (∀ d ∈ dev.descriptor f.number,
    d.type = .bool ∨ d.type = .int ∨ d.type = .fixed ∨ d.type = .string))

/-- Of the types `FunctionFormattable` admits, those the numeric format does not take are
`STRING`. -/
theorem formatFunction_isSome {fdesc odesc : OptionDescriptor} {name : Option String}
    {v : OptValue} (hty : fdesc.type = .bool ∨ fdesc.type = .int ∨ fdesc.type = .fixed ∨
      fdesc.type = .string) : (formatFunction fdesc odesc name v).isSome := by
  unfold formatFunction
  split_ifs
  · rfl
  · rfl
  · tauto

theorem functionEntry_isSome {f : DevFunction} (hdesc : (dev.descriptor f.number).isSome)
    (hf : FunctionFormattable dev f) : (functionEntry dev σ odesc p f).isSome := by
  obtain ⟨d, hd⟩ := Option.isSome_iff_exists.mp hdesc
  simp only [functionEntry, hd, Option.isSome_map']
  exact formatFunction_isSome (hf d hd)

/-- The function loop queries only options without an action rule, and writes one entry per
function rule. -/
private theorem functionLoop_frame (l : List DevFunction) :
    ∀ (acc r : List (List UInt8) × PollState), l.foldlM (fun acc f =>
      (functionEntry dev σ odesc acc.2 f).map fun x => (acc.1 ++ [x.1], x.2)) acc = some r →
      acc.2.QueriesOthers r.2 ∧ r.1.length = acc.1.length + l.length := by
  induction l with
  | nil =>
    intro acc r h
    cases h
    exact ⟨.refl _, rfl⟩
  | cons f l ih =>
    intro acc r h
    rw [List.foldlM_cons] at h
    obtain ⟨y, hy, h⟩ := Option.bind_eq_some.mp h
    obtain ⟨x, hx, rfl⟩ := Option.map_eq_some'.mp hy
    obtain ⟨hq, hlen⟩ := ih _ r h
    refine ⟨(functionEntry_frame hx).trans hq, ?_⟩
    rw [hlen]
    simp only [List.length_append, List.length_cons, List.length_nil]
    omega

/-- The function loop gets through every function rule it can format. -/
private theorem functionLoop_isSome (l : List DevFunction)
    (hdesc : ∀ f ∈ l, (dev.descriptor f.number).isSome)
    (hl : ∀ f ∈ l, FunctionFormattable dev f) :
    ∀ acc : List (List UInt8) × PollState, (l.foldlM (fun acc f =>
      (functionEntry dev σ odesc acc.2 f).map fun x => (acc.1 ++ [x.1], x.2)) acc).isSome := by
  induction l with
  | nil => intro acc; rfl
  | cons f l ih =>
    intro acc
    obtain ⟨⟨x, p'⟩, hx⟩ := Option.isSome_iff_exists.mp
      (@functionEntry_isSome dev σ odesc acc.2 f (hdesc f (List.mem_cons_self _ _))
        (hl f (List.mem_cons_self _ _)))
    rw [List.foldlM_cons, hx]
    exact ih (fun g hg => hdesc g (List.mem_cons_of_mem _ hg))
      (fun g hg => hl g (List.mem_cons_of_mem _ hg)) _

/-- **Building the environment only queries options without an action rule**, and leaves the
rest of the slot as it was. -/
theorem buildEnv_frame {host : Host} {env : CfgEnvironment} {entries : List (List UInt8)}
    {p' : PollState} (h : buildEnv dev σ host env odesc p = some (entries, p')) :
    p.QueriesOthers p' := by
  simp only [buildEnv, Option.bind_eq_bind] at h
  obtain ⟨r, hr, h⟩ := Option.bind_eq_some.mp h
  obtain ⟨_, -, h⟩ := Option.bind_eq_some.mp h
  obtain ⟨_, -, h⟩ := Option.bind_eq_some.mp h
  split at h
  · cases h
    exact (functionLoop_frame _ _ r hr).1
  · cases h

/-- The host provides every entry (`PWD` or a working directory, `USER` and `HOME` or a
`passwd` entry), both variable names are configured, and every function rule can be
formatted. -/
structure EnvSafe (dev : Device) (host : Host) (env : CfgEnvironment) (st : SaneThread) :
    Prop where
  pwd : (host.getenv "PWD").isSome ∨ host.cwd.isSome
  user : (host.getenv "USER").isSome ∨ host.passwd.isSome
  home : (host.getenv "HOME").isSome ∨ host.passwd.isSome
  device : env.device.isSome
  action : env.action.isSome
  functions : ∀ f ∈ st.validFunctions, FunctionFormattable dev f

private theorem passwdEntry_isSome {host : Host} {ev : String} (field : String × String → String)
    (h : (host.getenv ev).isSome ∨ host.passwd.isSome) : (passwdEntry host ev field).isSome := by
  unfold passwdEntry
  split
  · rfl
  · rename_i hev
    rcases h with h | h
    · simp [hev] at h
    · simpa using h

private theorem pwdEntries_length {host : Host}
    (h : (host.getenv "PWD").isSome ∨ host.cwd.isSome) : (pwdEntries host).length = 1 := by
  unfold pwdEntries
  split
  · rfl
  · rename_i hev
    split
    · rfl
    · rename_i hc
      rcases h with h | h
      · simp [hev] at h
      · simp [hc] at h

/-- **The environment can always be built** on a safe host and configuration, from tables
whose function count fits. -/
theorem buildEnv_isSome {host : Host} {env : CfgEnvironment} (hs : EnvSafe dev host env p.tables)
    (hF : p.tables.numOfOptionsWithFunctions ≤ p.tables.numOfOptions)
    (hdesc : ∀ f ∈ p.tables.validFunctions, (dev.descriptor f.number).isSome) :
    (buildEnv dev σ host env odesc p).isSome := by
  obtain ⟨r, hr⟩ := Option.isSome_iff_exists.mp
    (@functionLoop_isSome dev σ odesc _ hdesc hs.functions ([], p))
  obtain ⟨user, huser⟩ := Option.isSome_iff_exists.mp
    (passwdEntry_isSome (·.1) hs.user)
  obtain ⟨home, hhome⟩ := Option.isSome_iff_exists.mp
    (passwdEntry_isSome (·.2) hs.home)
  obtain ⟨ev, hev⟩ := Option.isSome_iff_exists.mp hs.action
  obtain ⟨dv, hdv⟩ := Option.isSome_iff_exists.mp hs.device
  have hlen := (functionLoop_frame _ _ r hr).2
  rw [List.length_nil, zero_add, SaneThread.validFunctions_length hF] at hlen
  simp only [buildEnv, Option.bind_eq_bind, hr, huser, hhome, Option.some_bind]
  rw [if_pos (by simp [hlen, pwdEntries_length hs.pwd, deviceEntries, hdv, actionEntries, hev])]
  rfl

end Build

/-! ## The value of a function on an action option -/

/-- **A function rule on an option with an action rule reports `0`.** The loop skips the query
for an option that carries an action rule, meaning to take the value the rule has just stored
("use the action-option value instead"), but never copies it: the entry of a `BOOL`, `INT` or
`FIXED` option is formatted from the initial value, whatever the rule stored, and the slot is
left as it was. -/
theorem functionEntry_of_action_option (dev : Device) (σ : Nat → Sample)
    (odesc : OptionDescriptor) (p : PollState) (f : DevFunction) {fdesc : OptionDescriptor}
    {name : String} (hd : dev.descriptor f.number = some fdesc) (hname : f.env = some name)
    (hnum : fdesc.type = .bool ∨ fdesc.type = .int ∨ fdesc.type = .fixed)
    (hact : f.number ∈ p.tables.validOpts.map (·.number)) :
    functionEntry dev σ odesc p f = some (envEntry name "0", p) := by
  have hany : p.tables.validOpts.any (·.number == f.number) = true := by
    simpa [List.any_eq_true] using hact
  have hfmt : fdesc.type = .bool ∨ fdesc.type = .int ∨ fdesc.type = .fixed ∨
      odesc.type = .button := by
    rcases hnum with h | h | h
    · exact .inl h
    · exact .inr (.inl h)
    · exact .inr (.inr (.inl h))
  simp only [functionEntry, hd, hany, if_true, formatFunction, hname, Option.getD_some,
    if_pos hfmt, Option.map_some']
  rfl

/-- The tables compiled from the sample configuration when the device answers `1` to every
read: the scan rule on the button has stored the value `1`, and the function rule `BTN` is on
the same option. -/
def pressedTables : SaneThread :=
  (compileRules sampleLib sampleDevice (fun _ => ⟨true, 1, "Color"⟩) sampleCfg 3).getD
    (SaneThread.alloc 3)

theorem functionEntry_of_action_option_pressed :
    (pressedTables.opts.getD 0 .init).value.numValue = 1 ∧
    functionEntry sampleDevice (fun _ => ⟨true, 1, "Color"⟩) ⟨some "button", .bool, 4, true⟩
      (PollState.start pressedTables) (pressedTables.validFunctions.getD 0 .init) =
      some (envEntry "BTN" "0", PollState.start pressedTables) :=
  ⟨by decide, functionEntry_of_action_option sampleDevice _ _ _ _
    (show _ = some ⟨some "button", .bool, 4, true⟩ by decide) (by decide) (.inl rfl)
    (by decide)⟩

end Scanbd
