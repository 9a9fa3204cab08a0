import Scanbd.Compile

/-!
# Scanbd — the override policy, and the compile phase against it

What rule compilation is for, said without arrays or fill counts: a fold over the
configuration that keeps, for every matching option, one action rule and one function rule,
under the override policy of the configuration file:

* an action rule replaces the first rule on its option unless `multiple_actions` is set;
  otherwise (or when its option has none) it is appended while fewer than `N` rules exist,
  and dropped when `N` do;
* a function rule replaces the rule on its option, or is appended.

`referenceRules` is that fold: the global section, then every device section whose filter
matches the device name, each section's actions and functions in order, each over the options
`1 .. N-1` in ascending order. A rule's last value is the device's answer to the read made when
the rule is installed, so the fold counts reads as the code does.

## Results

* `keptDescriptor_eq_matchingDescriptor` — the checks of the code's option loops keep the
  options the policy keeps;
* `installAction_refines`, `installFunction_refines` — one install step of `sane.c` against
  one step of the fold;
* `compileRules_simulates`, `compileRules_eq_reference` — when every pattern of the
  configuration compiles, the tables `compileRules` fills are exactly the lists of the fold.
-/

namespace Scanbd

open SaneThread

/-- The action rule installed for `act` on option `opt` with descriptor `d`, holding the
value `v` the device returned for it: a numerical trigger for `BOOL/INT/FIXED/BUTTON`, the two
patterns and their regexes for `STRING`. -/
def actionRule (act : CfgAction) (opt : Nat) (d : OptionDescriptor) (v : OptValue) :
    DevOption where
  number := opt
  fromValue := if d.type.isNumeric then ⟨ulong act.numericalTrigger.fromValue, none, none⟩
    else ⟨0, some act.stringTrigger.fromValue, some act.stringTrigger.fromValue⟩
  toValue := if d.type.isNumeric then ⟨ulong act.numericalTrigger.toValue, none, none⟩
    else ⟨0, some act.stringTrigger.toValue, some act.stringTrigger.toValue⟩
  value := v
  script := some act.scriptOrNull
  actionName := some act.name

/-- The rule lists of the specification, and the number of device reads made so far. -/
structure RuleTables where
  rules : List DevOption
  functions : List DevFunction
  reads : Nat
  deriving DecidableEq, Repr

namespace RuleTables

/-- No rules yet. -/
def empty : RuleTables := ⟨[], [], 0⟩

/-- A kept option's action rule, with the value read for it: in place of the first rule on
its option unless `multiple_actions` is set; otherwise, or when no rule is on the option,
appended while fewer than `n` rules exist. A dropped rule reads nothing. -/
def addAction (dev : Device) (σ : Nat → Sample) (m : Bool) (n : Nat) (act : CfgAction)
    (opt : Nat) (d : OptionDescriptor) (R : RuleTables) : RuleTables :=
  let r := actionRule act opt d (getSaneOptionValue (dev.descriptor opt) (σ R.reads))
  match (if m then none else R.rules.findIdx? (·.number == opt)) with
  | some i => { R with rules := R.rules.set i r, reads := R.reads + 1 }
  | none =>
    if R.rules.length < n then { R with rules := R.rules ++ [r], reads := R.reads + 1 } else R

/-- A kept option's function rule: in place of the rule on its option, or appended. -/
def addFunction (opt : Nat) (env : String) (R : RuleTables) : RuleTables :=
  let f : DevFunction := ⟨opt, some env⟩
  match R.functions.findIdx? (·.number == opt) with
  | some i => { R with functions := R.functions.set i f }
  | none => { R with functions := R.functions ++ [f] }

@[simp] theorem addFunction_rules (opt : Nat) (env : String) (R : RuleTables) :
    (R.addFunction opt env).rules = R.rules := by
  unfold addFunction; split <;> rfl

@[simp] theorem addFunction_reads (opt : Nat) (env : String) (R : RuleTables) :
    (R.addFunction opt env).reads = R.reads := by
  unfold addFunction; split <;> rfl

end RuleTables

section Fold

variable (lib : RegexLib) (dev : Device) (σ : Nat → Sample) (m : Bool) (n : Nat)

/-- The options a filter keeps: an active, named option whose type is one of `bool`, `int`,
`fixed`, `string` and `button`, and whose name the filter matches. -/
def keptDescriptor (filter : String) (opt : Nat) : Option OptionDescriptor :=
  (dev.descriptor opt).filter fun d =>
    d.active && decide (d.type ∈ [.bool, .int, .fixed, .string, .button]) &&
      d.name.any (lib.regexec filter)

/-- The actions of one section, each over the options `1 .. n-1` it keeps. -/
def refActions (acts : List CfgAction) (R : RuleTables) : RuleTables :=
  acts.foldl (fun R act => (List.range' 1 (n - 1)).foldl (fun R opt =>
    match keptDescriptor lib dev act.filter opt with
    | some d => R.addAction dev σ m n act opt d
    | none => R) R) R

/-- The functions of one section, each over the options `1 .. n-1` it keeps. -/
def refFunctions (fs : List CfgFunction) (R : RuleTables) : RuleTables :=
  fs.foldl (fun R f => (List.range' 1 (n - 1)).foldl (fun R opt =>
    match keptDescriptor lib dev f.filter opt with
    | some _ => R.addFunction opt f.env
    | none => R) R) R

end Fold

/-- **The reference fold**: the global section's actions and functions, then the actions of
every device section whose filter matches the device name, in configuration order. -/
def referenceRules (lib : RegexLib) (dev : Device) (σ : Nat → Sample) (cfg : Cfg) (n : Nat) :
    RuleTables :=
  let m := cfg.global.multipleActions
  let R := refFunctions lib dev n cfg.global.functions
    (refActions lib dev σ m n cfg.global.actions .empty)
  cfg.devices.foldl (fun R loc =>
    if lib.regexec loc.filter dev.name then refActions lib dev σ m n loc.actions R else R) R

/-- Every regex of an action compiles: its filter and both sides of its string trigger. -/
def CfgAction.Compiles (lib : RegexLib) (act : CfgAction) : Prop :=
  lib.regcomp act.filter = 0 ∧ lib.regcomp act.stringTrigger.fromValue = 0 ∧
    lib.regcomp act.stringTrigger.toValue = 0

instance (lib : RegexLib) (act : CfgAction) : Decidable (act.Compiles lib) :=
  inferInstanceAs (Decidable (lib.regcomp act.filter = 0 ∧
    lib.regcomp act.stringTrigger.fromValue = 0 ∧ lib.regcomp act.stringTrigger.toValue = 0))

/-- Every regex of the configuration compiles. -/
def Cfg.Compiles (lib : RegexLib) (cfg : Cfg) : Prop :=
  (∀ act ∈ cfg.global.actions, act.Compiles lib) ∧
  (∀ f ∈ cfg.global.functions, lib.regcomp f.filter = 0) ∧
  ∀ loc ∈ cfg.devices, lib.regcomp loc.filter = 0 ∧ ∀ act ∈ loc.actions, act.Compiles lib

instance (lib : RegexLib) (cfg : Cfg) : Decidable (cfg.Compiles lib) :=
  inferInstanceAs (Decidable ((∀ act ∈ cfg.global.actions, act.Compiles lib) ∧
    (∀ f ∈ cfg.global.functions, lib.regcomp f.filter = 0) ∧
    ∀ loc ∈ cfg.devices, lib.regcomp loc.filter = 0 ∧ ∀ act ∈ loc.actions, act.Compiles lib))

/-! ## The filter and the installed entry -/

/-- **The code keeps the options the policy keeps**: the checks of both option loops are the
filter of the specification. -/
theorem keptDescriptor_eq_matchingDescriptor (lib : RegexLib) (dev : Device) :
    keptDescriptor lib dev = matchingDescriptor lib dev := by
  funext filter opt
  unfold keptDescriptor matchingDescriptor
  rcases dev.descriptor opt with _ | ⟨_ | name, ty, size, _ | _⟩
  · rfl
  all_goals cases ty <;> simp [Option.filter, ValueType.isPolled, ValueType.isNumeric]

/-- The options both loops keep are the ones the policy keeps: a descriptor that is active,
of a polled type, and named by a name the filter matches. -/
theorem matchingDescriptor_eq_some_iff {lib : RegexLib} {dev : Device} {filter : String}
    {opt : Nat} {d : OptionDescriptor} :
    matchingDescriptor lib dev filter opt = some d ↔ dev.descriptor opt = some d ∧ d.active ∧
      d.type.isPolled ∧ ∃ name, d.name = some name ∧ lib.regexec filter name := by
  unfold matchingDescriptor
  rcases dev.descriptor opt with _ | d'
  · simp
  · rcases hn : d'.name with _ | name
    · by_cases ha : d'.active <;> simp only [ha, hn, if_true, if_false] <;> aesop
    · by_cases ha : d'.active <;> by_cases hc : d'.type.isPolled && lib.regexec filter name <;>
        simp only [ha, hn, hc, if_true, if_false] <;> aesop

/-- The trigger sides of a rule on an option of a non-numeric type hold no number. -/
def CleanRule (dev : Device) (r : DevOption) : Prop :=
  ∀ d, dev.descriptor r.number = some d →
    d.type.isNumeric ∨ (r.fromValue.numValue = 0 ∧ r.toValue.numValue = 0)

theorem actionRule_clean {dev : Device} {act : CfgAction} {opt : Nat} {d : OptionDescriptor}
    (hd : dev.descriptor opt = some d) (v : OptValue) : CleanRule dev (actionRule act opt d v) := by
  intro d' hd'
  obtain rfl : d' = d := Option.some.inj (hd'.symm.trans hd)
  by_cases hn : d'.type.isNumeric <;> simp [actionRule, hn]

/-- Over an entry whose trigger sides hold no number (a fresh one, or a rule on the same
string option), the entry `installAction` writes for a valid trigger is the policy's rule. -/
theorem installedEntry_eq_actionRule {lib : RegexLib} {act : CfgAction} {opt : Nat}
    {d : OptionDescriptor} {old : DevOption} (v : OptValue) (hv : stringTriggerValid lib act)
    (hold : d.type.isNumeric ∨ (old.fromValue.numValue = 0 ∧ old.toValue.numValue = 0)) :
    installedEntry lib act opt d old v = actionRule act opt d v := by
  unfold installedEntry actionRule
  by_cases hn : d.type.isNumeric
  · simp [hn, DevOption.overwrite, DevOption.numericTrigger, OptValue.free]
  · obtain ⟨h1, h2⟩ := hold.resolve_left hn
    simp [hn, hv, DevOption.overwrite, DevOption.stringTrigger, OptValue.free, h1, h2]

/-! ## The simulation relation -/

/-- The tables of `sane.c` hold the rule lists `R`: they are well formed and have `n`
entries; the installed action rules are `R.rules`, the entries past them as `calloc` left
them; the installed function rules are `R.functions`; as many reads were made; and the
trigger sides of a rule on a string option hold no number. -/
structure Simulates (dev : Device) (m : Bool) (n : Nat) (st : SaneThread) (R : RuleTables) :
    Prop where
  wellFormed : st.WellFormed dev m
  numOfOptions_eq : st.numOfOptions = n
  opts_eq : st.opts = R.rules ++ List.replicate (n - R.rules.length) .init
  scripts_eq : st.numOfOptionsWithScripts = R.rules.length
  functions_eq : st.validFunctions = R.functions
  reads_eq : st.reads = R.reads
  rules_clean : ∀ r ∈ R.rules, CleanRule dev r

theorem Simulates.validOpts_eq {dev : Device} {m : Bool} {n : Nat} {st : SaneThread}
    {R : RuleTables} (h : Simulates dev m n st R) : st.validOpts = R.rules := by
  rw [validOpts, h.opts_eq, h.scripts_eq, List.take_left]

theorem alloc_simulates (dev : Device) (m : Bool) (n : Nat) :
    Simulates dev m n (alloc n) .empty where
  wellFormed := alloc_wellFormed dev m n
  numOfOptions_eq := rfl
  opts_eq := by simp [alloc, RuleTables.empty]
  scripts_eq := rfl
  functions_eq := by simp [validFunctions, alloc, RuleTables.empty]
  reads_eq := rfl
  rules_clean := by simp [RuleTables.empty]

/-! ## One install step against one step of the fold -/

section ListLemmas

variable {α : Type} {l : List α} {k : Nat} {a e : α}

private theorem getD_append_replicate : (l ++ List.replicate (k + 1) a).getD l.length a = a := by
  rw [List.getD_append_right _ _ _ _ le_rfl, Nat.sub_self, List.replicate_succ]
  rfl

private theorem set_append_replicate :
    (l ++ List.replicate (k + 1) a).set l.length e = (l ++ [e]) ++ List.replicate k a := by
  rw [List.set_append_right _ _ le_rfl, Nat.sub_self, List.replicate_succ, List.set_cons_zero,
    List.append_assoc, List.singleton_append]

end ListLemmas

section Install

variable {lib : RegexLib} {dev : Device} {σ : Nat → Sample} {m : Bool} {n : Nat}
  {act : CfgAction} {opt : Nat} {d : OptionDescriptor} {st : SaneThread} {R : RuleTables}

/-- A rule appended at the fill count, or dropped when the table is full. -/
private theorem installAction_append (h : Simulates dev m n st R)
    (hd : matchingDescriptor lib dev act.filter opt = some d) (h1 : 1 ≤ opt) (h2 : opt < n)
    (hv : stringTriggerValid lib act)
    (hslot : st.actionSlot m opt = st.numOfOptionsWithScripts) :
    ∃ st', installAction lib dev σ m act opt d st = some st' ∧
      Simulates dev m n st' (if R.rules.length < n then
        { R with rules := R.rules ++ [actionRule act opt d
            (getSaneOptionValue (dev.descriptor opt) (σ R.reads))], reads := R.reads + 1 }
        else R) := by
  have hN := h.numOfOptions_eq
  obtain ⟨hins, hpol, hdesc⟩ := matchingDescriptor_installable hd h1 (hN ▸ h2)
  obtain ⟨st', hst, hN', hfun, hF, hcase⟩ :=
    installAction_spec lib dev σ m act opt h.wellFormed.scripts_le hpol
  have hwf' : st'.WellFormed dev m := by
    obtain ⟨_, h₂, hw, -⟩ := installAction_wellFormed lib dev σ m act h.wellFormed hins hpol
    rwa [Option.some.inj (hst.symm.trans h₂)]
  refine ⟨st', hst, ?_⟩
  have hvf : st'.validFunctions = st.validFunctions := by
    rw [validFunctions, validFunctions, hfun, hF]
  rcases hcase with ⟨hdrop, rfl⟩ | ⟨hlt, hreads, hopts, hS⟩
  · rw [if_neg (by rw [← h.scripts_eq, ← hslot, hdrop, hN]; exact lt_irrefl n)]
    exact h
  have hroom : R.rules.length < n := by rw [← h.scripts_eq, ← hslot, ← hN]; exact hlt
  rw [if_pos hroom]
  obtain ⟨k, hk⟩ : ∃ k, n - R.rules.length = k + 1 := ⟨n - R.rules.length - 1, by omega⟩
  rw [hslot, h.scripts_eq] at hopts hS
  rw [h.opts_eq, hk, getD_append_replicate, set_append_replicate, h.reads_eq,
    installedEntry_eq_actionRule _ hv (.inr ⟨rfl, rfl⟩)] at hopts
  exact {
    wellFormed := hwf'
    numOfOptions_eq := hN'.trans hN
    opts_eq := by rw [hopts]; congr 2; simp only [List.length_append, List.length_singleton]; omega
    scripts_eq := by
      rw [hS, if_pos ⟨by simp [countsEntry, hv], rfl⟩]; simp
    functions_eq := hvf.trans h.functions_eq
    reads_eq := by rw [hreads, h.reads_eq]
    rules_clean := by
      simp only [List.mem_append, List.mem_singleton]
      rintro r (hr | rfl)
      · exact h.rules_clean r hr
      · exact actionRule_clean hdesc _ }

/-- Without `multiple_actions`, a rule on an option that has one replaces it in place. -/
private theorem installAction_overwrite (h : Simulates dev false n st R)
    (hd : matchingDescriptor lib dev act.filter opt = some d) (h1 : 1 ≤ opt) (h2 : opt < n)
    (hv : stringTriggerValid lib act) {i : Nat} (hi : i < R.rules.length)
    (hslot : st.actionSlot false opt = i) (hnum : (R.rules.getD i .init).number = opt) :
    ∃ st', installAction lib dev σ false act opt d st = some st' ∧
      Simulates dev false n st' { R with rules := R.rules.set i (actionRule act opt d
        (getSaneOptionValue (dev.descriptor opt) (σ R.reads))), reads := R.reads + 1 } := by
  have hN := h.numOfOptions_eq
  obtain ⟨hins, hpol, hdesc⟩ := matchingDescriptor_installable hd h1 (hN ▸ h2)
  obtain ⟨st', hst, hN', hfun, hF, hcase⟩ :=
    installAction_spec lib dev σ false act opt h.wellFormed.scripts_le hpol
  have hwf' : st'.WellFormed dev false := by
    obtain ⟨_, h₂, hw, -⟩ :=
      installAction_wellFormed lib dev σ false act h.wellFormed hins hpol
    rwa [Option.some.inj (hst.symm.trans h₂)]
  refine ⟨st', hst, ?_⟩
  have hvf : st'.validFunctions = st.validFunctions := by
    rw [validFunctions, validFunctions, hfun, hF]
  have hlt : i < st.numOfOptions := by
    have := h.wellFormed.scripts_le; rw [h.scripts_eq] at this; omega
  rcases hcase with ⟨hdrop, -⟩ | ⟨-, hreads, hopts, hS⟩
  · omega
  have hold : R.rules.getD i .init ∈ R.rules := by
    rw [List.getD_eq_getElem _ _ hi]; exact List.getElem_mem _
  rw [hslot, h.opts_eq, List.getD_append _ _ _ _ hi, h.reads_eq,
    installedEntry_eq_actionRule _ hv (h.rules_clean _ hold d (hnum ▸ hdesc)),
    List.set_append_left _ _ hi] at hopts
  exact {
    wellFormed := hwf'
    numOfOptions_eq := hN'.trans hN
    opts_eq := by rw [hopts, List.length_set]
    scripts_eq := by
      rw [hS, if_neg (fun hc => by rw [hslot, h.scripts_eq] at hc; omega), h.scripts_eq,
        List.length_set]
    functions_eq := hvf.trans h.functions_eq
    reads_eq := by rw [hreads, h.reads_eq]
    rules_clean := fun r hr => by
      rcases List.mem_or_eq_of_mem_set hr with hr | rfl
      · exact h.rules_clean r hr
      · exact actionRule_clean hdesc _ }

/-- **One action install step refines one step of the fold.** -/
theorem installAction_refines (h : Simulates dev m n st R)
    (hd : matchingDescriptor lib dev act.filter opt = some d) (h1 : 1 ≤ opt) (h2 : opt < n)
    (hv : stringTriggerValid lib act) :
    ∃ st', installAction lib dev σ m act opt d st = some st' ∧
      Simulates dev m n st' (R.addAction dev σ m n act opt d) := by
  have hle := h.wellFormed.scripts_le
  unfold RuleTables.addAction
  cases m with
  | true => exact installAction_append h hd h1 h2 hv (actionSlot_true hle opt)
  | false =>
    have hslot := actionSlot_false hle opt
    rw [h.validOpts_eq] at hslot
    simp only [Bool.false_eq_true, if_false]
    split
    · rename_i i hfi
      obtain ⟨hi, hidx⟩ := List.findIdx?_eq_some_iff_findIdx_eq.mp hfi
      refine installAction_overwrite h hd h1 h2 hv hi (hslot.trans hidx) ?_
      have := List.findIdx_getElem (w := hidx ▸ hi)
      rw [List.getD_eq_getElem _ _ hi]
      simpa [hidx] using this
    · rename_i hfi
      refine installAction_append h hd h1 h2 hv ?_
      rw [hslot, h.scripts_eq]
      exact List.findIdx_eq_length.mpr (List.findIdx?_eq_none_iff.mp hfi)

/-- **One function install step refines one step of the fold.** -/
theorem installFunction_refines {filter env : String} (h : Simulates dev m n st R)
    (hd : matchingDescriptor lib dev filter opt = some d) (h1 : 1 ≤ opt) (h2 : opt < n) :
    ∃ st', installFunction env opt st = some st' ∧
      Simulates dev m n st' (R.addFunction opt env) := by
  have hN := h.numOfOptions_eq
  have hins := (matchingDescriptor_installable hd h1 (hN ▸ h2)).1
  have hle := h.wellFormed.functions_le
  obtain ⟨st', hst, hN', hopts, hS, hreads, hcase⟩ :=
    installFunction_spec env hle (h.wellFormed.functions_room hins)
  have hwf' : st'.WellFormed dev m := by
    obtain ⟨_, h₂, hw, -⟩ := installFunction_wellFormed h.wellFormed hins env
    rwa [Option.some.inj (hst.symm.trans h₂)]
  have hslot : st.functionSlot opt = R.functions.findIdx (·.number == opt) := by
    rw [functionSlot, h.functions_eq]
  have hlen : R.functions.length = st.numOfOptionsWithFunctions := by
    rw [← h.functions_eq, validFunctions_length hle]
  have hfe : st'.validFunctions = (R.addFunction opt env).functions := by
    unfold RuleTables.addFunction
    split
    · rename_i i hfi
      obtain ⟨hi, hidx⟩ := List.findIdx?_eq_some_iff_findIdx_eq.mp hfi
      rcases hcase with ⟨-, -, hvf, -⟩ | ⟨hsl, -, -, -⟩
      · rw [hvf, h.functions_eq, hslot, hidx]
      · omega
    · rename_i hfi
      have := List.findIdx_eq_length.mpr (List.findIdx?_eq_none_iff.mp hfi)
      rcases hcase with ⟨hlt, -, -, -⟩ | ⟨-, -, hvf, -⟩
      · omega
      · rw [hvf, h.functions_eq]
  exact ⟨st', hst, {
    wellFormed := hwf'
    numOfOptions_eq := hN'.trans hN
    opts_eq := by rw [hopts, h.opts_eq, RuleTables.addFunction_rules]
    scripts_eq := by rw [hS, h.scripts_eq, RuleTables.addFunction_rules]
    functions_eq := hfe
    reads_eq := by rw [hreads, h.reads_eq, RuleTables.addFunction_reads]
    rules_clean := by rw [RuleTables.addFunction_rules]; exact h.rules_clean }⟩

end Install

/-! ## The loops against the fold -/

section Loops

variable {lib : RegexLib} {dev : Device} {σ : Nat → Sample} {m : Bool} {n : Nat}

/-- Both option loops, for a body that refines one step of the fold on every option in
`[1, n)`. -/
private theorem optionLoop_refines {g : SaneThread → Nat → Option SaneThread}
    {G : RuleTables → Nat → RuleTables}
    (hbody : ∀ st R opt, Simulates dev m n st R → 1 ≤ opt → opt < n →
      ∃ st', g st opt = some st' ∧ Simulates dev m n st' (G R opt))
    {st : SaneThread} {R : RuleTables} (h : Simulates dev m n st R) :
    ∃ st', (List.range' 1 (st.numOfOptions - 1)).foldlM g st = some st' ∧
      Simulates dev m n st' ((List.range' 1 (n - 1)).foldl G R) := by
  rw [h.numOfOptions_eq]
  exact foldlM_option_sim _ st R h fun st R opt hopt h => by
    rw [List.mem_range'_1] at hopt
    exact hbody st R opt h hopt.1 (by omega)

theorem saneFindMatchingOptions_refines {acts : List CfgAction}
    (hc : ∀ act ∈ acts, act.Compiles lib) {st : SaneThread} {R : RuleTables}
    (h : Simulates dev m n st R) :
    ∃ st', saneFindMatchingOptions lib dev σ m acts st = some st' ∧
      Simulates dev m n st' (refActions lib dev σ m n acts R) := by
  refine foldlM_option_sim acts st R h fun st R act hact h => ?_
  obtain ⟨hf, hfrom, hto⟩ := hc act hact
  have hv : stringTriggerValid lib act := by simp [stringTriggerValid, hfrom, hto]
  rw [if_neg (by rw [hf]; exact lt_irrefl 0)]
  refine optionLoop_refines (fun st R opt h h1 h2 => ?_) h
  dsimp only
  rw [keptDescriptor_eq_matchingDescriptor]
  cases hd : matchingDescriptor lib dev act.filter opt with
  | none => exact ⟨st, rfl, h⟩
  | some d => exact installAction_refines h hd h1 h2 hv

theorem saneFindMatchingFunctions_refines {fs : List CfgFunction}
    (hc : ∀ f ∈ fs, lib.regcomp f.filter = 0) {st : SaneThread} {R : RuleTables}
    (h : Simulates dev m n st R) :
    ∃ st', saneFindMatchingFunctions lib dev fs st = some st' ∧
      Simulates dev m n st' (refFunctions lib dev n fs R) := by
  refine foldlM_option_sim fs st R h fun st R f hf h => ?_
  rw [if_neg (by rw [hc f hf]; exact lt_irrefl 0)]
  refine optionLoop_refines (fun st R opt h h1 h2 => ?_) h
  dsimp only
  rw [keptDescriptor_eq_matchingDescriptor]
  cases hd : matchingDescriptor lib dev f.filter opt with
  | none => exact ⟨st, rfl, h⟩
  | some d => exact installFunction_refines h hd h1 h2

theorem compileDevice_refines {loc : CfgDevice}
    (hc : lib.regcomp loc.filter = 0 ∧ ∀ act ∈ loc.actions, act.Compiles lib)
    {st : SaneThread} {R : RuleTables} (h : Simulates dev m n st R) :
    ∃ st', compileDevice lib dev σ m st loc = some st' ∧ Simulates dev m n st'
      (if lib.regexec loc.filter dev.name then refActions lib dev σ m n loc.actions R else R) := by
  unfold compileDevice
  rw [if_neg (by rw [hc.1]; exact lt_irrefl 0)]
  split
  · obtain ⟨st', h', hs⟩ := saneFindMatchingOptions_refines (σ := σ) hc.2 h
    exact ⟨st', by simp [h', saneFindMatchingFunctions], hs⟩
  · exact ⟨st, rfl, h⟩

end Loops

/-- The compile phase, against the fold: when every regex of the configuration compiles, it
succeeds with tables that hold the lists of the reference fold. -/
theorem compileRules_simulates (lib : RegexLib) (dev : Device) (σ : Nat → Sample) (cfg : Cfg)
    (n : Nat) (hc : cfg.Compiles lib) :
    ∃ st, compileRules lib dev σ cfg n = some st ∧
      Simulates dev cfg.global.multipleActions n st (referenceRules lib dev σ cfg n) := by
  obtain ⟨hacts, hfs, hdevs⟩ := hc
  set m := cfg.global.multipleActions
  obtain ⟨st₁, h₁, hs₁⟩ :=
    saneFindMatchingOptions_refines (σ := σ) hacts (alloc_simulates dev m n)
  obtain ⟨st₂, h₂, hs₂⟩ := saneFindMatchingFunctions_refines hfs hs₁
  obtain ⟨st₃, h₃, hs₃⟩ := foldlM_option_sim cfg.devices st₂ _ hs₂
    fun st R loc hloc h => compileDevice_refines (σ := σ) (hdevs loc hloc) h
  exact ⟨st₃, by simp [compileRules, h₁, h₂, h₃, m], hs₃⟩

/-- **Rule compilation meets the override policy.** For every configuration whose regexes
all compile, every device and every sequence of device answers, the compile phase of
`sane_poll` succeeds, and its installed action rules and function rules are exactly the
lists of the reference fold. -/
theorem compileRules_eq_reference (lib : RegexLib) (dev : Device) (σ : Nat → Sample)
    (cfg : Cfg) (n : Nat) (hc : cfg.Compiles lib) :
    ∃ st, compileRules lib dev σ cfg n = some st ∧
      st.validOpts = (referenceRules lib dev σ cfg n).rules ∧
      st.validFunctions = (referenceRules lib dev σ cfg n).functions := by
  obtain ⟨st, h, hs⟩ := compileRules_simulates lib dev σ cfg n hc
  exact ⟨st, h, hs.validOpts_eq, hs.functions_eq⟩

/-- A scanner with a button (option 1, `BOOL`) and a scan-mode selector (option 2, `STRING`)
that always answers `Color`. -/
def sampleDevice : Device where
  name := "hp5590"
  descriptor
    | 1 => some ⟨some "button", .bool, 4, true⟩
    | 2 => some ⟨some "mode", .string, 32, true⟩
    | _ => none

/-- The device's answers: every read succeeds with button value `0` and mode `Color`. -/
def sampleSamples : Nat → Sample := fun _ => ⟨true, 0, "Color"⟩

/-- A regex library in which only the pattern `(` fails to compile, with glibc's
`REG_EPAREN`, and a pattern matches exactly itself. -/
def sampleLib : RegexLib where
  regcomp p := if p = "(" then 8 else 0
  regexec p s := p == s

/-- A global scan action on the button and a function exporting it, overridden for the
`hp5590` by a device section whose action reacts to a mode change instead. -/
def sampleCfg : Cfg where
  global := ⟨false, ⟨some "SCANBD_DEVICE", some "SCANBD_ACTION"⟩, [⟨"button", "BTN"⟩],
    [⟨some "scan", "button", ⟨0, 1⟩, ⟨"", ""⟩, some "/etc/scanbd/scan.sh"⟩]⟩
  devices := [⟨"hp5590", [⟨some "mode", "mode", ⟨0, 0⟩, ⟨"Color", "Gray"⟩, none⟩]⟩]

theorem compileRules_eq_reference_sample : sampleCfg.Compiles sampleLib ∧
    ∃ st, compileRules sampleLib sampleDevice sampleSamples sampleCfg 3 = some st ∧
      st.validOpts = (referenceRules sampleLib sampleDevice sampleSamples sampleCfg 3).rules ∧
      st.validFunctions =
        (referenceRules sampleLib sampleDevice sampleSamples sampleCfg 3).functions :=
  have hc : sampleCfg.Compiles sampleLib := by decide
  ⟨hc, compileRules_eq_reference sampleLib sampleDevice sampleSamples sampleCfg 3 hc⟩

/-! ## Patterns that do not compile -/

/-- A configuration whose only action reacts to the mode with the pattern `(`, which does
not compile. -/
def badTriggerCfg : Cfg where
  global := ⟨false, ⟨none, none⟩, [],
    [⟨some "mode", "mode", ⟨0, 0⟩, ⟨"(", "Gray"⟩, some "/etc/scanbd/mode.sh"⟩]⟩
  devices := []

/-- A regex library whose `regcomp` reports the failure of `(` with a negative code, the case
the code tests for. -/
def negativeLib : RegexLib where
  regcomp p := if p = "(" then -1 else 0
  regexec p s := p == s

/-- A valid mode action, then one with the pattern `(` on the same option. -/
def overrideCfg : Cfg where
  global := ⟨false, ⟨none, none⟩, [],
    [⟨some "mode", "mode", ⟨0, 0⟩, ⟨"Color", "Gray"⟩, some "/etc/scanbd/mode.sh"⟩,
     ⟨some "bad", "mode", ⟨0, 0⟩, ⟨"(", "Gray"⟩, some "/etc/scanbd/bad.sh"⟩]⟩
  devices := []

/-- **A pattern that does not compile is installed.** `regcomp` reports a failure with a
positive code, which the `ret < 0` checks miss: the rule with the failed pattern is installed
and counted like any other. And where a library does return a negative code, the entry has
already been overwritten when the check fails: the rule installed on the option before is
replaced by the failed action's name and script, with its regexes freed, and stays counted. -/
theorem compileRules_installs_uncompiled_trigger :
    (sampleLib.regcomp "(" ≠ 0 ∧
      ((compileRules sampleLib sampleDevice sampleSamples badTriggerCfg 3).map fun st =>
        st.validOpts.map fun e => (e.number, e.fromValue.reg)) = some [(2, some "(")]) ∧
    (negativeLib.regcomp "(" < 0 ∧
      ((compileRules negativeLib sampleDevice sampleSamples overrideCfg 3).map fun st =>
        st.validOpts.map fun e => (e.number, e.actionName, e.fromValue.reg)) =
        some [(2, some "bad", none)]) := by
  decide

end Scanbd
