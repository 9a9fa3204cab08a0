import Mathlib.Data.List.Basic

/-!
# Scanbd — the SANE side of the poller

The daemon sees a scanner only through the SANE library: the option descriptor table
(`sane_get_option_descriptor`) and one value per `sane_control_option(GET_VALUE)` call. This
module models those calls as `sane.c` makes them, and the value record the poller keeps for
every sample and for both sides of a trigger:

* `OptionDescriptor`, `Device` — the descriptor fields the poller reads, and a device as its
  name and descriptor table;
* `Sample` — what one `GET_VALUE` call leaves behind: its status and the value buffer;
* `OptValue` — `struct sane_opt_value`, with `getSaneOptionValue` (`get_sane_option_value`)
  and the string `hash` it stores for a string option;
* `RegexLib` — `regcomp` and `regexec` as the daemon calls them.

The descriptor table is fixed for the life of a device; its values are not: which value a
read returns is the device's choice, and the models above take it as an argument.
-/

namespace Scanbd

/-- `SANE_Value_Type`. -/
inductive ValueType
  | bool | int | fixed | string | button | group
  deriving DecidableEq, Repr

namespace ValueType

/-- The types whose value `sane.c` reads into an `unsigned long`
(`BOOL || INT || FIXED || BUTTON`). -/
def isNumeric : ValueType → Bool
  | bool | int | fixed | button => true
  | string | group => false

/-- The types the poller installs rules for (`BOOL|INT|FIXED|STRING|BUTTON`). -/
def isPolled (t : ValueType) : Bool := t.isNumeric || t == string

theorem isPolled_iff (t : ValueType) : t.isPolled ↔ t.isNumeric ∨ t = string := by
  cases t <;> decide

end ValueType

/-- The fields of `SANE_Option_Descriptor` the daemon reads. `active` is
`SANE_OPTION_IS_ACTIVE(cap)`; a `NULL` name is `none`. -/
structure OptionDescriptor where
  name : Option String
  type : ValueType
  size : Int
  active : Bool
  deriving DecidableEq, Repr

/-- A SANE device as the poller sees it: its name and its descriptor table, option `0`
included. -/
structure Device where
  name : String
  descriptor : Nat → Option OptionDescriptor

/-- What one `sane_control_option(h, i, SANE_ACTION_GET_VALUE, buf, NULL)` leaves behind:
whether it returned `SANE_STATUS_GOOD`, the `unsigned long` the buffer then holds, and the
C string it holds. -/
structure Sample where
  good : Bool
  word : UInt64
  text : String
  deriving DecidableEq, Repr

/-- `struct sane_opt_value`: `num_value`, `str_value.str` and `str_value.reg`. A compiled
regex is represented by the pattern it was compiled from; `none` is `NULL`. -/
structure OptValue where
  numValue : UInt64
  str : Option String
  reg : Option String
  deriving DecidableEq, Repr

namespace OptValue

/-- `sane_option_value_init`. -/
def init : OptValue := ⟨0, none, none⟩

/-- `sane_option_value_free`: frees and clears the string and the regex; `num_value` stays. -/
def free (v : OptValue) : OptValue := { v with str := none, reg := none }

@[simp] theorem free_numValue (v : OptValue) : v.free.numValue = v.numValue := rfl
@[simp] theorem free_str (v : OptValue) : v.free.str = none := rfl
@[simp] theorem free_reg (v : OptValue) : v.free.reg = none := rfl

end OptValue

/-- The value a (signed) C `char` adds to an `unsigned long`. -/
def charToULong (c : UInt8) : UInt64 :=
  if c < 128 then c.toUInt64 else c.toUInt64 - 256

/-- The bytes of the C string holding `s`: its UTF-8 encoding (`String.toUTF8`), as a list. -/
def cBytes (s : String) : List UInt8 := s.data.flatMap String.utf8EncodeChar

/-- `hash`: djb2 over the bytes of a C string, `hash * 33 + c` in `unsigned long`. -/
def hash (s : String) : UInt64 :=
  (cBytes s).foldl (fun h c => h * 33 + charToULong c) 5381

/-- `get_sane_option_value(h, index)`, given the descriptor `sane_get_option_descriptor`
returns for `index` and the sample of the `GET_VALUE` call it makes. A failed read keeps the
initial value, except that a string read has already allocated its (empty) buffer. -/
def getSaneOptionValue (odesc : Option OptionDescriptor) (s : Sample) : OptValue :=
  match odesc with
  | none => .init
  | some d =>
    if d.type.isNumeric then
      -- `(unsigned int)odesc->size <= sizeof(long int)`
      if 0 ≤ d.size ∧ d.size ≤ 8 then
        if s.good then { OptValue.init with numValue := s.word } else .init
      else .init
    else if d.type = .string then
      if s.good then { OptValue.init with numValue := hash s.text, str := some s.text }
      else { OptValue.init with str := some "" }
    else .init

/-- A value read from the device carries no regex. -/
@[simp] theorem getSaneOptionValue_reg (odesc : Option OptionDescriptor) (s : Sample) :
    (getSaneOptionValue odesc s).reg = none := by
  unfold getSaneOptionValue
  split <;> repeat' split
  all_goals rfl

/-- A read of a string option always yields a string (possibly empty). -/
theorem getSaneOptionValue_str_of_string {d : OptionDescriptor} (hd : d.type = .string)
    (s : Sample) : ∃ t, (getSaneOptionValue (some d) s).str = some t := by
  cases hs : s.good <;> simp [getSaneOptionValue, hd, hs, ValueType.isNumeric]

/-- The POSIX regex calls as the daemon makes them (`REG_EXTENDED | REG_NOSUB`): the code
`regcomp` returns for a pattern (`0` when it compiles, an error code otherwise) and whether
`regexec` of the compiled pattern matches a string. What `regexec` does with a pattern that
did not compile is up to the library as well. -/
structure RegexLib where
  regcomp : String → Int
  regexec : String → String → Bool

end Scanbd
