import Scanbd.Poll

/-!
# Scanbd — numeric trigger values

A `BOOL`, `INT` or `FIXED` option holds one `SANE_Word`, a 32-bit `int` (`size` 4). Three pieces
of code meet in the test of a numerical trigger:
* `get_sane_option_value` (lines 211-225) reads the option with
  `sane_control_option(h, index, SANE_ACTION_GET_VALUE, &value, NULL)` into
  `unsigned long int value = 0`. The backend writes the word's four bytes over the first four
  bytes of `value`;
* `sane_find_matching_options` (lines 533-537) stores the configured `from-value` and
  `to-value`, the `long`s `cfg_getint` returns, into `num_value`, an `unsigned long`
  (`ulong` of `Scanbd.Config`);
* the rule loop (lines 830-833) compares the two `unsigned long`s.

The target is LP64, as the size check of `Scanbd.Sane` already has it (`sizeof(long int)` is
eight bytes), and little-endian. The memory write is modelled byte by byte (`leBytes`,
`writeBytes`, `leValue`).

## Results

* `wordValue_toNat` — the `unsigned long` holds the word's bits, zero-extended;
* `ulong_eq_wordValue_iff` — a configured `long` equals a word read from the device exactly
  when it is the word read as an unsigned 32-bit number, so a negative word `w` is met by
  `w + 2 ^ 32`, never by `w`;
* `numeric_trigger_compares_unsigned` — the rule loop's test, for every rule and every pair
  of words: a rule from `0` to `-1` does not fire when the device goes from `0` to `-1`.
-/

namespace Scanbd

/-! ## Bytes in memory -/

/-- The `n` bytes of the unsigned number `x` in memory, lowest address first, on a
little-endian target. -/
def leBytes : Nat → Nat → List UInt8
  | 0, _ => []
  | n + 1, x => UInt8.ofNat x :: leBytes n (x / 256)

/-- The unsigned number the bytes `bs` hold, lowest address first. -/
def leValue : List UInt8 → Nat
  | [] => 0
  | b :: bs => b.toNat + 256 * leValue bs

/-- The bytes of an object after `bs` is written at its start. -/
def writeBytes (buf bs : List UInt8) : List UInt8 := bs ++ buf.drop bs.length

@[simp] theorem leBytes_length (n x : Nat) : (leBytes n x).length = n := by
  induction n generalizing x with
  | zero => rfl
  | succ n ih => simp [leBytes, ih]

/-- Reading back the `n` bytes of a number below `256 ^ n` gives the number. -/
theorem leValue_leBytes (n x : Nat) (hx : x < 256 ^ n) : leValue (leBytes n x) = x := by
  induction n generalizing x with
  | zero => show 0 = x; rw [Nat.pow_zero] at hx; omega
  | succ n ih =>
    have hq : x / 256 < 256 ^ n := by rw [Nat.pow_succ] at hx; omega
    show x % 256 + 256 * leValue (leBytes n (x / 256)) = x
    rw [ih _ hq]
    omega

theorem leValue_append (xs ys : List UInt8) :
    leValue (xs ++ ys) = leValue xs + 256 ^ xs.length * leValue ys := by
  induction xs with
  | nil => simp [leValue]
  | cons b bs ih =>
    show b.toNat + 256 * leValue (bs ++ ys) =
      b.toNat + 256 * leValue bs + 256 ^ (bs.length + 1) * leValue ys
    rw [ih, Nat.pow_succ, Nat.mul_add, Nat.add_assoc, Nat.mul_comm _ 256, Nat.mul_assoc]

/-! ## A word read into an `unsigned long` -/

/-- `value` after `sane_control_option(h, index, SANE_ACTION_GET_VALUE, &value, NULL)` in
`get_sane_option_value` (lines 214-219), when the backend reports the `SANE_Word` `w`: the four
bytes of `w` written over the eight bytes of `unsigned long int value = 0`. -/
def wordValue (w : BitVec 32) : UInt64 :=
  UInt64.ofNat (leValue (writeBytes (leBytes 8 0) (leBytes 4 w.toNat)))

/-- A read of a one-word option that returns `SANE_STATUS_GOOD` with the word `w`. The buffer
holds no C string; a numeric read does not look at one. -/
def Sample.ofWord (w : BitVec 32) : Sample := ⟨true, wordValue w, ""⟩

/-- **The word is zero-extended.** The upper four bytes of `value` keep their zeros, so the
`unsigned long` holds the word's 32 bits read as an unsigned number. -/
theorem wordValue_toNat (w : BitVec 32) : (wordValue w).toNat = w.toNat := by
  have hw : w.toNat < 256 ^ 4 := w.isLt
  have hbuf : writeBytes (leBytes 8 0) (leBytes 4 w.toNat) = leBytes 4 w.toNat ++ leBytes 4 0 :=
    rfl
  rw [wordValue, hbuf, leValue_append, leValue_leBytes 4 0 (by decide), Nat.mul_zero,
    Nat.add_zero, leValue_leBytes 4 _ hw]
  exact UInt64.toNat_ofNat_of_lt (by unfold UInt64.size; omega)

/-- A configured value stored into `num_value`, as a number below `2 ^ 64`. -/
theorem ulong_toNat (c : Int) : ((ulong c).toNat : Int) = c % 2 ^ 64 := by
  rw [ulong, UInt64.toNat_ofNat_of_lt (by unfold UInt64.size; omega),
    Int.toNat_of_nonneg (by omega)]
  rfl

/-- What `get_sane_option_value` returns for a one-word option read with the word `w`. -/
theorem getSaneOptionValue_ofWord {d : OptionDescriptor} (hnum : d.type.isNumeric = true)
    (hsize : d.size = 4) (w : BitVec 32) :
    (getSaneOptionValue (some d) (Sample.ofWord w)).numValue = wordValue w := by
  simp [getSaneOptionValue, hnum, hsize, Sample.ofWord, OptValue.init]

/-- **A configured value meets a word read from the device as unsigned numbers.** For every
`long` `c` and every word `w` of a one-word numeric option, the rule loop's equality between
`c` stored as `num_value` and the value read holds exactly when `c` is `w` read as an
unsigned 32-bit number. -/
theorem ulong_eq_wordValue_iff {d : OptionDescriptor} (hnum : d.type.isNumeric = true)
    (hsize : d.size = 4) (w : BitVec 32) {c : Int} (hlo : -2 ^ 63 ≤ c) (hhi : c < 2 ^ 63) :
    ulong c = (getSaneOptionValue (some d) (Sample.ofWord w)).numValue ↔ c = w.toNat := by
  rw [getSaneOptionValue_ofWord hnum hsize]
  have hc := ulong_toNat c
  have hw := wordValue_toNat w
  have hlt : w.toNat < 2 ^ 32 := w.isLt
  constructor
  · intro h
    rw [h, hw] at hc
    omega
  · intro h
    exact UInt64.toNat.inj (by omega)

/-- **The rule loop's numeric test.** For every one-word numeric option, every rule whose
configured `from-value` and `to-value` are `long`s, and every pair of words `w₀` (the stored
value) and `w` (the value just read), the test of lines 830-833 holds exactly when the two
configured values are the two words read as unsigned 32-bit numbers. -/
theorem numeric_trigger_compares_unsigned (lib : RegexLib) (e : DevOption) (act : CfgAction)
    {d : OptionDescriptor} (hnum : d.type.isNumeric = true) (hsize : d.size = 4)
    (w₀ w : BitVec 32)
    (hfrom : -2 ^ 63 ≤ act.numericalTrigger.fromValue ∧ act.numericalTrigger.fromValue < 2 ^ 63)
    (hto : -2 ^ 63 ≤ act.numericalTrigger.toValue ∧ act.numericalTrigger.toValue < 2 ^ 63) :
    triggerTest lib d (e.numericTrigger act (getSaneOptionValue (some d) (Sample.ofWord w₀)))
        (getSaneOptionValue (some d) (Sample.ofWord w)) =
      some (decide (act.numericalTrigger.fromValue = w₀.toNat ∧
        act.numericalTrigger.toValue = w.toNat)) := by
  have h₀ := ulong_eq_wordValue_iff hnum hsize w₀ hfrom.1 hfrom.2
  have h₁ := ulong_eq_wordValue_iff hnum hsize w hto.1 hto.2
  rw [triggerTest, if_pos hnum]
  congr 1
  rw [Bool.eq_iff_iff, Bool.and_eq_true, beq_iff_eq, beq_iff_eq, decide_eq_true_eq]
  exact and_congr h₀ h₁

/-- An `INT` option going from `0` to `-1`: the rule from `0` to `-1` does not fire on it, the
rule from `0` to `4294967295` does. -/
theorem numeric_trigger_minus_one :
    triggerTest ⟨fun _ => 0, fun _ _ => false⟩ ⟨some "button", .int, 4, true⟩
        (DevOption.init.numericTrigger ⟨none, "", ⟨0, -1⟩, ⟨"", ""⟩, none⟩
          (getSaneOptionValue (some ⟨some "button", .int, 4, true⟩) (Sample.ofWord 0)))
        (getSaneOptionValue (some ⟨some "button", .int, 4, true⟩) (Sample.ofWord (-1))) =
      some false ∧
    triggerTest ⟨fun _ => 0, fun _ _ => false⟩ ⟨some "button", .int, 4, true⟩
        (DevOption.init.numericTrigger ⟨none, "", ⟨0, 4294967295⟩, ⟨"", ""⟩, none⟩
          (getSaneOptionValue (some ⟨some "button", .int, 4, true⟩) (Sample.ofWord 0)))
        (getSaneOptionValue (some ⟨some "button", .int, 4, true⟩) (Sample.ofWord (-1))) =
      some true :=
  ⟨(numeric_trigger_compares_unsigned _ _ _ (d := ⟨some "button", .int, 4, true⟩) rfl rfl
      0 (-1) (by decide) (by decide)).trans (by decide),
    (numeric_trigger_compares_unsigned _ _ _ (d := ⟨some "button", .int, 4, true⟩) rfl rfl
      0 (-1) (by decide) (by decide)).trans (by decide)⟩

end Scanbd
