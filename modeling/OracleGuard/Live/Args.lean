import Mathlib.Data.List.Basic
import OracleGuard.Adapter.HexCodecs
import OracleGuard.Flags
import OracleGuard.Json.Grammar

/-!
The command lines of the live tools.

* `parseU64_eq_some`: the words that are read as numbers.
* `command_lines_read`: each tool accepts the lines of its own flags and reads the last
  value of each.
-/

namespace OracleGuard

open Fallible Flags Hex Wire

/-! ## Numbers -/

def checkedMul (a b : UInt64) : Option UInt64 :=
  if a.toNat * b.toNat < 2 ^ 64 then some (a * b) else none

def checkedAdd (a b : UInt64) : Option UInt64 :=
  if a.toNat + b.toNat < 2 ^ 64 then some (a + b) else none

def parseDigits : Bytes → UInt64 → Option UInt64
  | [], n => some n
  | c :: digits, n =>
    if Json.isDigit c then do
      let n ← checkedMul n 10
      let n ← checkedAdd n (c - 0x30).toUInt64
      parseDigits digits n
    else none

/-- `u64::from_str`, whose errors all come to the same here. -/
def parseU64 (word : String) : Option UInt64 :=
  match utf8 word with
  | [] => none
  | c :: digits =>
    if digits = [] ∧ (c = 0x2b ∨ c = 0x2d) then none
    else if c = 0x2b then parseDigits digits 0
    else parseDigits (c :: digits) 0

theorem checkedMul_eq_some {a b c : UInt64} :
    checkedMul a b = some c ↔ a.toNat * b.toNat = c.toNat := by
  have hc := c.toNat_lt
  unfold checkedMul
  split
  next hfits =>
    rw [Option.some_inj, ← UInt64.toNat_inj, UInt64.toNat_mul, Nat.mod_eq_of_lt hfits]
  next hlarge =>
    constructor
    · rintro ⟨⟩
    · intro heq
      omega

theorem checkedAdd_eq_some {a b c : UInt64} :
    checkedAdd a b = some c ↔ a.toNat + b.toNat = c.toNat := by
  have hc := c.toNat_lt
  unfold checkedAdd
  split
  next hfits =>
    rw [Option.some_inj, ← UInt64.toNat_inj, UInt64.toNat_add, Nat.mod_eq_of_lt hfits]
  next hlarge =>
    constructor
    · rintro ⟨⟩
    · intro heq
      omega

/-- The value of digits behind digits that are worth `n`. -/
def valueAfter (n : Nat) (digits : Bytes) : Nat :=
  digits.foldl (fun n b => 10 * n + (b.toNat - Json.ZERO.toNat)) n

theorem le_valueAfter (n : Nat) (digits : Bytes) : n ≤ valueAfter n digits := by
  induction digits generalizing n with
  | nil => exact Nat.le_refl n
  | cons c digits ih =>
    have htail := ih (10 * n + (c.toNat - Json.ZERO.toNat))
    simp only [valueAfter, List.foldl_cons] at htail ⊢
    omega

theorem toNat_digit {c : UInt8} (hc : Json.isDigit c = true) :
    (c - 0x30).toUInt64.toNat = c.toNat - Json.ZERO.toNat := by
  have hzero : Json.ZERO.toNat = 48 := rfl
  have hlt := c.toNat_lt
  simp only [Json.isDigit, Bool.and_eq_true, decide_eq_true_eq, UInt8.le_iff_toNat_le] at hc
  simp only [UInt8.toNat_toUInt64, UInt8.toNat_sub, UInt8.reduceToNat]
  omega

theorem parseDigits_eq_some {digits : Bytes} {n m : UInt64} :
    parseDigits digits n = some m ↔
      (∀ c ∈ digits, Json.isDigit c = true) ∧ valueAfter n.toNat digits = m.toNat := by
  induction digits generalizing n with
  | nil => simp [parseDigits, valueAfter, UInt64.toNat_inj]
  | cons c digits ih =>
    unfold parseDigits
    split
    next hc =>
      have hten : (10 : UInt64).toNat = 10 := rfl
      simp only [Option.bind_eq_bind, Option.bind_eq_some_iff, checkedMul_eq_some,
        checkedAdd_eq_some, ih, toNat_digit hc, List.forall_mem_cons, hc, true_and, valueAfter,
        List.foldl_cons, hten]
      constructor
      · rintro ⟨product, hproduct, sum, hsum, hall, hvalue⟩
        refine ⟨hall, ?_⟩
        rwa [Nat.mul_comm 10, hproduct, hsum]
      · rintro ⟨hall, hvalue⟩
        -- what is read in the end bounds what was read so far
        have hle := le_valueAfter (10 * n.toNat + (c.toNat - Json.ZERO.toNat)) digits
        have hm := m.toNat_lt
        simp only [valueAfter, hvalue] at hle
        refine ⟨UInt64.ofNat (n.toNat * 10), ?_,
          UInt64.ofNat (n.toNat * 10 + (c.toNat - Json.ZERO.toNat)), ?_, hall, ?_⟩
        · rw [UInt64.toNat_ofNat', Nat.mod_eq_of_lt (by omega)]
        · rw [UInt64.toNat_ofNat', UInt64.toNat_ofNat', Nat.mod_eq_of_lt (by omega),
            Nat.mod_eq_of_lt (by omega)]
        · rw [UInt64.toNat_ofNat', Nat.mod_eq_of_lt (by omega), Nat.mul_comm]
          exact hvalue
    next hc => simp [hc]

theorem parseDigits_zero {digits : Bytes} (hne : digits ≠ []) {n : UInt64} :
    parseDigits digits 0 = some n ↔
      Json.isDigits digits = true ∧ Json.digitsValue digits = n.toNat := by
  have hempty : digits.isEmpty = false := List.isEmpty_eq_false_iff.mpr hne
  rw [parseDigits_eq_some, Json.isDigits, hempty, Bool.not_false, Bool.true_and, List.all_eq_true]
  rfl

/-- Digits, with a plus sign in front or not. -/
def SpellsNumber (word : String) (n : UInt64) : Prop :=
  ∃ digits, (utf8 word = digits ∨ utf8 word = 0x2b :: digits) ∧
    Json.isDigits digits = true ∧ Json.digitsValue digits = n.toNat

theorem parseU64_eq_some {word : String} {n : UInt64} :
    parseU64 word = some n ↔ SpellsNumber word n := by
  have hplus : ∀ {digits}, Json.isDigits (0x2b :: digits) = false := by
    intro digits
    simp [Json.isDigits, show Json.isDigit 0x2b = false by decide]
  unfold parseU64 SpellsNumber
  split
  next hword =>
    rw [hword]
    constructor
    · rintro ⟨⟩
    · rintro ⟨digits, rfl | hnil, hdigits, -⟩
      · cases hdigits
      · cases hnil
  next c digits hword =>
    rw [hword]
    split_ifs with hsign hc
    · obtain ⟨rfl, hsign⟩ := hsign
      constructor
      · rintro ⟨⟩
      · rintro ⟨digits, rfl | hcons, hdigits, -⟩
        · rcases hsign with rfl | rfl <;> cases hdigits
        · cases hcons
          cases hdigits
    · subst hc
      rw [parseDigits_zero (fun hnil => hsign ⟨hnil, .inl rfl⟩)]
      constructor
      · exact fun h => ⟨digits, .inr rfl, h⟩
      · rintro ⟨digits', rfl | hcons, h⟩
        · cases hplus.symm.trans h.1
        · cases hcons
          exact h
    · rw [parseDigits_zero (List.cons_ne_nil _ _)]
      constructor
      · exact fun h => ⟨_, .inl rfl, h⟩
      · rintro ⟨digits', rfl | hcons, h⟩
        · exact h
        · cases hcons
          exact absurd rfl hc

/-! ## Flags -/

/-- Why a tool does not run. -/
inductive Stop where
  | help
  | usage (err : String)
  deriving DecidableEq, Repr

section Tool

variable {σ : Type}

def needsValue (name : String) : Stop := .usage (name ++ " needs a value")

def textFlag (name : String) (set : String → σ → σ) : Flag σ Stop :=
  .value (needsValue name) fun word => .ok (set word)

def numberFlag (name invalid : String) (set : UInt64 → σ → σ) : Flag σ Stop :=
  .value (needsValue name) fun word =>
    match parseU64 word with
    | none => .error (.usage (invalid ++ " '" ++ word ++ "'"))
    | some n => .ok (set n)

/-- The last arms of both tools. -/
def otherFlag (name : String) : Flag σ Stop :=
  .stop (if name = "-h" ∨ name = "--help" then .help else .usage ("unknown flag '" ++ name ++ "'"))

def required (value : Option σ) (err : String) : Except Stop σ :=
  match value with
  | none => .error (.usage err)
  | some a => .ok a

@[simp] theorem textFlag_update {name word : String} {set : String → σ → σ} {update : σ → σ} :
    (textFlag name set).update word = .ok update ↔ set word = update := by
  simp [textFlag, Flag.update]

@[simp] theorem numberFlag_update {name invalid word : String} {set : UInt64 → σ → σ}
    {update : σ → σ} : (numberFlag name invalid set).update word = .ok update ↔
      ∃ n, parseU64 word = some n ∧ set n = update := by
  cases hword : parseU64 word <;> simp [numberFlag, Flag.update, hword]

@[simp] theorem otherFlag_update {name word : String} {update : σ → σ} :
    ¬ (otherFlag name : Flag σ Stop).update word = .ok update := by
  simp [otherFlag, Flag.update]

@[simp] theorem required_eq_ok {value : Option σ} {err : String} {a : σ} :
    required value err = .ok a ↔ value = some a := by
  cases value <;> simp [required]

end Tool

/-- A setting of one of the flags, and of a number where the flag takes one. -/
def Accepted (texts numbers : List String) (setting : String × String) : Prop :=
  setting.1 ∈ texts ∨ setting.1 ∈ numbers ∧ ∃ n, SpellsNumber setting.2 n

/-- The number that a flag is set to. -/
theorem required_number {given : Option String} {n : UInt64} :
    given.bind parseU64 = some n ↔ ∃ word, given = some word ∧ SpellsNumber word n := by
  simp only [Option.bind_eq_some_iff, parseU64_eq_some]

/-- The number that a flag is set to, or the one that stands where it is not set. -/
def ReadsNumber (given : Option String) (otherwise n : UInt64) : Prop :=
  given = none ∧ n = otherwise ∨ ∃ word, given = some word ∧ SpellsNumber word n

theorem optional_number {texts numbers : List String} {settings : List (String × String)}
    (hall : ∀ setting ∈ settings, Accepted texts numbers setting) {name : String}
    (hname : name ∉ texts) {otherwise n : UInt64} :
    ((last settings name).bind parseU64).getD otherwise = n ↔
      ReadsNumber (last settings name) otherwise n := by
  unfold ReadsNumber
  cases hlast : last settings name with
  | none => simp [eq_comm]
  | some word =>
    -- the word was accepted, so the default does not hide an error
    obtain htext | ⟨-, m, hm⟩ := hall _ (mem_of_last hlast)
    · exact absurd htext hname
    · have hword := parseU64_eq_some.mpr hm
      simp [hword, ← parseU64_eq_some]

def AsksForHelp (name : String) : Prop := name = "-h" ∨ name = "--help"

/-- A line is answered with the help where all is well up to that flag. -/
theorem scan_help {σ : Type} {flag : String → Flag σ Stop} {accepted : String × String → Prop}
    (haccepted : ∀ setting, (∃ update, Updates flag setting update) ↔ accepted setting)
    (halone : ∀ name, (flag name).alone = .help ↔ AsksForHelp name)
    (hupdate : ∀ name word, (flag name).update word = .error .help ↔ AsksForHelp name)
    {args : List String} {s : σ} :
    scan flag args s = .error .help ↔ ∃ settings name rest, args = words settings ++ name :: rest ∧
      (∀ setting ∈ settings, accepted setting) ∧ AsksForHelp name := by
  rw [scan_eq_error]
  constructor
  · rintro ⟨settings, updates, name, rest, hargs, hall, hstop⟩
    refine ⟨settings, name, rest, hargs, (exists_updates haccepted).mp ⟨updates, hall⟩, ?_⟩
    cases rest with
    | nil => exact (halone name).mp hstop
    | cons word rest => exact (hupdate name word).mp hstop
  · rintro ⟨settings, name, rest, hargs, hall, hhelp⟩
    obtain ⟨updates, hupdates⟩ := (exists_updates haccepted).mpr hall
    refine ⟨settings, updates, name, rest, hargs, hupdates, ?_⟩
    cases rest with
    | nil => exact (halone name).mpr hhelp
    | cons word rest => exact (hupdate name word).mpr hhelp

section Help

variable {σ : Type} {name invalid word : String}

@[simp] theorem textFlag_alone {set : String → σ → σ} :
    ¬ (textFlag name set).alone = .help := by
  simp [textFlag, Flag.alone, needsValue]

@[simp] theorem numberFlag_alone {set : UInt64 → σ → σ} :
    ¬ (numberFlag name invalid set).alone = .help := by
  simp [numberFlag, Flag.alone, needsValue]

@[simp] theorem textFlag_ne_help {set : String → σ → σ} :
    ¬ (textFlag name set).update word = .error .help := by
  simp [textFlag, Flag.update]

@[simp] theorem numberFlag_ne_help {set : UInt64 → σ → σ} :
    ¬ (numberFlag name invalid set).update word = .error .help := by
  cases hword : parseU64 word <;> simp [numberFlag, Flag.update, hword]

@[simp] theorem otherFlag_alone :
    (otherFlag name : Flag σ Stop).alone = .help ↔ AsksForHelp name := by
  unfold otherFlag Flag.alone AsksForHelp
  split_ifs <;> simp_all

@[simp] theorem otherFlag_help :
    (otherFlag name : Flag σ Stop).update word = .error .help ↔ AsksForHelp name := by
  unfold otherFlag Flag.update AsksForHelp
  split_ifs <;> simp_all

end Help

theorem required_avoids {σ : Type} (value : Option σ) (err : String) :
    Avoids (· = .help) (required value err) := by
  cases value with
  | none => exact Avoids.error Stop.noConfusion
  | some a => exact Avoids.ok a

/-! ## `verify_live_bundle` -/

namespace VerifyLiveBundle

structure Args where
  intentPath : String
  authPath : String
  txHash : Option Bytes32
  committedHeight : UInt64
  allocationBasisLovelace : UInt64
  deriving DecidableEq, Repr

/-- The variables that the loop fills in. -/
structure Given where
  intentPath : Option String
  authPath : Option String
  txHashHex : Option String
  committedHeight : Option UInt64
  allocationBasisLovelace : UInt64
  deriving DecidableEq, Repr

def nothingGiven : Given := ⟨none, none, none, none, 1000000000⟩

def flag (name : String) : Flag Given Stop :=
  if name = "--intent-path" then
    textFlag name fun word given => { given with intentPath := some word }
  else if name = "--auth-path" then
    textFlag name fun word given => { given with authPath := some word }
  else if name = "--tx-hash" then
    textFlag name fun word given => { given with txHashHex := some word }
  else if name = "--committed-height" then
    numberFlag name "invalid --committed-height value" fun n given =>
      { given with committedHeight := some n }
  else if name = "--allocation-basis-lovelace" then
    numberFlag name "invalid --allocation-basis-lovelace value" fun n given =>
      { given with allocationBasisLovelace := n }
  else otherFlag name

def hexNibble (b : UInt8) : Except String UInt8 :=
  if 0x30 ≤ b ∧ b ≤ 0x39 then .ok (b - 0x30)
  else if 0x61 ≤ b ∧ b ≤ 0x66 then .ok (b - 0x61 + 10)
  else if 0x41 ≤ b ∧ b ≤ 0x46 then .ok (b - 0x41 + 10)
  else .error ("invalid hex char '" ++ String.singleton (Char.ofNat b.toNat) ++ "'")

def decodeTxHash (s : String) : Except String Bytes32 :=
  if (utf8 s).length ≠ 64 then
    .error ("--tx-hash must be 64 hex chars (got " ++ toString (utf8 s).length ++ " chars)")
  else (Hex.decodeChunks hexNibble (utf8 s)).map fun bytes => overwrite 32 bytes

def readTxHash : Option String → Except Stop (Option Bytes32)
  | some hex => ((decodeTxHash hex).map some).mapError .usage
  | none => .ok none

def parseArgs (args : List String) : Except Stop Args := do
  let given ← scan flag args nothingGiven
  let intentPath ← required given.intentPath "--intent-path is required"
  let authPath ← required given.authPath "--auth-path is required"
  let committedHeight ← required given.committedHeight "--committed-height is required"
  let txHash ← readTxHash given.txHashHex
  return {
    intentPath
    authPath
    txHash
    committedHeight
    allocationBasisLovelace := given.allocationBasisLovelace }

theorem updates_iff {setting : String × String} {update : Given → Given} :
    Updates flag setting update ↔
      (setting.1 = "--intent-path" ∧
        update = fun given => { given with intentPath := some setting.2 }) ∨
      (setting.1 = "--auth-path" ∧
        update = fun given => { given with authPath := some setting.2 }) ∨
      (setting.1 = "--tx-hash" ∧
        update = fun given => { given with txHashHex := some setting.2 }) ∨
      (setting.1 = "--committed-height" ∧ ∃ n, parseU64 setting.2 = some n ∧
        update = fun given => { given with committedHeight := some n }) ∨
      (setting.1 = "--allocation-basis-lovelace" ∧ ∃ n, parseU64 setting.2 = some n ∧
        update = fun given => { given with allocationBasisLovelace := n }) := by
  obtain ⟨name, word⟩ := setting
  simp only [Updates, flag]
  split_ifs <;> simp_all [eq_comm]

/-- What a list of settings fills in. -/
def Given.of (settings : List (String × String)) : Given where
  intentPath := last settings "--intent-path"
  authPath := last settings "--auth-path"
  txHashHex := last settings "--tx-hash"
  committedHeight := (last settings "--committed-height").bind parseU64
  allocationBasisLovelace :=
    ((last settings "--allocation-basis-lovelace").bind parseU64).getD 1000000000

def AcceptedFlag : String × String → Prop :=
  Accepted ["--intent-path", "--auth-path", "--tx-hash"]
    ["--committed-height", "--allocation-basis-lovelace"]

theorem accepted_iff (setting : String × String) :
    (∃ update, Updates flag setting update) ↔ AcceptedFlag setting := by
  obtain ⟨name, word⟩ := setting
  simp only [updates_iff, AcceptedFlag, Accepted, ← parseU64_eq_some]
  grind

theorem of_snoc {settings : List (String × String)} {setting : String × String}
    {update : Given → Given} (h : Updates flag setting update) :
    Given.of (settings ++ [setting]) = update (Given.of settings) := by
  rcases updates_iff.mp h with ⟨hname, rfl⟩ | ⟨hname, rfl⟩ | ⟨hname, rfl⟩ | ⟨hname, n, hn, rfl⟩ |
    ⟨hname, n, hn, rfl⟩
  all_goals simp [Given.of, hname]
  all_goals simp [hn]

def lowercase (b : UInt8) : UInt8 := if 0x41 ≤ b ∧ b ≤ 0x5a then b + 0x20 else b

/-- The third arm reads a lowercased digit as the second one does. -/
theorem hexNibble_eq_ok (b v : UInt8) :
    hexNibble b = .ok v ↔ Cardano.decodeNibble (lowercase b) = .ok v := by
  by_cases hupper : 0x41 ≤ b ∧ b ≤ 0x5a
  · have hrange : 65 ≤ b.toNat ∧ b.toNat ≤ 90 := hupper
    have hsum : (b + 0x20).toNat = b.toNat + 32 := by
      simp only [UInt8.toNat_add, UInt8.reduceToNat]
      omega
    have hvalue : b + 0x20 - 0x61 + 10 = b - 0x41 + 10 := by
      apply UInt8.toNat_inj.mp
      simp only [UInt8.toNat_add, UInt8.toNat_sub, UInt8.reduceToNat]
      omega
    rw [lowercase, if_pos hupper]
    simp only [hexNibble, Cardano.decodeNibble, hvalue, UInt8.le_iff_toNat_le, hsum,
      UInt8.reduceToNat]
    split_ifs <;> first | omega | simp
  · rw [lowercase, if_neg hupper]
    simp only [hexNibble, Cardano.decodeNibble, UInt8.le_iff_toNat_le, UInt8.reduceToNat]
      at hupper ⊢
    split_ifs <;> first | omega | simp

/-- **Upper case is read as lower case.** -/
theorem decodeTxHash_eq_ok {s : String} {k : Bytes32} :
    decodeTxHash s = .ok k ↔ (utf8 s).map lowercase = Hex.digitBytes k.toList := by
  have hnibble : Hex.ReadsNibbles Cardano.decodeNibble :=
    Hex.readsNibbles_ranges fun v h => by cases h
  have hlower : ∀ {bs}, Hex.decodeChunks hexNibble (utf8 s) = .ok bs ↔
      Hex.decodeChunks Cardano.decodeNibble ((utf8 s).map lowercase) = .ok bs :=
    Hex.decodeChunks_map hexNibble_eq_ok
  rw [decodeTxHash, guard_eq_ok, not_not, map_eq_ok]
  simp only [hlower]
  constructor
  · rintro ⟨hlength, bs, hbs, rfl⟩
    have heven : ((utf8 s).map lowercase).length % 2 = 0 := by rw [List.length_map, hlength]
    have hdigits := Hex.digitBytes_of_decodeChunks hnibble heven hbs
    have hcount : bs.length = 32 := by
      have hlengths := congrArg List.length hdigits
      rw [List.length_map, hlength, Hex.length_digitBytes] at hlengths
      omega
    rw [hdigits, toList_overwrite hcount.le, hcount, Nat.sub_self, List.replicate_zero,
      List.append_nil]
  · intro h
    have hlength := congrArg List.length h
    rw [List.length_map, Hex.length_digitBytes, Vector.length_toList] at hlength
    refine ⟨hlength, k.toList, ?_, overwrite_toList k⟩
    rw [h]
    exact Hex.decodeChunks_digitBytes hnibble k.toList

theorem readTxHash_eq_ok {given : Option String} {txHash : Option Bytes32} :
    readTxHash given = .ok txHash ↔
      given = none ∧ txHash = none ∨ ∃ hex k, given = some hex ∧ txHash = some k ∧
        (utf8 hex).map lowercase = Hex.digitBytes k.toList := by
  cases given with
  | none => simp [readTxHash, eq_comm]
  | some hex =>
    rw [readTxHash, mapError_eq_ok, map_eq_ok]
    simp only [decodeTxHash_eq_ok]
    constructor
    · rintro ⟨k, hk, rfl⟩
      exact .inr ⟨hex, k, rfl, rfl, hk⟩
    · rintro (⟨hnone, -⟩ | ⟨_, k, hsome, rfl, hk⟩)
      · cases hnone
      · cases hsome
        exact ⟨k, hk, rfl⟩

/-- The arguments that a list of settings stands for. -/
structure Means (settings : List (String × String)) (a : Args) : Prop where
  intentPath : last settings "--intent-path" = some a.intentPath
  authPath : last settings "--auth-path" = some a.authPath
  txHash : last settings "--tx-hash" = none ∧ a.txHash = none ∨
    ∃ hex k, last settings "--tx-hash" = some hex ∧ a.txHash = some k ∧
      (utf8 hex).map lowercase = Hex.digitBytes k.toList
  committedHeight : ∃ word, last settings "--committed-height" = some word ∧
    SpellsNumber word a.committedHeight
  allocationBasisLovelace : ReadsNumber (last settings "--allocation-basis-lovelace")
    1000000000 a.allocationBasisLovelace

/-- **The command line of `verify_live_bundle`.** -/
theorem parseArgs_eq_ok {args : List String} {a : Args} :
    parseArgs args = .ok a ↔ ∃ settings, args = words settings ∧
      (∀ setting ∈ settings, AcceptedFlag setting) ∧ Means settings a := by
  have hscan : ∀ {given}, scan flag args nothingGiven = .ok given ↔ ∃ settings,
      args = words settings ∧ (∀ setting ∈ settings, AcceptedFlag setting) ∧
        Given.of settings = given :=
    scan_accepted rfl of_snoc accepted_iff
  simp only [parseArgs, bind_eq_ok, hscan, required_eq_ok, readTxHash_eq_ok]
  constructor
  · rintro ⟨_, ⟨settings, hargs, hall, rfl⟩, i, hi, p, hp, height, hheight, k, hk, h⟩
    cases h
    exact ⟨settings, hargs, hall, hi, hp, hk, required_number.mp hheight,
      (optional_number hall (by decide)).mp rfl⟩
  · rintro ⟨settings, hargs, hall, h⟩
    refine ⟨_, ⟨settings, hargs, hall, rfl⟩, _, h.intentPath, _, h.authPath, _,
      required_number.mpr h.committedHeight, _, h.txHash, ?_⟩
    rw [Given.of, (optional_number hall (by decide)).mpr h.allocationBasisLovelace]
    rfl

theorem flag_help (name : String) : (flag name).alone = .help ↔ AsksForHelp name := by
  unfold flag
  split_ifs
  all_goals simp_all [AsksForHelp]

theorem flag_update_help (name word : String) :
    (flag name).update word = .error .help ↔ AsksForHelp name := by
  unfold flag
  split_ifs
  all_goals simp_all [AsksForHelp]

theorem readTxHash_avoids (given : Option String) :
    Avoids (· = .help) (readTxHash given) := by
  cases given with
  | none => exact Avoids.ok none
  | some hex =>
    rw [readTxHash]
    cases decodeTxHash hex with
    | error err => exact Avoids.error Stop.noConfusion
    | ok k => exact Avoids.ok (some k)

theorem parseArgs_help {args : List String} :
    parseArgs args = .error .help ↔ ∃ settings name rest, args = words settings ++ name :: rest ∧
      (∀ setting ∈ settings, AcceptedFlag setting) ∧ AsksForHelp name := by
  rw [← scan_help accepted_iff flag_help flag_update_help]
  refine Avoids.bind_eq_error fun given => ?_
  refine (required_avoids _ _).bind fun _ _ => (required_avoids _ _).bind fun _ _ =>
    (required_avoids _ _).bind fun _ _ => (readTxHash_avoids _).bind fun _ _ => Avoids.ok _

end VerifyLiveBundle

/-! ## `build_live_scenario` -/

namespace BuildLiveScenario

structure Args where
  templateIntent : String
  allocationLovelace : UInt64
  allowIntentOut : String
  allowResultOut : String
  denyIntentOut : String
  denyResultOut : String
  kupoUrl : Option String
  deriving DecidableEq, Repr

/-- The variables that the loop fills in. -/
structure Given where
  templateIntent : Option String
  allocationLovelace : UInt64
  allowIntentOut : Option String
  allowResultOut : Option String
  denyIntentOut : Option String
  denyResultOut : Option String
  kupoUrl : Option String
  deriving DecidableEq, Repr

def nothingGiven : Given := ⟨none, 1000000000, none, none, none, none, none⟩

def flag (name : String) : Flag Given Stop :=
  if name = "--template-intent" then
    textFlag name fun word given => { given with templateIntent := some word }
  else if name = "--allocation-lovelace" then
    numberFlag name "invalid --allocation-lovelace" fun n given =>
      { given with allocationLovelace := n }
  else if name = "--allow-intent-out" then
    textFlag name fun word given => { given with allowIntentOut := some word }
  else if name = "--allow-result-out" then
    textFlag name fun word given => { given with allowResultOut := some word }
  else if name = "--deny-intent-out" then
    textFlag name fun word given => { given with denyIntentOut := some word }
  else if name = "--deny-result-out" then
    textFlag name fun word given => { given with denyResultOut := some word }
  else if name = "--kupo-url" then
    textFlag name fun word given => { given with kupoUrl := some word }
  else otherFlag name

def parseArgs (args : List String) : Except Stop Args := do
  let given ← scan flag args nothingGiven
  return {
    templateIntent := ← required given.templateIntent "--template-intent required"
    allocationLovelace := given.allocationLovelace
    allowIntentOut := ← required given.allowIntentOut "--allow-intent-out required"
    allowResultOut := ← required given.allowResultOut "--allow-result-out required"
    denyIntentOut := ← required given.denyIntentOut "--deny-intent-out required"
    denyResultOut := ← required given.denyResultOut "--deny-result-out required"
    kupoUrl := given.kupoUrl }

theorem updates_iff {setting : String × String} {update : Given → Given} :
    Updates flag setting update ↔
      (setting.1 = "--template-intent" ∧
        update = fun given => { given with templateIntent := some setting.2 }) ∨
      (setting.1 = "--allocation-lovelace" ∧ ∃ n, parseU64 setting.2 = some n ∧
        update = fun given => { given with allocationLovelace := n }) ∨
      (setting.1 = "--allow-intent-out" ∧
        update = fun given => { given with allowIntentOut := some setting.2 }) ∨
      (setting.1 = "--allow-result-out" ∧
        update = fun given => { given with allowResultOut := some setting.2 }) ∨
      (setting.1 = "--deny-intent-out" ∧
        update = fun given => { given with denyIntentOut := some setting.2 }) ∨
      (setting.1 = "--deny-result-out" ∧
        update = fun given => { given with denyResultOut := some setting.2 }) ∨
      (setting.1 = "--kupo-url" ∧
        update = fun given => { given with kupoUrl := some setting.2 }) := by
  obtain ⟨name, word⟩ := setting
  simp only [Updates, flag]
  split_ifs <;> simp_all [eq_comm]

/-- What a list of settings fills in. -/
def Given.of (settings : List (String × String)) : Given where
  templateIntent := last settings "--template-intent"
  allocationLovelace := ((last settings "--allocation-lovelace").bind parseU64).getD 1000000000
  allowIntentOut := last settings "--allow-intent-out"
  allowResultOut := last settings "--allow-result-out"
  denyIntentOut := last settings "--deny-intent-out"
  denyResultOut := last settings "--deny-result-out"
  kupoUrl := last settings "--kupo-url"

def AcceptedFlag : String × String → Prop :=
  Accepted ["--template-intent", "--allow-intent-out", "--allow-result-out",
    "--deny-intent-out", "--deny-result-out", "--kupo-url"] ["--allocation-lovelace"]

theorem accepted_iff (setting : String × String) :
    (∃ update, Updates flag setting update) ↔ AcceptedFlag setting := by
  obtain ⟨name, word⟩ := setting
  simp only [updates_iff, AcceptedFlag, Accepted, ← parseU64_eq_some]
  grind

theorem of_snoc {settings : List (String × String)} {setting : String × String}
    {update : Given → Given} (h : Updates flag setting update) :
    Given.of (settings ++ [setting]) = update (Given.of settings) := by
  rcases updates_iff.mp h with ⟨hname, rfl⟩ | ⟨hname, n, hn, rfl⟩ | ⟨hname, rfl⟩ | ⟨hname, rfl⟩ |
    ⟨hname, rfl⟩ | ⟨hname, rfl⟩ | ⟨hname, rfl⟩
  all_goals simp [Given.of, hname]
  exact congrArg (Option.getD · _) hn

/-- The arguments that a list of settings stands for. -/
structure Means (settings : List (String × String)) (a : Args) : Prop where
  templateIntent : last settings "--template-intent" = some a.templateIntent
  allocationLovelace :
    ReadsNumber (last settings "--allocation-lovelace") 1000000000 a.allocationLovelace
  allowIntentOut : last settings "--allow-intent-out" = some a.allowIntentOut
  allowResultOut : last settings "--allow-result-out" = some a.allowResultOut
  denyIntentOut : last settings "--deny-intent-out" = some a.denyIntentOut
  denyResultOut : last settings "--deny-result-out" = some a.denyResultOut
  kupoUrl : a.kupoUrl = last settings "--kupo-url"

/-- **The command line of `build_live_scenario`.** -/
theorem parseArgs_eq_ok {args : List String} {a : Args} :
    parseArgs args = .ok a ↔ ∃ settings, args = words settings ∧
      (∀ setting ∈ settings, AcceptedFlag setting) ∧ Means settings a := by
  have hscan : ∀ {given}, scan flag args nothingGiven = .ok given ↔ ∃ settings,
      args = words settings ∧ (∀ setting ∈ settings, AcceptedFlag setting) ∧
        Given.of settings = given :=
    scan_accepted rfl of_snoc accepted_iff
  simp only [parseArgs, bind_eq_ok, hscan, required_eq_ok]
  constructor
  · rintro ⟨_, ⟨settings, hargs, hall, rfl⟩, a1, h1, a2, h2, a3, h3, a4, h4, a5, h5, h⟩
    cases h
    exact ⟨settings, hargs, hall, h1, (optional_number hall (by decide)).mp rfl,
      h2, h3, h4, h5, rfl⟩
  · rintro ⟨settings, hargs, hall, h⟩
    refine ⟨_, ⟨settings, hargs, hall, rfl⟩, _, h.templateIntent, _, h.allowIntentOut, _,
      h.allowResultOut, _, h.denyIntentOut, _, h.denyResultOut, ?_⟩
    show Except.ok _ = Except.ok a
    congr 1
    cases a
    congr 1
    · exact (optional_number hall (by decide)).mpr h.allocationLovelace
    · exact h.kupoUrl.symm

theorem flag_help (name : String) : (flag name).alone = .help ↔ AsksForHelp name := by
  unfold flag
  split_ifs
  all_goals simp_all [AsksForHelp]

theorem flag_update_help (name word : String) :
    (flag name).update word = .error .help ↔ AsksForHelp name := by
  unfold flag
  split_ifs
  all_goals simp_all [AsksForHelp]

theorem parseArgs_help {args : List String} :
    parseArgs args = .error .help ↔ ∃ settings name rest, args = words settings ++ name :: rest ∧
      (∀ setting ∈ settings, AcceptedFlag setting) ∧ AsksForHelp name := by
  rw [← scan_help accepted_iff flag_help flag_update_help]
  refine Avoids.bind_eq_error fun given => ?_
  refine (required_avoids _ _).bind fun _ _ => (required_avoids _ _).bind fun _ _ =>
    (required_avoids _ _).bind fun _ _ => (required_avoids _ _).bind fun _ _ =>
    (required_avoids _ _).bind fun _ _ => Avoids.ok _

end BuildLiveScenario

/-! ## Both tools -/

/-- How a tool reads its command line. -/
structure ReadsLine {α : Type} (parse : List String → Except Stop α)
    (accepted : String × String → Prop) (means : List (String × String) → α → Prop)
    (args : List String) : Prop where
  ok (a : α) : parse args = .ok a ↔ ∃ settings, args = words settings ∧
    (∀ setting ∈ settings, accepted setting) ∧ means settings a
  help : parse args = .error .help ↔ ∃ settings name rest, args = words settings ++ name :: rest ∧
    (∀ setting ∈ settings, accepted setting) ∧ AsksForHelp name

/-- **The command lines.** -/
theorem command_lines_read (args : List String) :
    ReadsLine VerifyLiveBundle.parseArgs VerifyLiveBundle.AcceptedFlag
        VerifyLiveBundle.Means args ∧
      ReadsLine BuildLiveScenario.parseArgs BuildLiveScenario.AcceptedFlag
        BuildLiveScenario.Means args :=
  ⟨⟨fun _ => VerifyLiveBundle.parseArgs_eq_ok, VerifyLiveBundle.parseArgs_help⟩,
    ⟨fun _ => BuildLiveScenario.parseArgs_eq_ok, BuildLiveScenario.parseArgs_help⟩⟩

end OracleGuard
