import OracleGuard.Adapter.Settlement
import OracleGuard.Wire.HexLoops

/-!
The argument vector of a settlement, from the Rust side that builds it to the Python
script that reads it. What the script takes from Python is a parameter:
`Python.Documented` says what it relies on.

* `hexEncode_eq`: the hex encoder never gives up and writes lowercase text.
* `readSubmission_eq`: the script reads what was meant exactly when the two strings
  of the backend can be values of options, and otherwise stops.
* `buildSubmitArgs_inj`: a vector stands for one destination, amount and intent.
-/

namespace OracleGuard

open Wire

/-! ## The vector -/

/-- The bytes of a path, which need not be those of a string. -/
abbrev PathBuf := Bytes

def PathBuf.toStringLossy (path : PathBuf) : String := lossy path

structure PyCardanoDisburseBackend where
  helperScript : PathBuf
  ogmiosUrl : String
  poolAddress : String
  deriving DecidableEq, Repr

/-- No digit for a number that is not a nibble. -/
def nibbleToHex (n : UInt8) : Option Char :=
  if n ≤ 9 then some (Char.ofNat (0x30 + n).toNat)
  else if 10 ≤ n ∧ n ≤ 15 then some (Char.ofNat (0x61 + n - 10).toNat)
  else none

/-- The body of the loop over the bytes. -/
def hexPair (b : UInt8) : Option (List Char) := do
  let hi ← nibbleToHex (b >>> 4)
  let lo ← nibbleToHex (b &&& 0x0F)
  return [hi, lo]

def hexEncode (bytes : Bytes) : Option String := do
  let pairs ← bytes.mapM hexPair
  return String.ofList pairs.flatten

def hexEncode57 (bytes : Vector UInt8 57) : Option String := hexEncode bytes.toList

def hexEncode32 (bytes : Bytes32) : Option String := hexEncode bytes.toList

def buildSubmitArgs (backend : PyCardanoDisburseBackend) (request : SettlementRequest) :
    Option (List String) := do
  return [backend.helperScript.toStringLossy,
    "--ogmios-url", backend.ogmiosUrl,
    "--pool-address", backend.poolAddress,
    "--destination-bytes-hex", ← hexEncode57 request.destination.bytes,
    "--destination-length", request.destination.length.toNat.repr,
    "--amount-lovelace", request.amountLovelace.toNat.repr,
    "--intent-id", ← hexEncode32 request.intentId]

/-! ## The script -/

/-- `argparse` decides which strings can be the value of an option; `int` and
`bytes.fromhex` may raise an error. -/
structure Python where
  isValue : String → Bool
  int : String → Option Int
  fromhex : String → Option Bytes

/-- Strings with a leading dash are taken for options, with exceptions that are left
open here; no number is longer than 4300 digits. -/
structure Python.Documented (py : Python) : Prop where
  isValue_plain : ∀ s : String, s.toList.head? ≠ some '-' → py.isValue s = true
  isValue_option : ∀ (s : String) (c : Char) (rest : List Char), s.toList = '-' :: c :: rest →
    c.isAlpha = true → ' ' ∉ rest → py.isValue s = false
  int_digits : ∀ s : String, s.toList ≠ [] → s.length ≤ 4300 →
    (∀ c ∈ s.toList, c.isDigit = true) → py.int s = some (Nat.ofDigitChars 10 s.toList 0)
  fromhex_digits : ∀ s : String, s.length % 2 = 0 → (∀ c ∈ s.toList, Hex.IsDigit c) →
    py.fromhex s = some (Hex.ofText s)

/-- The options read so far. -/
structure Namespace where
  ogmiosUrl : Option String
  poolAddress : Option String
  destinationBytesHex : Option String
  destinationLength : Option Int
  amountLovelace : Option Int
  intentId : Option String
  deriving DecidableEq, Repr

structure Arguments where
  ogmiosUrl : String
  poolAddress : String
  destinationBytesHex : String
  destinationLength : Int
  amountLovelace : Int
  intentId : String
  deriving DecidableEq, Repr

/-- What ends up in the transaction. -/
structure Submitted where
  destination : Bytes
  amountLovelace : Int
  intentId : String
  deriving DecidableEq, Repr

section Script

variable (py : Python)

/-- `add_argument`: two of the options are converted with `type=int`. -/
def Namespace.store (ns : Namespace) (flag value : String) : Option Namespace :=
  if flag = "--ogmios-url" then some { ns with ogmiosUrl := some value }
  else if flag = "--pool-address" then some { ns with poolAddress := some value }
  else if flag = "--destination-bytes-hex" then some { ns with destinationBytesHex := some value }
  else if flag = "--destination-length" then
    (py.int value).map fun n => { ns with destinationLength := some n }
  else if flag = "--amount-lovelace" then
    (py.int value).map fun n => { ns with amountLovelace := some n }
  else if flag = "--intent-id" then some { ns with intentId := some value }
  else none

/-- Options that are spelled in full, each with one value behind it. -/
def parseOptions : Namespace → List String → Option Namespace
  | ns, [] => some ns
  | ns, flag :: value :: rest =>
    if py.isValue value = true then do
      let ns ← ns.store py flag value
      parseOptions ns rest
    else none
  | _, [_] => none

/-- `_parse_args`: every option is required. -/
def parseArgs (argv : List String) : Option Arguments := do
  let ns ← parseOptions py ⟨none, none, none, none, none, none⟩ argv
  return {
    ogmiosUrl := ← ns.ogmiosUrl
    poolAddress := ← ns.poolAddress
    destinationBytesHex := ← ns.destinationBytesHex
    destinationLength := ← ns.destinationLength
    amountLovelace := ← ns.amountLovelace
    intentId := ← ns.intentId }

/-- `_build_destination` -/
def buildDestination (destHex : String) (destLength : Int) : Option Bytes :=
  if destLength < 1 ∨ destLength > 57 then none
  else do
    let full ← py.fromhex destHex
    if full.length > 57 then none else return full.take destLength.toNat

/-- The script's own name comes first in its argument vector. -/
def readSubmission (argv : List String) : Option Submitted := do
  let args ← parseArgs py argv.tail
  let destination ← buildDestination py args.destinationBytesHex args.destinationLength
  return {
    destination
    amountLovelace := args.amountLovelace
    intentId := args.intentId }

end Script

/-! ## Encoding -/

theorem writesNibbles_nibbleToHex : Hex.WritesNibbles nibbleToHex := by decide

theorem hexPair_eq (b : UInt8) :
    hexPair b = some [Hex.digit (b.toNat / 16), Hex.digit (b.toNat % 16)] := by
  have hb := Hex.halves b
  rw [hexPair, Hex.high_nibble, Hex.low_nibble, writesNibbles_nibbleToHex _ hb.1,
    writesNibbles_nibbleToHex _ hb.2]
  rfl

/-- **The encoder writes lowercase text.** -/
theorem hexEncode_eq (bytes : Bytes) : hexEncode bytes = some (Hex.text bytes) := by
  have hpairs : bytes.mapM hexPair =
      some (bytes.map fun b => [Hex.digit (b.toNat / 16), Hex.digit (b.toNat % 16)]) := by
    rw [funext hexPair_eq]
    exact List.mapM_pure
  rw [hexEncode, hpairs]
  show some (String.ofList (List.flatten _)) = _
  rw [← List.flatMap_def]
  rfl

/-- The vector, with both texts written out. -/
def submitArgs (backend : PyCardanoDisburseBackend) (request : SettlementRequest) : List String :=
  [backend.helperScript.toStringLossy,
    "--ogmios-url", backend.ogmiosUrl,
    "--pool-address", backend.poolAddress,
    "--destination-bytes-hex", Hex.text request.destination.bytes.toList,
    "--destination-length", request.destination.length.toNat.repr,
    "--amount-lovelace", request.amountLovelace.toNat.repr,
    "--intent-id", Hex.text request.intentId.toList]

theorem buildSubmitArgs_eq (backend : PyCardanoDisburseBackend) (request : SettlementRequest) :
    buildSubmitArgs backend request = some (submitArgs backend request) := by
  rw [buildSubmitArgs, hexEncode57, hexEncode_eq, hexEncode32, hexEncode_eq]
  rfl

theorem text_inj {bs bs' : Bytes} (h : Hex.text bs = Hex.text bs') : bs = bs' := by
  rw [← Hex.ofText_text bs, h, Hex.ofText_text]

theorem repr_inj {m n : Nat} (h : m.repr = n.repr) : m = n := by
  have hdigits := congrArg (fun s => Nat.ofDigitChars 10 s.toList 0) h
  simpa only [Nat.toList_repr, Nat.ofDigitChars_ten_toDigits] using hdigits

/-- **A vector stands for one request.** -/
theorem buildSubmitArgs_inj {backend : PyCardanoDisburseBackend}
    {request request' : SettlementRequest}
    (h : buildSubmitArgs backend request = buildSubmitArgs backend request') :
    request.destination = request'.destination ∧
      request.amountLovelace = request'.amountLovelace ∧ request.intentId = request'.intentId := by
  rw [buildSubmitArgs_eq, buildSubmitArgs_eq, Option.some_inj] at h
  simp only [submitArgs, List.cons.injEq, true_and, and_true] at h
  obtain ⟨hbytes, hlength, hamount, hintentId⟩ := h
  have hbytes := Vector.toList_inj.mp (text_inj hbytes)
  have hlength := UInt8.toNat_inj.mp (repr_inj hlength)
  refine ⟨?_, UInt64.toNat_inj.mp (repr_inj hamount),
    Vector.toList_inj.mp (text_inj hintentId)⟩
  cases hdestination : request.destination
  cases hdestination' : request'.destination
  rw [hdestination, hdestination'] at hbytes hlength
  cases hbytes
  cases hlength
  rfl

/-! ## Reading -/

theorem parseOptions_value {py : Python} {ns ns' : Namespace} {flag value : String}
    {rest : List String} (hvalue : py.isValue value = true)
    (hstore : ns.store py flag value = some ns') :
    parseOptions py ns (flag :: value :: rest) = parseOptions py ns' rest := by
  rw [parseOptions, if_pos hvalue, hstore]
  rfl

theorem Namespace.store_length {py : Python} (ns : Namespace) {value : String} {n : Int}
    (h : py.int value = some n) :
    ns.store py "--destination-length" value = some { ns with destinationLength := some n } := by
  show (py.int value).map _ = _
  rw [h]
  rfl

theorem Namespace.store_amount {py : Python} (ns : Namespace) {value : String} {n : Int}
    (h : py.int value = some n) :
    ns.store py "--amount-lovelace" value = some { ns with amountLovelace := some n } := by
  show (py.int value).map _ = _
  rw [h]
  rfl

theorem parseOptions_option {py : Python} {ns : Namespace} {flag value : String}
    {rest : List String} (hvalue : py.isValue value = false) :
    parseOptions py ns (flag :: value :: rest) = none := by
  rw [parseOptions, hvalue]
  rfl

section Documented

variable {py : Python} (hpy : py.Documented)
include hpy

theorem isValue_text (bs : Bytes) : py.isValue (Hex.text bs) = true := by
  apply hpy.isValue_plain
  rw [Hex.toList_text]
  intro hdash
  have hdigit := Hex.isDigit_of_mem_chars (List.mem_of_head? hdash)
  revert hdigit
  decide

theorem isValue_repr (n : Nat) : py.isValue n.repr = true := by
  apply hpy.isValue_plain
  rw [Nat.toList_repr]
  intro hdash
  have hdigit := Nat.isDigit_of_mem_toDigits (by decide) (by decide) (List.mem_of_head? hdash)
  revert hdigit
  decide

theorem int_repr {n : Nat} (hn : n < 2 ^ 64) : py.int n.repr = some n := by
  have hlength : n.repr.length ≤ 20 := by
    rw [← String.length_toList, Nat.toList_repr, Nat.length_toDigits_le_iff (by decide) (by decide)]
    omega
  have hdigits : ∀ c ∈ n.repr.toList, c.isDigit = true := by
    rw [Nat.toList_repr]
    exact fun c hc => Nat.isDigit_of_mem_toDigits (by decide) (by decide) hc
  have hne : n.repr.toList ≠ [] := by
    rw [Nat.toList_repr]
    exact Nat.toDigits_ne_nil
  rw [hpy.int_digits _ hne (by omega) hdigits, Nat.toList_repr, Nat.ofDigitChars_ten_toDigits]

theorem fromhex_text (bs : Bytes) : py.fromhex (Hex.text bs) = some bs := by
  obtain ⟨hlength, hdigits⟩ := Hex.exists_text.mp ⟨bs, rfl, rfl⟩
  rw [hpy.fromhex_digits _ (by omega) hdigits, Hex.ofText_text]

theorem parseArgs_submitArgs {backend : PyCardanoDisburseBackend} (request : SettlementRequest)
    (hurl : py.isValue backend.ogmiosUrl = true) (hpool : py.isValue backend.poolAddress = true) :
    parseArgs py (submitArgs backend request).tail = some {
      ogmiosUrl := backend.ogmiosUrl
      poolAddress := backend.poolAddress
      destinationBytesHex := Hex.text request.destination.bytes.toList
      destinationLength := request.destination.length.toNat
      amountLovelace := request.amountLovelace.toNat
      intentId := Hex.text request.intentId.toList } := by
  have hlength : py.int request.destination.length.toNat.repr =
      some (request.destination.length.toNat : Int) := by
    have hlt := request.destination.length.toNat_lt
    exact int_repr hpy (by omega)
  have hamount : py.int request.amountLovelace.toNat.repr =
      some (request.amountLovelace.toNat : Int) := int_repr hpy request.amountLovelace.toNat_lt
  rw [parseArgs, submitArgs, List.tail_cons, parseOptions_value hurl rfl,
    parseOptions_value hpool rfl, parseOptions_value (isValue_text hpy _) rfl,
    parseOptions_value (isValue_repr hpy _) (Namespace.store_length _ hlength),
    parseOptions_value (isValue_repr hpy _) (Namespace.store_amount _ hamount),
    parseOptions_value (isValue_text hpy _) rfl]
  rfl

/-- **What the script reads.** -/
theorem readSubmission_eq {backend : PyCardanoDisburseBackend} {request : SettlementRequest}
    (hlength : 1 ≤ request.destination.length.toNat ∧ request.destination.length.toNat ≤ 57)
    (hurl : py.isValue backend.ogmiosUrl = true) (hpool : py.isValue backend.poolAddress = true) :
    readSubmission py (submitArgs backend request) = some {
      destination := request.destination.bytes.toList.take request.destination.length.toNat
      amountLovelace := request.amountLovelace.toNat
      intentId := Hex.text request.intentId.toList } := by
  have hdestination : buildDestination py (Hex.text request.destination.bytes.toList)
      request.destination.length.toNat =
        some (request.destination.bytes.toList.take request.destination.length.toNat) := by
    have hcount : request.destination.bytes.toList.length = 57 := Vector.length_toList
    rw [buildDestination, if_neg (by omega), fromhex_text hpy]
    show (if request.destination.bytes.toList.length > 57 then none else _) = _
    rw [if_neg (by omega)]
    rfl
  rw [readSubmission, parseArgs_submitArgs hpy request hurl hpool]
  show (buildDestination py _ _ >>= _) = _
  rw [hdestination]
  rfl

omit hpy in
/-- A string that looks like an option ends the script. -/
theorem readSubmission_none {backend : PyCardanoDisburseBackend} (request : SettlementRequest)
    (h : ¬ (py.isValue backend.ogmiosUrl = true ∧ py.isValue backend.poolAddress = true)) :
    readSubmission py (submitArgs backend request) = none := by
  have hparse : parseArgs py (submitArgs backend request).tail = none := by
    rw [parseArgs, submitArgs, List.tail_cons]
    cases hurl : py.isValue backend.ogmiosUrl with
    | false =>
      rw [parseOptions_option hurl]
      rfl
    | true =>
      have hpool : py.isValue backend.poolAddress = false := by simpa [hurl] using h
      rw [parseOptions_value hurl rfl, parseOptions_option hpool]
      rfl
  rw [readSubmission, hparse]
  rfl

end Documented

/-- **Settlement arguments are lossless**, for the backends whose strings can be values
of options; the script reads nothing from the others. -/
theorem settlement_args_lossless {py : Python} (hpy : py.Documented) :
    (∀ (backend : PyCardanoDisburseBackend) (effect : AuthorizedEffectV1) (intentId : Bytes32),
      1 ≤ effect.destination.length.toNat → effect.destination.length.toNat ≤ 57 →
      ∃ args, buildSubmitArgs backend (settlementRequestFromEffect effect intentId) = some args ∧
        (py.isValue backend.ogmiosUrl = true ∧ py.isValue backend.poolAddress = true →
          readSubmission py args = some {
            destination := effect.destination.bytes.toList.take effect.destination.length.toNat
            amountLovelace := effect.authorizedAmountLovelace.toNat
            intentId := Hex.text intentId.toList }) ∧
        (¬ (py.isValue backend.ogmiosUrl = true ∧ py.isValue backend.poolAddress = true) →
          readSubmission py args = none)) ∧
    ∀ (backend : PyCardanoDisburseBackend) (request request' : SettlementRequest),
      buildSubmitArgs backend request = buildSubmitArgs backend request' →
      request.destination = request'.destination ∧
        request.amountLovelace = request'.amountLovelace ∧
        request.intentId = request'.intentId := by
  refine ⟨?_, fun backend request request' => buildSubmitArgs_inj⟩
  intro backend effect intentId hpos hmax
  refine ⟨_, buildSubmitArgs_eq _ _, ?_, readSubmission_none _⟩
  rintro ⟨hurl, hpool⟩
  exact readSubmission_eq hpy ⟨hpos, hmax⟩ hurl hpool

/-! ## The sample invocation -/

/-- Every string with a leading dash is an option, and numbers are digits only. -/
def Python.reference : Python where
  isValue s := decide (s.toList.head? ≠ some '-')
  int s :=
    if s.toList ≠ [] ∧ s.toList.all Char.isDigit = true then
      some (Nat.ofDigitChars 10 s.toList 0)
    else none
  fromhex s :=
    if s.length % 2 = 0 ∧ s.toList.all (fun c => decide (Hex.IsDigit c)) = true then
      some (Hex.ofText s)
    else none

theorem Python.reference_documented : Python.reference.Documented where
  isValue_plain _ h := decide_eq_true h
  isValue_option _ _ _ h _ _ := decide_eq_false (by rw [h]; simp)
  int_digits _ hne _ hdigits := if_pos ⟨hne, List.all_eq_true.mpr hdigits⟩
  fromhex_digits _ heven hdigits :=
    if_pos ⟨heven, List.all_eq_true.mpr fun c hc => decide_eq_true (hdigits c hc)⟩

def sampleBackend : PyCardanoDisburseBackend where
  helperScript := utf8 "/home/op/oracleguard/scripts/cardano_disburse.py"
  ogmiosUrl := "http://35.209.192.203:1337"
  poolAddress := "addr_test1qz4f2vac8nn7tp802mxj3cu40a7xhhzc3agut6spq6rpz5rg"

def sampleEffect : AuthorizedEffectV1 where
  policyRef := Vector.replicate 32 0x11
  allocationId := Vector.replicate 32 0x22
  requesterId := Vector.replicate 32 0x33
  destination := ⟨Vector.replicate 57 0x55, 29⟩
  asset := .ADA
  authorizedAmountLovelace := 700000000
  releaseCapBasisPoints := 7500

theorem settlement_args_lossless_sample :
    ∃ args, buildSubmitArgs sampleBackend
        (settlementRequestFromEffect sampleEffect (Vector.replicate 32 0x77)) = some args ∧
      readSubmission .reference args = some {
        destination := List.replicate 29 0x55
        amountLovelace := 700000000
        intentId := Hex.text (List.replicate 32 0x77) } := by
  obtain ⟨args, hargs, hread, -⟩ :=
    (settlement_args_lossless Python.reference_documented).1 sampleBackend sampleEffect
      (Vector.replicate 32 0x77) (by decide) (by decide)
  exact ⟨args, hargs, hread ⟨by decide, by decide⟩⟩

/-- A pool address with a leading dash is taken for an option. -/
theorem dashed_backend_not_read :
    ¬ ∀ (py : Python), py.Documented → ∀ (backend : PyCardanoDisburseBackend)
      (effect : AuthorizedEffectV1) (intentId : Bytes32) (args : List String),
      1 ≤ effect.destination.length.toNat → effect.destination.length.toNat ≤ 57 →
      buildSubmitArgs backend (settlementRequestFromEffect effect intentId) = some args →
      ∃ submitted, readSubmission py args = some submitted := by
  intro h
  let backend : PyCardanoDisburseBackend := { sampleBackend with poolAddress := "-x" }
  obtain ⟨submitted, hread⟩ := h .reference Python.reference_documented backend sampleEffect
    (Vector.replicate 32 0x77) _ (by decide) (by decide) (buildSubmitArgs_eq _ _)
  rw [readSubmission_none _ (by decide)] at hread
  cases hread

end OracleGuard
